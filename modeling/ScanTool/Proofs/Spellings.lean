import Mathlib.Data.List.Forall2
import ScanTool.Proofs.CarriedOut
import ScanTool.Proofs.KeyReadBack
import ScanTool.Proofs.TextCutting

/-!
# Spellings of a brand

The key of a name is made character by character, so that it goes by the letters and digits of the name
alone, and ASCII letters may be written in either case. Names that differ in nothing else are spellings
of one brand. Wherever a brand is named, in the tables that are put in, in the requests that are set and
in the operations that are carried out, one spelling can stand for another.
-/

namespace ScanTool

open ScanTool.Text
open Trouble (CodeTable)

namespace Text

/-! ## Upper case -/

/-- What holds of the small ASCII letters holds of a character that upper case changes. -/
theorem of_toUpper_ne {P : Char → Prop} (letters : ∀ n < 26, P (Char.ofNat (97 + n))) {c : Char}
    (changed : c.toUpper ≠ c) : P c := by
  rcases toUpper_cases c with same | ⟨low, high, -⟩
  · exact absurd same changed
  · have letter := letters (c.toNat - 97) (by omega)
    rwa [show 97 + (c.toNat - 97) = c.toNat by omega, Char.ofNat_toNat] at letter

theorem isAlphanumeric_toUpper (c : Char) : isAlphanumeric c.toUpper = isAlphanumeric c := by
  by_cases same : c.toUpper = c
  · rw [same]
  · exact of_toUpper_ne (P := fun c => isAlphanumeric c.toUpper = isAlphanumeric c)
      (by decide +kernel) same

theorem lowerChar_toUpper (c : Char) : lowerChar c.toUpper = lowerChar c := by
  by_cases same : c.toUpper = c
  · rw [same]
  · exact of_toUpper_ne (P := fun c => lowerChar c.toUpper = lowerChar c) (by decide +kernel) same

end Text

namespace BrandKey

/-! ## Spellings -/

/-- The letters and digits of a name, those of ASCII in upper case. -/
def plain (name : List Char) : List Char := asciiUpper (name.filter isAlphanumeric)

/-- Two names that differ only in the case of ASCII letters and in characters that are no letters or
digits. -/
def SpelledAlike (a b : String) : Prop := plain a.toList = plain b.toList

instance (a b : String) : Decidable (SpelledAlike a b) := inferInstanceAs (Decidable (_ = _))

variable {a b s : String}

theorem normalize_eq_plain (name : List Char) : normalize name = (plain name).flatMap lowerChar := by
  rw [normalize_eq, plain, asciiUpper, List.flatMap_map]
  exact List.flatMap_congr fun c _ => (lowerChar_toUpper c).symm

theorem ofName_of_spelledAlike (alike : SpelledAlike a b) : ofName a = ofName b := by
  unfold ofName
  rw [normalize_eq_plain, alike, ← normalize_eq_plain]

theorem plain_asciiUpper (name : List Char) : plain (asciiUpper name) = plain name := by
  unfold plain asciiUpper
  rw [List.filter_map, List.map_map]
  have digits : isAlphanumeric ∘ Char.toUpper = isAlphanumeric := funext isAlphanumeric_toUpper
  have twice : Char.toUpper ∘ Char.toUpper = Char.toUpper := funext toUpper_toUpper
  rw [digits, twice]

/-- Names that differ only in the case of ASCII letters. -/
theorem spelledAlike_of_asciiUpper (same : asciiUpper a.toList = asciiUpper b.toList) :
    SpelledAlike a b := by
  unfold SpelledAlike
  rw [← plain_asciiUpper a.toList, same, plain_asciiUpper]

theorem normalize_append (name other : List Char) :
    normalize (name ++ other) = normalize name ++ normalize other := by
  rw [normalize_eq, normalize_eq, normalize_eq, List.filter_append, List.flatMap_append]

theorem normalize_of_forall_not {name : List Char} (h : ∀ c ∈ name, isAlphanumeric c = false) :
    normalize name = [] := by
  have none : name.filter isAlphanumeric = [] := by
    refine List.filter_eq_nil_iff.mpr fun c mem letter => ?_
    rw [h c mem] at letter
    cases letter
  rw [normalize_eq, none]
  rfl

theorem text_ofName_append (between : ∀ c ∈ s.toList, isAlphanumeric c = false) :
    (ofName (a ++ s ++ b)).text = (ofName a).text ++ (ofName b).text := by
  refine String.ext ?_
  rw [String.toList_append, toList_text_ofName, toList_text_ofName, toList_text_ofName,
    String.toList_append, String.toList_append, normalize_append, normalize_append,
    normalize_of_forall_not between, List.append_nil]

/-- The same things under names that are spelled alike, one by one. -/
abbrev Renamed {α : Type} : List (String × α) → List (String × α) → Prop :=
  List.Forall₂ fun e e' => SpelledAlike e.1 e'.1 ∧ e.2 = e'.2

end BrandKey

open BrandKey (SpelledAlike Renamed)

/-! ## What is set up under names -/

/-- The tables of a directory after tables were put in for brands. -/
def BrandTables.stocked (dir : String) (tables : List (String × CodeTable)) : BrandTables :=
  tables.foldl (fun t e => t.insert e.1 e.2) (.ofDir dir)

/-- Steps that are alike one by one lead to the same end. -/
theorem foldl_eq_of_forall₂ {α β : Type} {step : α → β → α} {Alike : β → β → Prop}
    (same : ∀ s b b', Alike b b' → step s b = step s b') {bs bs' : List β}
    (alike : List.Forall₂ Alike bs bs') (s : α) : bs.foldl step s = bs'.foldl step s := by
  induction alike generalizing s with
  | nil => rfl
  | cons first _ ih =>
    rw [List.foldl_cons, List.foldl_cons, same s _ _ first]
    exact ih _

theorem BrandTables.stocked_of_renamed (dir : String) {tables tables' : List (String × CodeTable)}
    (renamed : Renamed tables tables') : stocked dir tables = stocked dir tables' := by
  refine foldl_eq_of_forall₂ (fun t e e' alike => ?_) renamed _
  unfold insert
  rw [BrandKey.ofName_of_spelledAlike alike.1, alike.2]

namespace Resolver

theorem withQueries_of_renamed (r : Resolver) {queries queries' : List (String × String)}
    (renamed : Renamed queries queries') : r.withQueries queries = r.withQueries queries' := by
  unfold withQueries
  rw [foldl_eq_of_forall₂ (fun known q q' alike => ?_) renamed]
  rw [BrandKey.ofName_of_spelledAlike alike.1, alike.2]

/-! ## Runs -/

section

variable {ι σ : Type} [DecidableEq ι] [Channel σ]

/-- The same operation with the same files, about the brand in another spelling. -/
def SameRequest (x x' : Files × Operation ι) : Prop :=
  x.1 = x'.1 ∧ ∃ name, SpelledAlike name x.2.brand ∧ x'.2 = x.2.spelled name

theorem perform_of_sameRequest (w : Workshop ι σ) {x x' : Files × Operation ι}
    (same : SameRequest x x') : w.perform x.1 x.2 = w.perform x'.1 x'.2 := by
  obtain ⟨files, name, alike, spelled⟩ := same
  rw [← files, spelled, perform_spelled x.1 w x.2 (BrandKey.ofName_of_spelledAlike alike)]

/-- The replies to operations carried out one after the other, each with files of its own, and the
workshop in the end. -/
def Workshop.replies (w : Workshop ι σ) (ops : List (Files × Operation ι)) :
    List Reply × Workshop ι σ :=
  let run := carryOut (fun w x => w.perform x.1 x.2) w ops
  (run.1.map (·.2), run.2)

theorem replies_of_sameRequests (w : Workshop ι σ) {ops ops' : List (Files × Operation ι)}
    (same : List.Forall₂ SameRequest ops ops') : w.replies ops = w.replies ops' := by
  induction same generalizing w with
  | nil => rfl
  | @cons x x' rest rest' first _ ih =>
    have now := perform_of_sameRequest w first
    have later := ih (w.perform x.1 x.2).2
    show ((w.perform x.1 x.2).1 :: ((w.perform x.1 x.2).2.replies rest).1,
        ((w.perform x.1 x.2).2.replies rest).2) =
      ((w.perform x'.1 x'.2).1 :: ((w.perform x'.1 x'.2).2.replies rest').1,
        ((w.perform x'.1 x'.2).2.replies rest').2)
    rw [← now, later]

/-- A brand is one under all its spellings. The key of a name with characters between its parts that are
no letters or digits is the key of the first part followed by that of the second, and the case of ASCII
letters does not matter to it. So a resolver that is set up with tables and requests and then used in
any way, over any channels and with any files, does the same when every brand is named in another
spelling each time: the replies are the same, and the resolver and the channels come to the same state,
in which all spellings of a brand have the same request, table and simulated codes. -/
theorem one_brand_under_every_spelling :
    (∀ a s b : String, (∀ c ∈ s.toList, isAlphanumeric c = false) →
      (BrandKey.ofName (a ++ s ++ b)).text = (BrandKey.ofName a).text ++ (BrandKey.ofName b).text) ∧
    (∀ a b : String, asciiUpper a.toList = asciiUpper b.toList →
      BrandKey.ofName a = BrandKey.ofName b) ∧
    ∀ (dir : String) (tables tables' : List (String × CodeTable)) (simulation : Simulation)
      (queries queries' : List (String × String)) (channels : ι → σ)
      (ops ops' : List (Files × Operation ι)),
      Renamed tables tables' → Renamed queries queries' → List.Forall₂ SameRequest ops ops' →
      let start (tables : List (String × CodeTable)) (queries : List (String × String)) :
          Workshop ι σ :=
        ⟨(ofParts (.stocked dir tables) simulation).withQueries queries, channels⟩
      let run := (start tables queries).replies ops
      let run' := (start tables' queries').replies ops'
      run = run' ∧ ∀ a b : String, SpelledAlike a b →
        run.2.resolver.query a = run'.2.resolver.query b ∧
        ∀ files, run.2.resolver.table files a = run'.2.resolver.table files b ∧
          run.2.resolver.readSimulated files a = run'.2.resolver.readSimulated files b := by
  refine ⟨fun a s b between => BrandKey.text_ofName_append between, ?_, ?_⟩
  · intro a b same
    exact BrandKey.ofName_of_spelledAlike (BrandKey.spelledAlike_of_asciiUpper same)
  · intro dir tables tables' simulation queries queries' channels ops ops' ht hq hops start run run'
    have begun : start tables queries = start tables' queries' := by
      unfold start
      rw [BrandTables.stocked_of_renamed dir ht, withQueries_of_renamed _ hq]
    have same : run = run' := by
      unfold run run'
      rw [begun]
      exact replies_of_sameRequests _ hops
    refine ⟨same, fun a b alike => ?_⟩
    have key := BrandKey.ofName_of_spelledAlike alike
    rw [← same]
    refine ⟨query_of_same_key _ key, fun files => ⟨table_of_same_key files _ key, ?_⟩⟩
    exact readSimulated_of_same_key files _ key

end

/-- Two spellings of one brand, with a table under the one and a request under the other: the vehicle is
sent the request whichever is used. -/
theorem one_brand_under_two_spellings :
    let table := CodeTable.empty.insert "P1083" "Fuel control mixture lean"
    let none : Files := fun _ => .error .missing
    let ops : List (Files × Operation Unit) :=
      [(none, .readLive "Mercedes-Benz" ()), (none, .readSimulated "Mercedes-Benz")]
    let ops' : List (Files × Operation Unit) :=
      [(none, .readLive " mercedes benz" ()), (none, .readSimulated "MERCEDES.BENZ")]
    let start : Workshop Unit Script :=
      ⟨(ofParts (.stocked "" [("Mercedes-Benz", table)]) (.ofSeed 0)).withQueries
        [("mercedes benz", "22 F18C")], fun _ => .empty⟩
    (∀ c ∈ "-".toList, isAlphanumeric c = false) ∧
      (BrandKey.ofName "Mercedes-Benz").text =
        (BrandKey.ofName "Mercedes").text ++ (BrandKey.ofName "Benz").text ∧
      asciiUpper "Benz".toList = asciiUpper "bENZ".toList ∧
      BrandKey.ofName "Benz" = BrandKey.ofName "bENZ" ∧
      List.Forall₂ SameRequest ops ops' ∧ start.replies ops = start.replies ops' ∧
      ((start.replies ops).2.channels ()).log = ["22 F18C"] ∧
      ((start.replies ops).2.resolver.readSimulated none "Mercedes-Benz").1 =
        [⟨"P1083", "Fuel control mixture lean"⟩] := by
  intro table none ops ops' start
  obtain ⟨joined, upper, runs⟩ := one_brand_under_every_spelling (ι := Unit) (σ := Script)
  have dash : isAlphanumeric '-' = false := by decide +kernel
  have mark : ∀ c ∈ "-".toList, isAlphanumeric c = false := by
    intro c mem
    obtain rfl : c = '-' := by simpa using mem
    exact dash
  have same : asciiUpper "Benz".toList = asciiUpper "bENZ".toList := by decide +kernel
  have live : SpelledAlike " mercedes benz" "Mercedes-Benz" := by decide +kernel
  have simulated : SpelledAlike "MERCEDES.BENZ" "Mercedes-Benz" := by decide +kernel
  have requests : List.Forall₂ SameRequest ops ops' :=
    .cons ⟨rfl, _, live, rfl⟩ (.cons ⟨rfl, _, simulated, rfl⟩ .nil)
  have tables : Renamed [("Mercedes-Benz", table)] [("Mercedes-Benz", table)] := .cons ⟨rfl, rfl⟩ .nil
  have queries : Renamed [("mercedes benz", "22 F18C")] [("mercedes benz", "22 F18C")] :=
    .cons ⟨rfl, rfl⟩ .nil
  have run := runs "" _ _ (.ofSeed 0) _ _ (fun _ => .empty) ops ops' tables queries requests
  refine ⟨mark, joined "Mercedes" "-" "Benz" mark, same, upper _ _ same, requests, run.1, ?_⟩
  decide +kernel +zetaReduce

end Resolver

end ScanTool
