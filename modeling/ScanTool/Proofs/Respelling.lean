import Mathlib.Data.List.Basic
import Mathlib.Logic.Relation
import ScanTool.Live.Supported
import ScanTool.Proofs.FrameLayout
import ScanTool.Trouble.Stored

/-!
# Answers spelled in another way

An adapter may print blanks inside its lines, small letters and empty lines. `Respells` lists the
changes to a text that make no other answer of it, and two texts are told apart by what is read from
them exactly if no number of these changes leads from one to the other. One way, each change keeps
the compacted lines. The other way, every text can be changed into its compacted lines, each behind
a carriage return.
-/

namespace ScanTool.Frame

open ScanTool.Text

/-- One change to the spelling of a text. -/
inductive Respells : List Char → List Char → Prop where
  /-- A blank that ends no line is put in. -/
  | blank {c : Char} (hblank : isBlank c = true) (hline : isLineBreak c = false)
    (before after : List Char) : Respells (before ++ after) (before ++ c :: after)
  /-- An ASCII letter is written in its other case. -/
  | letter {c d : Char} (same : c.toUpper = d.toUpper) (before after : List Char) :
    Respells (before ++ c :: after) (before ++ d :: after)
  /-- A line break is put in before another one. -/
  | breakBefore {c d : Char} (hc : isLineBreak c = true) (hd : isLineBreak d = true)
    (before after : List Char) : Respells (before ++ d :: after) (before ++ c :: d :: after)
  /-- A line break is put in behind another one. -/
  | breakBehind {c d : Char} (hc : isLineBreak c = true) (hd : isLineBreak d = true)
    (before after : List Char) : Respells (before ++ d :: after) (before ++ d :: c :: after)
  /-- A line break is put in at the beginning. -/
  | breakFirst {c : Char} (hc : isLineBreak c = true) (text : List Char) : Respells text (c :: text)
  /-- A line break is put in at the end. -/
  | breakLast {c : Char} (hc : isLineBreak c = true) (text : List Char) :
    Respells text (text ++ [c])

/-- Any number of changes to the spelling, and of changes taken back, lead from one text to the
other. -/
abbrev Respelled : List Char → List Char → Prop := Relation.EqvGen Respells

/-! ## Upper case, blanks and line breaks -/

theorem isLineBreak_toUpper (c : Char) : isLineBreak c.toUpper = isLineBreak c := by
  have hiff : ∀ d : Char, d.toUpper = d → d.toNat < 'A'.toNat → (c.toUpper = d ↔ c = d) := by
    intro d hd hsmall
    exact ⟨fun h => eq_of_toUpper_eq h hsmall, fun h => h ▸ hd⟩
  have hreturn : (c.toUpper == '\r') = (c == '\r') := by
    rw [Bool.eq_iff_iff, beq_iff_eq, beq_iff_eq]
    exact hiff '\r' (by decide) (by decide)
  have hfeed : (c.toUpper == '\n') = (c == '\n') := by
    rw [Bool.eq_iff_iff, beq_iff_eq, beq_iff_eq]
    exact hiff '\n' (by decide) (by decide)
  rw [isLineBreak, isLineBreak, hreturn, hfeed]

theorem isBlank_toUpper (c : Char) : isBlank c.toUpper = isBlank c := by
  have letters : ∀ d : Char, 65 ≤ d.toNat → d.toNat ≤ 122 → isBlank d = false := by
    intro d low high
    simp only [isBlank, CharSet.has, CharSet.hasCode, blanks, List.any_cons, List.any_nil,
      Bool.or_false, Bool.or_eq_false_iff, Bool.and_eq_false_iff, decide_eq_false_iff_not]
    omega
  rcases toUpper_cases c with same | ⟨low, high, shifted⟩
  · rw [same]
  · rw [letters c (by omega) high, letters c.toUpper (by omega) (by omega)]

/-! ## Tidy texts -/

/-- Whether a character stays in a text that is tidied. -/
def stays (c : Char) : Bool := !isBlank c || isLineBreak c

/-- A text in upper case without the blanks that end no line. -/
def tidy (text : List Char) : List Char := (asciiUpper text).filter stays

theorem stays_toUpper (c : Char) : stays c.toUpper = stays c := by
  rw [stays, stays, isBlank_toUpper, isLineBreak_toUpper]

theorem tidy_append (a b : List Char) : tidy (a ++ b) = tidy a ++ tidy b := by
  simp [tidy, asciiUpper]

theorem tidy_cons (c : Char) (text : List Char) :
    tidy (c :: text) = if stays c then c.toUpper :: tidy text else tidy text := by
  simp only [tidy, asciiUpper, List.map_cons, List.filter_cons, stays_toUpper]

theorem compact_cons (c : Char) (line : List Char) :
    compact (c :: line) = if isBlank c then compact line else c.toUpper :: compact line := by
  simp only [compact, asciiUpper, List.filter_cons, Bool.not_eq_true']
  split <;> split <;> simp_all

theorem exists_lines_eq (text : List Char) : ∃ first rest, lines text = first :: rest := by
  cases h : lines text with
  | nil => exact absurd h (splitWhen_ne_nil text)
  | cons first rest => exact ⟨first, rest, rfl⟩

theorem lines_cons_break {c : Char} (hc : isLineBreak c = true) (text : List Char) :
    lines (c :: text) = [] :: lines text :=
  splitWhen_append hc [] text

theorem lines_cons {c : Char} (hc : isLineBreak c = false) {text first : List Char}
    {rest : List (List Char)} (h : lines text = first :: rest) :
    lines (c :: text) = (c :: first) :: rest := by
  unfold lines at h ⊢
  simp [splitWhen, hc, h]

/-- A text is cut into the same lines whether each is compacted or the whole text is tidied. -/
theorem lines_tidy (text : List Char) : lines (tidy text) = (lines text).map compact := by
  induction text with
  | nil => rfl
  | cons c text ih =>
    rw [tidy_cons]
    cases hbreak : isLineBreak c with
    | true =>
      have hstays : stays c = true := by rw [stays, hbreak, Bool.or_true]
      have hupper : isLineBreak c.toUpper = true := by rw [isLineBreak_toUpper, hbreak]
      rw [if_pos hstays, lines_cons_break hupper, lines_cons_break hbreak, ih]
      rfl
    | false =>
      obtain ⟨first, rest, hlines⟩ := exists_lines_eq text
      have htidy : lines (tidy text) = compact first :: rest.map compact := by
        rw [ih, hlines, List.map_cons]
      rw [lines_cons hbreak hlines, List.map_cons, compact_cons]
      cases hblank : isBlank c with
      | true =>
        have hstays : stays c = false := by rw [stays, hblank, hbreak]; rfl
        simp only [hstays, if_true, Bool.false_eq_true, if_false, htidy]
      | false =>
        have hstays : stays c = true := by rw [stays, hblank]; rfl
        have hupper : isLineBreak c.toUpper = false := by rw [isLineBreak_toUpper, hbreak]
        rw [if_pos hstays, lines_cons hupper htidy]
        rfl

/-- The lines of a text that are not empty, as they are written. -/
def filledLines (text : List Char) : List (List Char) :=
  (lines text).filter fun line => !line.isEmpty

theorem compactLines_eq_filledLines (text : List Char) :
    compactLines text = filledLines (tidy text) := by
  rw [compactLines, filledLines, lines_tidy]

/-! ## One change -/

theorem compactLines_break {c : Char} (hc : isLineBreak c = true) (text : List Char) :
    compactLines (c :: text) = compactLines text := by
  have hcut := compactLines_append hc [] text
  rwa [show compactLines [] = [] from rfl, List.nil_append, List.nil_append] at hcut

/-- A change to the spelling leaves the compacted lines as they are. -/
theorem Respells.compactLines_eq {a b : List Char} (h : Respells a b) :
    compactLines a = compactLines b := by
  cases h with
  | @blank c hblank hline before after =>
    have hgone : stays c = false := by rw [stays, hblank, hline]; rfl
    have htidy : tidy (before ++ c :: after) = tidy (before ++ after) := by
      rw [tidy_append, tidy_append, tidy_cons, hgone]
      rfl
    rw [compactLines_eq_filledLines, compactLines_eq_filledLines, htidy]
  | @letter c d same before after =>
    have hstays : stays c = stays d := by rw [← stays_toUpper c, same, stays_toUpper d]
    have htidy : tidy (before ++ c :: after) = tidy (before ++ d :: after) := by
      rw [tidy_append, tidy_append, tidy_cons, tidy_cons, same, hstays]
    rw [compactLines_eq_filledLines, compactLines_eq_filledLines, htidy]
  | breakBefore hc hd before after =>
    rw [compactLines_append hd, compactLines_append hc, compactLines_break hd]
  | breakBehind hc hd before after =>
    rw [compactLines_append hd, compactLines_append hd, compactLines_break hc]
  | breakFirst hc => exact (compactLines_break hc a).symm
  | breakLast hc =>
    rw [compactLines_append hc]
    exact (List.append_nil _).symm

/-! ## Any number of changes -/

theorem Respelled.compactLines_eq {a b : List Char} (h : Respelled a b) :
    compactLines a = compactLines b := by
  induction h with
  | rel a b change => exact change.compactLines_eq
  | refl a => rfl
  | symm a b _ ih => exact ih.symm
  | trans a b c _ _ first second => exact first.trans second

/-- A text can be tidied, whatever stands before it. -/
theorem respelled_tidy (before text : List Char) :
    Respelled (before ++ text) (before ++ tidy text) := by
  induction text generalizing before with
  | nil => exact .refl _
  | cons c text ih =>
    rw [tidy_cons]
    split
    · rename_i hstays
      have hupper : Respelled (before ++ c :: text) (before ++ c.toUpper :: text) :=
        .rel _ _ (.letter (toUpper_toUpper c).symm before text)
      refine .trans _ _ _ hupper ?_
      simpa using ih (before ++ [c.toUpper])
    · rename_i hgone
      have hblank : isBlank c = true ∧ isLineBreak c = false := by
        simpa [stays, Bool.or_eq_true] using hgone
      have hout : Respelled (before ++ c :: text) (before ++ text) :=
        .symm _ _ (.rel _ _ (.blank hblank.1 hblank.2 before text))
      exact .trans _ _ _ hout (ih before)

/-- Lines, each behind a carriage return. -/
def spelled (lines : List (List Char)) : List Char := lines.flatMap fun line => '\r' :: line

/-- A line break becomes a carriage return. -/
theorem respelled_return {c : Char} (hc : isLineBreak c = true) (before after : List Char) :
    Respelled (before ++ c :: after) (before ++ '\r' :: after) :=
  .trans _ _ _ (.rel _ _ (.breakBefore rfl hc before after))
    (.symm _ _ (.rel _ _ (.breakBehind hc rfl before after)))

/-- A line break before lines that are spelled out, or before nothing, can be taken away. -/
theorem respelled_spelled {c : Char} (hc : isLineBreak c = true) (before : List Char)
    (lines : List (List Char)) :
    Respelled (before ++ c :: spelled lines) (before ++ spelled lines) := by
  cases lines with
  | nil => simpa [spelled] using Relation.EqvGen.symm _ _ (.rel _ _ (.breakLast hc before))
  | cons line lines => exact .symm _ _ (.rel _ _ (.breakBefore hc rfl before _))

/-- The lines behind the first can be spelled out, whatever stands before. -/
theorem respelled_filledLines (before : List Char) {text first : List Char}
    {rest : List (List Char)} (h : lines text = first :: rest) :
    Respelled (before ++ text)
      (before ++ (first ++ spelled (rest.filter fun line => !line.isEmpty))) := by
  induction text generalizing before first rest with
  | nil =>
    obtain ⟨rfl, rfl⟩ := List.cons.inj h
    exact .refl _
  | cons c text ih =>
    obtain ⟨next, more, hnext⟩ := exists_lines_eq text
    have hrest := ih (before ++ [c]) hnext
    rw [List.append_assoc, List.append_assoc, List.singleton_append, List.singleton_append] at hrest
    refine .trans _ _ _ hrest ?_
    cases hbreak : isLineBreak c with
    | true =>
      rw [lines_cons_break hbreak, hnext] at h
      obtain ⟨rfl, rfl⟩ := List.cons.inj h
      cases next with
      | nil => exact respelled_spelled hbreak before _
      | cons d next => exact respelled_return hbreak before _
    | false =>
      rw [lines_cons hbreak hnext] at h
      obtain ⟨rfl, rfl⟩ := List.cons.inj h
      exact .refl _

/-- Every text can be changed into its compacted lines, each behind a carriage return. -/
theorem respelled_compactLines (text : List Char) :
    Respelled text (spelled (compactLines text)) := by
  obtain ⟨first, rest, hlines⟩ := exists_lines_eq (tidy text)
  have hspelled := respelled_filledLines [] hlines
  rw [compactLines_eq_filledLines, filledLines, hlines]
  refine .trans _ _ _ (respelled_tidy [] text) (.trans _ _ _ hspelled ?_)
  cases first with
  | nil => exact .refl _
  | cons c first => exact .rel _ _ (.breakFirst rfl _)

/-- Changes to the spelling lead from one text to the other exactly if the compacted lines of the
two are the same. -/
theorem respelled_iff {a b : List Char} : Respelled a b ↔ compactLines a = compactLines b := by
  refine ⟨Respelled.compactLines_eq, fun h => ?_⟩
  have ha := respelled_compactLines a
  rw [h] at ha
  exact .trans _ _ _ ha (.symm _ _ (respelled_compactLines b))

/-- The empty marker stands on every line, and all of the line follows it. -/
theorem payloads_nil (text : List Char) : payloads [] text = compactLines text := by
  have hline : ∀ line ∈ compactLines text, payload? [] line = some line :=
    fun line _ => payload?_bare [] line
  rw [payloads, List.filterMap_congr hline, List.filterMap_some]

end ScanTool.Frame

namespace ScanTool

open ScanTool.Frame ScanTool.Live

/-- Spelling does not matter to what is read: two answers lead to each other by changes to the
spelling exactly if the same stored codes, supported parameters, live values and data behind any
marker are read from them. -/
theorem read_alike_iff_respelled {a b : String} :
    Respelled a.toList b.toList ↔
      Trouble.storedCodes a = Trouble.storedCodes b ∧ Supported.ofAnswer a = Supported.ofAnswer b ∧
      (∀ pid, decode? pid a = decode? pid b) ∧
      ∀ marker, payloads marker a.toList = payloads marker b.toList := by
  rw [respelled_iff]
  constructor
  · intro h
    have hdata : ∀ marker, payloads marker a.toList = payloads marker b.toList := by
      intro marker
      rw [payloads, payloads, h]
    have hbytes : ∀ marker count,
        bytesAfter? marker count a.toList = bytesAfter? marker count b.toList := by
      intro marker count
      rw [bytesAfter?, bytesAfter?, h]
    refine ⟨?_, ?_, fun pid => ?_, hdata⟩
    · rw [Trouble.storedCodes, Trouble.storedCodes, Trouble.storedPayload, Trouble.storedPayload,
        hdata]
    · rw [Supported.ofAnswer, Supported.ofAnswer, hbytes]
    · cases hp : parameter? pid with
      | none => rw [decode?, decode?, hp]; rfl
      | some p =>
        rw [decode?, decode?, hp, Option.bind_some, Option.bind_some, Parameter.decode?,
          Parameter.decode?, hbytes]
  · rintro ⟨-, -, -, hdata⟩
    rw [← payloads_nil, ← payloads_nil, hdata]

end ScanTool
