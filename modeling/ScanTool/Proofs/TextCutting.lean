import ScanTool.Text.Blank
import ScanTool.Text.Hex
import ScanTool.Text.Octets

/-!
# Cutting a text that was put together

The functions that cut a text into lines, words, octets and groups, at the places where the text was
put together: lines joined by a line break, words by blanks, pieces appended to each other, groups of
two or four in a row. Texts of upper-case hexadecimal digits have one octet a character and are
compacted already.
-/

namespace ScanTool.Text

/-! ## Lines -/

section split

variable {p : Char → Bool}

theorem splitWhen_ne_nil (cs : List Char) : splitWhen p cs ≠ [] := by
  induction cs with
  | nil => simp [splitWhen]
  | cons c cs ih =>
    unfold splitWhen
    split
    · simp
    · split <;> simp

/-- A text is cut at a character that ends a piece. -/
theorem splitWhen_append {c : Char} (h : p c = true) (a b : List Char) :
    splitWhen p (a ++ c :: b) = splitWhen p a ++ splitWhen p b := by
  induction a with
  | nil => simp [splitWhen, h]
  | cons x a ih =>
    simp only [List.cons_append, splitWhen, ih]
    split
    · rfl
    · cases ha : splitWhen p a with
      | nil => exact absurd ha (splitWhen_ne_nil a)
      | cons piece rest => rfl

theorem splitWhen_of_forall_not {cs : List Char} (h : ∀ c ∈ cs, p c = false) :
    splitWhen p cs = [cs] := by
  induction cs with
  | nil => rfl
  | cons c cs ih =>
    rw [List.forall_mem_cons] at h
    simp [splitWhen, h.1, ih h.2]

/-- The pieces hold all of the text but the characters that end them. -/
theorem splitWhen_flatten (cs : List Char) :
    (splitWhen p cs).flatten = cs.filter fun c => !p c := by
  induction cs with
  | nil => rfl
  | cons c cs ih =>
    unfold splitWhen
    split
    · rename_i hc
      simp [hc, ih]
    · rename_i hc
      cases hs : splitWhen p cs with
      | nil => exact absurd hs (splitWhen_ne_nil cs)
      | cons piece rest =>
        rw [hs] at ih
        simp [hc, ← ih]

end split

/-! ## Words -/

theorem isBlank_of_isLineBreak {c : Char} (h : isLineBreak c = true) : isBlank c = true := by
  have hc : c = '\r' ∨ c = '\n' := by simpa [isLineBreak] using h
  rcases hc with rfl | rfl <;> decide

theorem isLineBreak_of_not_isBlank {c : Char} (h : isBlank c = false) : isLineBreak c = false := by
  cases hbreak : isLineBreak c with
  | false => rfl
  | true =>
    have hblank := isBlank_of_isLineBreak hbreak
    rw [h] at hblank
    cases hblank

/-- A blank ends a word and begins another one. -/
theorem words_append {c : Char} (hc : isBlank c = true) (a b : List Char) :
    words (a ++ c :: b) = words a ++ words b := by
  rw [words, splitWhen_append hc, List.filter_append]
  rfl

theorem words_blanks_append {gap : List Char} (h : ∀ c ∈ gap, isBlank c = true) (cs : List Char) :
    words (gap ++ cs) = words cs := by
  induction gap with
  | nil => rfl
  | cons c gap ih =>
    rw [List.forall_mem_cons] at h
    have hcut : words (c :: (gap ++ cs)) = words (gap ++ cs) := words_append h.1 [] (gap ++ cs)
    rw [List.cons_append, hcut, ih h.2]

theorem words_of_forall_not {cs : List Char} (hne : cs ≠ []) (h : ∀ c ∈ cs, isBlank c = false) :
    words cs = [cs] := by
  rw [words, splitWhen_of_forall_not h]
  simp [hne]

/-! ## Octets -/

theorem octetCount_append (a b : List Char) :
    octetCount (a ++ b) = octetCount a + octetCount b := by
  induction a with
  | nil => simp [octetCount]
  | cons c a ih => simp [octetCount, ih, Nat.add_assoc]

theorem dropOctets?_zero (cs : List Char) : dropOctets? 0 cs = some cs := by
  cases cs <;> rfl

theorem takeOctets?_zero (cs : List Char) : takeOctets? 0 cs = some [] := by
  cases cs <;> rfl

theorem dropOctets?_append (a b : List Char) : dropOctets? (octetCount a) (a ++ b) = some b := by
  induction a with
  | nil => exact dropOctets?_zero b
  | cons c a ih =>
    have hc := c.utf8Size_pos
    have hne : c.utf8Size + octetCount a ≠ 0 := by omega
    simp only [dropOctets?, octetCount, List.cons_append, if_neg hne, Nat.le_add_right, if_true,
      Nat.add_sub_cancel_left, ih]

theorem takeOctets?_append (a b : List Char) : takeOctets? (octetCount a) (a ++ b) = some a := by
  induction a with
  | nil => exact takeOctets?_zero b
  | cons c a ih =>
    have hc := c.utf8Size_pos
    have hne : c.utf8Size + octetCount a ≠ 0 := by omega
    simp only [takeOctets?, octetCount, List.cons_append, if_neg hne, Nat.le_add_right, if_true,
      Nat.add_sub_cancel_left, ih, Option.map_some]

theorem dropLastOctets?_append (a b : List Char) :
    dropLastOctets? (octetCount b) (a ++ b) = some a := by
  simp [dropLastOctets?, octetCount_append, takeOctets?_append]

theorem dropOctets?_eq_some_iff {n : Nat} {cs rest : List Char} :
    dropOctets? n cs = some rest ↔ ∃ front, cs = front ++ rest ∧ octetCount front = n := by
  constructor
  · intro h
    induction cs generalizing n with
    | nil =>
      unfold dropOctets? at h
      split at h
      · rename_i hn
        obtain rfl := Option.some.inj h
        exact ⟨[], rfl, hn.symm⟩
      · cases h
    | cons c cs ih =>
      unfold dropOctets? at h
      split at h
      · rename_i hn
        obtain rfl := Option.some.inj h
        exact ⟨[], rfl, hn.symm⟩
      · split at h
        · obtain ⟨front, rfl, hcount⟩ := ih h
          refine ⟨c :: front, rfl, ?_⟩
          rw [octetCount]
          omega
        · cases h
  · rintro ⟨front, rfl, rfl⟩
    exact dropOctets?_append front rest

theorem takeOctets?_eq_some_iff {n : Nat} {cs part : List Char} :
    takeOctets? n cs = some part ↔ ∃ back, cs = part ++ back ∧ octetCount part = n := by
  constructor
  · intro h
    induction cs generalizing n part with
    | nil =>
      unfold takeOctets? at h
      split at h
      · rename_i hn
        obtain rfl := Option.some.inj h
        exact ⟨[], rfl, hn.symm⟩
      · cases h
    | cons c cs ih =>
      unfold takeOctets? at h
      split at h
      · rename_i hn
        obtain rfl := Option.some.inj h
        exact ⟨c :: cs, rfl, hn.symm⟩
      · split at h
        · obtain ⟨part, hpart, rfl⟩ := Option.map_eq_some_iff.mp h
          obtain ⟨back, rfl, hcount⟩ := ih hpart
          refine ⟨back, rfl, ?_⟩
          rw [octetCount]
          omega
        · cases h
  · rintro ⟨back, rfl, rfl⟩
    exact takeOctets?_append part back

theorem dropLastOctets?_eq_some_iff {n : Nat} {cs rest : List Char} :
    dropLastOctets? n cs = some rest ↔ ∃ back, cs = rest ++ back ∧ octetCount back = n := by
  constructor
  · intro h
    unfold dropLastOctets? at h
    split at h
    · rename_i hn
      obtain ⟨back, rfl, hcount⟩ := takeOctets?_eq_some_iff.mp h
      rw [octetCount_append] at hn hcount
      exact ⟨back, rfl, by omega⟩
    · cases h
  · rintro ⟨back, rfl, rfl⟩
    exact dropLastOctets?_append rest back

theorem after?_append (lead rest : List Char) : after? lead (lead ++ rest) = some rest := by
  induction lead with
  | nil => cases rest <;> rfl
  | cons c lead ih => simp [after?, ih]

theorem after?_eq_some_iff {lead cs rest : List Char} :
    after? lead cs = some rest ↔ cs = lead ++ rest := by
  refine ⟨fun h => ?_, fun h => h ▸ after?_append lead rest⟩
  induction lead generalizing cs with
  | nil => exact Option.some.inj h
  | cons a lead ih =>
    cases cs with
    | nil => cases h
    | cons c cs =>
      unfold after? at h
      split at h
      · rename_i hac
        rw [ih h, hac, List.cons_append]
      · cases h

theorem after?_eq_none_iff {lead cs : List Char} : after? lead cs = none ↔ ¬ lead <+: cs := by
  rw [Option.eq_none_iff_forall_ne_some]
  simp only [ne_eq, after?_eq_some_iff]
  exact ⟨fun h ⟨rest, e⟩ => h rest e.symm, fun h rest e => h ⟨rest, e.symm⟩⟩

/-! ## The first place of a part -/

theorem afterFirst?_of_after? {part cs rest : List Char} (h : after? part cs = some rest) :
    afterFirst? part cs = some rest := by
  cases cs with
  | nil => exact h
  | cons c cs =>
    unfold afterFirst?
    rw [h]

/-- Where a part does not stand at the beginning, it is looked for one character further on. -/
theorem afterFirst?_cons {part : List Char} {c : Char} {cs : List Char}
    (h : ¬ part <+: c :: cs) : afterFirst? part (c :: cs) = afterFirst? part cs := by
  have hnone : after? part (c :: cs) = none := after?_eq_none_iff.mpr h
  conv => lhs; unfold afterFirst?
  rw [hnone]

/-- Nothing is found behind a part that does not stand in the text. -/
theorem afterFirst?_eq_none {part cs : List Char} (h : ¬ part <:+: cs) :
    afterFirst? part cs = none := by
  induction cs with
  | nil => exact after?_eq_none_iff.mpr fun hp => h hp.isInfix
  | cons c cs ih =>
    have hhead : ¬ part <+: c :: cs := fun hp => h hp.isInfix
    have htail : ¬ part <:+: cs := fun hi => h (hi.trans (List.suffix_cons c cs).isInfix)
    rw [afterFirst?_cons hhead, ih htail]

/-- The first place where `part` stands in `front ++ part` is behind `front`. -/
def FirstBehind (front part : List Char) : Prop :=
  ∀ n < front.length, ¬ part <+: (front ++ part).drop n

/-- What follows the part does not matter to its first place. -/
theorem FirstBehind.afterFirst? {front part : List Char} (h : FirstBehind front part)
    (rest : List Char) : afterFirst? part (front ++ (part ++ rest)) = some rest := by
  induction front with
  | nil => exact afterFirst?_of_after? (after?_append part rest)
  | cons c front ih =>
    have hhead : ¬ part <+: c :: (front ++ (part ++ rest)) := by
      intro hp
      refine h 0 (Nat.zero_lt_succ _) ?_
      -- an occurrence at the beginning ends before the part that is put behind `front`
      have hfull : c :: front ++ part <+: c :: (front ++ (part ++ rest)) := ⟨rest, by simp⟩
      have hlen : part.length ≤ (c :: front ++ part).length := by
        simp only [List.length_append]
        omega
      exact List.prefix_of_prefix_length_le hp hfull hlen
    have htail : FirstBehind front part := fun n hn => h (n + 1) (Nat.succ_lt_succ hn)
    rw [List.cons_append, afterFirst?_cons hhead]
    exact ih htail

/-- What is found behind the first place of a part. -/
theorem afterFirst?_eq_some_iff {part cs rest : List Char} :
    afterFirst? part cs = some rest ↔
      ∃ front, cs = front ++ (part ++ rest) ∧ FirstBehind front part := by
  refine ⟨fun h => ?_, fun ⟨front, hcs, first⟩ => hcs ▸ first.afterFirst? rest⟩
  induction cs with
  | nil =>
    have here : [] = part ++ rest := after?_eq_some_iff.mp h
    exact ⟨[], here, fun n hn => absurd hn (Nat.not_lt_zero n)⟩
  | cons c cs ih =>
    by_cases hp : part <+: c :: cs
    · obtain ⟨behind, hbehind⟩ := hp
      have found : afterFirst? part (c :: cs) = some behind :=
        afterFirst?_of_after? (after?_eq_some_iff.mpr hbehind.symm)
      obtain rfl : behind = rest := Option.some.inj (found.symm.trans h)
      exact ⟨[], hbehind.symm, fun n hn => absurd hn (Nat.not_lt_zero n)⟩
    · rw [afterFirst?_cons hp] at h
      obtain ⟨front, rfl, first⟩ := ih h
      refine ⟨c :: front, rfl, fun n hn => ?_⟩
      cases n with
      | zero => exact fun hfirst => hp (hfirst.trans ⟨rest, by simp⟩)
      | succ n => exact first n (Nat.lt_of_succ_lt_succ hn)

theorem mapM_id_map_some (cs : List Char) : (cs.map some).mapM id = some cs := by
  induction cs with
  | nil => rfl
  | cons c cs ih => simp [ih]

/-! ## Groups of four -/

/-- Groups of four are cut out again, and less than a group behind them is dropped. -/
theorem quads_flatten_append {α : Type} {groups : List (List α)} {rest : List α}
    (h : ∀ g ∈ groups, g.length = 4) (hrest : rest.length ≤ 3) :
    quads (groups.flatten ++ rest) = groups := by
  induction groups with
  | nil =>
    match rest, hrest with
    | [], _ | [_], _ | [_, _], _ | [_, _, _], _ => rfl
  | cons g groups ih =>
    rw [List.forall_mem_cons] at h
    match g, h.1 with
    | [a, b, c, d], _ => simp [quads, ih h.2]

theorem quads_flatten {α : Type} {groups : List (List α)} (h : ∀ g ∈ groups, g.length = 4) :
    quads groups.flatten = groups := by
  have hnil : ([] : List α).length ≤ 3 := Nat.zero_le 3
  simpa using quads_flatten_append h hnil

theorem quads_map {α β : Type} (f : α → β) (xs : List α) :
    quads (xs.map f) = (quads xs).map (List.map f) := by
  fun_induction quads xs with
  | case1 a b c d rest ih => simp [quads, ih]
  | case2 xs h =>
    match xs with
    | [] | [_] | [_, _] | [_, _, _] => rfl
    | a :: b :: c :: d :: rest => exact absurd rfl (h a b c d rest)

theorem length_of_mem_quads {α : Type} {xs g : List α} (h : g ∈ quads xs) : g.length = 4 := by
  fun_induction quads xs with
  | case1 a b c d rest ih =>
    rcases List.mem_cons.mp h with rfl | h
    · rfl
    · exact ih h
  | case2 xs hx => cases h

/-- A group of four holds elements of the list only. -/
theorem subset_of_mem_quads {α : Type} {xs g : List α} (h : g ∈ quads xs) : g ⊆ xs := by
  fun_induction quads xs with
  | case1 a b c d rest ih =>
    rcases List.mem_cons.mp h with rfl | h
    · simp
    · intro x hx
      simp [ih h hx]
  | case2 xs hx => cases h

/-! ## Groups of two -/

/-- Parts in a row are their pairs in a row, and the odd part at the end. -/
theorem exists_flatten_eq_pairs {α : Type} (parts : List (List α)) :
    ∃ rest, parts.flatten = ((pairs parts).map fun p => p.1 ++ p.2).flatten ++ rest ∧
      (rest = [] ∨ rest ∈ parts) := by
  fun_induction pairs parts with
  | case1 a b parts ih =>
    obtain ⟨rest, hrest, hodd⟩ := ih
    refine ⟨rest, by simp [hrest], ?_⟩
    rcases hodd with hodd | hodd
    · exact Or.inl hodd
    · exact Or.inr (List.mem_cons_of_mem _ (List.mem_cons_of_mem _ hodd))
  | case2 parts h =>
    match parts with
    | [] => exact ⟨[], rfl, Or.inl rfl⟩
    | [a] => exact ⟨a, by simp, Or.inr List.mem_cons_self⟩
    | a :: b :: parts => exact absurd rfl (h a b parts)

theorem mem_of_mem_pairs {α : Type} {xs : List α} {pair : α × α} (h : pair ∈ pairs xs) :
    pair.1 ∈ xs ∧ pair.2 ∈ xs := by
  fun_induction pairs xs with
  | case1 a b xs ih =>
    rcases List.mem_cons.mp h with rfl | h
    · simp
    · obtain ⟨hfirst, hsecond⟩ := ih h
      simp [hfirst, hsecond]
  | case2 xs hx => cases h

/-- One more element at the end completes a pair or is odd itself. -/
theorem pairs_concat {α : Type} (xs : List α) (x : α) :
    pairs (xs ++ [x]) = pairs xs ∨ ∃ pair, pairs (xs ++ [x]) = pairs xs ++ [pair] := by
  fun_induction pairs xs with
  | case1 a b xs ih =>
    rcases ih with ih | ⟨pair, ih⟩
    · exact Or.inl (by simp [pairs, ih])
    · exact Or.inr ⟨pair, by simp [pairs, ih]⟩
  | case2 xs h =>
    match xs with
    | [] => exact Or.inl rfl
    | [a] => exact Or.inr ⟨(a, x), rfl⟩
    | a :: b :: xs => exact absurd rfl (h a b xs)

/-! ## Upper case -/

/-- Upper case leaves a character as it is or takes a small letter 32 places back. -/
theorem toUpper_cases (c : Char) :
    c.toUpper = c ∨ 97 ≤ c.toNat ∧ c.toNat ≤ 122 ∧ c.toUpper.toNat + 32 = c.toNat := by
  unfold Char.toUpper
  split
  · rename_i small
    have low : 97 ≤ c.val.toNat := small.1
    have high : c.val.toNat ≤ 122 := small.2
    have shifted : (c.val + ('A'.val - 'a'.val)).toNat + 32 = c.val.toNat := by
      rw [UInt32.toNat_add, show ('A'.val - 'a'.val).toNat = 2 ^ 32 - 32 from rfl]
      omega
    exact Or.inr ⟨low, high, shifted⟩
  · exact Or.inl rfl

theorem toUpper_toUpper (c : Char) : c.toUpper.toUpper = c.toUpper := by
  rcases toUpper_cases c.toUpper with same | ⟨low, -, -⟩
  · exact same
  · -- an upper-case letter comes before the small ones
    rcases toUpper_cases c with same | ⟨-, high, shifted⟩
    · rw [same, same]
    · omega

/-- Upper case makes only letters out of other characters. -/
theorem eq_of_toUpper_eq {c d : Char} (h : c.toUpper = d) (hd : d.toNat < 'A'.toNat) : c = d := by
  have below : d.toNat < 65 := hd
  rcases toUpper_cases c with same | ⟨low, -, shifted⟩
  · rw [← same, h]
  · rw [h] at shifted
    omega

theorem occursIn_iff {part cs : List Char} : occursIn part cs = true ↔ part <:+: cs := by
  induction cs with
  | nil => simp [occursIn]
  | cons c cs ih => simp [occursIn, List.infix_cons_iff, ih]

/-- A part stands in the upper case of a text where the text spells it in some case. -/
theorem infix_asciiUpper_iff {part cs : List Char} :
    part <:+: asciiUpper cs ↔ ∃ spelled, spelled <:+: cs ∧ asciiUpper spelled = part := by
  constructor
  · rintro ⟨s, t, e⟩
    obtain ⟨front, back, rfl, hfront, -⟩ := List.map_eq_append_iff.mp e.symm
    obtain ⟨first, spelled, rfl, -, hspelled⟩ := List.map_eq_append_iff.mp hfront
    exact ⟨spelled, ⟨first, back, rfl⟩, hspelled⟩
  · rintro ⟨spelled, ⟨first, back, rfl⟩, rfl⟩
    exact ⟨asciiUpper first, asciiUpper back, by simp [asciiUpper]⟩

/-- A part without letters stands in a text before it is in upper case. -/
theorem infix_of_infix_asciiUpper {part cs : List Char} (h : part <:+: asciiUpper cs)
    (hpart : ∀ c ∈ part, c.toNat < 'A'.toNat) : part <:+: cs := by
  obtain ⟨spelled, hspelled, rfl⟩ := infix_asciiUpper_iff.mp h
  have hfixed : spelled.map Char.toUpper = spelled :=
    (List.map_congr_left fun c hc =>
      (eq_of_toUpper_eq rfl (hpart _ (List.mem_map_of_mem hc))).symm).trans spelled.map_id
  rwa [asciiUpper, hfixed]

/-! ## Upper-case digits -/

/-- The hexadecimal digits in upper case. -/
def upperDigits : List Char :=
  ['0', '1', '2', '3', '4', '5', '6', '7', '8', '9', 'A', 'B', 'C', 'D', 'E', 'F']

/-- A text of upper-case digits. -/
def Digits (cs : List Char) : Prop := ∀ c ∈ cs, c ∈ upperDigits

instance (cs : List Char) : Decidable (Digits cs) := List.decidableBAll (· ∈ upperDigits) cs

/-- A property of the members of a list, checked one by one. -/
theorem forall_mem_of_all {α : Type} {P : α → Prop} [DecidablePred P] {xs : List α}
    (h : xs.all (fun x => decide (P x)) = true) : ∀ x ∈ xs, P x :=
  fun x hx => of_decide_eq_true (List.all_eq_true.mp h x hx)

theorem utf8Size_of_mem_upperDigits : ∀ c ∈ upperDigits, c.utf8Size = 1 :=
  forall_mem_of_all (by decide)

theorem toUpper_of_mem_upperDigits : ∀ c ∈ upperDigits, c.toUpper = c :=
  forall_mem_of_all (by decide)

theorem isBlank_of_mem_upperDigits : ∀ c ∈ upperDigits, isBlank c = false :=
  forall_mem_of_all (by decide)

theorem isLineBreak_of_mem_upperDigits : ∀ c ∈ upperDigits, isLineBreak c = false :=
  forall_mem_of_all (by decide)

theorem isHexDigit_of_mem_upperDigits : ∀ c ∈ upperDigits, isHexDigit c = true :=
  forall_mem_of_all (by decide)

theorem upper_of_isHexDigit {c : Char} (h : isHexDigit c = true) :
    c.toUpper ∈ upperDigits ∧ isBlank c = false := by
  -- no digit comes after `f`, so there are few characters to look at
  have hall : ∀ n < 103, isHexDigit (Char.ofNat n) = true →
      (Char.ofNat n).toUpper ∈ upperDigits ∧ isBlank (Char.ofNat n) = false := by
    decide +kernel
  have hsmall : c.toNat < 103 := by
    unfold isHexDigit hexValue? at h
    split at h
    · rename_i hc
      have : c.toNat ≤ 57 := hc.2
      omega
    · split at h
      · rename_i hc
        have : c.toNat ≤ 102 := hc.2
        omega
      · split at h
        · rename_i hc
          have : c.toNat ≤ 70 := hc.2
          omega
        · cases h
  have hc := hall c.toNat hsmall
  rw [Char.ofNat_toNat] at hc
  exact hc h

namespace Digits

variable {a b : List Char}

theorem append (ha : Digits a) (hb : Digits b) : Digits (a ++ b) := by
  intro c hc
  rcases List.mem_append.mp hc with hc | hc
  · exact ha c hc
  · exact hb c hc

theorem flatten {parts : List (List Char)} (h : ∀ part ∈ parts, Digits part) :
    Digits parts.flatten := by
  intro c hc
  obtain ⟨part, hpart, hc⟩ := List.mem_flatten.mp hc
  exact h part hpart c hc

theorem octetCount (h : Digits a) : Text.octetCount a = a.length := by
  induction a with
  | nil => rfl
  | cons c a ih =>
    unfold Digits at h
    rw [List.forall_mem_cons] at h
    rw [Text.octetCount, ih h.2, utf8Size_of_mem_upperDigits c h.1, List.length_cons, Nat.add_comm]

theorem dropLastOctets?_getD (h : Digits a) (n : Nat) :
    (dropLastOctets? n a).getD [] = a.take (a.length - n) := by
  by_cases hn : n ≤ a.length
  · have hback : Digits (a.drop (a.length - n)) := fun c hc => h c (List.mem_of_mem_drop hc)
    have hcount : Text.octetCount (a.drop (a.length - n)) = n := by
      rw [hback.octetCount, List.length_drop]
      omega
    have hcut := dropLastOctets?_append (a.take (a.length - n)) (a.drop (a.length - n))
    rw [hcount, List.take_append_drop] at hcut
    rw [hcut, Option.getD_some]
  · have hzero : a.length - n = 0 := by omega
    rw [dropLastOctets?, h.octetCount, if_neg hn, hzero, List.take_zero, Option.getD_none]

theorem cells (h : Digits a) : Text.cells a = a.map some := by
  induction a with
  | nil => rfl
  | cons c a ih =>
    unfold Digits at h
    rw [List.forall_mem_cons] at h
    have ha : Text.cells a = a.map some := ih h.2
    simp [Text.cells, utf8Size_of_mem_upperDigits c h.1, ← ha]

theorem filter_isBlank (h : Digits a) : a.filter (fun c => !isBlank c) = a :=
  List.filter_eq_self.mpr fun c hc => by simp [isBlank_of_mem_upperDigits c (h c hc)]

theorem asciiUpper (h : Digits a) : Text.asciiUpper a = a :=
  (List.map_congr_left fun c hc => toUpper_of_mem_upperDigits c (h c hc)).trans a.map_id

theorem of_isHexDigit {cs : List Char} (h : ∀ c ∈ cs, isHexDigit c = true) :
    Digits (Text.asciiUpper cs) := by
  intro c hc
  obtain ⟨d, hd, rfl⟩ := List.mem_map.mp hc
  exact (upper_of_isHexDigit (h d hd)).1

theorem all_isHexDigit (h : Digits a) : a.all isHexDigit = true :=
  List.all_eq_true.mpr fun c hc => isHexDigit_of_mem_upperDigits c (h c hc)

end Digits

/-! ## Bytes in digits -/

theorem hexDigit_mem_upperDigits {n : Nat} (h : n < 16) : hexDigit n ∈ upperDigits := by
  have hall : ∀ n < 16, hexDigit n ∈ upperDigits := by decide
  exact hall n h

theorem hexValue?_hexDigit {n : Nat} (h : n < 16) : hexValue? (hexDigit n) = some n := by
  have hall : ∀ n < 16, hexValue? (hexDigit n) = some n := by decide
  exact hall n h

theorem digits_hexPair (b : UInt8) : Digits (hexPair b) := by
  have hlt := b.toNat_lt
  intro c hc
  simp only [hexPair, List.mem_cons, List.not_mem_nil, or_false] at hc
  rcases hc with rfl | rfl
  · exact hexDigit_mem_upperDigits (by omega)
  · exact hexDigit_mem_upperDigits (by omega)

theorem byteOfPair?_hexDigit (b : UInt8) :
    byteOfPair? (hexDigit (b.toNat / 16)) (hexDigit (b.toNat % 16)) = some b := by
  have hlt := b.toNat_lt
  have hvalue : 16 * (b.toNat / 16) + b.toNat % 16 = b.toNat := by omega
  unfold byteOfPair?
  rw [hexValue?_hexDigit (by omega), hexValue?_hexDigit (by omega)]
  simp only [hvalue, UInt8.ofNat_toNat]

/-- Bytes written in pairs of digits are read back, whatever follows them. -/
theorem bytesOfPairs?_flatMap (bytes : List UInt8) (more : List Char) :
    bytesOfPairs? bytes.length (bytes.flatMap hexPair ++ more) = some bytes := by
  induction bytes with
  | nil => rfl
  | cons b rest ih =>
    rw [List.flatMap_cons, List.append_assoc, List.length_cons]
    show bytesOfPairs? (rest.length + 1) (_ :: _ :: (rest.flatMap hexPair ++ more)) = _
    unfold bytesOfPairs?
    rw [byteOfPair?_hexDigit b]
    simp [ih]

end ScanTool.Text
