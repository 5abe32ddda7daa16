import ScanTool.Brand.Key

/-!
# The normal form of brand keys

What putting a letter into lower case does to letters and digits. The facts about Unicode's tables
are facts about their ranges and runs, each checked once for the whole table; the facts about
characters follow by arithmetic. Of all letters and digits only `İ` has a lower case of two
characters, the second of which is no letter: it alone keeps a key from being its own key.
-/

namespace ScanTool

open ScanTool.Text

namespace Text

/-! ## Ranges of characters -/

theorem CharSet.has_iff {s : CharSet} {c : Char} :
    s.has c = true ↔ ∃ r ∈ s, r.1 ≤ c.toNat ∧ c.toNat ≤ r.2 := by
  simp [CharSet.has, CharSet.hasCode]

/-- Whether one range of the set holds all code points from `low` to `high`. -/
def CharSet.includes (s : CharSet) (low high : Nat) : Bool :=
  s.any fun r => Nat.ble r.1 low && Nat.ble high r.2

/-- Whether no code point lies in both sets. -/
def CharSet.apart (s s' : CharSet) : Bool :=
  s.all fun r => s'.all fun q => Nat.blt r.2 q.1 || Nat.blt q.2 r.1

theorem CharSet.not_has_of_apart {s s' : CharSet} (h : s.apart s' = true) {c : Char}
    (hc : s.has c = true) : s'.has c = false := by
  rw [Bool.eq_false_iff]
  intro hc'
  obtain ⟨r, hr, hlow, hhigh⟩ := CharSet.has_iff.mp hc
  obtain ⟨q, hq, hlow', hhigh'⟩ := CharSet.has_iff.mp hc'
  have hrq := List.all_eq_true.mp (List.all_eq_true.mp h r hr) q hq
  simp only [Bool.or_eq_true, Nat.blt_eq] at hrq
  omega

/-- No letter or digit is a blank. -/
theorem not_isBlank_of_isAlphanumeric {c : Char} (h : isAlphanumeric c = true) :
    isBlank c = false :=
  CharSet.not_has_of_apart (s := alphanumerics) (by decide +kernel) h

/-- The ranges of letters and digits hold code points of characters only. -/
theorem alphanumerics_valid :
    ∀ r ∈ alphanumerics, r.2 < 0xD800 ∨ 0xDFFF < r.1 ∧ r.2 < 0x110000 := by
  decide +kernel

/-- A code point among those of letters and digits is the code point of a letter or digit. -/
theorem isAlphanumeric_ofNat {n low high : Nat} (h : alphanumerics.includes low high = true)
    (hlow : low ≤ n) (hhigh : n ≤ high) :
    (Char.ofNat n).toNat = n ∧ isAlphanumeric (Char.ofNat n) = true := by
  obtain ⟨r, hr, hrange⟩ := List.any_eq_true.mp h
  simp only [Bool.and_eq_true, Nat.ble_eq] at hrange
  have valid : n.isValidChar := by
    rcases alphanumerics_valid r hr with hv | hv
    · exact Or.inl (by omega)
    · exact Or.inr (by omega)
  have hn : (Char.ofNat n).toNat = n := by
    rw [Char.ofNat, dif_pos valid]
    rfl
  refine ⟨hn, CharSet.has_iff.mpr ⟨r, hr, ?_⟩⟩
  rw [hn]
  exact ⟨by omega, by omega⟩

/-! ## Lower case -/

/-- Where a run moves a code point. -/
def CaseRun.image (r : CaseRun) (n : Nat) : Nat := (n + r.shift).toNat

theorem CaseRun.covers_iff {r : CaseRun} {n : Nat} :
    r.covers n = true ↔ (r.first ≤ n ∧ n ≤ r.last) ∧ (n - r.first) % r.stride = 0 := by
  simp [CaseRun.covers]

/-- Whether a run moves its code points to where another has none: the two are apart, or small
letters alternate with the capitals of the other and the run moves to the small letters. -/
def CaseRun.clears (r q : CaseRun) : Bool :=
  Nat.blt (r.image r.last) q.first || Nat.blt q.last (r.image r.first) ||
    (r.stride == 2 || r.first == r.last) && q.stride == 2 && Nat.blt 0 (r.image r.first) &&
      (r.image r.first + q.first) % 2 == 1

theorem CaseRun.not_covers_image {r q : CaseRun} (h : r.clears q = true) {n : Nat}
    (hn : r.covers n = true) : q.covers (r.image n) = false := by
  rw [Bool.eq_false_iff]
  intro hq
  obtain ⟨hrange, hstride⟩ := covers_iff.mp hn
  obtain ⟨hrange', hstride'⟩ := covers_iff.mp hq
  simp only [clears, image, Bool.or_eq_true, Bool.and_eq_true, Nat.blt_eq, beq_iff_eq]
    at h hrange' hstride'
  -- the runs are apart, or the moved code points are all odd where those of `q` are even, or the
  -- other way round
  rcases h with (h | h) | ⟨⟨⟨h | h, hq2⟩, hpos⟩, hodd⟩
  · omega
  · omega
  · rw [h] at hstride
    rw [hq2] at hstride'
    omega
  · rw [hq2] at hstride'
    omega

theorem lowerRuns_image : (lowerRuns.all fun r =>
    alphanumerics.includes (r.image r.first) (r.image r.last)) = true := by
  decide +kernel

theorem lowerRuns_clear : (lowerRuns.all fun r => lowerRuns.all r.clears) = true := by
  decide +kernel

theorem lowerRuns_image_ne : (lowerRuns.all fun r =>
    Nat.blt (r.image r.last) 0x130 || Nat.blt 0x130 (r.image r.first)) = true := by
  decide +kernel

/-- A letter or digit that is its own lower case. -/
structure KeyLetter (c : Char) : Prop where
  /-- It is a letter or a digit. -/
  alphanumeric : isAlphanumeric c = true
  /-- It is its own lower case. -/
  lower : lowerChar c = [c]

/-- The only character whose lower case is two characters. -/
theorem lowerChar_dotted : lowerChar 'İ' = ['i', '\u0307'] := by decide +kernel

/-- The lower case of a character is given by the runs, but for `İ`. -/
theorem lowerChar_eq {c : Char} (h : c.toNat ≠ 0x130) :
    lowerChar c = match lowerRuns.find? (·.covers c.toNat) with
      | some r => [Char.ofNat (r.image c.toNat)]
      | none => [c] := by
  have hx : lowerExpansions.lookup c.toNat = none := by
    have hne : (c.toNat == 0x130) = false := beq_eq_false_iff_ne.mpr h
    simp [lowerExpansions, List.lookup_cons, hne]
  unfold lowerChar mapCase
  rw [hx]
  rfl

/-- The lower case of a letter or digit is one that is its own lower case. -/
theorem keyLetter_lowerChar {c : Char} (hc : isAlphanumeric c = true) (ne : c ≠ 'İ') :
    ∃ d, lowerChar c = [d] ∧ KeyLetter d := by
  have hn : c.toNat ≠ 0x130 := fun h => ne (Char.ext (UInt32.toNat_inj.mp h))
  have hlower := lowerChar_eq hn
  cases hf : lowerRuns.find? (·.covers c.toNat) with
  | none =>
    rw [hf] at hlower
    exact ⟨c, hlower, hc, hlower⟩
  | some r =>
    rw [hf] at hlower
    have hr := List.mem_of_find?_eq_some hf
    have covers : r.covers c.toNat = true := by simpa using List.find?_some hf
    obtain ⟨hrange, -⟩ := CaseRun.covers_iff.mp covers
    have hlow : r.image r.first ≤ r.image c.toNat := by unfold CaseRun.image; omega
    have hhigh : r.image c.toNat ≤ r.image r.last := by unfold CaseRun.image; omega
    obtain ⟨hd, halpha⟩ :=
      isAlphanumeric_ofNat (List.all_eq_true.mp lowerRuns_image r hr) hlow hhigh
    refine ⟨Char.ofNat (r.image c.toNat), hlower, halpha, ?_⟩
    have hne := List.all_eq_true.mp lowerRuns_image_ne r hr
    simp only [Bool.or_eq_true, Nat.blt_eq] at hne
    have none' : lowerRuns.find? (·.covers (r.image c.toNat)) = none := by
      refine List.find?_eq_none.mpr fun q hq => ?_
      have := CaseRun.not_covers_image
        (List.all_eq_true.mp (List.all_eq_true.mp lowerRuns_clear r hr) q hq) covers
      simp [this]
    rw [lowerChar_eq (by rw [hd]; omega), hd, none']

end Text

/-! ## Keys -/

namespace BrandKey

theorem filter_dropWhile_isBlank (cs : List Char) :
    (cs.dropWhile isBlank).filter isAlphanumeric = cs.filter isAlphanumeric := by
  induction cs with
  | nil => rfl
  | cons c cs ih =>
    rw [List.dropWhile_cons]
    split
    · rename_i blank
      have hc : ¬ isAlphanumeric c = true := fun h => by
        rw [not_isBlank_of_isAlphanumeric h] at blank
        cases blank
      rw [ih, List.filter_cons_of_neg hc]
    · rfl

/-- Blanks at the ends of a name are no letters or digits, so cutting them off changes nothing. -/
theorem normalize_eq (name : List Char) :
    normalize name = (name.filter isAlphanumeric).flatMap lowerChar := by
  unfold normalize trim
  rw [List.filter_reverse, filter_dropWhile_isBlank, ← List.filter_reverse, List.reverse_reverse,
    filter_dropWhile_isBlank]

/-- The dot that the lower case of `İ` puts above the small letter is no letter. -/
theorem not_isAlphanumeric_dot : isAlphanumeric '\u0307' = false := by decide +kernel

/-- A character of a key is its own lower case, or it is the dot that `İ` leaves behind. -/
theorem mem_normalize {name : List Char} {d : Char} (h : d ∈ normalize name) :
    KeyLetter d ∨ d = '\u0307' ∧ 'İ' ∈ name := by
  rw [normalize_eq] at h
  obtain ⟨c, hc, hd⟩ := List.mem_flatMap.mp h
  obtain ⟨hmem, halpha⟩ := List.mem_filter.mp hc
  by_cases dotted : c = 'İ'
  · subst dotted
    rw [lowerChar_dotted] at hd
    simp only [List.mem_cons, List.not_mem_nil, or_false] at hd
    rcases hd with rfl | rfl
    · exact Or.inl ⟨by decide +kernel, by decide +kernel⟩
    · exact Or.inr ⟨rfl, hmem⟩
  · obtain ⟨e, he, letter⟩ := keyLetter_lowerChar halpha dotted
    rw [he, List.mem_singleton] at hd
    exact Or.inl (hd ▸ letter)

/-- All characters of a key are letters and digits, unless its name holds `İ`. -/
theorem all_isAlphanumeric_normalize_iff {name : List Char} :
    (∀ d ∈ normalize name, isAlphanumeric d = true) ↔ 'İ' ∉ name := by
  refine ⟨fun h dotted => ?_, fun dotted d hd => ?_⟩
  · have hdot : '\u0307' ∈ normalize name := by
      rw [normalize_eq]
      refine List.mem_flatMap.mpr ⟨'İ', List.mem_filter.mpr ⟨dotted, by decide +kernel⟩, ?_⟩
      rw [lowerChar_dotted]
      exact List.mem_cons_of_mem _ List.mem_cons_self
    have := h _ hdot
    rw [not_isAlphanumeric_dot] at this
    cases this
  · rcases mem_normalize hd with letter | ⟨-, h⟩
    · exact letter.alphanumeric
    · exact absurd h dotted

/-- The first character of a key is a letter or digit. -/
theorem isAlphanumeric_of_normalize {name ds : List Char} {d : Char}
    (h : normalize name = d :: ds) : isAlphanumeric d = true := by
  rw [normalize_eq] at h
  cases hf : name.filter isAlphanumeric with
  | nil =>
    rw [hf] at h
    cases h
  | cons c cs =>
    rw [hf, List.flatMap_cons] at h
    have halpha : isAlphanumeric c = true :=
      (List.mem_filter.mp (hf ▸ List.mem_cons_self : c ∈ name.filter isAlphanumeric)).2
    by_cases dotted : c = 'İ'
    · subst dotted
      rw [lowerChar_dotted] at h
      obtain ⟨rfl, -⟩ := List.cons.inj h
      decide +kernel
    · obtain ⟨e, he, letter⟩ := keyLetter_lowerChar halpha dotted
      rw [he] at h
      obtain ⟨rfl, -⟩ := List.cons.inj h
      exact letter.alphanumeric

theorem flatMap_lowerChar_of_keyLetters {cs : List Char} (h : ∀ c ∈ cs, KeyLetter c) :
    cs.flatMap lowerChar = cs := by
  induction cs with
  | nil => rfl
  | cons c cs ih =>
    rw [List.flatMap_cons, (h c List.mem_cons_self).lower,
      ih fun c' hc' => h c' (List.mem_cons_of_mem _ hc')]
    rfl

/-- The key of a key is the key without the dots that `İ` leaves behind. -/
theorem normalize_normalize (name : List Char) :
    normalize (normalize name) = (normalize name).filter isAlphanumeric := by
  rw [normalize_eq (normalize name)]
  refine flatMap_lowerChar_of_keyLetters fun c hc => ?_
  obtain ⟨hmem, halpha⟩ := List.mem_filter.mp hc
  rcases mem_normalize hmem with letter | ⟨rfl, -⟩
  · exact letter
  · rw [not_isAlphanumeric_dot] at halpha
    cases halpha

theorem toList_text_ofName (name : String) : (ofName name).text.toList = normalize name.toList :=
  String.toList_ofList

/-- A key that is read back keeps its letters and digits. -/
theorem toList_text_ofName_text (name : String) : (ofName (ofName name).text).text.toList =
    (ofName name).text.toList.filter isAlphanumeric := by
  rw [toList_text_ofName, toList_text_ofName, normalize_normalize]

theorem mem_text_ofName {name : String} {c : Char} (mem : c ∈ (ofName name).text.toList) :
    isAlphanumeric c = true ∨ c = '\u0307' := by
  rw [toList_text_ofName] at mem
  rcases mem_normalize mem with letter | ⟨dot, -⟩
  · exact Or.inl letter.alphanumeric
  · exact Or.inr dot

end BrandKey

end ScanTool
