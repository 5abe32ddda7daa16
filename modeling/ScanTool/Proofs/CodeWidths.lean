import Mathlib.Data.List.Forall2
import ScanTool.Proofs.CompactAnswers
import ScanTool.Proofs.OctetPlaces

/-!
# How wide a brand code is

A brand code is the letter and a group of digits. Frames are cut into groups of four, so there every
code has five characters. Words are glued together two by two, whatever their lengths, and the last four
of their digits are kept; two words with less than four digits make a code all the same, and it is too
short. The main statement gives the width of every code, and says for which answers all codes have five
characters.
-/

namespace ScanTool.Brand

open ScanTool.Text ScanTool.Frame
open Trouble (CodeTable)

/-- A code of a brand with some number of digits. -/
def IsBrandCode (count : Nat) (code : String) : Prop :=
  ∃ digits, Digits digits ∧ digits.length = count ∧ code = String.ofList ('P' :: digits)

/-- The words of a spaced answer behind the header, glued together two by two, as far as they are
nothing but digits. -/
def digitPairs (answer : List Char) : List (List Char) :=
  ((pairs ((words answer).drop 2)).map fun pair => pair.1 ++ pair.2).filter (·.all isHexDigit)

variable {answer digits group : List Char}

theorem IsBrandCode.count_eq {m n : Nat} {code : String} (hm : IsBrandCode m code)
    (hn : IsBrandCode n code) : m = n := by
  obtain ⟨digits, -, rfl, hcode⟩ := hm
  obtain ⟨digits', -, rfl, hcode'⟩ := hn
  have hchars := String.ofList_inj.mp (hcode.symm.trans hcode')
  rw [(List.cons.inj hchars).2]

theorem isBrandCode_codeOf (h : ∀ c ∈ digits, isHexDigit c = true) :
    IsBrandCode digits.length (codeOf digits) := by
  refine ⟨asciiUpper digits, Digits.of_isHexDigit h, ?_, rfl⟩
  rw [asciiUpper, List.length_map]

/-! ## Frames -/

theorem length_of_cellDigits? {cells : List (Option Char)} (h : cellDigits? cells = some group) :
    group.length = cells.length ∧ ∀ c ∈ group, isHexDigit c = true := by
  unfold cellDigits? at h
  obtain ⟨found, hfound, hgroup⟩ := Option.bind_eq_some_iff.mp h
  split at hgroup
  · rename_i hhex
    obtain rfl := Option.some.inj hgroup
    rw [mapM_id_eq_some_iff.mp hfound, List.length_map]
    exact ⟨rfl, List.all_eq_true.mp hhex⟩
  · cases hgroup

/-- Whatever a frame holds, the groups that are read from it are four digits each. -/
theorem isHex_of_mem_compactGroups (h : group ∈ compactGroups answer) :
    group.length = 4 ∧ ∀ c ∈ group, isHexDigit c = true := by
  obtain ⟨data, -, hgroup⟩ := List.mem_flatMap.mp h
  unfold frameGroups at hgroup
  split at hgroup
  · cases hgroup
  · obtain ⟨quad, hquad, hdigits⟩ := List.mem_filterMap.mp hgroup
    obtain ⟨hlen, hhex⟩ := length_of_cellDigits? hdigits
    exact ⟨hlen.trans (length_of_mem_quads hquad), hhex⟩

/-! ## Words -/

theorem spacedGroups_eq_map :
    spacedGroups answer = (digitPairs answer).map fun digits => digits.drop (digits.length - 4) := by
  unfold spacedGroups digitPairs headerWords
  induction pairs ((words answer).drop 2) with
  | nil => rfl
  | cons pair rest ih =>
    have hpair : pairDigits? pair = if (pair.1 ++ pair.2).all isHexDigit then
        some ((pair.1 ++ pair.2).drop ((pair.1 ++ pair.2).length - 4)) else none := rfl
    cases hhex : (pair.1 ++ pair.2).all isHexDigit with
    | false =>
      have hnone : pairDigits? pair = none := by
        rw [hpair, hhex]
        rfl
      rw [List.filterMap_cons_none hnone, ih, List.map_cons, List.filter_cons, hhex]
      rfl
    | true =>
      have hsome := hpair
      rw [hhex] at hsome
      rw [List.filterMap_cons_some hsome, ih, List.map_cons, List.filter_cons, hhex]
      rfl

theorem isHex_of_mem_digitPairs (h : digits ∈ digitPairs answer) :
    ∀ c ∈ digits, isHexDigit c = true :=
  List.all_eq_true.mp (List.mem_filter.mp h).2

/-- No word is empty, so two of them have two characters at least. -/
theorem two_le_of_mem_digitPairs (h : digits ∈ digitPairs answer) : 2 ≤ digits.length := by
  obtain ⟨pair, hpair, rfl⟩ := List.mem_map.mp (List.mem_filter.mp h).1
  have hfilled : ∀ word ∈ (words answer).drop 2, 1 ≤ word.length := by
    intro word hword
    have hne := (List.mem_filter.mp (List.mem_of_mem_drop hword)).2
    cases word with
    | nil => cases hne
    | cons c word =>
      rw [List.length_cons]
      omega
  obtain ⟨hfirst, hsecond⟩ := mem_of_mem_pairs hpair
  have hone := hfilled _ hfirst
  have hother := hfilled _ hsecond
  rw [List.length_append]
  omega

theorem isBrandCode_of_mem_digitPairs (h : digits ∈ digitPairs answer) :
    IsBrandCode (min 4 digits.length) (codeOf (digits.drop (digits.length - 4))) := by
  have hlast : (digits.drop (digits.length - 4)).length = min 4 digits.length := by
    rw [List.length_drop]
    omega
  rw [← hlast]
  exact isBrandCode_codeOf fun c hc => isHex_of_mem_digitPairs h c (List.mem_of_mem_drop hc)

/-! ## The whole answer -/

theorem codes_of_spaced {answer : String} (h : isSpaced answer.toList = true) :
    codes answer = (digitPairs answer.toList).map fun digits =>
      codeOf (digits.drop (digits.length - 4)) := by
  rw [codes, if_pos h, spacedGroups_eq_map, List.map_map]
  rfl

theorem forall₂_codes_of_spaced {answer : String} (h : isSpaced answer.toList = true) :
    List.Forall₂ (fun digits code => IsBrandCode (min 4 digits.length) code)
      (digitPairs answer.toList) (codes answer) := by
  rw [codes_of_spaced h, List.forall₂_map_right_iff, List.forall₂_same]
  exact fun digits hdigits => isBrandCode_of_mem_digitPairs hdigits

theorem isBrandCode_of_not_spaced {answer : String} (h : isSpaced answer.toList = false) :
    ∀ code ∈ codes answer, IsBrandCode 4 code := by
  intro code hcode
  have hcodes := codes_of_not_spaced h
  rw [String.ofList_toList] at hcodes
  rw [hcodes] at hcode
  obtain ⟨group, hgroup, rfl⟩ := List.mem_map.mp hcode
  obtain ⟨hlen, hhex⟩ := isHex_of_mem_compactGroups hgroup
  rw [← hlen]
  exact isBrandCode_codeOf hhex

/-- How wide the codes of an answer are. Every code is the letter and digits in upper case. Read frame
by frame it has four digits. Read word by word there is one code for every two words of nothing but digits,
in their order, and it has the last four of them, or all if there are only two or three. So all codes have
five characters exactly if the answer is read frame by frame, or no two words that make a code have less
than four digits. -/
theorem five_characters_iff (table : CodeTable) (answer : String) :
    let codes := (describe table answer).map (·.code)
    ((∀ code ∈ codes, IsBrandCode 4 code) ↔
      isSpaced answer.toList = false ∨ ∀ digits ∈ digitPairs answer.toList, 4 ≤ digits.length) ∧
    (isSpaced answer.toList = false → ∀ code ∈ codes, IsBrandCode 4 code) ∧
    (isSpaced answer.toList = true →
      List.Forall₂ (fun digits code => IsBrandCode (min 4 digits.length) code)
        (digitPairs answer.toList) codes) ∧
    ∀ code ∈ codes, ∃ count, 2 ≤ count ∧ count ≤ 4 ∧ IsBrandCode count code := by
  intro codes
  have hcodes : codes = Brand.codes answer := map_code_describe table answer
  rw [hcodes]
  refine ⟨?_, isBrandCode_of_not_spaced, forall₂_codes_of_spaced, ?_⟩
  · cases hspaced : isSpaced answer.toList with
    | false => exact iff_of_true (isBrandCode_of_not_spaced hspaced) (Or.inl rfl)
    | true =>
      rw [codes_of_spaced hspaced, List.forall_mem_map]
      simp only [Bool.true_eq_false, false_or]
      refine forall₂_congr fun digits hdigits => ?_
      have hwidth := isBrandCode_of_mem_digitPairs hdigits
      constructor
      · intro hfour
        have hmin := hwidth.count_eq hfour
        omega
      · intro hlong
        rwa [Nat.min_eq_left hlong] at hwidth
  · cases hspaced : isSpaced answer.toList with
    | false =>
      intro code hcode
      exact ⟨4, by decide, by decide, isBrandCode_of_not_spaced hspaced code hcode⟩
    | true =>
      rw [codes_of_spaced hspaced, List.forall_mem_map]
      intro digits hdigits
      have htwo := two_le_of_mem_digitPairs hdigits
      exact ⟨_, by omega, by omega, isBrandCode_of_mem_digitPairs hdigits⟩

/-- Two words of one digit each behind two of two: the first code has five characters, the second
three. -/
theorem three_characters_of_single_digits :
    let answer := String.ofList
      ['6', '2', ' ', 'F', '1', '9', '0', ' ', '0', '1', ' ', '2', '3', ' ', '1', ' ', '2']
    let codes := (describe .empty answer).map (·.code)
    codes = ["P0123", "P12"] ∧ ['1', '2'] ∈ digitPairs answer.toList ∧
      ¬ ∀ code ∈ codes, IsBrandCode 4 code := by
  intro answer codes
  have hspaced : isSpaced answer.toList = true := by
    rw [String.toList_ofList]
    decide +kernel
  have hpair : ['1', '2'] ∈ digitPairs answer.toList := by
    rw [String.toList_ofList]
    decide +kernel
  have hcodes : codes = ["P0123", "P12"] := by
    show (describe .empty answer).map (·.code) = _
    rw [map_code_describe, codes_of_spaced hspaced, String.toList_ofList]
    decide +kernel
  refine ⟨hcodes, hpair, fun hfull => ?_⟩
  rcases (five_characters_iff .empty answer).1.mp hfull with hframes | hlong
  · rw [hspaced] at hframes
    cases hframes
  · exact absurd (hlong _ hpair) (by decide)

end ScanTool.Brand
