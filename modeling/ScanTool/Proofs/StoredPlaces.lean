import Mathlib.Data.List.Forall2
import ScanTool.Proofs.OctetPlaces
import ScanTool.Proofs.StoredCodes

/-!
# Stored codes by their places

Whatever text an adapter prints, the data of its lines is cut into groups of four octets. The main
statement says which groups become codes: those of four digits that are not padding, each at its
place, none lost, shifted or made twice, and each a code that is written with the digits of its
group. A group with any other character in it is skipped.
-/

namespace ScanTool.Trouble

open ScanTool.Text ScanTool.Frame

/-! ## One group -/

theorem isSome_decodeGroup?_iff {group : List Char} :
    (decodeGroup? group).isSome = true ↔
      group.length = 4 ∧ (∀ c ∈ group, isHexDigit c = true) ∧ group ≠ padding := by
  constructor
  · intro h
    unfold decodeGroup? at h
    split at h
    · rename_i a b c d
      split at h
      · rename_i hgroup
        rw [Bool.and_eq_true, List.all_eq_true, bne_iff_ne] at hgroup
        exact ⟨rfl, hgroup⟩
      · cases h
    · cases h
  · rintro ⟨hlen, hhex, hpadding⟩
    match group, hlen with
    | [a, b, c, d], _ =>
      have hfirst : (hexValue? a).isSome = true := hhex a List.mem_cons_self
      rw [decodeGroup?_hex hhex hpadding, Option.isSome_map, hfirst]

theorem digits_of_decodeGroup? {group code : List Char} (h : decodeGroup? group = some code) :
    group.length = 4 ∧ (∀ c ∈ group, isHexDigit c = true) ∧ group ≠ padding := by
  rw [← isSome_decodeGroup?_iff, h, Option.isSome_some]

/-- The letter and the digit of which the first digit of a group tells make this digit again. -/
theorem system_of_mem_upperDigits {a : Char} (h : a ∈ upperDigits) :
    ∀ first ∈ hexValue? a,
      systemLetter first ∈ ['P', 'C', 'B', 'U'] ∧ hexDigit (first % 4) ∈ ['0', '1', '2', '3'] ∧
      hexDigit (4 * systemIndex (systemLetter first) +
        (hexValue? (hexDigit (first % 4))).getD 0) = a := by
  have hall : ∀ a ∈ upperDigits, ∀ first ∈ hexValue? a,
      systemLetter first ∈ ['P', 'C', 'B', 'U'] ∧ hexDigit (first % 4) ∈ ['0', '1', '2', '3'] ∧
      hexDigit (4 * systemIndex (systemLetter first) +
        (hexValue? (hexDigit (first % 4))).getD 0) = a := forall_mem_of_all (by decide)
  exact hall a h

/-- What a group of digits stands for is a code, and the code is written with these digits. -/
theorem isCode_of_decodeGroup? {group code : List Char} (hdigits : Digits group)
    (h : decodeGroup? group = some code) :
    IsCode (String.ofList code) ∧ encode (String.ofList code) = group := by
  obtain ⟨hlen, -, hpadding⟩ := digits_of_decodeGroup? h
  match group, hlen with
  | [a, b, c, d], _ =>
    rw [decodeGroup?_digits hdigits hpadding, Option.map_eq_some_iff] at h
    obtain ⟨first, hfirst, rfl⟩ := h
    obtain ⟨ha, hrest⟩ := List.forall_mem_cons.mp hdigits
    obtain ⟨hletter, hdigit, hagain⟩ := system_of_mem_upperDigits ha first hfirst
    have hencode : encode (.ofList (systemLetter first :: hexDigit (first % 4) :: [b, c, d])) =
        [a, b, c, d] := by
      rw [encode_ofList, hagain]
    refine ⟨⟨_, _, [b, c, d], rfl, hletter, hdigit, hrest, rfl, fun hzero => hpadding ?_⟩, hencode⟩
    -- no group but padding is written for `P0000`
    rw [← hencode, hzero]
    rfl

/-! ## Groups at their places -/

/-- Four cells stand for the code of the part of the text at their place. -/
theorem decodeCells?_cells (payload : List Char) (n : Nat) :
    decodeCells? (((cells payload).drop n).take 4) =
      (between? n (n + 4) payload).bind decodeGroup? := by
  ext code
  rw [decodeCells?, Option.bind_eq_some_iff, Option.bind_eq_some_iff]
  refine exists_congr fun group => and_congr_left fun hcode => ?_
  obtain ⟨hlen, hhex, -⟩ := digits_of_decodeGroup? hcode
  rw [mapM_cells_eq_some_iff hlen]
  exact and_iff_left (utf8Size_of_forall_isHexDigit hhex)

/-- The codes in a text are those of its parts between places that are multiples of four. -/
theorem decodeGroups_eq (payload : List Char) :
    decodeGroups payload = (List.range (octetCount payload / 4)).filterMap fun i =>
      (between? (4 * i) (4 * i + 4) payload).bind decodeGroup? := by
  rw [decodeGroups, quads_eq_range, List.filterMap_map, length_cells]
  exact List.filterMap_congr fun i _ => decodeCells?_cells payload (4 * i)

/-! ## The payload -/

theorem toUpper_of_mem_storedPayload {answer : List Char} {c : Char}
    (h : c ∈ storedPayload answer) : c.toUpper = c := by
  obtain ⟨data, hdata, hc⟩ := List.mem_flatten.mp h
  obtain ⟨line, hline, hpayload⟩ := List.mem_filterMap.mp hdata
  exact toUpper_of_mem_compactLines hline c
    ((infix_of_payload? hpayload).subset (List.mem_append_right _ hc))

/-- Digits in the data of an answer are upper-case digits. -/
theorem digits_of_between? {answer group : List Char} {start stop : Nat}
    (h : between? start stop (storedPayload answer) = some group)
    (hhex : ∀ c ∈ group, isHexDigit c = true) : Digits group := by
  intro c hc
  obtain ⟨front, back, hpayload, -⟩ := between?_eq_some_iff.mp h
  have hmem : c ∈ storedPayload answer := by
    rw [hpayload]
    exact List.mem_append_right _ (List.mem_append_left _ hc)
  have hupper := (upper_of_isHexDigit (hhex c hc)).1
  rwa [toUpper_of_mem_storedPayload hmem] at hupper

/-! ## The whole answer -/

/-- The elements that are taken over, beside what each of them becomes. -/
theorem forall₂_filterMap {α β : Type} (f : α → Option β) (xs : List α) :
    List.Forall₂ (fun x y => f x = some y) (xs.filter fun x => (f x).isSome) (xs.filterMap f) := by
  induction xs with
  | nil => exact .nil
  | cons x xs ih =>
    cases hx : f x with
    | none => simpa [hx] using ih
    | some y => simpa [hx] using ih

/-- At a place that is a multiple of four a code is found where four digits other than padding
stand. -/
theorem isSome_bind_decodeGroup?_iff {payload : List Char} {n : Nat} :
    ((between? n (n + 4) payload).bind decodeGroup?).isSome = true ↔ ∃ group,
      between? n (n + 4) payload = some group ∧ (∀ c ∈ group, isHexDigit c = true) ∧
      group ≠ padding := by
  cases hpart : between? n (n + 4) payload with
  | none => simp
  | some group =>
    obtain ⟨front, back, -, -, hcount⟩ := between?_eq_some_iff.mp hpart
    have hfour : (∀ c ∈ group, isHexDigit c = true) → group.length = 4 := by
      intro hhex
      rw [← octetCount_of_forall (utf8Size_of_forall_isHexDigit hhex)]
      omega
    rw [Option.bind_some, isSome_decodeGroup?_iff]
    constructor
    · rintro ⟨-, hhex, hpadding⟩
      exact ⟨group, rfl, hhex, hpadding⟩
    · rintro ⟨part, hsame, hhex, hpadding⟩
      obtain rfl := Option.some.inj hsame
      exact ⟨hfour hhex, hhex, hpadding⟩

/-- The stored codes of an answer, whatever its text: the places of its data that are multiples of
four and at which four digits other than padding stand, in ascending order, beside the codes that
are written with the digits at these places and that these digits stand for. -/
theorem storedCodes_by_place (answer : String) :
    ∃ places : List Nat, places.Pairwise (· < ·) ∧
      (∀ n, n ∈ places ↔ 4 ∣ n ∧ ∃ group,
        between? n (n + 4) (storedPayload answer.toList) = some group ∧
        (∀ c ∈ group, isHexDigit c = true) ∧ group ≠ padding) ∧
      List.Forall₂ (fun n code => IsCode code ∧
        between? n (n + 4) (storedPayload answer.toList) = some (encode code) ∧
        decodeGroup? (encode code) = some code.toList)
        places (storedCodes answer) := by
  set payload := storedPayload answer.toList
  let code? (i : Nat) := (between? (4 * i) (4 * i + 4) payload).bind decodeGroup?
  let groups := List.range (octetCount payload / 4)
  refine ⟨(groups.filter fun i => (code? i).isSome).map (4 * ·), ?_, fun n => ?_, ?_⟩
  · rw [List.pairwise_map]
    exact (List.pairwise_lt_range.filter _).imp fun hlt => by omega
  · simp only [List.mem_map, List.mem_filter, code?, isSome_bind_decodeGroup?_iff, groups,
      List.mem_range]
    constructor
    · rintro ⟨i, ⟨-, hgroup⟩, rfl⟩
      exact ⟨Nat.dvd_mul_right 4 i, hgroup⟩
    · rintro ⟨⟨i, rfl⟩, group, hpart, hgroup⟩
      refine ⟨i, ⟨?_, group, hpart, hgroup⟩, rfl⟩
      -- the group lies within the data, so it is one of those that are looked at
      obtain ⟨front, back, hwhole, hfront, hcount⟩ := between?_eq_some_iff.mp hpart
      rw [hwhole, octetCount_append, octetCount_append]
      omega
  · rw [storedCodes, decodeGroups_eq, List.forall₂_map_left_iff, List.forall₂_map_right_iff]
    refine (forall₂_filterMap code? groups).imp fun i code hcode => ?_
    obtain ⟨group, hgroup, hdecode⟩ := Option.bind_eq_some_iff.mp hcode
    obtain ⟨-, hhex, -⟩ := digits_of_decodeGroup? hdecode
    obtain ⟨hcode, hencode⟩ := isCode_of_decodeGroup? (digits_of_between? hgroup hhex) hdecode
    exact ⟨hcode, by rw [hencode, hgroup], by rw [hencode, hdecode, String.toList_ofList]⟩

end ScanTool.Trouble
