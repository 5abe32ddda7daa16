import ScanTool.Proofs.OctetPlaces
import ScanTool.Proofs.StoredCodes

/-!
# Stored codes of joined answers

The data of all lines is glued together before it is cut into groups of four octets. So the codes of
two answers, one after the other, are the codes of the first and then those of the second if the
data of the first ends with a whole group. The main statement says that this is needed, too: less
than a group at the end of the first answer shifts the groups of some other answer behind it.
-/

namespace ScanTool.Trouble

open ScanTool.Text ScanTool.Frame

/-! ## Data in a row -/

theorem storedPayload_append {c : Char} (hc : isLineBreak c = true) (first second : List Char) :
    storedPayload (first ++ c :: second) = storedPayload first ++ storedPayload second := by
  rw [storedPayload, payloads_append hc, List.flatten_append]
  rfl

theorem storedCodes_append (first second : String) :
    storedCodes (first ++ "\r" ++ second) =
      (decodeGroups (storedPayload first.toList ++ storedPayload second.toList)).map
        String.ofList := by
  have htext : (first ++ "\r" ++ second).toList = first.toList ++ '\r' :: second.toList := by
    rw [String.toList_append, String.toList_append, List.append_assoc]
    rfl
  rw [storedCodes, htext, storedPayload_append rfl]

/-- Behind whole groups and less than a group, the cells left over are joined to the next ones. -/
theorem decodeGroups_append {whole left : List (Option Char)} {first : List Char}
    (second : List Char) (hcells : cells first = whole ++ left) (aligned : 4 ∣ whole.length)
    (short : left.length ≤ 3) :
    decodeGroups (first ++ second) =
      decodeGroups first ++ (quads (left ++ cells second)).filterMap decodeCells? := by
  have hleft : quads left = [] := quads_of_short (by omega)
  rw [decodeGroups, decodeGroups, cells_append, hcells, List.append_assoc, quads_append aligned,
    quads_append aligned, hleft, List.append_nil, List.filterMap_append]

/-! ## What is left over -/

/-- An answer whose data is the digit `1`, as often as it is told. -/
def ones (n : Nat) : String := String.ofList (storedMarker ++ List.replicate n '1')

theorem storedPayload_ones (n : Nat) :
    storedPayload (ones n).toList = List.replicate n '1' := by
  have hdigits : Digits (storedMarker ++ List.replicate n '1') := by
    refine digits_storedMarker.append fun c hc => ?_
    rw [List.eq_of_mem_replicate hc]
    decide
  rw [ones, String.toList_ofList, storedPayload, payloads_digits hdigits (by simp [storedMarker]),
    payload?_bare]
  simp

/-- Behind less than a group, four ones make the same group as those that it lacks, and no other. -/
theorem quads_left_ones {left : List (Option Char)} (hne : left ≠ []) (short : left.length ≤ 3) :
    quads (left ++ cells (List.replicate (4 - left.length) '1')) =
      quads (left ++ cells (List.replicate 4 '1')) := by
  match left, short with
  | [], _ => exact absurd rfl hne
  | [_], _ | [_, _], _ | [_, _, _], _ => rfl

theorem storedCodes_ones_of_short {n : Nat} (h : n ≤ 3) : storedCodes (ones n) = [] := by
  have hshort : (cells (List.replicate n '1')).length < 4 := by
    rw [length_cells, octetCount_of_forall fun c hc => by rw [List.eq_of_mem_replicate hc]; rfl,
      List.length_replicate]
    omega
  rw [storedCodes, storedPayload_ones, decodeGroups, quads_of_short hshort]
  rfl

theorem storedCodes_ones_four : storedCodes (ones 4) = ["P1111"] := by
  rw [storedCodes, storedPayload_ones]
  rfl

/-- Less than a group at the end of the first answer takes digits of the second. Where these
complete a code, they do so behind a second answer that has none; where they do not, they are lost
to a second answer that has one. -/
theorem exists_joined_ne {first : String} {whole left : List (Option Char)}
    (hcells : cells (storedPayload first.toList) = whole ++ left) (aligned : 4 ∣ whole.length)
    (hne : left ≠ []) (short : left.length ≤ 3) :
    ∃ second, storedCodes (first ++ "\r" ++ second) ≠ storedCodes first ++ storedCodes second := by
  by_contra hall
  let codesBehind (n : Nat) := (quads (left ++ cells (List.replicate n '1'))).filterMap decodeCells?
  have joined : ∀ n, storedCodes (ones n) = (codesBehind n).map String.ofList := by
    intro n
    have hjoined := not_exists_not.mp hall (ones n)
    rw [storedCodes_append, decodeGroups_append _ hcells aligned short, List.map_append,
      storedPayload_ones] at hjoined
    exact (List.append_cancel_left hjoined).symm
  have hpos : 0 < left.length := List.length_pos_iff.mpr hne
  have same : codesBehind (4 - left.length) = codesBehind 4 := by
    simp only [codesBehind, quads_left_ones hne short]
  have hnone := joined (4 - left.length)
  rw [same, ← joined 4, storedCodes_ones_four, storedCodes_ones_of_short (by omega)] at hnone
  cases hnone

/-- The codes of two answers on lines one after the other are those of the first and then those of
the second, whatever the second is, exactly if the data of the first consists of whole groups. -/
theorem storedCodes_joined_iff (first : String) :
    4 ∣ octetCount (storedPayload first.toList) ↔
      ∀ second : String,
        storedCodes (first ++ "\r" ++ second) = storedCodes first ++ storedCodes second := by
  rw [← length_cells]
  constructor
  · intro aligned second
    have hcells : cells (storedPayload first.toList) = cells (storedPayload first.toList) ++ [] :=
      (List.append_nil _).symm
    rw [storedCodes_append, decodeGroups_append _ hcells aligned (Nat.zero_le 3), List.map_append]
    rfl
  · intro hall
    by_contra odd
    generalize hxs : cells (storedPayload first.toList) = xs at odd
    have hcells := (List.take_append_drop (xs.length / 4 * 4) xs).symm
    have aligned : 4 ∣ (xs.take (xs.length / 4 * 4)).length := by
      rw [List.length_take]
      omega
    have hleft : (xs.drop (xs.length / 4 * 4)).length = xs.length % 4 := by
      rw [List.length_drop]
      omega
    have hne : xs.drop (xs.length / 4 * 4) ≠ [] := List.ne_nil_of_length_pos (by omega)
    obtain ⟨second, hother⟩ := exists_joined_ne (hxs.trans hcells) aligned hne (by omega)
    exact hother (hall second)

end ScanTool.Trouble
