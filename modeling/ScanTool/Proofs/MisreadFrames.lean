import ScanTool.Proofs.StoredCodes

/-!
# Frames read in the wrong place

A frame with an identifier of eleven or of twenty-nine bits whose data does not begin with the
marker answers something else. It is not skipped: the last shape is tried on it too, as if its first six
digits were a header of three bytes. `misread` is what is read there, and the main statement says
exactly when codes are invented from it. With eleven bits that depends on the data, where the marker
may stand across two bytes; with twenty-nine bits it depends on the address of the sender.
-/

namespace ScanTool.Trouble

open ScanTool.Text ScanTool.Frame

/-- A frame with an identifier of eleven or of twenty-nine bits and a length, whose data does not
begin with the marker of stored codes. -/
inductive OtherFrame : List Char → Prop where
  /-- An identifier of eleven bits, a length and data. -/
  | short {unit : Char} {size data : List Char} (hunit : unit ∈ unitDigits)
    (length_size : size.length = 2) (not_stored : ¬ storedMarker <+: data) :
    OtherFrame ('7' :: 'E' :: unit :: size ++ data)
  /-- An identifier of twenty-nine bits, which ends with the address of the sender, a length and
  data. -/
  | long {sender size data : List Char} (length_sender : sender.length = 2)
    (length_size : size.length = 2) (not_stored : ¬ storedMarker <+: data) :
    OtherFrame (longId ++ sender ++ size ++ data)

/-- What is read from a line as if it had a header of three bytes and a checksum: what stands
between the first eight digits and the last two, if the seventh and eighth are the marker. -/
def misread (line : List Char) : List Char :=
  if (line.drop 6).take 2 = storedMarker then (line.drop 8).take (line.length - 10) else []

/-! ## One line -/

/-- Only the last shape is left for a frame that answers something else. -/
theorem OtherFrame.payload? {line : List Char} (h : OtherFrame line) (hdigits : Digits line) :
    payload? storedMarker line = afterCheckedHeader? storedMarker line := by
  cases h with
  | @short unit size data hunit hsize hdata =>
    have hheader : Digits ('7' :: 'E' :: unit :: size) :=
      fun c hc => hdigits c (List.mem_append_left _ hc)
    have hshort := afterHeader?_append hheader 5 (by simp [hsize]) storedMarker data
    have hlong : hasLongId ('7' :: 'E' :: unit :: size ++ data) = false := rfl
    have hbare : after? storedMarker ('7' :: 'E' :: unit :: size ++ data) = none :=
      unmistakable_storedMarker.after?_cons (Or.inl rfl)
    rw [payload?_eq_or, hbare, hshort, after?_eq_none_iff.mpr hdata, hlong]
    simp
  | @long sender size data hsender hsize hdata =>
    have hheader : Digits (longId ++ sender ++ size) :=
      fun c hc => hdigits c (List.mem_append_left _ hc)
    have hlong := afterHeader?_append hheader 10 (by simp [hsender, hsize, longId])
      storedMarker data
    have hshort : hasShortId (longId ++ sender ++ size ++ data) = false := rfl
    have hbare : after? storedMarker (longId ++ sender ++ size ++ data) = none :=
      unmistakable_storedMarker.after?_cons (Or.inr rfl)
    rw [payload?_eq_or, hbare, hlong, after?_eq_none_iff.mpr hdata, hshort]
    simp

/-- What the last shape reads from a line of digits. -/
theorem afterCheckedHeader?_getD {line : List Char} (h : Digits line) :
    (afterCheckedHeader? storedMarker line).getD [] = misread line := by
  unfold afterCheckedHeader? misread
  by_cases hlen : 6 ≤ line.length
  · have htake : (line.take 6).length = 6 := by simp [hlen]
    have hall : (line.take 6).all isHexDigit = true :=
      Digits.all_isHexDigit fun c hc => h c (List.mem_of_mem_take hc)
    rw [if_pos ⟨htake, hall⟩]
    by_cases hmarker : (line.drop 6).take 2 = storedMarker
    · have hrest : after? storedMarker (line.drop 6) = some (line.drop 8) := by
        rw [after?_eq_some_iff, ← hmarker, ← List.drop_drop (i := 2) (j := 6),
          List.take_append_drop]
      have hdigits : Digits (line.drop 8) := fun c hc => h c (List.mem_of_mem_drop hc)
      rw [if_pos hmarker, hrest, Option.bind_some, hdigits.dropLastOctets?_getD, List.length_drop,
        Nat.sub_sub]
    · have hnone : after? storedMarker (line.drop 6) = none :=
        after?_eq_none_iff.mpr fun hp => hmarker (List.prefix_iff_eq_take.mp hp).symm
      rw [if_neg hmarker, hnone, Option.bind_none, Option.getD_none]
  · have htake : ¬ ((line.take 6).length = 6 ∧ (line.take 6).all isHexDigit = true) := by
      rintro ⟨hsix, -⟩
      rw [List.length_take] at hsix
      omega
    have hdrop : line.drop 6 = [] := List.drop_eq_nil_of_le (by omega)
    rw [if_neg htake, hdrop, if_neg (by decide), Option.getD_none]

theorem digits_misread {line : List Char} (h : Digits line) : Digits (misread line) := by
  unfold misread
  split
  · intro c hc
    exact h c (List.mem_of_mem_drop (List.mem_of_mem_take hc))
  · simp [Digits]

/-! ## The whole answer -/

variable {answer : List Char}

/-- What is read from an answer that holds none but frames that answer something else. -/
theorem storedPayload_otherFrames
    (frames : ∀ line ∈ compactLines answer, OtherFrame line ∧ Digits line) :
    storedPayload answer = (compactLines answer).flatMap misread := by
  unfold storedPayload payloads
  generalize compactLines answer = lines at frames
  induction lines with
  | nil => rfl
  | cons line rest ih =>
    rw [List.forall_mem_cons] at frames
    have hline : (payload? storedMarker line).getD [] = misread line := by
      rw [frames.1.1.payload? frames.1.2, afterCheckedHeader?_getD frames.1.2]
    rw [List.flatMap_cons, ← ih frames.2, ← hline]
    cases hp : payload? storedMarker line <;> simp [hp]

/-- An answer that holds none but frames that answer something else gives no codes exactly when all
that is misread from it is padding and less than a group at the end. -/
theorem storedCodes_eq_nil_iff (answer : String)
    (frames : ∀ line ∈ compactLines answer.toList, OtherFrame line ∧ Digits line) :
    storedCodes answer = [] ↔
      ∀ group ∈ quads ((compactLines answer.toList).flatMap misread), group = padding := by
  have hdigits : Digits ((compactLines answer.toList).flatMap misread) := by
    intro c hc
    obtain ⟨line, hline, hc⟩ := List.mem_flatMap.mp hc
    exact digits_misread (frames line hline).2 c hc
  rw [storedCodes, List.map_eq_nil_iff, storedPayload_otherFrames frames,
    decodeGroups_digits hdigits, List.filterMap_eq_nil_iff]
  have hgroup : ∀ group ∈ quads ((compactLines answer.toList).flatMap misread),
      (decodeGroup? group = none ↔ group = padding) := fun group hg =>
    decodeGroup?_eq_none_iff (fun c hc => hdigits c (subset_of_mem_quads hg hc))
      (length_of_mem_quads hg)
  exact forall₂_congr hgroup

/-- A later frame of a longer message, `7E8 21 04 30 13 30 00`, of which a code is made that the
vehicle never sent. -/
theorem storedCodes_of_later_frame :
    let frame := ['7', 'E', '8', '2', '1', '0', '4', '3', '0', '1', '3', '3', '0', '0', '0']
    let answer := String.ofList frame
    (∀ line ∈ compactLines answer.toList, OtherFrame line ∧ Digits line) ∧
      storedCodes answer = ["P0133"] ∧
      ¬ ∀ group ∈ quads ((compactLines answer.toList).flatMap misread), group = padding := by
  intro frame answer
  have hlines : compactLines answer.toList = [frame] := by
    rw [String.toList_ofList]
    rfl
  have frames : ∀ line ∈ compactLines answer.toList, OtherFrame line ∧ Digits line := by
    rw [hlines]
    intro line h
    rw [List.mem_singleton.mp h]
    have hunit : '8' ∈ unitDigits := by decide
    have hsize : ['2', '1'].length = 2 := rfl
    exact ⟨.short hunit hsize (by decide), by decide⟩
  have hcodes : storedCodes answer = ["P0133"] := by
    rw [storedCodes, storedPayload, String.toList_ofList]
    rfl
  refine ⟨frames, hcodes, fun h => ?_⟩
  have hnil := (storedCodes_eq_nil_iff answer frames).mpr h
  rw [hcodes] at hnil
  cases hnil

end ScanTool.Trouble
