import ScanTool.Proofs.FrameLayout

/-!
# Frames behind damaged headers

A line that does not open with the marker gives its data behind a bus header. Of a header without an
identifier every character is checked, but of one with an identifier only the identifier is; the octets
behind it are counted and not looked at. So a frame whose length was damaged on the line is read like a
good one, whatever stands there now. The main statement says exactly which lines give data, and which
data it is.
-/

namespace ScanTool.Frame

open ScanTool.Text

/-- The identifiers that are looked for, and the number of octets that a header has behind each. -/
inductive Identifier : List Char → Nat → Prop where
  /-- An identifier of eleven bits; a length follows. -/
  | short {unit : Char} (hunit : unit ∈ unitDigits) : Identifier ['7', 'E', unit] 2
  /-- The opening of an identifier of twenty-nine bits; the sender and a length follow. -/
  | long : Identifier longId 4

/-- A header that opens with an identifier. What its other octets are is left open. -/
def Identified (header : List Char) : Prop :=
  ∃ id octets rest, Identifier id octets ∧ octetCount rest = octets ∧ header = id ++ rest

/-- The line carries the data behind a bus header. -/
inductive Carries (marker line data : List Char) : Prop where
  /-- The marker and the data stand behind a header with an identifier. -/
  | identified {header : List Char} (identified : Identified header)
    (split : line = header ++ marker ++ data)
  /-- The marker stands behind no such header, and with the data between six digits and two octets of a
  checksum. -/
  | checked {header check : List Char} (digits : Digits header) (length_header : header.length = 6)
    (octets_check : octetCount check = 2) (split : line = header ++ marker ++ data ++ check)
    (unidentified : ∀ other, Identified other → ¬ other ++ marker <+: line)

variable {marker line data answer header : List Char}

/-! ## Headers with an identifier -/

theorem exists_of_opening {opening rest more : List Char} (split : opening ++ more = header ++ rest)
    (enough : octetCount opening ≤ octetCount header) : ∃ tail, header = opening ++ tail := by
  rcases List.append_eq_append_iff.mp split with ⟨tail, hheader, -⟩ | ⟨tail, hopening, -⟩
  · exact ⟨tail, hheader⟩
  · have hcount : octetCount tail = 0 := by
      rw [hopening, octetCount_append] at enough
      omega
    have hnil : tail = [] := by
      cases tail with
      | nil => rfl
      | cons c tail =>
        have hpos := c.utf8Size_pos
        rw [octetCount] at hcount
        omega
    rw [hnil, List.append_nil] at hopening
    exact ⟨[], by rw [List.append_nil, hopening]⟩

/-- Data is taken behind a header of some octets that opens with an identifier. -/
theorem afterHeader?_of_opening {id more : List Char} (octets : Nat) (hline : line = id ++ more) :
    afterHeader? (octetCount id + octets) marker line = some data ↔
      ∃ rest, octetCount rest = octets ∧ line = id ++ rest ++ marker ++ data := by
  rw [afterHeader?_eq_some_iff]
  constructor
  · rintro ⟨header, hcount, rfl⟩
    rw [List.append_assoc] at hline
    obtain ⟨rest, rfl⟩ := exists_of_opening hline.symm (by omega)
    rw [octetCount_append] at hcount
    exact ⟨rest, by omega, rfl⟩
  · rintro ⟨rest, hcount, rfl⟩
    exact ⟨id ++ rest, by rw [octetCount_append, hcount], rfl⟩

theorem behind_short_iff :
    (if hasShortId line then afterHeader? 5 marker line else none) = some data ↔
      ∃ unit ∈ unitDigits, ∃ size, octetCount size = 2 ∧
        line = ['7', 'E', unit] ++ size ++ marker ++ data := by
  constructor
  · intro h
    split at h
    · rename_i hid
      obtain ⟨unit, hunit, more, hopening⟩ := hasShortId_iff.mp hid
      have hline : line = ['7', 'E', unit] ++ more := hopening
      have hcount : octetCount ['7', 'E', unit] = 3 := (digits_shortId hunit).octetCount
      refine ⟨unit, hunit, (afterHeader?_of_opening 2 hline).mp ?_⟩
      rw [hcount]
      exact h
    · cases h
  · rintro ⟨unit, hunit, size, hsize, hline⟩
    have hid : hasShortId line = true :=
      hasShortId_iff.mpr ⟨unit, hunit, size ++ marker ++ data, by simp [hline]⟩
    have hcount : octetCount (['7', 'E', unit] ++ size) = 5 := by
      rw [octetCount_append, (digits_shortId hunit).octetCount, hsize]
      rfl
    rw [if_pos hid]
    exact afterHeader?_eq_some_iff.mpr ⟨_, hcount, hline⟩

theorem behind_long_iff :
    (if hasLongId line then afterHeader? 10 marker line else none) = some data ↔
      ∃ rest, octetCount rest = 4 ∧ line = longId ++ rest ++ marker ++ data := by
  have hcount : octetCount longId = 6 := rfl
  constructor
  · intro h
    split at h
    · rename_i hid
      obtain ⟨more, hline⟩ := List.isPrefixOf_iff_prefix.mp hid
      refine (afterHeader?_of_opening 4 hline.symm).mp ?_
      rw [hcount]
      exact h
    · cases h
  · rintro ⟨rest, hrest, hline⟩
    have hid : hasLongId line = true :=
      List.isPrefixOf_iff_prefix.mpr ⟨rest ++ marker ++ data, by simp [hline]⟩
    rw [if_pos hid]
    exact afterHeader?_eq_some_iff.mpr ⟨_, by rw [octetCount_append, hcount, hrest], hline⟩

theorem behind_identifier_iff :
    ((if hasShortId line then afterHeader? 5 marker line else none).or
      (if hasLongId line then afterHeader? 10 marker line else none)) = some data ↔
      ∃ header, Identified header ∧ line = header ++ marker ++ data := by
  rw [Option.or_eq_some_iff]
  constructor
  · rintro (h | ⟨-, h⟩)
    · obtain ⟨unit, hunit, size, hsize, hline⟩ := behind_short_iff.mp h
      exact ⟨_, ⟨_, 2, size, .short hunit, hsize, rfl⟩, hline⟩
    · obtain ⟨rest, hrest, hline⟩ := behind_long_iff.mp h
      exact ⟨_, ⟨_, 4, rest, .long, hrest, rfl⟩, hline⟩
  · rintro ⟨header, ⟨id, octets, rest, hid, hrest, rfl⟩, hline⟩
    cases hid with
    | short hunit => exact Or.inl (behind_short_iff.mpr ⟨_, hunit, rest, hrest, hline⟩)
    | long =>
      -- a line that opens with one identifier does not open with the other
      have hshort : hasShortId line = false := by
        rw [hline]
        rfl
      refine Or.inr ⟨?_, behind_long_iff.mpr ⟨rest, hrest, hline⟩⟩
      rw [hshort]
      rfl

/-! ## Lines and answers -/

theorem digits_of_compact (upper : ∀ c ∈ line, c.toUpper = c)
    (hhex : ∀ c ∈ header, isHexDigit c = true) (part : header ⊆ line) : Digits header := by
  intro c hc
  have hdigit := (upper_of_isHexDigit (hhex c hc)).1
  rwa [upper c (part hc)] at hdigit

theorem payload?_eq_some_iff_carries (upper : ∀ c ∈ line, c.toUpper = c)
    (unmarked : ¬ marker <+: line) :
    payload? marker line = some data ↔ Carries marker line data := by
  rw [payload?_eq_or, after?_eq_none_iff.mpr unmarked, Option.none_or, ← Option.or_assoc,
    Option.or_eq_some_iff, behind_identifier_iff]
  constructor
  · rintro (⟨header, hid, hline⟩ | ⟨hnone, h⟩)
    · exact .identified hid hline
    · obtain ⟨header, check, hhex, hlen, hcheck, hline⟩ := afterCheckedHeader?_eq_some_iff.mp h
      have part : header ⊆ line := by
        intro c hc
        simp [hline, hc]
      refine .checked (digits_of_compact upper hhex part) hlen hcheck hline ?_
      rintro other hid ⟨more, hmore⟩
      have found := behind_identifier_iff.mpr ⟨other, hid, hmore.symm⟩
      rw [hnone] at found
      cases found
  · intro h
    cases h with
    | identified hid hline => exact Or.inl ⟨_, hid, hline⟩
    | checked hdigits hlen hcheck hline unidentified =>
      refine Or.inr ⟨?_, ?_⟩
      · rw [Option.eq_none_iff_forall_ne_some]
        intro more hmore
        obtain ⟨other, hid, hother⟩ := behind_identifier_iff.mp hmore
        exact unidentified other hid ⟨more, hother.symm⟩
      · exact afterCheckedHeader?_eq_some_iff.mpr ⟨_, _,
          fun c hc => isHexDigit_of_mem_upperDigits c (hdigits c hc), hlen, hcheck, hline⟩

/-- Which data is taken from an answer. A line that does not open with the marker gives data if the
marker stands behind an identifier and two or four octets, whatever these are, and then all that follows
it; and if it does not, but stands behind six digits, all but the last two octets. So a header of six
octets holds digits only, and one with an identifier may hold anything behind it. -/
theorem data_behind_header_iff (marker answer : List Char) :
    (∀ line ∈ compactLines answer, ¬ marker <+: line →
      ∀ data, payload? marker line = some data ↔ Carries marker line data) ∧
    ∀ data, data ∈ payloads marker answer ↔ ∃ line ∈ compactLines answer,
      line = marker ++ data ∨ ¬ marker <+: line ∧ Carries marker line data := by
  have hline : ∀ line ∈ compactLines answer, ¬ marker <+: line →
      ∀ data, payload? marker line = some data ↔ Carries marker line data :=
    fun line hmem unmarked data =>
      payload?_eq_some_iff_carries (toUpper_of_mem_compactLines hmem) unmarked
  refine ⟨hline, fun data => ?_⟩
  rw [payloads, List.mem_filterMap]
  refine exists_congr fun line => and_congr_right fun hmem => ?_
  by_cases marked : marker <+: line
  · obtain ⟨more, rfl⟩ := marked
    rw [payload?_bare]
    simp [eq_comm]
  · rw [hline line hmem marked data]
    have hne : line ≠ marker ++ data := fun h => marked ⟨data, h.symm⟩
    simp [marked, hne]

/-- Three damaged frames of stored codes: a length of one character, a sender and a length without a
digit, and a header without an identifier in which one character is no digit. Two of them are read. -/
theorem data_behind_damaged_lengths :
    let marker := ['4', '3']
    let short := ['7', 'E', '8', 'é', '4', '3', '0', '1', '3', '3']
    let long := longId ++ ['Z', 'Z', '-', '-', '4', '3', '0', '3', '0', '1']
    let plain := ['4', '8', 'Z', 'B', '1', '0', '4', '3', '0', '1', '3', '3', '5', '5']
    let answer := short ++ '\r' :: (long ++ '\r' :: plain)
    compactLines answer = [short, long, plain] ∧
      (∀ line ∈ [short, long, plain], ¬ marker <+: line) ∧
      ['0', '1', '3', '3'] ∈ payloads marker answer ∧
      payload? marker long = some ['0', '3', '0', '1'] ∧
      payload? marker plain = none := by
  intro marker short long plain answer
  have hlines : compactLines answer = [short, long, plain] := by decide +kernel
  have unmarked : ∀ line ∈ [short, long, plain], ¬ marker <+: line := by
    simp only [List.forall_mem_cons]
    exact ⟨by decide, by decide, by decide, by simp⟩
  obtain ⟨onLine, inAnswer⟩ := data_behind_header_iff marker answer
  rw [hlines] at onLine inAnswer
  have hshort : Carries marker short ['0', '1', '3', '3'] :=
    .identified ⟨['7', 'E', '8'], 2, ['é'], .short (by decide), by decide, rfl⟩ rfl
  have hlong : Carries marker long ['0', '3', '0', '1'] :=
    .identified ⟨longId, 4, ['Z', 'Z', '-', '-'], .long, by decide, rfl⟩ rfl
  refine ⟨hlines, unmarked, ?_, ?_, by decide +kernel⟩
  · exact (inAnswer _).mpr ⟨short, by simp, Or.inr ⟨unmarked short (by simp), hshort⟩⟩
  · exact (onLine long (by simp) (unmarked long (by simp)) _).mpr hlong

end ScanTool.Frame
