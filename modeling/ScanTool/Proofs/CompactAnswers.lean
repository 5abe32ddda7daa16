import Mathlib.Data.List.Basic
import ScanTool.Brand.Answer
import ScanTool.Proofs.FrameLayout

/-!
# Brand answers read frame by frame

An answer without blanks inside its lines is read frame by frame. What a frame tells is an
identifier, groups of four digits and less than a group behind them; written on a line of any shape,
with lines of a single word between the frames, exactly the groups are read back, each frame by
itself. An answer is only read so if none of its lines holds two words, which has to be shown of
what was written.
-/

namespace ScanTool.Brand

open ScanTool.Text ScanTool.Frame
open Trouble (CodeTable)

/-! ## Answers that are not spaced -/

theorem isSpaced_append {c : Char} (hc : isLineBreak c = true) (a b : List Char) :
    isSpaced (a ++ c :: b) = (isSpaced a || isSpaced b) := by
  simp [isSpaced, lines, splitWhen_append hc]

theorem isSpaced_line {line : List Char} (h : ∀ c ∈ line, isLineBreak c = false) :
    isSpaced line = decide (2 ≤ (words line).length) := by
  have hlines : lines line = [line] := splitWhen_of_forall_not h
  simp [isSpaced, hlines]

theorem isSpaced_of_forall_not {text : List Char} (h : ∀ c ∈ text, isBlank c = false) :
    isSpaced text = false := by
  have hline : ∀ c ∈ text, isLineBreak c = false :=
    fun c hc => isLineBreak_of_not_isBlank (h c hc)
  have hwords : (words text).length ≤ 1 := by
    by_cases hne : text = []
    · rw [hne]
      decide
    · simp [words_of_forall_not hne h]
  rw [isSpaced_line hline, decide_eq_false_iff_not]
  omega

theorem isSpaced_intercalate {c : Char} (hc : isLineBreak c = true) {texts : List (List Char)}
    (h : ∀ text ∈ texts, isSpaced text = false) : isSpaced ([c].intercalate texts) = false := by
  induction texts with
  | nil => rfl
  | cons text rest ih =>
    rw [List.forall_mem_cons] at h
    cases rest with
    | nil => rw [List.intercalate_singleton, h.1]
    | cons next rest =>
      rw [List.intercalate_cons_cons, List.append_assoc, List.singleton_append,
        isSpaced_append hc, h.1, ih h.2, Bool.or_false]

theorem codes_of_not_spaced {answer : List Char} (h : isSpaced answer = false) :
    codes (String.ofList answer) = (compactGroups answer).map codeOf := by
  rw [codes, String.toList_ofList]
  simp [h]

/-! ## One frame -/

/-- What a frame tells: an identifier, groups of four digits and less than a group behind them. -/
structure Told where
  /-- The identifier of what was asked for. -/
  identifier : List Char
  /-- The groups, of which codes are made. -/
  groups : List (List Char)
  /-- What is left over at the end. -/
  rest : List Char
  /-- There is nothing but digits. -/
  digits : Digits (identifier ++ groups.flatten ++ rest)
  /-- The identifier has four. -/
  length_identifier : identifier.length = 4
  /-- So has each group. -/
  length_groups : ∀ group ∈ groups, group.length = 4
  /-- Less than a group is left over. -/
  length_rest : rest.length ≤ 3

/-- The digits of a frame behind the echo. -/
def Told.data (t : Told) : List Char := t.identifier ++ t.groups.flatten ++ t.rest

theorem Told.digits_group (t : Told) {group : List Char} (h : group ∈ t.groups) : Digits group := by
  intro c hc
  have hmem : c ∈ t.groups.flatten := List.mem_flatten.mpr ⟨group, h, hc⟩
  exact t.digits c (List.mem_append_left _ (List.mem_append_right _ hmem))

theorem cellDigits?_digits {group : List Char} (h : Digits group) :
    cellDigits? (group.map some) = some group := by
  rw [cellDigits?, mapM_id_map_some, Option.bind_some, if_pos h.all_isHexDigit]

/-- The groups that are read from a frame are those that it tells. -/
theorem Told.frameGroups_data (t : Told) : frameGroups t.data = t.groups := by
  have hidentifier : Digits t.identifier := fun c hc =>
    t.digits c (List.mem_append_left _ (List.mem_append_left _ hc))
  have hcodes : Digits (t.groups.flatten ++ t.rest) := fun c hc =>
    t.digits c (by rw [List.append_assoc]; exact List.mem_append_right _ hc)
  have hdrop : dropOctets? identifierDigits t.data = some (t.groups.flatten ++ t.rest) := by
    have hcount : octetCount t.identifier = identifierDigits := by
      rw [hidentifier.octetCount, t.length_identifier]
      rfl
    rw [Told.data, List.append_assoc, ← hcount, dropOctets?_append]
  have hquads : quads (t.groups.flatten ++ t.rest) = t.groups :=
    quads_flatten_append t.length_groups t.length_rest
  have hcells : t.groups.filterMap (fun group => cellDigits? (group.map some)) = t.groups := by
    have hgroup : ∀ group ∈ t.groups, cellDigits? (group.map some) = some group :=
      fun group h => cellDigits?_digits (t.digits_group h)
    rw [List.filterMap_congr hgroup, List.filterMap_some]
  rw [frameGroups, hdrop]
  show (quads (cells (t.groups.flatten ++ t.rest))).filterMap cellDigits? = t.groups
  rw [hcodes.cells, quads_map, hquads, List.filterMap_map]
  exact hcells

theorem codeOf_digits {group : List Char} (h : Digits group) :
    codeOf group = String.ofList ('P' :: group) := by
  rw [codeOf, h.asciiUpper]

/-! ## The whole answer -/

theorem unmistakable_positiveMarker : Unmistakable positiveMarker := by
  simp [Unmistakable, positiveMarker]

theorem digits_positiveMarker : Digits positiveMarker := by decide

/-- A brand answer is read back from any way to write it without blanks: each frame on a line of any
shape, and between the frames lines of a single word in which the echo does not stand. The codes are
those of the groups of the frames, and no other digits make a code. -/
theorem describe_written (table : CodeTable) (lines : List (Line Told))
    (frames : ∀ before content after, .frame before content after ∈ lines →
      Wraps positiveMarker before after)
    (others : ∀ text, .other text ∈ lines →
      isSpaced text = false ∧ ¬ positiveMarker <:+: compact text) :
    describe table (String.ofList
      (['\r'].intercalate (lines.map (Line.text positiveMarker Told.data)))) =
      ((lines.filterMap Line.content?).flatMap Told.groups).map fun group =>
        table.label "Unknown code" (String.ofList ('P' :: group)) := by
  -- no line holds two words, so the answer is read frame by frame
  have hspaced : isSpaced (['\r'].intercalate (lines.map (Line.text positiveMarker Told.data))) =
      false := by
    refine isSpaced_intercalate rfl fun text htext => ?_
    obtain ⟨line, hline, rfl⟩ := List.mem_map.mp htext
    cases line with
    | frame before content after =>
      have hdigits := (frames before content after hline).digits_line digits_positiveMarker
        content.digits
      exact isSpaced_of_forall_not fun c hc => isBlank_of_mem_upperDigits c (hdigits c hc)
    | other text => exact (others text hline).1
  have hpayloads := payloads_lines (c := '\r') Told.data rfl unmistakable_positiveMarker
    digits_positiveMarker (fun b x a h => ⟨frames b x a h, x.digits⟩)
    (fun text h => (others text h).2)
  have hgroups : compactGroups
      (['\r'].intercalate (lines.map (Line.text positiveMarker Told.data))) =
      (lines.filterMap Line.content?).flatMap Told.groups := by
    rw [compactGroups, hpayloads, List.flatMap_map]
    exact List.flatMap_congr fun t _ => t.frameGroups_data
  rw [describe, codes_of_not_spaced hspaced, hgroups, List.map_map]
  refine List.map_congr_left fun group hgroup => ?_
  obtain ⟨t, -, ht⟩ := List.mem_flatMap.mp hgroup
  rw [Function.comp_apply, codeOf_digits (t.digits_group ht)]
  rfl

/-- Codes in all four shapes, after a line of progress. One frame has nothing but an identifier, in
which the echo stands twice; two have digits left over; the last header ends as the echo begins. -/
theorem describe_written_in_four_shapes :
    let told : List Told :=
      [⟨['F', '1', '9', '0'], [['0', '1', '2', '3'], ['0', '0', '0', '0']], ['4', '5', '6'],
          by decide, rfl, by decide, by decide⟩,
        ⟨['6', '2', '6', '2'], [], [], by decide, rfl, by decide, by decide⟩,
        ⟨['2', '0', '0', '0'], [['1', '2', '9', '6']], [], by decide, rfl, by decide, by decide⟩,
        ⟨['2', '0', '0', '0'], [['A', 'B', 'C', 'D']], ['6', '2'],
          by decide, rfl, by decide, by decide⟩]
    let lines : List (Line Told) :=
      [.other ['S', 'E', 'A', 'R', 'C', 'H', 'I', 'N', 'G', '.', '.', '.'],
        .frame [] told[0] [],
        .frame ['7', 'E', '8', '0', '3'] told[1] [],
        .other [' ', 'O', 'K', ' '],
        .frame (longId ++ ['1', '0', '0', '5']) told[2] [],
        .frame ['7', 'E', '8', 'F', '1', '6'] told[3] ['9', 'A']]
    let table := CodeTable.ofList [("P0123", "Throttle position sensor high input")]
    (∀ before content after, .frame before content after ∈ lines →
      Wraps positiveMarker before after) ∧
    (∀ text, .other text ∈ lines → isSpaced text = false ∧ ¬ positiveMarker <:+: compact text) ∧
    describe table (String.ofList
      (['\r'].intercalate (lines.map (Line.text positiveMarker Told.data)))) =
      [⟨"P0123", "Throttle position sensor high input"⟩, ⟨"P0000", "Unknown code"⟩,
        ⟨"P1296", "Unknown code"⟩, ⟨"PABCD", "Unknown code"⟩] := by
  intro told lines table
  have frames : ∀ before content after, Line.frame before content after ∈ lines →
      Wraps positiveMarker before after := by
    intro before content after h
    simp only [lines, List.mem_cons, List.not_mem_nil, or_false, Line.frame.injEq, reduceCtorEq,
      false_or] at h
    rcases h with ⟨rfl, -, rfl⟩ | ⟨rfl, -, rfl⟩ | ⟨rfl, -, rfl⟩ | ⟨rfl, -, rfl⟩
    · exact .bare
    · exact .short (by decide) (by decide) rfl
    · exact .long (by decide) rfl
    · exact .checked (by decide) rfl (by decide) (by decide) (by decide) rfl
  have others : ∀ text, Line.other text ∈ lines →
      isSpaced text = false ∧ ¬ positiveMarker <:+: compact text := by
    intro text h
    simp only [lines, List.mem_cons, List.not_mem_nil, or_false, reduceCtorEq, false_or,
      Line.other.injEq] at h
    rcases h with rfl | rfl <;> decide
  refine ⟨frames, others, ?_⟩
  rw [describe_written table lines frames others]
  rfl

end ScanTool.Brand
