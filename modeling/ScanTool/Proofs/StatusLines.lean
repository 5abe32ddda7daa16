import ScanTool.Proofs.CompactAnswers

/-!
# Status lines before a brand answer

An adapter may print what it is doing before the answer. Such a line carries no echo, so a reader of
frames passes over it. But how an answer is read is chosen for all its lines at once: one line of two
words is enough for the frames behind it to be taken for words and read in pairs. The main statement
says what becomes of an answer behind a status line, and that exactly the lines of a single word leave
every answer as it is.
-/

namespace ScanTool.Brand

open ScanTool.Text ScanTool.Frame
open Trouble (CodeTable)

variable {table : CodeTable} {status answer : List Char}

theorem isSpaced_behind (oneLine : ∀ c ∈ status, isLineBreak c = false)
    (compacted : isSpaced answer = false) :
    isSpaced (status ++ '\r' :: answer) = decide (2 ≤ (words status).length) := by
  rw [isSpaced_append rfl, isSpaced_line oneLine, compacted, Bool.or_false]

theorem describe_behind_word (oneLine : ∀ c ∈ status, isLineBreak c = false)
    (unmarked : ¬ positiveMarker <:+: compact status) (compacted : isSpaced answer = false)
    (single : (words status).length ≤ 1) :
    describe table (String.ofList (status ++ '\r' :: answer)) =
      describe table (String.ofList answer) := by
  have hspaced : isSpaced (status ++ '\r' :: answer) = false := by
    rw [isSpaced_behind oneLine compacted, decide_eq_false_iff_not]
    omega
  have hgroups : compactGroups (status ++ '\r' :: answer) = compactGroups answer := by
    rw [compactGroups, payloads_append rfl, payloads_eq_nil unmarked, List.nil_append]
    rfl
  rw [describe, codes_of_not_spaced hspaced, hgroups, ← codes_of_not_spaced compacted]
  rfl

/-- Behind a line of more words an answer is read in pairs of words, with what is left of the line
after its first two. -/
theorem describe_behind_words (oneLine : ∀ c ∈ status, isLineBreak c = false)
    (compacted : isSpaced answer = false) (several : 2 ≤ (words status).length) :
    describe table (String.ofList (status ++ '\r' :: answer)) =
      ((pairs ((words status).drop 2 ++ words answer)).filterMap pairDigits?).map fun digits =>
        table.label unknownCode (codeOf digits) := by
  have hspaced : isSpaced (status ++ '\r' :: answer) = true := by
    rw [isSpaced_behind oneLine compacted, decide_eq_true several]
  have hwords : (words (status ++ '\r' :: answer)).drop headerWords =
      (words status).drop 2 ++ words answer := by
    rw [words_append rfl, headerWords, List.drop_append_of_le_length several]
  rw [describe, codes, String.toList_ofList, if_pos hspaced, spacedGroups, hwords, List.map_map]
  rfl

/-- A frame of two groups. -/
def twoGroups : List Char :=
  ['6', '2', 'F', '1', '9', '0', '0', '1', '2', '3', '4', '5', '6', '7']

/-- Behind a line of more words some answer is misread: an empty one if the line itself gives codes,
and otherwise a frame of two groups, of which no more than one pair of words is made. -/
theorem exists_misread (table : CodeTable) (oneLine : ∀ c ∈ status, isLineBreak c = false)
    (several : 2 ≤ (words status).length) :
    ∃ answer, isSpaced answer = false ∧
      describe table (String.ofList (status ++ '\r' :: answer)) ≠
        describe table (String.ofList answer) := by
  by_cases hnoise : (pairs ((words status).drop 2)).filterMap pairDigits? = []
  · have compacted : isSpaced twoGroups = false := by decide
    refine ⟨twoGroups, compacted, fun hsame => ?_⟩
    have hwords : words twoGroups = [twoGroups] := by decide
    have hframe : (describe table (String.ofList twoGroups)).length = 2 := by
      rw [describe, codes_of_not_spaced compacted, List.length_map, List.length_map]
      decide
    have hpairs : ((pairs ((words status).drop 2 ++ [twoGroups])).filterMap pairDigits?).length ≤
        1 := by
      rcases pairs_concat ((words status).drop 2) twoGroups with h | ⟨pair, h⟩
      · rw [h, hnoise]
        exact Nat.zero_le 1
      · rw [h, List.filterMap_append, hnoise, List.nil_append]
        exact List.length_filterMap_le _ _
    rw [describe_behind_words oneLine compacted several, hwords] at hsame
    rw [← hsame, List.length_map] at hframe
    omega
  · refine ⟨[], rfl, fun hsame => hnoise ?_⟩
    have hnil : describe table (String.ofList []) = [] := rfl
    have hwords : words [] = [] := rfl
    rw [describe_behind_words oneLine rfl several, hnil, List.map_eq_nil_iff, hwords,
      List.append_nil] at hsame
    exact hsame

/-- What a status line does to the answer without blanks behind it. A line of at most one word leaves
it as it is; behind a line of more words its frames are read as words, in pairs with what is left of
the line. So exactly the lines of at most one word leave every answer as it is. -/
theorem describe_behind_status_line (table : CodeTable) {status : List Char}
    (oneLine : ∀ c ∈ status, isLineBreak c = false)
    (unmarked : ¬ positiveMarker <:+: compact status) :
    (∀ answer, isSpaced answer = false →
      describe table (String.ofList (status ++ '\r' :: answer)) =
        if (words status).length ≤ 1 then describe table (String.ofList answer)
        else ((pairs ((words status).drop 2 ++ words answer)).filterMap pairDigits?).map fun digits =>
          table.label unknownCode (codeOf digits)) ∧
    ((∀ answer, isSpaced answer = false →
      describe table (String.ofList (status ++ '\r' :: answer)) =
        describe table (String.ofList answer)) ↔ (words status).length ≤ 1) := by
  refine ⟨fun answer compacted => ?_, fun hsame => ?_, fun single answer compacted => ?_⟩
  · by_cases single : (words status).length ≤ 1
    · rw [if_pos single, describe_behind_word oneLine unmarked compacted single]
    · rw [if_neg single, describe_behind_words oneLine compacted (by omega)]
  · by_contra several
    obtain ⟨answer, compacted, hother⟩ := exists_misread table oneLine (by omega)
    exact hother (hsame answer compacted)
  · exact describe_behind_word oneLine unmarked compacted single

/-- Two frames of which two codes are made. Behind `SEARCHING...` they are made still. Behind
`BUS INIT: OK` there is none, since the first frame is paired with `OK` and the second is odd. Behind
`CAN ERROR` the frames are one pair, with a code that neither of them holds. -/
theorem describe_behind_three_status_lines :
    let searching := ['S', 'E', 'A', 'R', 'C', 'H', 'I', 'N', 'G', '.', '.', '.']
    let busInit := ['B', 'U', 'S', ' ', 'I', 'N', 'I', 'T', ':', ' ', 'O', 'K']
    let canError := ['C', 'A', 'N', ' ', 'E', 'R', 'R', 'O', 'R']
    let answer := ['6', '2', 'F', '1', '9', '0', '0', '1', '2', '3', '4', '\r',
      '6', '2', 'F', '1', '9', '0', '4', '5', '6', '7', '8']
    (∀ status ∈ [searching, busInit, canError],
      (∀ c ∈ status, isLineBreak c = false) ∧ ¬ positiveMarker <:+: compact status) ∧
    isSpaced answer = false ∧
    (describe .empty (String.ofList answer)).map (·.code) = ["P0123", "P4567"] ∧
    (describe .empty (String.ofList (searching ++ '\r' :: answer))).map (·.code) =
      ["P0123", "P4567"] ∧
    describe .empty (String.ofList (busInit ++ '\r' :: answer)) = [] ∧
    (describe .empty (String.ofList (canError ++ '\r' :: answer))).map (·.code) = ["P5678"] := by
  intro searching busInit canError answer
  have hlines : ∀ status ∈ [searching, busInit, canError],
      (∀ c ∈ status, isLineBreak c = false) ∧ ¬ positiveMarker <:+: compact status := by
    simp only [List.forall_mem_cons]
    exact ⟨⟨forall_mem_of_all (by decide), by decide⟩, ⟨forall_mem_of_all (by decide), by decide⟩,
      ⟨forall_mem_of_all (by decide), by decide⟩, by simp⟩
  have compacted : isSpaced answer = false := by decide
  have behind := fun status (h : status ∈ [searching, busInit, canError]) =>
    (describe_behind_status_line .empty (hlines status h).1 (hlines status h).2).1 answer compacted
  have hcodes : (describe .empty (String.ofList answer)).map (·.code) = ["P0123", "P4567"] := by
    rw [describe, codes_of_not_spaced compacted]
    rfl
  refine ⟨hlines, compacted, hcodes, ?_, ?_, ?_⟩
  · rw [behind searching (by simp), if_pos (by decide)]
    exact hcodes
  · rw [behind busInit (by simp), if_neg (by decide)]
    rfl
  · rw [behind canError (by simp), if_neg (by decide)]
    rfl

end ScanTool.Brand
