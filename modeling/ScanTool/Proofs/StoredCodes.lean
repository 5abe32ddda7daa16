import Mathlib.Data.List.Basic
import ScanTool.Proofs.FrameLayout
import ScanTool.Trouble.Stored

/-!
# Stored codes read back

A code is written as a group of four digits by `encode`, groups are glued together and cut into
frames, frames are written as lines of any shape with other lines between them, and what is read
from the answer is the codes again. Each stage has its lemma: a group decodes to its code, digits
are cut into the groups they were made of, and `payloads_lines` takes the frames apart.
-/

namespace ScanTool.Trouble

open ScanTool.Text ScanTool.Frame

/-- The place of the letter of a system in the two high bits of a group. -/
def systemIndex : Char → Nat
  | 'P' => 0
  | 'C' => 1
  | 'B' => 2
  | _ => 3

/-- The four digits of a code. -/
def encode (code : String) : List Char :=
  match code.toList with
  | letter :: digit :: rest =>
    hexDigit (4 * systemIndex letter + (hexValue? digit).getD 0) :: rest
  | _ => []

/-- The group that is no code. -/
def padding : List Char := ['0', '0', '0', '0']

/-- A code that a group can stand for: a letter of a system, a digit below four and three digits,
and not `P0000`. -/
def IsCode (code : String) : Prop :=
  ∃ letter digit rest, code = String.ofList (letter :: digit :: rest) ∧
    letter ∈ ['P', 'C', 'B', 'U'] ∧ digit ∈ ['0', '1', '2', '3'] ∧ Digits rest ∧
    rest.length = 3 ∧ code ≠ "P0000"

/-! ## One group -/

/-- The first digit of a group holds the letter and the first digit of the code. -/
theorem hexDigit_systemIndex {letter digit : Char} (hletter : letter ∈ ['P', 'C', 'B', 'U'])
    (hdigit : digit ∈ ['0', '1', '2', '3']) :
    let value := 4 * systemIndex letter + (hexValue? digit).getD 0
    hexDigit value ∈ upperDigits ∧ hexValue? (hexDigit value) = some value ∧
      systemLetter value = letter ∧ hexDigit (value % 4) = digit ∧
      (hexDigit value = '0' → letter = 'P' ∧ digit = '0') := by
  simp only [List.mem_cons, List.not_mem_nil, or_false] at hletter hdigit
  rcases hletter with rfl | rfl | rfl | rfl <;> rcases hdigit with rfl | rfl | rfl | rfl <;> decide

/-- What `encode` does to the characters of a code. -/
theorem encode_ofList (letter digit : Char) (rest : List Char) :
    encode (String.ofList (letter :: digit :: rest)) =
      hexDigit (4 * systemIndex letter + (hexValue? digit).getD 0) :: rest := by
  rw [encode, String.toList_ofList]

/-- A code is written as four digits that are not padding. -/
theorem IsCode.digits_encode {code : String} (h : IsCode code) :
    (encode code).length = 4 ∧ Digits (encode code) ∧ encode code ≠ padding := by
  obtain ⟨letter, digit, rest, rfl, hletter, hdigit, hrest, hlen, hcode⟩ := h
  obtain ⟨hmem, -, -, -, hzero⟩ := hexDigit_systemIndex hletter hdigit
  rw [encode_ofList]
  refine ⟨by simp [hlen], List.forall_mem_cons.mpr ⟨hmem, hrest⟩, fun hpadding => hcode ?_⟩
  obtain ⟨hfirst, rfl⟩ := List.cons.inj hpadding
  obtain ⟨rfl, rfl⟩ := hzero hfirst
  rfl

/-- Four digits that are not padding, in either case, stand for a code. -/
theorem decodeGroup?_hex {a b c d : Char} (h : ∀ x ∈ [a, b, c, d], isHexDigit x = true)
    (hp : [a, b, c, d] ≠ padding) :
    decodeGroup? [a, b, c, d] = (hexValue? a).map fun first =>
      systemLetter first :: hexDigit (first % 4) :: asciiUpper [b, c, d] := by
  have hgroup : ([a, b, c, d].all isHexDigit && [a, b, c, d] != ['0', '0', '0', '0']) = true := by
    rw [Bool.and_eq_true, List.all_eq_true, bne_iff_ne]
    exact ⟨h, hp⟩
  exact if_pos hgroup

theorem decodeGroup?_digits {a b c d : Char} (h : Digits [a, b, c, d])
    (hp : [a, b, c, d] ≠ padding) :
    decodeGroup? [a, b, c, d] =
      (hexValue? a).map fun first => systemLetter first :: hexDigit (first % 4) :: [b, c, d] := by
  have hrest : asciiUpper [b, c, d] = [b, c, d] :=
    Digits.asciiUpper fun x hx => h x (List.mem_cons_of_mem _ hx)
  rw [decodeGroup?_hex (fun x hx => isHexDigit_of_mem_upperDigits x (h x hx)) hp, hrest]

theorem IsCode.decodeGroup? {code : String} (h : IsCode code) :
    decodeGroup? (encode code) = some code.toList := by
  obtain ⟨-, hdigits, hpadding⟩ := h.digits_encode
  obtain ⟨letter, digit, rest, rfl, hletter, hdigit, -, hlen, -⟩ := h
  obtain ⟨-, hvalue, hsystem, hlow, -⟩ := hexDigit_systemIndex hletter hdigit
  rw [encode_ofList] at hdigits hpadding ⊢
  match rest, hlen with
  | [a, b, c], _ =>
    rw [decodeGroup?_digits hdigits hpadding, hvalue, Option.map_some, hsystem, hlow,
      String.toList_ofList]

theorem decodeGroup?_padding : decodeGroup? padding = none := rfl

/-- Of all groups of four digits, padding alone stands for no code. -/
theorem decodeGroup?_eq_none_iff {group : List Char} (h : Digits group) (hlen : group.length = 4) :
    decodeGroup? group = none ↔ group = padding := by
  refine ⟨fun hnone => ?_, fun hp => hp ▸ decodeGroup?_padding⟩
  match group, hlen with
  | [a, b, c, d], _ =>
    by_contra hp
    have hfirst : (hexValue? a).isSome = true := isHexDigit_of_mem_upperDigits a (h a (by simp))
    rw [decodeGroup?_digits h hp, Option.map_eq_none_iff] at hnone
    rw [hnone] at hfirst
    cases hfirst

/-! ## Groups in a row -/

theorem decodeCells?_some (group : List Char) :
    decodeCells? (group.map some) = decodeGroup? group := by
  rw [decodeCells?, mapM_id_map_some, Option.bind_some]

/-- The codes in a text of digits are those of its groups of four. -/
theorem decodeGroups_digits {payload : List Char} (h : Digits payload) :
    decodeGroups payload = (quads payload).filterMap decodeGroup? := by
  rw [decodeGroups, h.cells, quads_map, List.filterMap_map]
  exact List.filterMap_congr fun group _ => decodeCells?_some group

/-- The groups of codes, with padding between them. -/
def Padded (codes : List String) (groups : List (List Char)) : Prop :=
  groups.filter (fun g => g ≠ padding) = codes.map encode

section padded

variable {codes : List String} {groups : List (List Char)}

theorem Padded.digits (h : Padded codes groups) (hcodes : ∀ code ∈ codes, IsCode code)
    {group : List Char} (hg : group ∈ groups) : group.length = 4 ∧ Digits group := by
  by_cases hp : group = padding
  · subst hp
    decide
  · have hmem : group ∈ codes.map encode := h ▸ List.mem_filter.mpr ⟨hg, by simpa using hp⟩
    obtain ⟨code, hcode, rfl⟩ := List.mem_map.mp hmem
    obtain ⟨hlen, hdigits, -⟩ := (hcodes code hcode).digits_encode
    exact ⟨hlen, hdigits⟩

/-- Padding between groups is skipped. -/
theorem Padded.filterMap_decodeGroup? (h : Padded codes groups)
    (hcodes : ∀ code ∈ codes, IsCode code) :
    groups.filterMap decodeGroup? = codes.map String.toList := by
  have hskip : groups.filterMap decodeGroup? =
      (groups.filter fun g => g ≠ padding).filterMap decodeGroup? := by
    rw [List.filterMap_filter]
    refine List.filterMap_congr fun g _ => ?_
    by_cases hg : g = padding
    · simp [hg, decodeGroup?_padding]
    · simp [hg]
  rw [hskip, h, List.filterMap_map, List.filterMap_eq_map_iff_forall_eq_some]
  exact fun code hcode => (hcodes code hcode).decodeGroup?

/-- The codes are read from their groups in a row. -/
theorem Padded.decodeGroups_flatten (h : Padded codes groups)
    (hcodes : ∀ code ∈ codes, IsCode code) :
    (decodeGroups groups.flatten).map String.ofList = codes := by
  have hdigits : Digits groups.flatten := Digits.flatten fun g hg => (h.digits hcodes hg).2
  rw [decodeGroups_digits hdigits, quads_flatten fun g hg => (h.digits hcodes hg).1,
    h.filterMap_decodeGroup? hcodes, List.map_map]
  simp [Function.comp_def]

end padded

/-! ## The whole answer -/

theorem unmistakable_storedMarker : Unmistakable storedMarker := by
  simp [Unmistakable, storedMarker]

theorem digits_storedMarker : Digits storedMarker := by decide

/-- The marker has no letters, so it can be looked for before a text is in upper case. -/
theorem storedMarker_infix_of_compact {text : List Char} (h : storedMarker <:+: compact text) :
    storedMarker <:+: text.filter fun c => !isBlank c :=
  infix_of_infix_asciiUpper h (forall_mem_of_all (by decide))

/-- Codes are read back from any way to write them: each as its group of digits, with padding
anywhere between the groups, the groups cut into frames of any shape, and the frames on lines
between lines on which the marker does not stand. -/
theorem storedCodes_written (codes : List String) (hcodes : ∀ code ∈ codes, IsCode code)
    (lines : List (Line (List (List Char))))
    (groups : Padded codes (lines.filterMap Line.content?).flatten)
    (frames : ∀ before content after, .frame before content after ∈ lines →
      Wraps storedMarker before after)
    (others : ∀ text, .other text ∈ lines →
      ¬ storedMarker <:+: text.filter fun c => !isBlank c) :
    storedCodes (String.ofList
      (['\r'].intercalate (lines.map (Line.text storedMarker List.flatten)))) = codes := by
  have hcontent : ∀ before content after, .frame before content after ∈ lines →
      Digits content.flatten := by
    intro before content after hline
    have hmem : content ∈ lines.filterMap Line.content? := List.mem_filterMap.mpr ⟨_, hline, rfl⟩
    exact Digits.flatten fun g hg =>
      (groups.digits hcodes (List.mem_flatten.mpr ⟨content, hmem, hg⟩)).2
  have hpayloads := payloads_lines (c := '\r') List.flatten rfl
    unmistakable_storedMarker digits_storedMarker
    (fun b x a h => ⟨frames b x a h, hcontent b x a h⟩)
    (fun text h hpart => others text h (storedMarker_infix_of_compact hpart))
  rw [storedCodes, storedPayload, String.toList_ofList, hpayloads, ← List.flatten_flatten]
  exact groups.decodeGroups_flatten hcodes

/-- Codes written in all four shapes, with padding, over several frames and after a line of
progress. The last header opens like an identifier of eleven bits. -/
theorem storedCodes_written_in_four_shapes :
    let codes := ["P0301", "C0123", "B1A2F", "U3FFF"]
    let lines : List (Line (List (List Char))) :=
      [.other ['S', 'E', 'A', 'R', 'C', 'H', 'I', 'N', 'G', '.', '.', '.'],
        .frame [] [encode "P0301", padding] [],
        .frame ['7', 'E', '8', '0', '4'] [encode "C0123"] [],
        .frame (longId ++ ['1', '0', '0', '4']) [encode "B1A2F"] [],
        .frame ['7', 'E', '8', 'F', '1', '0'] [padding, encode "U3FFF"] ['9', 'A']]
    (∀ code ∈ codes, IsCode code) ∧ Padded codes (lines.filterMap Line.content?).flatten ∧
      storedCodes (String.ofList
        (['\r'].intercalate (lines.map (Line.text storedMarker List.flatten)))) = codes := by
  intro codes lines
  have hcodes : ∀ code ∈ codes, IsCode code := by
    simp only [codes, List.forall_mem_cons]
    exact ⟨⟨'P', '0', ['3', '0', '1'], rfl, by decide, by decide, by decide, rfl, by simp⟩,
      ⟨'C', '0', ['1', '2', '3'], rfl, by decide, by decide, by decide, rfl, by simp⟩,
      ⟨'B', '1', ['A', '2', 'F'], rfl, by decide, by decide, by decide, rfl, by simp⟩,
      ⟨'U', '3', ['F', 'F', 'F'], rfl, by decide, by decide, by decide, rfl, by simp⟩, by simp⟩
  have hgroups : Padded codes (lines.filterMap Line.content?).flatten := rfl
  have hframes : ∀ before content after, Line.frame before content after ∈ lines →
      Wraps storedMarker before after := by
    intro before content after h
    simp only [lines, List.mem_cons, List.not_mem_nil, or_false, Line.frame.injEq, reduceCtorEq,
      false_or] at h
    rcases h with ⟨rfl, -, rfl⟩ | ⟨rfl, -, rfl⟩ | ⟨rfl, -, rfl⟩ | ⟨rfl, -, rfl⟩
    · exact .bare
    · exact .short (by decide) (by decide) rfl
    · exact .long (by decide) rfl
    · exact .checked (by decide) rfl (by decide) (by decide) (by decide) rfl
  have hothers : ∀ text, Line.other text ∈ lines →
      ¬ storedMarker <:+: text.filter fun c => !isBlank c := by
    intro text h
    simp only [lines, List.mem_cons, List.not_mem_nil, or_false, reduceCtorEq,
      Line.other.injEq] at h
    subst h
    decide
  exact ⟨hcodes, hgroups, storedCodes_written codes hcodes lines hgroups hframes hothers⟩

end ScanTool.Trouble
