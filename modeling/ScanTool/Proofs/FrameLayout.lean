import ScanTool.Adapter.Frame
import ScanTool.Proofs.TextCutting

/-!
# The layout of frames

`Wraps` lists what may stand before and behind a marker and its data on one line: nothing, a header
with an identifier of eleven or of twenty-nine bits, or a header of three bytes and a checksum. The
shapes are tried one after the other on a line, so a line of one shape could be taken for another.
For a marker that is `Unmistakable` this does not happen, and what is found on an answer written
line by line is what was written.
-/

namespace ScanTool.Frame

open ScanTool.Text

/-- The digits with which an identifier of eleven bits may end its third place, `7E8` to `7EF`. -/
def unitDigits : List Char := ['8', '9', 'A', 'B', 'C', 'D', 'E', 'F']

/-- What stands before and behind the marker and its data in the shapes of a frame. -/
inductive Wraps (marker : List Char) : List Char → List Char → Prop where
  /-- Nothing. -/
  | bare : Wraps marker [] []
  /-- An identifier of eleven bits and a length. -/
  | short {unit : Char} {size : List Char} (hunit : unit ∈ unitDigits) (hsize : Digits size)
    (length_size : size.length = 2) : Wraps marker ('7' :: 'E' :: unit :: size) []
  /-- An identifier of twenty-nine bits and a length. -/
  | long {rest : List Char} (hrest : Digits rest) (length_rest : rest.length = 4) :
    Wraps marker (longId ++ rest) []
  /-- A header of three bytes, and a checksum at the end. -/
  | checked {header check : List Char} (hheader : Digits header)
    (length_header : header.length = 6) (not_marker : ¬ marker <+: header)
    (ne_longId : header ≠ longId) (hcheck : Digits check) (length_check : check.length = 2) :
    Wraps marker header check

/-- A marker that no header is mistaken for: it begins like no identifier, its second character is
not its first, and it is not longer than a header. -/
def Unmistakable : List Char → Prop
  | m :: n :: rest => m ≠ '7' ∧ m ≠ '1' ∧ n ≠ m ∧ rest.length ≤ 4
  | _ => False

variable {marker before after : List Char}

theorem Unmistakable.length_le (h : Unmistakable marker) : marker.length ≤ 6 := by
  match marker, h with
  | m :: n :: rest, h =>
    simp only [List.length_cons]
    exact Nat.succ_le_succ (Nat.succ_le_succ h.2.2.2)

theorem Unmistakable.ne_nil (h : Unmistakable marker) : marker ≠ [] := by
  rintro rfl
  exact h

theorem Unmistakable.after?_cons (h : Unmistakable marker) {c : Char} {cs : List Char}
    (hc : c = '7' ∨ c = '1') : after? marker (c :: cs) = none := by
  match marker, h with
  | m :: n :: rest, h =>
    have hmc : m ≠ c := by
      rcases hc with rfl | rfl
      · exact h.1
      · exact h.2.1
    simp [after?, hmc]

/-- The marker is not read one character early. -/
theorem Unmistakable.after?_shifted (h : Unmistakable marker) (c : Char) (cs : List Char) :
    after? marker (c :: (marker ++ cs)) = none := by
  match marker, h with
  | m :: n :: rest, h => simp [after?, h.2.2.1]

/-! ## One line -/

theorem payload?_eq_or (marker line : List Char) :
    payload? marker line = (after? marker line).or
      ((if hasShortId line then afterHeader? 5 marker line else none).or
        ((if hasLongId line then afterHeader? 10 marker line else none).or
          (afterCheckedHeader? marker line))) := by
  unfold payload?
  cases after? marker line with
  | some data => rfl
  | none =>
    cases if hasShortId line then afterHeader? 5 marker line else none with
    | some data => rfl
    | none =>
      cases if hasLongId line then afterHeader? 10 marker line else none with
      | some data => rfl
      | none => rfl

theorem afterHeader?_eq_some_iff {octets : Nat} {line data : List Char} :
    afterHeader? octets marker line = some data ↔
      ∃ header, octetCount header = octets ∧ line = header ++ marker ++ data := by
  unfold afterHeader?
  rw [Option.bind_eq_some_iff]
  constructor
  · rintro ⟨rest, hrest, hdata⟩
    obtain ⟨header, rfl, hcount⟩ := dropOctets?_eq_some_iff.mp hrest
    rw [after?_eq_some_iff.mp hdata]
    exact ⟨header, hcount, (List.append_assoc header marker data).symm⟩
  · rintro ⟨header, hcount, rfl⟩
    rw [List.append_assoc]
    exact ⟨marker ++ data, dropOctets?_eq_some_iff.mpr ⟨header, rfl, hcount⟩,
      after?_append marker data⟩

theorem afterCheckedHeader?_eq_some_iff {line data : List Char} :
    afterCheckedHeader? marker line = some data ↔
      ∃ header check, (∀ c ∈ header, isHexDigit c = true) ∧ header.length = 6 ∧
        octetCount check = 2 ∧ line = header ++ marker ++ data ++ check := by
  unfold afterCheckedHeader?
  constructor
  · intro h
    split at h
    · rename_i hheader
      obtain ⟨hlen, hhex⟩ := hheader
      obtain ⟨rest, hrest, hdata⟩ := Option.bind_eq_some_iff.mp h
      obtain ⟨check, hcut, hcount⟩ := dropLastOctets?_eq_some_iff.mp hdata
      refine ⟨line.take 6, check, List.all_eq_true.mp hhex, hlen, hcount, ?_⟩
      calc line = line.take 6 ++ line.drop 6 := (List.take_append_drop 6 line).symm
        _ = line.take 6 ++ (marker ++ (data ++ check)) := by
          rw [after?_eq_some_iff.mp hrest, hcut]
        _ = line.take 6 ++ marker ++ data ++ check := by simp only [List.append_assoc]
    · cases h
  · rintro ⟨header, check, hhex, hlen, hcount, rfl⟩
    have hline : header ++ marker ++ data ++ check = header ++ (marker ++ (data ++ check)) := by
      simp only [List.append_assoc]
    have htake : (header ++ (marker ++ (data ++ check))).take 6 = header := by
      rw [← hlen]
      exact List.take_left
    have hdrop : (header ++ (marker ++ (data ++ check))).drop 6 = marker ++ (data ++ check) := by
      rw [← hlen]
      exact List.drop_left
    rw [hline, htake, hdrop, if_pos ⟨hlen, List.all_eq_true.mpr hhex⟩, after?_append,
      Option.bind_some]
    exact dropLastOctets?_eq_some_iff.mpr ⟨check, rfl, hcount⟩

theorem afterHeader?_append {header : List Char} (h : Digits header) (octets : Nat)
    (hlen : header.length = octets) (marker rest : List Char) :
    afterHeader? octets marker (header ++ rest) = after? marker rest := by
  rw [afterHeader?, ← hlen, ← h.octetCount, dropOctets?_append]
  rfl

theorem afterCheckedHeader?_append {header : List Char} (h : Digits header)
    (hlen : header.length = 6) (marker rest : List Char) :
    afterCheckedHeader? marker (header ++ rest) =
      (after? marker rest).bind (dropLastOctets? 2) := by
  have htake : (header ++ rest).take 6 = header := by
    rw [← hlen]
    exact List.take_left
  have hdrop : (header ++ rest).drop 6 = rest := by
    rw [← hlen]
    exact List.drop_left
  unfold afterCheckedHeader?
  rw [htake, hdrop, if_pos ⟨hlen, h.all_isHexDigit⟩]

theorem mem_unitDigits_iff {c : Char} :
    c ∈ unitDigits ↔ ('8' ≤ c && c ≤ '9' || 'A' ≤ c && c ≤ 'F') = true := by
  constructor
  · intro h
    have hunits : ∀ u ∈ unitDigits, ('8' ≤ u && u ≤ '9' || 'A' ≤ u && u ≤ 'F') = true :=
      forall_mem_of_all (by decide)
    exact hunits c h
  · intro h
    -- no such digit comes after `F`, so there are few characters to look at
    have hall : ∀ n < 71, ('8' ≤ Char.ofNat n && Char.ofNat n ≤ '9' ||
        'A' ≤ Char.ofNat n && Char.ofNat n ≤ 'F') = true → Char.ofNat n ∈ unitDigits := by
      decide +kernel
    have hsmall : c.toNat < 71 := by
      simp only [Bool.or_eq_true, Bool.and_eq_true, decide_eq_true_eq] at h
      rcases h with ⟨-, high⟩ | ⟨-, high⟩
      · have hnine : c.toNat ≤ 57 := high
        omega
      · have hlast : c.toNat ≤ 70 := high
        omega
    have hc := hall c.toNat hsmall
    rw [Char.ofNat_toNat] at hc
    exact hc h

theorem hasShortId_iff {line : List Char} :
    hasShortId line = true ↔ ∃ unit ∈ unitDigits, ∃ rest, line = '7' :: 'E' :: unit :: rest := by
  constructor
  · intro h
    unfold hasShortId at h
    split at h
    · rename_i unit rest
      exact ⟨unit, mem_unitDigits_iff.mpr h, rest, rfl⟩
    · cases h
  · rintro ⟨unit, hunit, rest, rfl⟩
    exact mem_unitDigits_iff.mp hunit

theorem digits_shortId {unit : Char} (hunit : unit ∈ unitDigits) : Digits ['7', 'E', unit] := by
  have hunits : Digits unitDigits := by decide
  intro c hc
  simp only [List.mem_cons, List.not_mem_nil, or_false] at hc
  rcases hc with rfl | rfl | rfl
  · decide
  · decide
  · exact hunits c hunit

theorem digits_short {unit : Char} {size : List Char} (hunit : unit ∈ unitDigits)
    (hsize : Digits size) : Digits ('7' :: 'E' :: unit :: size) :=
  (digits_shortId hunit).append hsize

theorem digits_longId : Digits longId := by decide

/-- What stands around a marker and its data is digits. -/
theorem Wraps.digits (h : Wraps marker before after) : Digits before ∧ Digits after := by
  have hnil : Digits [] := by simp [Digits]
  cases h with
  | bare => exact ⟨hnil, hnil⟩
  | short hunit hsize _ => exact ⟨digits_short hunit hsize, hnil⟩
  | long hrest _ => exact ⟨digits_longId.append hrest, hnil⟩
  | checked hheader _ _ _ hcheck _ => exact ⟨hheader, hcheck⟩

theorem Wraps.digits_line (h : Wraps marker before after) (hmarker : Digits marker)
    {data : List Char} (hdata : Digits data) : Digits (before ++ marker ++ data ++ after) :=
  ((h.digits.1.append hmarker).append hdata).append h.digits.2

theorem payload?_bare (marker data : List Char) : payload? marker (marker ++ data) = some data := by
  rw [payload?_eq_or, after?_append]
  rfl

theorem payload?_short (hm : Unmistakable marker) {unit : Char} {size : List Char}
    (hunit : unit ∈ unitDigits) (hsize : Digits size) (hlen : size.length = 2) (data : List Char) :
    payload? marker ('7' :: 'E' :: unit :: size ++ (marker ++ data)) = some data := by
  have hdata := afterHeader?_append (digits_short hunit hsize) 5 (by simp [hlen]) marker
    (marker ++ data)
  rw [after?_append] at hdata
  have hid : hasShortId ('7' :: 'E' :: unit :: size ++ (marker ++ data)) = true :=
    hasShortId_iff.mpr ⟨unit, hunit, size ++ (marker ++ data), rfl⟩
  have hbare : after? marker ('7' :: 'E' :: unit :: size ++ (marker ++ data)) = none :=
    hm.after?_cons (Or.inl rfl)
  rw [payload?_eq_or, hbare, hid, hdata]
  rfl

theorem payload?_long (hm : Unmistakable marker) {rest : List Char} (hrest : Digits rest)
    (hlen : rest.length = 4) (data : List Char) :
    payload? marker (longId ++ rest ++ (marker ++ data)) = some data := by
  have hdata := afterHeader?_append (digits_longId.append hrest) 10
    (by simp [hlen, longId]) marker (marker ++ data)
  rw [after?_append] at hdata
  have hid : hasLongId (longId ++ rest ++ (marker ++ data)) = true := by
    rw [hasLongId, List.isPrefixOf_iff_prefix, List.append_assoc]
    exact List.prefix_append _ _
  have hshort : hasShortId (longId ++ rest ++ (marker ++ data)) = false := rfl
  have hbare : after? marker (longId ++ rest ++ (marker ++ data)) = none :=
    hm.after?_cons (Or.inr rfl)
  rw [payload?_eq_or, hbare, hdata, hid, hshort]
  rfl

theorem payload?_checked (hm : Unmistakable marker) {header check : List Char}
    (hheader : Digits header) (hlen : header.length = 6) (hmarker : ¬ marker <+: header)
    (hlong : header ≠ longId) (hcheck : Digits check) (hcheckLen : check.length = 2)
    (data : List Char) :
    payload? marker (header ++ (marker ++ data ++ check)) = some data := by
  have hbare : after? marker (header ++ (marker ++ data ++ check)) = none := by
    refine after?_eq_none_iff.mpr fun h => hmarker ?_
    exact List.prefix_of_prefix_length_le h (List.prefix_append _ _) (hlen ▸ hm.length_le)
  -- the identifier of eleven bits may be there, but the marker would be one character too early
  have hshort : afterHeader? 5 marker (header ++ (marker ++ data ++ check)) = none := by
    obtain ⟨front, last, rfl⟩ : ∃ front last, header = front ++ [last] :=
      ⟨header.dropLast, header.getLast (List.ne_nil_of_length_pos (by omega)),
        (List.dropLast_concat_getLast _).symm⟩
    have hfront : Digits front := fun c hc => hheader c (List.mem_append_left _ hc)
    have hfrontLen : front.length = 5 := by simpa using hlen
    rw [List.append_assoc, afterHeader?_append hfront 5 hfrontLen, List.append_assoc,
      List.singleton_append]
    exact hm.after?_shifted last (data ++ check)
  have hid : hasLongId (header ++ (marker ++ data ++ check)) = false := by
    rw [hasLongId, ← Bool.not_eq_true, List.isPrefixOf_iff_prefix]
    intro h
    have hlead := List.prefix_of_prefix_length_le h (List.prefix_append header _)
      (by simp [hlen, longId])
    exact hlong (hlead.eq_of_length (by simp [hlen, longId])).symm
  have hdata : afterCheckedHeader? marker (header ++ (marker ++ data ++ check)) = some data := by
    rw [afterCheckedHeader?_append hheader hlen, List.append_assoc, after?_append, Option.bind_some,
      ← hcheckLen, ← hcheck.octetCount, dropLastOctets?_append]
  rw [payload?_eq_or, hbare, hshort, hid, hdata]
  simp

/-- What is found on a line of one of the shapes is the data. -/
theorem payload?_of_wraps (hm : Unmistakable marker) (h : Wraps marker before after)
    (data : List Char) : payload? marker (before ++ marker ++ data ++ after) = some data := by
  cases h with
  | bare => simpa using payload?_bare marker data
  | short hunit hsize hlen => simpa using payload?_short hm hunit hsize hlen data
  | long hrest hlen => simpa using payload?_long hm hrest hlen data
  | checked hheader hlen hmarker hlong hcheck hcheckLen =>
    simpa using payload?_checked hm hheader hlen hmarker hlong hcheck hcheckLen data

/-- Data is only found on a line that holds the marker and the data behind it. -/
theorem infix_of_payload? {line data : List Char} (h : payload? marker line = some data) :
    marker ++ data <:+: line := by
  have behind {octets : Nat} {opens : Bool}
      (h : (if opens then afterHeader? octets marker line else none) = some data) :
      marker ++ data <:+: line := by
    split at h
    · obtain ⟨header, -, rfl⟩ := afterHeader?_eq_some_iff.mp h
      exact ⟨header, [], by simp⟩
    · cases h
  simp only [payload?_eq_or, Option.or_eq_some_iff] at h
  rcases h with h | ⟨-, h | ⟨-, h | ⟨-, h⟩⟩⟩
  · obtain rfl := after?_eq_some_iff.mp h
    exact List.infix_rfl
  · exact behind h
  · exact behind h
  · obtain ⟨header, check, -, -, -, rfl⟩ := afterCheckedHeader?_eq_some_iff.mp h
    exact ⟨header, check, by simp⟩

/-! ## Answers of several lines -/

/-- A line break ends a line and begins another one. -/
theorem compactLines_append {c : Char} (hc : isLineBreak c = true) (a b : List Char) :
    compactLines (a ++ c :: b) = compactLines a ++ compactLines b := by
  simp [compactLines, lines, splitWhen_append hc]

theorem compact_digits {line : List Char} (h : Digits line) : compact line = line := by
  rw [compact, h.filter_isBlank, h.asciiUpper]

theorem compactLines_of_line {line : List Char} (h : ∀ c ∈ line, isLineBreak c = false)
    (hne : compact line ≠ []) : compactLines line = [compact line] := by
  have hlines : lines line = [line] := splitWhen_of_forall_not h
  simp [compactLines, hlines, hne]

/-- Digits are one line, and compact already. -/
theorem compactLines_digits {line : List Char} (h : Digits line) (hne : line ≠ []) :
    compactLines line = [line] := by
  have hcompact := compact_digits h
  have hline : ∀ c ∈ line, isLineBreak c = false :=
    fun c hc => isLineBreak_of_mem_upperDigits c (h c hc)
  have hfilled : compact line ≠ [] := by rwa [hcompact]
  rw [compactLines_of_line hline hfilled, hcompact]

/-- The data of two answers, one after the other, is that of the first and that of the second. -/
theorem payloads_append {c : Char} (hc : isLineBreak c = true) (marker a b : List Char) :
    payloads marker (a ++ c :: b) = payloads marker a ++ payloads marker b := by
  rw [payloads, compactLines_append hc, List.filterMap_append]
  rfl

/-- The data of lines joined by a line break is that of the lines. -/
theorem payloads_intercalate {c : Char} (hc : isLineBreak c = true) (marker : List Char)
    (texts : List (List Char)) :
    payloads marker ([c].intercalate texts) = texts.flatMap (payloads marker) := by
  induction texts with
  | nil => rfl
  | cons text rest ih =>
    cases rest with
    | nil => simp
    | cons next rest =>
      rw [List.flatMap_cons, ← ih, ← payloads_append hc, List.intercalate_cons_cons,
        List.append_assoc, List.singleton_append]

theorem compact_append (a b : List Char) : compact (a ++ b) = compact a ++ compact b := by
  simp [compact, asciiUpper]

/-- Line breaks are blanks, so nothing is left of them in a compacted text. -/
theorem compact_filter_isLineBreak (text : List Char) :
    compact (text.filter fun c => !isLineBreak c) = compact text := by
  unfold compact
  rw [List.filter_filter]
  congr 2
  funext c
  cases hc : isLineBreak c with
  | false => simp
  | true => simp [isBlank_of_isLineBreak hc]

theorem compact_flatten (pieces : List (List Char)) :
    compact pieces.flatten = (pieces.map compact).flatten := by
  induction pieces with
  | nil => rfl
  | cons piece pieces ih =>
    rw [List.flatten_cons, compact_append, ih, List.map_cons, List.flatten_cons]

/-- The compacted lines together are the compacted text. -/
theorem flatten_compactLines (text : List Char) : (compactLines text).flatten = compact text := by
  have hlines : (lines text).flatten = text.filter fun c => !isLineBreak c :=
    splitWhen_flatten text
  rw [compactLines, List.flatten_filter_not_isEmpty, ← compact_flatten, hlines,
    compact_filter_isLineBreak]

/-- What stands on a line stands in the text. -/
theorem infix_of_mem_compactLines {text line : List Char} (h : line ∈ compactLines text) :
    line <:+: compact text := by
  rw [← flatten_compactLines]
  exact List.infix_of_mem_flatten h

theorem toUpper_of_mem_compactLines {text line : List Char} (h : line ∈ compactLines text) :
    ∀ c ∈ line, c.toUpper = c := by
  intro c hc
  obtain ⟨d, -, rfl⟩ := List.mem_map.mp ((infix_of_mem_compactLines h).subset hc)
  exact toUpper_toUpper d

/-- A text in which the marker does not stand, once it is compacted, holds no data. -/
theorem payloads_eq_nil {text : List Char} (h : ¬ marker <:+: compact text) :
    payloads marker text = [] := by
  rw [payloads, List.filterMap_eq_nil_iff]
  intro line hline
  rw [Option.eq_none_iff_forall_ne_some]
  intro data hdata
  have hmarker := (List.prefix_append marker data).isInfix.trans (infix_of_payload? hdata)
  exact h (hmarker.trans (infix_of_mem_compactLines hline))

/-- The data of a line of digits. -/
theorem payloads_digits {line : List Char} (h : Digits line) (hne : line ≠ []) :
    payloads marker line = (payload? marker line).toList := by
  rw [payloads, compactLines_digits h hne]
  cases hline : payload? marker line <;> simp [hline]

/-- A line of an answer: a frame with content, or other text. -/
inductive Line (α : Type) where
  /-- A frame, with what stands before the marker and behind the data. -/
  | frame (before : List Char) (content : α) (after : List Char)
  /-- Some other text. -/
  | other (text : List Char)

namespace Line

variable {α : Type}

/-- A line as it is written. -/
def text (marker : List Char) (write : α → List Char) : Line α → List Char
  | frame before content after => before ++ marker ++ write content ++ after
  | other text => text

/-- The content of a frame. -/
def content? : Line α → Option α
  | frame _ content _ => some content
  | other _ => none

end Line

/-- The data found on an answer of frames and other text, joined by line breaks, is the content of
its frames. -/
theorem payloads_lines {α : Type} (write : α → List Char) {lines : List (Line α)} {c : Char}
    (hc : isLineBreak c = true) (hm : Unmistakable marker) (hdigits : Digits marker)
    (frames : ∀ before content after, .frame before content after ∈ lines →
      Wraps marker before after ∧ Digits (write content))
    (others : ∀ text, .other text ∈ lines → ¬ marker <:+: compact text) :
    payloads marker ([c].intercalate (lines.map (Line.text marker write))) =
      (lines.filterMap Line.content?).map write := by
  rw [payloads_intercalate hc, List.flatMap_map]
  induction lines with
  | nil => rfl
  | cons line rest ih =>
    have hrest := ih (fun b x a h => frames b x a (List.mem_cons_of_mem _ h))
      (fun text h => others text (List.mem_cons_of_mem _ h))
    rw [List.flatMap_cons, hrest]
    cases line with
    | frame before content after =>
      obtain ⟨hwraps, hcontent⟩ := frames before content after List.mem_cons_self
      have hline := hwraps.digits_line hdigits hcontent
      have hne : before ++ marker ++ write content ++ after ≠ [] := by
        have := hm.ne_nil
        simp [this]
      rw [Line.text, payloads_digits hline hne, payload?_of_wraps hm hwraps]
      rfl
    | other text =>
      rw [Line.text, payloads_eq_nil (others text List.mem_cons_self)]
      rfl

end ScanTool.Frame
