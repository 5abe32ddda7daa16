import ScanTool.Proofs.CompactAnswers

/-!
# Spaced and compact brand answers

One answer may be printed with blanks between its bytes or without them. The first form is read word
by word and the second frame by frame, by functions that have little in common; but both read the
bytes two by two behind the echo and the identifier. `spread` writes the words of a line with gaps
of any blanks between them, and the main statement says that deleting the gaps changes nothing.
-/

namespace ScanTool.Brand

open ScanTool.Text ScanTool.Frame
open Trouble (CodeTable)

/-- Blanks that separate two words of a line. -/
def IsGap (gap : List Char) : Prop :=
  gap ≠ [] ∧ ∀ c ∈ gap, isBlank c = true ∧ isLineBreak c = false

instance (gap : List Char) : Decidable (IsGap gap) :=
  @instDecidableAnd _ _ inferInstance (List.decidableBAll _ gap)

/-- A text that is one word. -/
def IsWord (word : List Char) : Prop := word ≠ [] ∧ ∀ c ∈ word, isBlank c = false

/-- A word of some number of hexadecimal digits in either case. -/
def IsHex (count : Nat) (word : List Char) : Prop :=
  word.length = count ∧ ∀ c ∈ word, isHexDigit c = true

instance (count : Nat) (word : List Char) : Decidable (IsHex count word) :=
  @instDecidableAnd _ _ inferInstance (List.decidableBAll _ word)

/-- A word, and others behind it, each behind its gap. -/
def spread (first : List Char) (others : List (List Char × List Char)) : List Char :=
  first ++ others.flatMap fun p => p.1 ++ p.2

variable {first : List Char} {others : List (List Char × List Char)}

/-! ## Words in a line -/

theorem spread_cons (first : List Char) (p : List Char × List Char)
    (others : List (List Char × List Char)) :
    spread first (p :: others) = first ++ (p.1 ++ spread p.2 others) := by
  simp [spread]

theorem words_spread (hfirst : IsWord first) (gaps : ∀ p ∈ others, IsGap p.1)
    (filled : ∀ p ∈ others, IsWord p.2) :
    words (spread first others) = first :: others.map (·.2) := by
  induction others generalizing first with
  | nil =>
    have halone : spread first [] = first := by simp [spread]
    rw [halone, words_of_forall_not hfirst.1 hfirst.2]
    rfl
  | cons p others ih =>
    rw [List.forall_mem_cons] at gaps filled
    obtain ⟨gap, word⟩ := p
    -- the word in front ends at the first blank of the gap, and the others belong to no word
    match gap, gaps.1 with
    | c :: gap, ⟨_, hgap⟩ =>
      rw [List.forall_mem_cons] at hgap
      have hcut : words (first ++ c :: (gap ++ spread word others)) =
          words first ++ words (gap ++ spread word others) := words_append hgap.1.1 _ _
      have hgapped : words (gap ++ spread word others) = words (spread word others) :=
        words_blanks_append (fun x hx => (hgap.2 x hx).1) _
      have hrest := ih filled.1 gaps.2 filled.2
      rw [spread_cons, List.cons_append, hcut, hgapped, hrest,
        words_of_forall_not hfirst.1 hfirst.2]
      rfl

theorem isLineBreak_of_mem_spread (hfirst : IsWord first) (gaps : ∀ p ∈ others, IsGap p.1)
    (filled : ∀ p ∈ others, IsWord p.2) : ∀ c ∈ spread first others, isLineBreak c = false := by
  intro c hc
  rcases List.mem_append.mp hc with hc | hc
  · exact isLineBreak_of_not_isBlank (hfirst.2 c hc)
  · obtain ⟨p, hp, hc⟩ := List.mem_flatMap.mp hc
    rcases List.mem_append.mp hc with hc | hc
    · exact ((gaps p hp).2 c hc).2
    · exact isLineBreak_of_not_isBlank ((filled p hp).2 c hc)

theorem filter_spread (hfirst : IsWord first) (gaps : ∀ p ∈ others, IsGap p.1)
    (filled : ∀ p ∈ others, IsWord p.2) :
    (spread first others).filter (fun c => !isBlank c) =
      first ++ (others.map (·.2)).flatten := by
  have hwhole : ∀ word, IsWord word → word.filter (fun c => !isBlank c) = word := by
    intro word hword
    exact List.filter_eq_self.mpr fun c hc => by simp [hword.2 c hc]
  induction others generalizing first with
  | nil => simp [spread, hwhole first hfirst]
  | cons p others ih =>
    rw [List.forall_mem_cons] at gaps filled
    have hgap : p.1.filter (fun c => !isBlank c) = [] :=
      List.filter_eq_nil_iff.mpr fun c hc => by simp [(gaps.1.2 c hc).1]
    rw [spread_cons, List.filter_append, List.filter_append, hwhole first hfirst, hgap,
      ih filled.1 gaps.2 filled.2]
    rfl

theorem IsHex.isWord {count : Nat} {word : List Char} (h : IsHex (count + 1) word) :
    IsWord word := by
  refine ⟨?_, fun c hc => (upper_of_isHexDigit (h.2 c hc)).2⟩
  rintro rfl
  cases h.1

/-! ## The two readings -/

theorem pairDigits?_bytes {a b : List Char} (ha : IsHex 2 a) (hb : IsHex 2 b) :
    pairDigits? (a, b) = some (a ++ b) := by
  have hall : (a ++ b).all isHexDigit = true :=
    List.all_eq_true.mpr (List.forall_mem_append.mpr ⟨ha.2, hb.2⟩)
  have hlen : (a ++ b).length - 4 = 0 := by simp [ha.1, hb.1]
  show (if (a ++ b).all isHexDigit = true then _ else _) = _
  rw [if_pos hall, hlen, List.drop_zero]

/-- The groups of a spaced answer are its bytes two by two. -/
theorem spacedGroups_of_words {answer echo identifier : List Char} {bytes : List (List Char)}
    (hwords : words answer = echo :: identifier :: bytes) (hbytes : ∀ b ∈ bytes, IsHex 2 b) :
    spacedGroups answer = (pairs bytes).map fun pair => pair.1 ++ pair.2 := by
  have hpairs : ∀ pair ∈ pairs bytes, pairDigits? pair = some (pair.1 ++ pair.2) := by
    intro pair hpair
    obtain ⟨hfirst, hsecond⟩ := mem_of_mem_pairs hpair
    exact pairDigits?_bytes (hbytes _ hfirst) (hbytes _ hsecond)
  rw [spacedGroups, hwords]
  show (pairs bytes).filterMap pairDigits? = _
  rw [List.filterMap_congr hpairs, List.filterMap_eq_map']

/-- What the bytes behind an echo tell to a reader of frames: their pairs in upper case. -/
theorem exists_told {identifier : List Char} {bytes : List (List Char)}
    (hidentifier : IsHex 4 identifier) (hbytes : ∀ b ∈ bytes, IsHex 2 b) :
    ∃ t : Told, t.data = asciiUpper (identifier ++ bytes.flatten) ∧
      t.groups = (pairs bytes).map fun pair => asciiUpper (pair.1 ++ pair.2) := by
  obtain ⟨rest, hflatten, hrest⟩ := exists_flatten_eq_pairs bytes
  have hdata : asciiUpper identifier ++
      ((pairs bytes).map fun pair => asciiUpper (pair.1 ++ pair.2)).flatten ++ asciiUpper rest =
      asciiUpper (identifier ++ bytes.flatten) := by
    rw [hflatten]
    simp [asciiUpper, List.map_flatten, Function.comp_def]
  have hhex : ∀ c ∈ identifier ++ bytes.flatten, isHexDigit c = true := by
    refine List.forall_mem_append.mpr ⟨hidentifier.2, fun c hc => ?_⟩
    obtain ⟨b, hb, hc⟩ := List.mem_flatten.mp hc
    exact (hbytes b hb).2 c hc
  have hgroups : ∀ group ∈ (pairs bytes).map (fun pair => asciiUpper (pair.1 ++ pair.2)),
      group.length = 4 := by
    intro group hgroup
    obtain ⟨pair, hpair, rfl⟩ := List.mem_map.mp hgroup
    obtain ⟨hfirst, hsecond⟩ := mem_of_mem_pairs hpair
    simp [asciiUpper, (hbytes _ hfirst).1, (hbytes _ hsecond).1]
  have hlen : (asciiUpper rest).length ≤ 3 := by
    rw [asciiUpper, List.length_map]
    rcases hrest with rfl | hrest
    · decide
    · have := (hbytes rest hrest).1
      omega
  have hid : (asciiUpper identifier).length = 4 := by simp [asciiUpper, hidentifier.1]
  exact ⟨⟨_, _, _, hdata ▸ Digits.of_isHexDigit hhex, hid, hgroups, hlen⟩, hdata, rfl⟩

theorem compactGroups_line {text : List Char} (h : ∀ c ∈ text, isLineBreak c = false) {t : Told}
    (hcompact : compact text = positiveMarker ++ t.data) : compactGroups text = t.groups := by
  have hne : compact text ≠ [] := by rw [hcompact]; exact List.cons_ne_nil _ _
  have hpayloads : payloads positiveMarker text = [t.data] := by
    rw [payloads, compactLines_of_line h hne, hcompact, List.filterMap_cons,
      payload?_bare, List.filterMap_nil]
  rw [compactGroups, hpayloads, List.flatMap_cons, t.frameGroups_data, List.flatMap_nil,
    List.append_nil]

/-- An answer of bytes in words and the same answer without its blanks give the same codes: those of
the bytes two by two in upper case, where a last odd byte is dropped. -/
theorem spaced_and_compact_agree (table : CodeTable) {gap identifier : List Char}
    {bytes : List (List Char × List Char)} (hgap : IsGap gap) (hidentifier : IsHex 4 identifier)
    (gaps : ∀ p ∈ bytes, IsGap p.1) (hbytes : ∀ p ∈ bytes, IsHex 2 p.2) :
    let spaced := spread positiveMarker ((gap, identifier) :: bytes)
    let described := (pairs (bytes.map (·.2))).map fun pair =>
      table.label "Unknown code" (String.ofList ('P' :: asciiUpper (pair.1 ++ pair.2)))
    describe table (String.ofList spaced) = described ∧
      describe table (String.ofList (spaced.filter fun c => !isBlank c)) = described := by
  intro spaced described
  have hecho : IsWord positiveMarker := ⟨List.cons_ne_nil _ _, forall_mem_of_all (by decide)⟩
  have hgaps : ∀ p ∈ (gap, identifier) :: bytes, IsGap p.1 := List.forall_mem_cons.mpr ⟨hgap, gaps⟩
  have hfilled : ∀ p ∈ (gap, identifier) :: bytes, IsWord p.2 :=
    List.forall_mem_cons.mpr ⟨hidentifier.isWord, fun p hp => (hbytes p hp).isWord⟩
  have hhex : ∀ b ∈ bytes.map (·.2), IsHex 2 b := by
    intro b hb
    obtain ⟨p, hp, rfl⟩ := List.mem_map.mp hb
    exact hbytes p hp
  constructor
  · have hwords : words spaced = positiveMarker :: identifier :: bytes.map (·.2) :=
      words_spread hecho hgaps hfilled
    have hspaced : isSpaced spaced = true := by
      rw [isSpaced_line (isLineBreak_of_mem_spread hecho hgaps hfilled), hwords]
      simp
    have hgroups := spacedGroups_of_words hwords hhex
    rw [describe, codes, String.toList_ofList, if_pos hspaced, hgroups, List.map_map, List.map_map]
    rfl
  · have hfilter : spaced.filter (fun c => !isBlank c) =
        positiveMarker ++ (identifier ++ (bytes.map (·.2)).flatten) :=
      filter_spread hecho hgaps hfilled
    obtain ⟨t, hdata, htold⟩ := exists_told hidentifier hhex
    have hunblanked : ∀ c ∈ spaced.filter (fun c => !isBlank c), isBlank c = false := by
      intro c hc
      simpa using (List.mem_filter.mp hc).2
    -- the digits are put into upper case here before they are cut, and afterwards when spaced
    have hcompact : compact (spaced.filter fun c => !isBlank c) = positiveMarker ++ t.data := by
      have hsame : (spaced.filter fun c => !isBlank c).filter (fun c => !isBlank c) =
          spaced.filter fun c => !isBlank c :=
        List.filter_eq_self.mpr fun c hc => (List.mem_filter.mp hc).2
      rw [compact, hsame, hfilter, hdata, asciiUpper, List.map_append]
      rfl
    have hgroups := compactGroups_line
      (fun c hc => isLineBreak_of_not_isBlank (hunblanked c hc)) hcompact
    rw [describe, codes_of_not_spaced (isSpaced_of_forall_not hunblanked), hgroups, htold,
      List.map_map, List.map_map]
    refine List.map_congr_left fun pair hpair => ?_
    have hdigits : Digits (asciiUpper (pair.1 ++ pair.2)) :=
      t.digits_group (htold ▸ List.mem_map_of_mem hpair)
    rw [Function.comp_apply, Function.comp_apply, codeOf_digits hdigits]
    rfl

/-- Three bytes in both cases, behind gaps of several kinds of blanks. The last one is dropped. -/
theorem spaced_and_compact_agree_on_odd_bytes :
    let gap := [' ']
    let identifier := ['f', '1', '9', '0']
    let bytes := [([' ', '\t'], ['0', '1']), (['\u00a0'], ['2', 'b']), ([' '], ['6', '2'])]
    let table := CodeTable.ofList [("P012B", "Turbocharger inlet pressure")]
    let spaced := spread positiveMarker ((gap, identifier) :: bytes)
    (IsGap gap ∧ IsHex 4 identifier ∧ (∀ p ∈ bytes, IsGap p.1) ∧ ∀ p ∈ bytes, IsHex 2 p.2) ∧
      describe table (String.ofList spaced) = [⟨"P012B", "Turbocharger inlet pressure"⟩] ∧
      describe table (String.ofList (spaced.filter fun c => !isBlank c)) =
        [⟨"P012B", "Turbocharger inlet pressure"⟩] := by
  intro gap identifier bytes table spaced
  have hgap : IsGap gap := by decide
  have hidentifier : IsHex 4 identifier := by decide
  have gaps : ∀ p ∈ bytes, IsGap p.1 := forall_mem_of_all (by decide)
  have hbytes : ∀ p ∈ bytes, IsHex 2 p.2 := forall_mem_of_all (by decide)
  obtain ⟨hspaced, hcompact⟩ := spaced_and_compact_agree table hgap hidentifier gaps hbytes
  exact ⟨⟨hgap, hidentifier, gaps, hbytes⟩, hspaced, hcompact⟩

end ScanTool.Brand
