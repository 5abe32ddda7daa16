import ScanTool.Proofs.BytePairs
import ScanTool.Proofs.StoredPlaces
import ScanTool.Proofs.StrictReading

/-!
# Reading without faults

No text of an adapter brings a strict reader to a fault, and what it reads is what the total reader
reads. Each operation is defined for a reason of its own: a checked text is one octet a character, a
text that was cut out has as many octets as were asked for, a formula gets as many bytes as it
consumes. The lemmas follow the readers, one for each; the main statement gathers them.
-/

namespace ScanTool.Strict

open ScanTool.Text

/-! ## Operations -/

section operations

variable {α β γ : Type}

theorem ok_bind (x : α) (f : α → Except Fault β) : (Except.ok x >>= f) = f x := rfl

theorem item_eq_ok {xs : List α} {n : Nat} {x : α} (h : xs[n]? = some x) : item xs n = .ok x := by
  rw [item, h]

theorem counted_eq_ok {limit : Option Nat} {n : Nat} (h : Fits limit n) :
    counted limit n = .ok n := if_pos h

theorem Fits.mono {limit : Option Nat} {m n : Nat} (h : Fits limit n) (hle : m ≤ n) :
    Fits limit m := fun greatest hmem => Nat.le_trans hle (h greatest hmem)

/-- A part is cut out at its place. -/
theorem slice_append (front part back : List Char) :
    slice (octetCount front) (octetCount front + octetCount part) (front ++ (part ++ back)) =
      .ok part := by
  have hrange : octetCount front ≤ octetCount front + octetCount part ∧
      octetCount front + octetCount part ≤ octetCount (front ++ (part ++ back)) := by
    rw [octetCount_append, octetCount_append]
    omega
  have hpart : between? (octetCount front) (octetCount front + octetCount part)
      (front ++ (part ++ back)) = some part :=
    between?_eq_some_iff.mpr ⟨front, back, rfl, rfl, rfl⟩
  rw [slice, if_pos hrange, hpart]

/-- Nothing but ASCII characters: a part is cut out wherever it lies. -/
theorem slice_of_forall {cs : List Char} (h : ∀ c ∈ cs, c.utf8Size = 1) {start : Nat}
    (hstart : start ≤ cs.length) : slice start (octetCount cs) cs = .ok (cs.drop start) := by
  have hfront : octetCount (cs.take start) = start := by
    rw [octetCount_of_forall fun c hc => h c (List.mem_of_mem_take hc), List.length_take]
    omega
  have hcut := slice_append (cs.take start) (cs.drop start) []
  rwa [List.append_nil, ← octetCount_append, List.take_append_drop, hfront] at hcut

-- with any other character a cut can fall inside it
example : slice 1 3 ['é', '1'] = .error .inside := rfl

theorem mapM_eq_ok {f : α → Except Fault β} {g : α → β} {xs : List α}
    (h : ∀ x ∈ xs, f x = .ok (g x)) : xs.mapM f = .ok (xs.map g) := by
  induction xs with
  | nil => rfl
  | cons x xs ih =>
    rw [List.forall_mem_cons] at h
    rw [List.mapM_cons, h.1, ih h.2]
    rfl

theorem select_eq_ok {f : α → Except Fault (Option β)} {g : α → Option β} {xs : List α}
    (h : ∀ x ∈ xs, f x = .ok (g x)) : select f xs = .ok (xs.filterMap g) := by
  rw [select, mapM_eq_ok h, ok_bind, List.filterMap_map]
  rfl

theorem findSomeM?_eq_ok {f : α → Except Fault (Option β)} {g : α → Option β} {xs : List α}
    (h : ∀ x ∈ xs, f x = .ok (g x)) : xs.findSomeM? f = .ok (xs.findSome? g) := by
  induction xs with
  | nil => rfl
  | cons x xs ih =>
    rw [List.forall_mem_cons] at h
    rw [List.findSomeM?, h.1, ok_bind, List.findSome?_cons]
    cases g x with
    | none => exact ih h.2
    | some y => rfl

end operations

/-! ## Lengths -/

theorem utf8Size_toUpper (c : Char) : c.toUpper.utf8Size = c.utf8Size := by
  rcases toUpper_cases c with same | ⟨low, high, shifted⟩
  · rw [same]
  · rw [utf8Size_of_ascii (c := c) (by omega), utf8Size_of_ascii (c := c.toUpper) (by omega)]

theorem octetCount_filter_le (p : Char → Bool) (cs : List Char) :
    octetCount (cs.filter p) ≤ octetCount cs := by
  induction cs with
  | nil => exact Nat.le_refl _
  | cons c cs ih =>
    rw [List.filter_cons]
    split
    · rw [octetCount, octetCount]
      omega
    · rw [octetCount]
      omega

theorem octetCount_asciiUpper (cs : List Char) : octetCount (asciiUpper cs) = octetCount cs := by
  induction cs with
  | nil => rfl
  | cons c cs ih =>
    have hrest : octetCount (cs.map Char.toUpper) = octetCount cs := ih
    rw [asciiUpper, List.map_cons, octetCount, octetCount, utf8Size_toUpper, hrest]

theorem octetCount_compact_le (cs : List Char) : octetCount (Frame.compact cs) ≤ octetCount cs := by
  rw [Frame.compact, octetCount_asciiUpper]
  exact octetCount_filter_le _ cs

theorem octetCount_infix_le {part cs : List Char} (h : part <:+: cs) :
    octetCount part ≤ octetCount cs := by
  obtain ⟨front, back, rfl⟩ := h
  rw [octetCount_append, octetCount_append]
  omega

theorem octetCount_line_le {answer line : List Char} (h : line ∈ Frame.compactLines answer) :
    octetCount line ≤ octetCount answer :=
  Nat.le_trans (octetCount_infix_le (Frame.infix_of_mem_compactLines h))
    (octetCount_compact_le answer)

/-- What is taken from lines has no more octets than the lines. -/
theorem octetCount_flatten_filterMap_le {f : List Char → Option (List Char)}
    (h : ∀ line data, f line = some data → data <:+: line) (lines : List (List Char)) :
    octetCount (lines.filterMap f).flatten ≤ octetCount lines.flatten := by
  induction lines with
  | nil => exact Nat.le_refl _
  | cons line lines ih =>
    rw [List.flatten_cons, octetCount_append]
    cases hline : f line with
    | none =>
      rw [List.filterMap_cons_none hline]
      omega
    | some data =>
      have hdata := octetCount_infix_le (h line data hline)
      rw [List.filterMap_cons_some hline, List.flatten_cons, octetCount_append]
      omega

theorem octetCount_storedPayload_le (answer : List Char) :
    octetCount (Trouble.storedPayload answer) ≤ octetCount answer := by
  have hline : ∀ line data, Frame.payload? Trouble.storedMarker line = some data →
      data <:+: line := by
    intro line data h
    exact (List.suffix_append Trouble.storedMarker data).isInfix.trans (Frame.infix_of_payload? h)
  have hdata := octetCount_flatten_filterMap_le hline (Frame.compactLines answer)
  rw [Frame.flatten_compactLines] at hdata
  exact Nat.le_trans hdata (octetCount_compact_le answer)

/-! ## Frames -/

theorem takeOctets?_of_hasShortId {line : List Char} (h : Frame.hasShortId line = true) :
    ∃ unit, takeOctets? 3 line = some ['7', 'E', unit] := by
  obtain ⟨unit, hunit, rest, rfl⟩ := Frame.hasShortId_iff.mp h
  have hcount : octetCount ['7', 'E', unit] = 3 := (Frame.digits_shortId hunit).octetCount
  exact ⟨unit, takeOctets?_eq_some_iff.mpr ⟨rest, rfl, hcount⟩⟩

/-- Three octets that begin with `7E` end with a character of their own, so it can be looked up. -/
theorem hasShortId_eq (line : List Char) : hasShortId line = .ok (Frame.hasShortId line) := by
  unfold hasShortId
  cases hid : takeOctets? 3 line with
  | none =>
    cases hshort : Frame.hasShortId line with
    | false => rfl
    | true =>
      obtain ⟨unit, hunit⟩ := takeOctets?_of_hasShortId hshort
      rw [hid] at hunit
      cases hunit
  | some id =>
    by_cases hlead : ['7', 'E'].isPrefixOf id = true
    · obtain ⟨back, rfl, hcount⟩ := takeOctets?_eq_some_iff.mp hid
      obtain ⟨last, rfl⟩ := List.isPrefixOf_iff_prefix.mp hlead
      obtain ⟨unit, rfl, hone⟩ : ∃ unit, last = [unit] ∧ unit.utf8Size = 1 := by
        rw [octetCount_append, show octetCount ['7', 'E'] = 2 from rfl] at hcount
        match last with
        | [] => cases hcount
        | [unit] =>
          rw [octetCount, octetCount] at hcount
          exact ⟨unit, rfl, by omega⟩
        | unit :: next :: last =>
          have hunit := unit.utf8Size_pos
          have hnext := next.utf8Size_pos
          rw [octetCount, octetCount] at hcount
          omega
      have hcells : cells (['7', 'E'] ++ [unit]) = [some '7', some 'E', some unit] := by
        rw [cells_append, cells_cons unit, if_pos hone]
        rfl
      have hitem : item (cells (['7', 'E'] ++ [unit])) 2 = .ok (some unit) := by
        rw [hcells]
        rfl
      simp only [hlead, if_true, hitem, ok_bind]
      rfl
    · cases hshort : Frame.hasShortId line with
      | false => simp only [hlead]; rfl
      | true =>
        obtain ⟨unit, hunit⟩ := takeOctets?_of_hasShortId hshort
        rw [hid] at hunit
        obtain rfl := Option.some.inj hunit
        exact absurd rfl hlead

theorem withoutChecksum?_eq (data : List Char) :
    withoutChecksum? data = .ok (dropLastOctets? 2 data) := by
  unfold withoutChecksum? dropLastOctets?
  by_cases hshort : octetCount data < 2
  · rw [if_pos hshort, if_neg (by omega)]
    rfl
  · have hless : less (octetCount data) 2 = .ok (octetCount data - 2) := if_pos (by omega)
    rw [if_neg hshort, hless, ok_bind, if_pos (by omega)]
    rfl

/-- Octets that all show digits are those of characters that are digits. -/
theorem forall_isHexDigit_of_cells {cs : List Char}
    (h : ((cells cs).all fun octet => octet.any isHexDigit) = true) :
    ∀ c ∈ cs, isHexDigit c = true := by
  induction cs with
  | nil => simp
  | cons c cs ih =>
    rw [cells_cons, List.all_append, Bool.and_eq_true] at h
    refine List.forall_mem_cons.mpr ⟨?_, ih h.2⟩
    have hfirst := h.1
    split at hfirst
    · simpa using hfirst
    · -- the octets of a character outside ASCII show nothing
      have hpos := c.utf8Size_pos
      simp at hfirst
      omega

theorem cells_all_isHexDigit {cs : List Char} (h : ∀ c ∈ cs, isHexDigit c = true) :
    ((cells cs).all fun octet => octet.any isHexDigit) = true := by
  rw [cells_of_forall (utf8Size_of_forall_isHexDigit h), List.all_map]
  exact List.all_eq_true.mpr h

theorem afterCheckedHeader?_eq (marker line : List Char) :
    afterCheckedHeader? marker line = .ok (Frame.afterCheckedHeader? marker line) := by
  unfold afterCheckedHeader? Frame.afterCheckedHeader?
  by_cases hheader : (line.take 6).length = 6 ∧ (line.take 6).all isHexDigit = true
  · have hhex : ∀ c ∈ line.take 6, isHexDigit c = true := List.all_eq_true.mp hheader.2
    have hcount : octetCount (line.take 6) = 6 := by
      rw [octetCount_of_forall (utf8Size_of_forall_isHexDigit hhex), hheader.1]
    have htake : takeOctets? 6 line = some (line.take 6) :=
      takeOctets?_eq_some_iff.mpr ⟨line.drop 6, (List.take_append_drop 6 line).symm, hcount⟩
    have hdrop : dropOctets? 6 line = some (line.drop 6) :=
      dropOctets?_eq_some_iff.mpr ⟨line.take 6, (List.take_append_drop 6 line).symm, hcount⟩
    have hafter : Frame.afterHeader? 6 marker line = after? marker (line.drop 6) := by
      rw [Frame.afterHeader?, hdrop, Option.bind_some]
    simp only [htake, cells_all_isHexDigit hhex, if_true, hafter, if_pos hheader]
    cases after? marker (line.drop 6) with
    | none => rfl
    | some data => exact withoutChecksum?_eq data
  · rw [if_neg hheader]
    cases htake : takeOctets? 6 line with
    | none => rfl
    | some header =>
      have hnot : ¬ ((cells header).all fun octet => octet.any isHexDigit) = true := by
        intro hall
        have hhex := forall_isHexDigit_of_cells hall
        obtain ⟨back, rfl, hcount⟩ := takeOctets?_eq_some_iff.mp htake
        have hlen : header.length = 6 := by
          rw [← octetCount_of_forall (utf8Size_of_forall_isHexDigit hhex), hcount]
        have hsix : (header ++ back).take 6 = header := by
          rw [← hlen]
          exact List.take_left
        rw [hsix] at hheader
        exact hheader ⟨hlen, List.all_eq_true.mpr hhex⟩
      simp only [if_neg hnot]
      rfl

theorem payload?_eq (marker line : List Char) :
    payload? marker line = .ok (Frame.payload? marker line) := by
  unfold payload? Frame.payload?
  cases after? marker line with
  | some data => rfl
  | none =>
    simp only [hasShortId_eq, ok_bind]
    cases if Frame.hasShortId line then Frame.afterHeader? 5 marker line else none with
    | some data => rfl
    | none =>
      cases if Frame.hasLongId line then Frame.afterHeader? 10 marker line else none with
      | some data => rfl
      | none => exact afterCheckedHeader?_eq marker line

theorem payloads_eq (marker answer : List Char) :
    payloads marker answer = .ok (Frame.payloads marker answer) :=
  select_eq_ok fun line _ => payload?_eq marker line

/-! ## Bytes behind a marker -/

theorem afterFirst?_of_place?_eq_none {part cs : List Char} (h : place? part cs = none) :
    afterFirst? part cs = none := by
  induction cs with
  | nil =>
    unfold place? at h
    split at h
    · cases h
    · rename_i hempty
      have hne : part ≠ [] := by simpa using hempty
      exact after?_eq_none_iff.mpr fun hlead => hne (List.prefix_nil.mp hlead)
  | cons c cs ih =>
    unfold place? at h
    split at h
    · cases h
    · rename_i hlead
      have hnot : ¬ part <+: c :: cs := fun hp => hlead (List.isPrefixOf_iff_prefix.mpr hp)
      rw [afterFirst?_cons hnot, ih (Option.map_eq_none_iff.mp h)]

/-- The place of a part is where it is found first. -/
theorem exists_of_place? {part cs : List Char} {n : Nat} (h : place? part cs = some n) :
    ∃ front rest, cs = front ++ (part ++ rest) ∧ octetCount front = n ∧
      afterFirst? part cs = some rest := by
  induction cs generalizing n with
  | nil =>
    unfold place? at h
    split at h
    · rename_i hempty
      obtain rfl : part = [] := List.isEmpty_iff.mp hempty
      exact ⟨[], [], rfl, Option.some.inj h, rfl⟩
    · cases h
  | cons c cs ih =>
    unfold place? at h
    split at h
    · rename_i hlead
      obtain ⟨rest, hrest⟩ := List.isPrefixOf_iff_prefix.mp hlead
      refine ⟨[], rest, hrest.symm, Option.some.inj h, ?_⟩
      exact afterFirst?_of_after? (after?_eq_some_iff.mpr hrest.symm)
    · rename_i hlead
      have hnot : ¬ part <+: c :: cs := fun hp => hlead (List.isPrefixOf_iff_prefix.mpr hp)
      obtain ⟨m, hm, rfl⟩ := Option.map_eq_some_iff.mp h
      obtain ⟨front, rest, rfl, rfl, hfound⟩ := ih hm
      exact ⟨c :: front, rest, rfl, rfl, by rw [afterFirst?_cons hnot, hfound]⟩

theorem utf8Size_of_pairs {signed : Bool} {written : List Char} {bytes : List UInt8}
    (h : Pairs signed written bytes) :
    written.length = 2 * bytes.length ∧ ∀ c ∈ written, c.utf8Size = 1 := by
  have digit : ∀ {c : Char} {x : Nat}, hexValue? c = some x → c.utf8Size = 1 := by
    intro c x hc
    exact utf8Size_of_isHexDigit (by rw [isHexDigit, hc, Option.isSome_some])
  induction h with
  | nil => exact ⟨rfl, by simp⟩
  | @cons a b x written bytes pair _ ih =>
    have hpair : a.utf8Size = 1 ∧ b.utf8Size = 1 := by
      cases pair with
      | digits ha hb => exact ⟨digit ha, digit hb⟩
      | sign _ hb => exact ⟨rfl, digit hb⟩
    refine ⟨?_, List.forall_mem_cons.mpr ⟨hpair.1, List.forall_mem_cons.mpr ⟨hpair.2, ih.2⟩⟩⟩
    rw [List.length_cons, List.length_cons, List.length_cons, ih.1]
    omega

/-- Bytes are read from ASCII characters, two octets a byte. -/
theorem exists_of_bytesOfPairs? {count : Nat} {cs : List Char} {bytes : List UInt8}
    (h : bytesOfPairs? count cs = some bytes) :
    ∃ written, takeOctets? (2 * count) cs = some written ∧ ∀ c ∈ written, c.utf8Size = 1 := by
  obtain ⟨rfl, written, rest, rfl, pairs⟩ := bytesOfPairs?_eq_some_iff.mp h
  obtain ⟨hlen, hones⟩ := utf8Size_of_pairs pairs
  have hcount : octetCount written = 2 * bytes.length := by
    rw [octetCount_of_forall hones, hlen]
  exact ⟨written, takeOctets?_eq_some_iff.mpr ⟨rest, rfl, hcount⟩, hones⟩

section bytes

variable {limit : Option Nat} {marker digits front tail line answer : List Char} {count : Nat}

/-- A pair of ASCII characters is cut out behind others. -/
theorem byteAt?_eq {a b : Char} (hones : ∀ c ∈ front ++ a :: b :: tail, c.utf8Size = 1)
    (room : Fits limit (octetCount (front ++ a :: b :: tail))) :
    byteAt? limit (front ++ a :: b :: tail) front.length = .ok (byteOfPair? a b) := by
  have hfront : octetCount front = front.length :=
    octetCount_of_forall fun c hc => hones c (List.mem_append_left _ hc)
  have hpair : octetCount [a, b] = 2 := by
    have ha := hones a (by simp)
    have hb := hones b (by simp)
    rw [octetCount, octetCount, ha, hb]
    rfl
  have hstop : Fits limit (front.length + 2) := by
    refine room.mono ?_
    rw [octetCount_of_forall hones, List.length_append, List.length_cons, List.length_cons]
    omega
  have hslice := slice_append front [a, b] tail
  rw [hfront, hpair] at hslice
  rw [byteAt?, counted_eq_ok hstop, ok_bind]
  show slice _ _ (front ++ ([a, b] ++ tail)) >>= _ = _
  rw [hslice]
  rfl

/-- The pairs from some place on are cut out one by one, each in front of what is left. -/
theorem collect?_byteAt? (more : List Char) (hones : ∀ c ∈ front ++ tail, c.utf8Size = 1)
    (hlen : tail.length = 2 * count) (room : Fits limit (octetCount (front ++ tail))) :
    collect? (byteAt? limit (front ++ tail)) (List.range' front.length count 2) =
      .ok (bytesOfPairs? count (tail ++ more)) := by
  induction count generalizing front tail with
  | zero => rfl
  | succ count ih =>
    match tail, hlen with
    | a :: b :: tail, hlen =>
      rw [List.range'_succ, collect?, byteAt?_eq hones room, ok_bind]
      show _ = Except.ok (bytesOfPairs? (count + 1) (a :: b :: (tail ++ more)))
      unfold bytesOfPairs?
      cases byteOfPair? a b with
      | none => rfl
      | some x =>
        have hwhole : front ++ a :: b :: tail = (front ++ [a, b]) ++ tail := by simp
        have hnext : (front ++ [a, b]).length = front.length + 2 := List.length_append
        rw [hwhole] at hones room ⊢
        have hrest := ih hones (by simp only [List.length_cons] at hlen; omega) room
        rw [hnext] at hrest
        show collect? _ (List.range' (front.length + 2) count 2) >>= _ = _
        rw [hrest]
        rfl

theorem bytesOf?_eq (more : List Char) (hones : ∀ c ∈ digits, c.utf8Size = 1)
    (hcount : octetCount digits = 2 * count) (room : Fits limit (octetCount digits)) :
    bytesOf? limit digits = .ok (bytesOfPairs? count (digits ++ more)) := by
  have hlen : digits.length = 2 * count := by rw [← octetCount_of_forall hones, hcount]
  have hpairs : (octetCount digits + 1) / 2 = count := by omega
  have hall : (digits.all fun c => c.utf8Size == 1) = true := by simpa using hones
  rw [bytesOf?, if_pos ⟨by omega, hall⟩, hpairs]
  show collect? (byteAt? limit ([] ++ digits)) (List.range' ([] : List Char).length count 2) = _
  exact collect?_byteAt? more hones hlen room

theorem bytesOn?_eq (room : Fits limit (octetCount line + 2 * count)) :
    bytesOn? limit marker count line =
      .ok ((afterFirst? marker line).bind (bytesOfPairs? count)) := by
  unfold bytesOn?
  cases hplace : place? marker line with
  | none =>
    rw [afterFirst?_of_place?_eq_none hplace]
    rfl
  | some place =>
    obtain ⟨front, rest, rfl, rfl, hfound⟩ := exists_of_place? hplace
    rw [octetCount_append, octetCount_append] at room
    have hstart : Fits limit (octetCount front + octetCount marker) := room.mono (by omega)
    have hwidth : Fits limit (2 * count) := room.mono (by omega)
    have hstop : Fits limit (octetCount front + octetCount marker + 2 * count) :=
      room.mono (by omega)
    have hcut : between? (octetCount front + octetCount marker)
        (octetCount front + octetCount marker + 2 * count) (front ++ (marker ++ rest)) =
        takeOctets? (2 * count) rest := by
      rw [between?, if_pos (Nat.le_add_right _ _), Nat.add_sub_cancel_left, ← octetCount_append,
        ← List.append_assoc, dropOctets?_append, Option.bind_some]
    simp only [counted_eq_ok hstart, counted_eq_ok hwidth, counted_eq_ok hstop, ok_bind, hcut,
      hfound, Option.bind_some]
    cases htake : takeOctets? (2 * count) rest with
    | none =>
      cases hbytes : bytesOfPairs? count rest with
      | none => rfl
      | some bytes =>
        obtain ⟨written, hwritten, -⟩ := exists_of_bytesOfPairs? hbytes
        rw [htake] at hwritten
        cases hwritten
    | some digits =>
      obtain ⟨more, rfl, hcount⟩ := takeOctets?_eq_some_iff.mp htake
      by_cases hones : ∀ c ∈ digits, c.utf8Size = 1
      · exact bytesOf?_eq more hones hcount (room.mono (by omega))
      · have hnone : bytesOfPairs? count (digits ++ more) = none := by
          rw [Option.eq_none_iff_forall_ne_some]
          intro bytes hbytes
          obtain ⟨written, hwritten, hall⟩ := exists_of_bytesOfPairs? hbytes
          rw [htake] at hwritten
          obtain rfl := Option.some.inj hwritten
          exact hones hall
        rw [hnone]
        exact if_neg fun h => hones (by simpa using h.2)

theorem bytesAfter?_eq (room : Fits limit (octetCount answer + 2 * count)) :
    bytesAfter? limit marker count answer = .ok (Frame.bytesAfter? marker count answer) := by
  refine findSomeM?_eq_ok fun line hline => bytesOn?_eq (room.mono ?_)
  have hle := octetCount_line_le hline
  omega

end bytes

/-! ## Stored codes -/

theorem lt_of_hexValue? {c : Char} {value : Nat} (h : hexValue? c = some value) : value < 16 := by
  unfold hexValue? at h
  split at h
  · rename_i hc
    have hhigh : c.toNat ≤ 57 := hc.2
    have hvalue : c.toNat - 48 = value := Option.some.inj h
    omega
  · split at h
    · rename_i hc
      have hhigh : c.toNat ≤ 102 := hc.2
      have hvalue : c.toNat - 97 + 10 = value := Option.some.inj h
      omega
    · split at h
      · rename_i hc
        have hhigh : c.toNat ≤ 70 := hc.2
        have hvalue : c.toNat - 65 + 10 = value := Option.some.inj h
        omega
      · cases h

/-- The value of a digit chooses one of the four letters. -/
theorem item_systemLetters {first : Nat} (h : first < 16) :
    item systemLetters (first / 4) = .ok (Trouble.systemLetter first) := by
  have hall : ∀ first < 16, systemLetters[first / 4]? = some (Trouble.systemLetter first) := by
    decide
  exact item_eq_ok (hall first h)

theorem decodeGroup?_eq (group : List Char) :
    decodeGroup? group = .ok (Trouble.decodeGroup? group) := by
  unfold decodeGroup?
  by_cases hgroup :
      octetCount group = 4 ∧ group.all isHexDigit = true ∧ group ≠ ['0', '0', '0', '0']
  · have hhex : ∀ c ∈ group, isHexDigit c = true := List.all_eq_true.mp hgroup.2.1
    have hones := utf8Size_of_forall_isHexDigit hhex
    have hlen : group.length = 4 := by rw [← octetCount_of_forall hones, hgroup.1]
    have hslice : slice 1 (octetCount group) group = .ok (group.drop 1) :=
      slice_of_forall hones (by omega)
    rw [if_pos hgroup, hslice]
    match group, hlen with
    | [a, b, c, d], _ =>
      obtain ⟨first, hfirst⟩ := Option.isSome_iff_exists.mp (hhex a List.mem_cons_self)
      have hcode := Trouble.decodeGroup?_hex hhex hgroup.2.2
      have hletter := item_systemLetters (lt_of_hexValue? hfirst)
      simp only [hcode, List.head?_cons, Option.bind_some, hfirst, hletter, ok_bind]
      rfl
  · have hnone : Trouble.decodeGroup? group = none := by
      rw [← Option.not_isSome_iff_eq_none, Trouble.isSome_decodeGroup?_iff]
      rintro ⟨hlen, hhex, hpadding⟩
      refine hgroup ⟨?_, List.all_eq_true.mpr hhex, hpadding⟩
      rw [octetCount_of_forall (utf8Size_of_forall_isHexDigit hhex), hlen]
    rw [if_neg hgroup, hnone]
    rfl

theorem codeAt?_eq {limit : Option Nat} {payload : List Char} {group : Nat}
    (room : Fits limit (octetCount payload)) (hgroup : group < octetCount payload / 4) :
    codeAt? limit payload group =
      .ok ((between? (4 * group) (4 * group + 4) payload).bind Trouble.decodeGroup?) := by
  have hstart : Fits limit (4 * group) := room.mono (by omega)
  have hstop : Fits limit (4 * group + 4) := room.mono (by omega)
  rw [codeAt?, counted_eq_ok hstart, ok_bind, counted_eq_ok hstop, ok_bind]
  cases between? (4 * group) (4 * group + 4) payload with
  | none => rfl
  | some digits => exact decodeGroup?_eq digits

theorem storedCodes_eq {limit : Option Nat} {answer : String}
    (room : Fits limit (octetCount answer.toList)) :
    storedCodes limit answer = .ok (Trouble.storedCodes answer) := by
  have hdata : (Frame.payloads Trouble.storedMarker answer.toList).flatten =
      Trouble.storedPayload answer.toList := rfl
  have hcodes : select (codeAt? limit (Trouble.storedPayload answer.toList))
      (List.range (octetCount (Trouble.storedPayload answer.toList) / 4)) =
      .ok (Trouble.decodeGroups (Trouble.storedPayload answer.toList)) := by
    rw [Trouble.decodeGroups_eq]
    exact select_eq_ok fun group hgroup =>
      codeAt?_eq (room.mono (octetCount_storedPayload_le _)) (List.mem_range.mp hgroup)
  rw [storedCodes, payloads_eq, ok_bind, hdata, hcodes]
  rfl

/-! ## Live values -/

open Live (Formula Parameter Pid Supported)

/-- A formula finds the bytes that it uses among as many as it consumes. -/
theorem value_eq {formula : Formula} {bytes : List UInt8} (h : bytes.length = formula.byteCount) :
    ∃ v, formula.value? bytes = some v ∧ value bytes formula = .ok v := by
  cases formula with
  | ofByte value =>
    match bytes, h with
    | [a], _ => exact ⟨value a, rfl, rfl⟩
  | ofWord value =>
    match bytes, h with
    | [a, b], _ => exact ⟨value a b, rfl, rfl⟩

theorem length_of_bytesAfter? {marker answer : List Char} {count : Nat} {bytes : List UInt8}
    (h : Frame.bytesAfter? marker count answer = some bytes) : bytes.length = count := by
  have signs : '+' ∈ answer → true = true := fun _ => rfl
  obtain ⟨-, -, -, -, ⟨hlen, -⟩, -⟩ := (Frame.bytesAfter?_eq_some_iff signs).mp h
  exact hlen

/-- As many bytes are asked for as the formula of the parameter consumes, and no more than two. -/
theorem byteCount_of_mem {p : Parameter} (h : p ∈ Live.catalog) :
    byteCount p.pid = p.formula.byteCount ∧ byteCount p.pid ≤ 2 := by
  have hall : ∀ p ∈ Live.catalog, byteCount p.pid = p.formula.byteCount ∧ byteCount p.pid ≤ 2 :=
    forall_mem_of_all (by decide)
  exact hall p h

section live

variable {limit : Option Nat} {answer : String}

theorem decode?_eq (room : Fits limit (octetCount answer.toList + 8)) (pid : Pid) :
    decode? limit pid answer = .ok (Live.decode? pid answer) := by
  unfold decode? Live.decode?
  cases hp : Live.parameter? pid with
  | none => rfl
  | some p =>
    obtain ⟨hcount, hle⟩ := byteCount_of_mem (Live.parameter?_eq_some_iff.mp hp).1
    have hread : bytesAfter? limit (Live.echo p.pid) (byteCount p.pid) answer.toList =
        .ok (Frame.bytesAfter? (Live.echo p.pid) p.formula.byteCount answer.toList) := by
      rw [← hcount]
      exact bytesAfter?_eq (room.mono (by omega))
    rw [Option.bind_some, Live.Parameter.decode?]
    simp only [hread, ok_bind]
    cases hbytes : Frame.bytesAfter? (Live.echo p.pid) p.formula.byteCount answer.toList with
    | none => rfl
    | some bytes =>
      obtain ⟨v, hvalue, hstrict⟩ := value_eq (length_of_bytesAfter? hbytes)
      simp only [hstrict, ok_bind, Option.bind_some, Live.Parameter.reading?, hvalue,
        Option.map_some]
      rfl

theorem supported_eq (room : Fits limit (octetCount answer.toList + 8)) :
    supported limit answer = .ok (Supported.ofAnswer answer) := by
  have hread : bytesAfter? limit Supported.marker 4 answer.toList =
      .ok (Frame.bytesAfter? Supported.marker 4 answer.toList) := bytesAfter?_eq room
  unfold supported Supported.ofAnswer
  rw [hread, ok_bind]
  cases hbytes : Frame.bytesAfter? Supported.marker 4 answer.toList with
  | none => rfl
  | some bytes =>
    match bytes, length_of_bytesAfter? hbytes with
    | [a, b, c, d], _ => rfl

end live

/-! ## Brand answers -/

theorem pairDigits?_eq (pair : List Char × List Char) :
    pairDigits? pair = .ok (Brand.pairDigits? pair) := by
  unfold pairDigits? Brand.pairDigits?
  by_cases hall : (pair.1 ++ pair.2).all isHexDigit = true
  · have hones := utf8Size_of_forall_isHexDigit (List.all_eq_true.mp hall)
    have hslice := slice_of_forall hones (Nat.sub_le (pair.1 ++ pair.2).length 4)
    simp only [hall, if_true, octetCount_of_forall hones] at hslice ⊢
    rw [hslice]
    rfl
  · simp only [hall]
    rfl

theorem spacedGroups_eq (answer : List Char) :
    spacedGroups answer = .ok (Brand.spacedGroups answer) := by
  unfold spacedGroups Brand.spacedGroups
  by_cases hshort : (words answer).length ≤ Brand.headerWords
  · rw [if_pos hshort, List.drop_eq_nil_of_le hshort]
    rfl
  · have hrest : itemsFrom Brand.headerWords (words answer) =
        .ok ((words answer).drop Brand.headerWords) := if_pos (by omega)
    rw [if_neg hshort, hrest, ok_bind]
    exact select_eq_ok fun pair _ => pairDigits?_eq pair

theorem describe_eq (table : Trouble.CodeTable) (answer : String) :
    describe table answer = .ok (Brand.describe table answer) := by
  have hcompact : compactGroups answer.toList = .ok (Brand.compactGroups answer.toList) := by
    rw [compactGroups, payloads_eq]
    rfl
  unfold describe Brand.describe Brand.codes
  simp only [spacedGroups_eq, hcompact]
  split <;> rfl

/-! ## All readers -/

/-- No text of an answer brings a reader to a fault, whatever the marker, the number of bytes, the
parameter and the table: each strict reader reads what the total one reads. If there is a greatest
length that is counted, it must leave room for the text and twice the bytes behind it. -/
theorem reads_without_fault (limit : Option Nat) (marker : List Char) (count : Nat) (pid : Pid)
    (table : Trouble.CodeTable) (answer : String)
    (room : Fits limit (octetCount answer.toList + 2 * max count 4)) :
    payloads marker answer.toList = .ok (Frame.payloads marker answer.toList) ∧
    bytesAfter? limit marker count answer.toList =
      .ok (Frame.bytesAfter? marker count answer.toList) ∧
    storedCodes limit answer = .ok (Trouble.storedCodes answer) ∧
    decode? limit pid answer = .ok (Live.decode? pid answer) ∧
    supported limit answer = .ok (Supported.ofAnswer answer) ∧
    describe table answer = .ok (Brand.describe table answer) :=
  ⟨payloads_eq marker answer.toList, bytesAfter?_eq (room.mono (by omega)),
    storedCodes_eq (room.mono (by omega)), decode?_eq (room.mono (by omega)) pid,
    supported_eq (room.mono (by omega)), describe_eq table answer⟩

/-- What is left of lines that were received damaged: an identifier cut inside a character, a frame
of codes with a character that is no digit, an echo with a sign and half a pair behind it. -/
def damaged : String := "7E\uFFFD\r430301\uFFFD00420\r410C+1\uFFFD"

theorem reads_without_fault_of_damaged :
    Fits (some (2 ^ 64 - 1)) (octetCount damaged.toList + 2 * max 2 4) ∧
    storedCodes (some (2 ^ 64 - 1)) damaged = .ok ["P0301", "P0420"] ∧
    bytesAfter? (some (2 ^ 64 - 1)) ['4', '1', '0', 'C'] 2 damaged.toList = .ok none := by
  have room : Fits (some (2 ^ 64 - 1)) (octetCount damaged.toList + 2 * max 2 4) := by
    decide +kernel
  obtain ⟨-, bytes, codes, -⟩ :=
    reads_without_fault (some (2 ^ 64 - 1)) ['4', '1', '0', 'C'] 2 12 .empty damaged room
  have hcodes : Trouble.storedCodes damaged = ["P0301", "P0420"] := by decide +kernel
  have hbytes : Frame.bytesAfter? ['4', '1', '0', 'C'] 2 damaged.toList = none := by
    decide +kernel
  rw [hcodes] at codes
  rw [hbytes] at bytes
  exact ⟨room, codes, bytes⟩

end ScanTool.Strict
