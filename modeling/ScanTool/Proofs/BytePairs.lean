import ScanTool.Live.Supported
import ScanTool.Proofs.LiveValues

/-!
# Bytes from pairs of characters

Whatever an adapter prints, live values and the supported parameters are made of bytes that stand on
one line behind the first place of the echo, in pairs of characters. A pair is two digits; but a
plus sign and one digit are read as a byte too. `Pairs` tells the two apart by whether signs are
taken, and the main statement says exactly what is read from any answer: pairs of digits alone, unless
there is a plus sign in the answer.
-/

namespace ScanTool.Text

/-- A byte in two characters: two digits or, where signs are taken, a plus sign and a digit. -/
inductive Pair (signed : Bool) : Char → Char → UInt8 → Prop where
  /-- Two digits, the higher one first. -/
  | digits {a b : Char} {high low : Nat} (ha : hexValue? a = some high)
    (hb : hexValue? b = some low) : Pair signed a b (UInt8.ofNat (16 * high + low))
  /-- A plus sign and a digit. -/
  | sign {b : Char} {low : Nat} (taken : signed = true) (hb : hexValue? b = some low) :
    Pair signed '+' b (UInt8.ofNat low)

/-- Bytes in pairs of characters. -/
inductive Pairs (signed : Bool) : List Char → List UInt8 → Prop where
  /-- No bytes. -/
  | nil : Pairs signed [] []
  /-- A byte and more of them. -/
  | cons {a b : Char} {x : UInt8} {written : List Char} {bytes : List UInt8}
    (pair : Pair signed a b x) (rest : Pairs signed written bytes) :
    Pairs signed (a :: b :: written) (x :: bytes)

theorem byteOfPair?_eq_some_iff {a b : Char} {x : UInt8} :
    byteOfPair? a b = some x ↔ Pair true a b x := by
  constructor
  · intro h
    unfold byteOfPair? at h
    split at h
    · rename_i ha hb
      exact Option.some.inj h ▸ .digits ha hb
    · rename_i hb
      split at h
      · rename_i plus
        subst plus
        exact Option.some.inj h ▸ .sign rfl hb
      · cases h
    · cases h
  · intro h
    cases h with
    | digits ha hb => simp [byteOfPair?, ha, hb]
    | sign _ hb =>
      have plus : hexValue? '+' = none := by decide
      simp [byteOfPair?, plus, hb]

theorem bytesOfPairs?_eq_some_iff {n : Nat} {cs : List Char} {bytes : List UInt8} :
    bytesOfPairs? n cs = some bytes ↔
      bytes.length = n ∧ ∃ written rest, cs = written ++ rest ∧ Pairs true written bytes := by
  constructor
  · intro h
    induction n generalizing cs bytes with
    | zero =>
      obtain rfl : [] = bytes := Option.some.inj h
      exact ⟨rfl, [], cs, rfl, .nil⟩
    | succ n ih =>
      match cs, h with
      | a :: b :: cs, h =>
        unfold bytesOfPairs? at h
        split at h
        · rename_i x hx
          obtain ⟨more, hmore, rfl⟩ := Option.map_eq_some_iff.mp h
          obtain ⟨rfl, written, rest, rfl, pairs⟩ := ih hmore
          exact ⟨rfl, a :: b :: written, rest, rfl, .cons (byteOfPair?_eq_some_iff.mp hx) pairs⟩
        · cases h
  · rintro ⟨rfl, written, rest, rfl, pairs⟩
    induction pairs with
    | nil => rfl
    | cons pair _ ih => simp [bytesOfPairs?, byteOfPair?_eq_some_iff.mpr pair, ih]

/-- Without a plus sign it does not matter whether signs are taken. -/
theorem Pairs.congr {signed signed' : Bool} {written : List Char} {bytes : List UInt8}
    (h : Pairs signed written bytes) (signs : '+' ∈ written → signed' = true) :
    Pairs signed' written bytes := by
  induction h with
  | nil => exact .nil
  | cons pair _ ih =>
    refine .cons ?_ (ih fun mem => signs (List.mem_cons_of_mem _ (List.mem_cons_of_mem _ mem)))
    cases pair with
    | digits ha hb => exact .digits ha hb
    | sign _ hb => exact .sign (signs List.mem_cons_self) hb

end ScanTool.Text

namespace ScanTool.Frame

open ScanTool.Text

variable {signed : Bool} {marker line answer : List Char} {count : Nat} {bytes : List UInt8}

/-- A line holds bytes in pairs directly behind the first place of a marker. -/
def Holds (signed : Bool) (marker line : List Char) (bytes : List UInt8) : Prop :=
  ∃ front written rest, line = front ++ (marker ++ (written ++ rest)) ∧
    FirstBehind front marker ∧ Pairs signed written bytes

/-- An answer tells `count` bytes behind a marker: those that stand on the first of its lines that
holds as many there. -/
def Tells (signed : Bool) (marker : List Char) (count : Nat) (answer : List Char)
    (bytes : List UInt8) : Prop :=
  ∃ earlier line later, compactLines answer = earlier ++ line :: later ∧
    (bytes.length = count ∧ Holds signed marker line bytes) ∧
    ∀ l ∈ earlier, ∀ others, ¬ (others.length = count ∧ Holds signed marker l others)

theorem afterFirst?_bind_eq_some_iff :
    (afterFirst? marker line).bind (bytesOfPairs? count) = some bytes ↔
      bytes.length = count ∧ Holds true marker line bytes := by
  simp only [Option.bind_eq_some_iff, afterFirst?_eq_some_iff, bytesOfPairs?_eq_some_iff]
  constructor
  · rintro ⟨_, ⟨front, rfl, first⟩, length, written, rest, rfl, pairs⟩
    exact ⟨length, front, written, rest, rfl, first, pairs⟩
  · rintro ⟨length, front, written, rest, rfl, first, pairs⟩
    exact ⟨written ++ rest, ⟨front, rfl, first⟩, length, written, rest, rfl, pairs⟩

/-- There is a plus sign on a compacted line only if there is one in the answer. -/
theorem plus_mem_of_mem_compactLines (hline : line ∈ compactLines answer) (plus : '+' ∈ line) :
    '+' ∈ answer := by
  have compacted : '+' ∈ compact answer := (infix_of_mem_compactLines hline).subset plus
  obtain ⟨c, hc, upper⟩ := List.mem_map.mp compacted
  obtain rfl : c = '+' := eq_of_toUpper_eq upper (by decide)
  exact (List.mem_filter.mp hc).1

/-- On the lines of an answer it matters whether signs are taken only if there is a plus sign in the
answer. -/
theorem holds_true_iff (signs : '+' ∈ answer → signed = true) (hline : line ∈ compactLines answer) :
    Holds true marker line bytes ↔ Holds signed marker line bytes := by
  constructor
  · rintro ⟨front, written, rest, rfl, first, pairs⟩
    refine ⟨front, written, rest, rfl, first, pairs.congr fun plus => signs ?_⟩
    exact plus_mem_of_mem_compactLines hline (by simp [plus])
  · rintro ⟨front, written, rest, rfl, first, pairs⟩
    exact ⟨front, written, rest, rfl, first, pairs.congr fun _ => rfl⟩

/-- The bytes that are read from an answer are those that it tells. -/
theorem bytesAfter?_eq_some_iff (signs : '+' ∈ answer → signed = true) :
    bytesAfter? marker count answer = some bytes ↔ Tells signed marker count answer bytes := by
  unfold bytesAfter?
  rw [List.findSome?_eq_some_iff]
  constructor
  · rintro ⟨earlier, line, later, lines, found, none⟩
    refine ⟨earlier, line, later, lines, ?_, fun l hl others held => ?_⟩
    · rw [← holds_true_iff signs (by simp [lines])]
      exact afterFirst?_bind_eq_some_iff.mp found
    · rw [← holds_true_iff signs (by simp [lines, hl]), ← afterFirst?_bind_eq_some_iff,
        none l hl] at held
      cases held
  · rintro ⟨earlier, line, later, lines, held, unheld⟩
    rw [← holds_true_iff signs (by simp [lines])] at held
    refine ⟨earlier, line, later, lines, afterFirst?_bind_eq_some_iff.mpr held, fun l hl => ?_⟩
    rw [Option.eq_none_iff_forall_ne_some]
    intro others found
    rw [afterFirst?_bind_eq_some_iff, holds_true_iff signs (by simp [lines, hl])] at found
    exact unheld l hl others found

end ScanTool.Frame

namespace ScanTool.Live

open ScanTool.Text ScanTool.Frame

theorem parameter?_eq_some_iff {pid : Pid} {p : Parameter} :
    parameter? pid = some p ↔ p ∈ catalog ∧ p.pid = pid := by
  constructor
  · intro h
    exact ⟨List.mem_of_find?_eq_some h, by simpa using List.find?_some h⟩
  · rintro ⟨mem, rfl⟩
    exact parameter?_of_mem mem

/-- A reading of an answer is made of bytes of the answer, and is what they say of its parameter. -/
theorem decode?_eq_some_iff {pid : Pid} {answer : String} {r : Reading} :
    decode? pid answer = some r ↔ ∃ p ∈ catalog, p.pid = pid ∧ ∃ bytes value,
      bytesAfter? (echo pid) p.formula.byteCount answer.toList = some bytes ∧
      Measures pid bytes value ∧ r = ⟨pid, p.label, p.unit, value, bytes⟩ := by
  constructor
  · intro h
    obtain ⟨p, hp, decoded⟩ := Option.bind_eq_some_iff.mp h
    obtain ⟨bytes, found, read⟩ := Option.bind_eq_some_iff.mp decoded
    obtain ⟨value, hvalue, rfl⟩ := Option.map_eq_some_iff.mp read
    obtain ⟨mem, rfl⟩ := parameter?_eq_some_iff.mp hp
    exact ⟨p, mem, rfl, bytes, value, found, (value?_eq_some_iff mem).mp hvalue, rfl⟩
  · rintro ⟨p, mem, rfl, bytes, value, found, measured, rfl⟩
    have hvalue := (value?_eq_some_iff mem).mpr measured
    rw [decode?, parameter?_of_mem mem, Option.bind_some, Parameter.decode?, found,
      Option.bind_some, Parameter.reading?, hvalue, Option.map_some]

/-- A set that is not empty is that of the four bytes of an answer. -/
theorem ofAnswer_isEmpty_eq_false_iff {answer : String} :
    (Supported.ofAnswer answer).isEmpty = false ↔
      ∃ bytes, bytesAfter? Supported.marker 4 answer.toList = some bytes ∧
        (Supported.ofBytes bytes).isEmpty = false := by
  unfold Supported.ofAnswer
  cases bytesAfter? Supported.marker 4 answer.toList with
  | none => simp [show Supported.none.isEmpty = true by decide]
  | some bytes => simp

/-- What is read from an answer, whatever its text: a reading if and only if its parameter is in the
catalog and the answer tells its bytes, with the value that these mean, and supported parameters if
and only if the answer tells a mask that is not empty. Bytes are told in pairs of digits; where there
is a plus sign in the answer, a plus sign and one digit are a pair too. -/
theorem read_only_from_pairs (pid : Pid) (answer : String) (signed : Bool)
    (signs : '+' ∈ answer.toList → signed = true) :
    (∀ r, decode? pid answer = some r ↔ ∃ p ∈ catalog, p.pid = pid ∧ ∃ bytes value,
      Tells signed (echo pid) p.formula.byteCount answer.toList bytes ∧
      Measures pid bytes value ∧ r = ⟨pid, p.label, p.unit, value, bytes⟩) ∧
    ((Supported.ofAnswer answer).isEmpty = false ↔
      ∃ bytes, Tells signed Supported.marker 4 answer.toList bytes ∧
        (Supported.ofBytes bytes).isEmpty = false) := by
  simp only [← bytesAfter?_eq_some_iff signs]
  exact ⟨fun _ => decode?_eq_some_iff, ofAnswer_isEmpty_eq_false_iff⟩

/-- A speed that is read from a plus sign and one digit, though no line holds two digits behind the
echo, and the same speed from two digits. -/
theorem read_from_plus_sign :
    ('+' ∈ "410D+A".toList → true = true) ∧ ('+' ∈ "41 0d 0a".toList → false = true) ∧
      decode? 0x0D "410D+A" = some ⟨0x0D, "Vehicle Speed", "km/h", Float.ofNat 10, [0x0A]⟩ ∧
      (∃ bytes, Tells true (echo 0x0D) 1 "410D+A".toList bytes) ∧
      (∃ bytes, Tells false (echo 0x0D) 1 "41 0d 0a".toList bytes) ∧
      ∀ line ∈ compactLines "410D+A".toList, ∀ bytes,
        ¬ (bytes.length = 1 ∧ Holds false (echo 0x0D) line bytes) := by
  have told (text : String) (signed : Bool) (signs : '+' ∈ text.toList → signed = true)
      (found : (decode? 0x0D text).isSome = true) :
      ∃ bytes, Tells signed (echo 0x0D) 1 text.toList bytes := by
    obtain ⟨r, hr⟩ := Option.isSome_iff_exists.mp found
    obtain ⟨p, mem, hpid, bytes, -, tells, -⟩ :=
      ((read_only_from_pairs 0x0D text signed signs).1 r).mp hr
    have hp : parameter? 0x0D = some p := parameter?_eq_some_iff.mpr ⟨mem, hpid⟩
    have count : (parameter? 0x0D).map (·.formula.byteCount) = some 1 := rfl
    rw [hp] at count
    exact ⟨bytes, Option.some.inj count ▸ tells⟩
  refine ⟨fun _ => rfl, by decide, by rfl, told _ true (fun _ => rfl) (by rfl),
    told _ false (by decide) (by rfl), ?_⟩
  intro line hline bytes
  have lines : compactLines "410D+A".toList = ["410D+A".toList] := by decide +kernel
  rw [lines, List.mem_singleton] at hline
  subst hline
  rintro ⟨length, front, written, rest, hfront, first, pairs⟩
  -- the pair behind the echo is the plus sign and the digit
  have behind : afterFirst? (echo 0x0D) "410D+A".toList = some ['+', 'A'] := by decide +kernel
  rw [hfront, first.afterFirst?] at behind
  cases pairs with
  | nil => cases length
  | cons pair _ =>
    obtain ⟨rfl, -⟩ := List.cons.inj (Option.some.inj behind)
    cases pair with
    | digits ha _ => cases ha
    | sign taken _ => cases taken

end ScanTool.Live
