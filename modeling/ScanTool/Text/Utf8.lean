/-!
# Reading UTF-8 with replacement

What arrives on a serial line need not be valid UTF-8. It is read all the same: each longest run of
bytes that begins a character and does not complete it becomes one replacement character, and so
does each byte that cannot begin one. The machine holds the character under way as the bits read so
far, the continuation bytes still owed, and the range in which the next of them must lie.
-/

namespace ScanTool.Text

/-- Where the reader stands between two bytes. -/
inductive Utf8State where
  /-- Between characters. -/
  | start
  /-- Inside a character: the bits read, the bytes owed after the next one, and the least and the
  greatest value of the next byte. -/
  | inside (bits owed low high : Nat)
  deriving DecidableEq, Repr

/-- The character that stands for bytes that are not UTF-8. -/
def replacement : Char := '\uFFFD'

/-- The state after the first byte of a character, with the characters that it completes. -/
def utf8First (b : Nat) : List Char × Utf8State :=
  if b < 0x80 then ([Char.ofNat b], .start)
  else if 0xC2 ≤ b ∧ b ≤ 0xDF then ([], .inside (b - 0xC0) 0 0x80 0xBF)
  else if b = 0xE0 then ([], .inside 0 1 0xA0 0xBF)
  else if b = 0xED then ([], .inside 0xD 1 0x80 0x9F)
  else if 0xE1 ≤ b ∧ b ≤ 0xEF then ([], .inside (b - 0xE0) 1 0x80 0xBF)
  else if b = 0xF0 then ([], .inside 0 2 0x90 0xBF)
  else if 0xF1 ≤ b ∧ b ≤ 0xF3 then ([], .inside (b - 0xF0) 2 0x80 0xBF)
  else if b = 0xF4 then ([], .inside 4 2 0x80 0x8F)
  else ([replacement], .start)

/-- One byte: the characters that it completes, and the state after it. A byte that does not
continue the character under way ends it and is read again as a first byte. -/
def utf8Step : Utf8State → Nat → List Char × Utf8State
  | .start, b => utf8First b
  | .inside bits owed low high, b =>
    if low ≤ b ∧ b ≤ high then
      let bits' := bits * 64 + (b - 0x80)
      match owed with
      | 0 => ([Char.ofNat bits'], .start)
      | n + 1 => ([], .inside bits' n 0x80 0xBF)
    else
      let (cs, s) := utf8First b
      (replacement :: cs, s)

/-- The characters read from the bytes that follow a state. -/
def utf8Run : Utf8State → List UInt8 → List Char
  | .start, [] => []
  | .inside .., [] => [replacement]
  | s, b :: bs =>
    let (cs, s') := utf8Step s b.toNat
    cs ++ utf8Run s' bs

/-- The text read from a run of bytes, with replacement. -/
def utf8Lossy (bytes : List UInt8) : String := String.ofList (utf8Run .start bytes)

end ScanTool.Text
