/-!
# Hexadecimal digits

Digits are read in either case and written in upper case.
-/

namespace ScanTool.Text

/-- The value of a hexadecimal digit. -/
def hexValue? (c : Char) : Option Nat :=
  if '0' ≤ c ∧ c ≤ '9' then some (c.toNat - '0'.toNat)
  else if 'a' ≤ c ∧ c ≤ 'f' then some (c.toNat - 'a'.toNat + 10)
  else if 'A' ≤ c ∧ c ≤ 'F' then some (c.toNat - 'A'.toNat + 10)
  else none

/-- Whether a character is a hexadecimal digit. -/
def isHexDigit (c : Char) : Bool := (hexValue? c).isSome

/-- The digit of a value below sixteen, in upper case. -/
def hexDigit (n : Nat) : Char :=
  if n < 10 then Char.ofNat ('0'.toNat + n) else Char.ofNat ('A'.toNat + (n - 10))

/-- The two digits of a byte. -/
def hexPair (b : UInt8) : List Char := [hexDigit (b.toNat / 16), hexDigit (b.toNat % 16)]

/-- The byte written by two characters: two digits, or a plus sign and one digit. -/
def byteOfPair? (a b : Char) : Option UInt8 :=
  match hexValue? a, hexValue? b with
  | some x, some y => some (UInt8.ofNat (16 * x + y))
  | none, some y => if a = '+' then some (UInt8.ofNat y) else none
  | _, none => none

/-- The first `count` bytes of a text written as pairs of characters. -/
def bytesOfPairs? : Nat → List Char → Option (List UInt8)
  | 0, _ => some []
  | n + 1, a :: b :: rest =>
    match byteOfPair? a b with
    | some x => (bytesOfPairs? n rest).map (x :: ·)
    | none => none
  | _ + 1, _ => none

/-- A code point in lower-case hexadecimal, without leading zeros. -/
def hexNumber (n : Nat) : List Char := Nat.toDigits 16 n

end ScanTool.Text
