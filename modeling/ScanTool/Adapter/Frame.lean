import ScanTool.Text.Blank
import ScanTool.Text.Hex
import ScanTool.Text.Octets

/-!
# Frames

An adapter answers in lines of hexadecimal digits, with or without blanks between them and with or
without bus headers before them. A line is compacted first; data is then found behind a marker, the
echo of the request. `bytesAfter?` looks for the marker anywhere in a line. `payload?` is stricter:
the marker stands at the beginning of the line or behind a bus header of one of three shapes.
-/

namespace ScanTool.Frame

open ScanTool.Text

/-- A line without its blanks, with ASCII letters in upper case. -/
def compact (line : List Char) : List Char := asciiUpper (line.filter fun c => !isBlank c)

/-- The lines of an answer, compacted; empty ones are left out. -/
def compactLines (answer : List Char) : List (List Char) :=
  ((lines answer).map compact).filter fun line => !line.isEmpty

/-- The bytes behind the first occurrence of `marker` in the first line where `count` bytes can be
read there. -/
def bytesAfter? (marker : List Char) (count : Nat) (answer : List Char) : Option (List UInt8) :=
  (compactLines answer).findSome? fun line => (afterFirst? marker line).bind (bytesOfPairs? count)

/-- Whether a line opens with an eleven-bit identifier of a control unit, `7E8` to `7EF`. -/
def hasShortId : List Char → Bool
  | '7' :: 'E' :: c :: _ => ('8' ≤ c && c ≤ '9') || ('A' ≤ c && c ≤ 'F')
  | _ => false

/-- The opening of a twenty-nine-bit identifier that addresses the tester. -/
def longId : List Char := ['1', '8', 'D', 'A', 'F', '1']

/-- Whether a line opens with a twenty-nine-bit identifier. -/
def hasLongId (line : List Char) : Bool := longId.isPrefixOf line

/-- What follows `marker` after a header of `octets` octets. -/
def afterHeader? (octets : Nat) (marker line : List Char) : Option (List Char) :=
  (dropOctets? octets line).bind (after? marker)

/-- What follows `marker` after a header of priority, target and source, without the checksum at
the end. The three bytes of the header must be digits. -/
def afterCheckedHeader? (marker line : List Char) : Option (List Char) :=
  if (line.take 6).length = 6 ∧ (line.take 6).all isHexDigit then
    (after? marker (line.drop 6)).bind (dropLastOctets? 2)
  else none

/-- The data of one compacted line: what follows `marker` at the beginning of the line, behind an
eleven-bit identifier and a length, behind a twenty-nine-bit identifier and a length, or behind a
header of three bytes whose frame ends in a checksum. The shapes are tried in this order. -/
def payload? (marker line : List Char) : Option (List Char) :=
  match after? marker line with
  | some data => some data
  | none =>
    match if hasShortId line then afterHeader? 5 marker line else none with
    | some data => some data
    | none =>
      match if hasLongId line then afterHeader? 10 marker line else none with
      | some data => some data
      | none => afterCheckedHeader? marker line

/-- The data of every line that carries `marker`, in order. -/
def payloads (marker answer : List Char) : List (List Char) :=
  (compactLines answer).filterMap (payload? marker)

end ScanTool.Frame
