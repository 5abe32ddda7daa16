import ScanTool.Brand.Answer
import ScanTool.Live.Supported
import ScanTool.Proofs.OctetPlaces
import ScanTool.Trouble.Stored

/-!
# Reading with operations that can fault

The readers of answers are total. Here they are written once more, from operations that are only
defined where their arguments allow it: an element is looked up by its place, a part of a text is
cut out between two places that are counted in octets, a length is computed no further than lengths
are counted, and less is taken from a length than it has. Each of these ends in a fault where it is
not defined, and a fault ends the reading.
-/

namespace ScanTool.Strict

open ScanTool.Text

/-- Why an operation is not defined. -/
inductive Fault where
  /-- A place lies beyond the end. -/
  | beyond
  /-- A cut falls inside a character. -/
  | inside
  /-- A length lies below zero or beyond the greatest that is counted. -/
  | length
  deriving DecidableEq, Repr

/-! ## Operations -/

section operations

variable {α β : Type}

/-- The element at a place of a list. -/
def item (xs : List α) (place : Nat) : Except Fault α :=
  match xs[place]? with
  | some x => .ok x
  | none => .error .beyond

/-- The elements of a list from a place on. -/
def itemsFrom (place : Nat) (xs : List α) : Except Fault (List α) :=
  if place ≤ xs.length then .ok (xs.drop place) else .error .beyond

/-- The part of a text from octet `start` up to octet `stop`. -/
def slice (start stop : Nat) (cs : List Char) : Except Fault (List Char) :=
  if start ≤ stop ∧ stop ≤ octetCount cs then
    match between? start stop cs with
    | some part => .ok part
    | none => .error .inside
  else .error .beyond

/-- Whether a length is counted. There may be a greatest length that is. -/
def Fits (limit : Option Nat) (length : Nat) : Prop := ∀ greatest ∈ limit, length ≤ greatest

instance (limit : Option Nat) (length : Nat) : Decidable (Fits limit length) :=
  inferInstanceAs (Decidable (∀ greatest ∈ limit, length ≤ greatest))

/-- A length that was computed. -/
def counted (limit : Option Nat) (length : Nat) : Except Fault Nat :=
  if Fits limit length then .ok length else .error .length

/-- A length less another one. -/
def less (length part : Nat) : Except Fault Nat :=
  if part ≤ length then .ok (length - part) else .error .length

/-- What a step makes of the elements of a list, where it makes something of them. -/
def select (f : α → Except Fault (Option β)) (xs : List α) : Except Fault (List β) := do
  let found ← xs.mapM f
  return found.filterMap id

/-- What a step makes of the elements of a list, if it makes something of each. It goes no further
than to the first of which it makes nothing. -/
def collect? (f : α → Except Fault (Option β)) : List α → Except Fault (Option (List β))
  | [] => return some []
  | x :: xs => do
    match ← f x with
    | none => return none
    | some y =>
      let ys ← collect? f xs
      return ys.map (y :: ·)

end operations

/-! ## Frames -/

/-- Whether a line opens with an identifier of eleven bits: its first three octets begin with `7E`,
and the last of them is looked up. -/
def hasShortId (line : List Char) : Except Fault Bool :=
  match takeOctets? 3 line with
  | none => return false
  | some id =>
    if ['7', 'E'].isPrefixOf id then do
      let octet ← item (cells id) 2
      return octet.any fun c => ('8' ≤ c && c ≤ '9') || ('A' ≤ c && c ≤ 'F')
    else return false

/-- The data without its checksum, if it has one. -/
def withoutChecksum? (data : List Char) : Except Fault (Option (List Char)) :=
  if octetCount data < 2 then return none
  else do
    let size ← less (octetCount data) 2
    return takeOctets? size data

/-- The data behind a header of three bytes, without the checksum. -/
def afterCheckedHeader? (marker line : List Char) : Except Fault (Option (List Char)) :=
  match takeOctets? 6 line with
  | none => return none
  | some header =>
    if (cells header).all fun octet => octet.any isHexDigit then
      match Frame.afterHeader? 6 marker line with
      | none => return none
      | some data => withoutChecksum? data
    else return none

/-- The data of one compacted line. -/
def payload? (marker line : List Char) : Except Fault (Option (List Char)) :=
  match after? marker line with
  | some data => return some data
  | none => do
    let short ← hasShortId line
    match if short then Frame.afterHeader? 5 marker line else none with
    | some data => return some data
    | none =>
      match if Frame.hasLongId line then Frame.afterHeader? 10 marker line else none with
      | some data => return some data
      | none => afterCheckedHeader? marker line

/-- The data of every line that carries the marker. -/
def payloads (marker answer : List Char) : Except Fault (List (List Char)) :=
  select (payload? marker) (Frame.compactLines answer)

/-! ## Bytes behind a marker -/

/-- The number of octets before the first occurrence of `part`. -/
def place? (part : List Char) : List Char → Option Nat
  | [] => if part.isEmpty then some 0 else none
  | c :: cs => if part.isPrefixOf (c :: cs) then some 0 else (place? part cs).map (c.utf8Size + ·)

/-- The byte that a text of two characters writes. -/
def byteOf? : List Char → Option UInt8
  | [a, b] => byteOfPair? a b
  | _ => none

/-- The byte that is written from a place on. -/
def byteAt? (limit : Option Nat) (digits : List Char) (place : Nat) :
    Except Fault (Option UInt8) := do
  let stop ← counted limit (place + 2)
  let pair ← slice place stop digits
  return byteOf? pair

/-- The bytes of a text of an even number of ASCII characters, from every second place on. -/
def bytesOf? (limit : Option Nat) (digits : List Char) : Except Fault (Option (List UInt8)) :=
  if octetCount digits % 2 = 0 ∧ digits.all fun c => c.utf8Size == 1 then
    collect? (byteAt? limit digits) (List.range' 0 ((octetCount digits + 1) / 2) 2)
  else return none

/-- The bytes behind the first occurrence of a marker on a line. -/
def bytesOn? (limit : Option Nat) (marker : List Char) (count : Nat) (line : List Char) :
    Except Fault (Option (List UInt8)) :=
  match place? marker line with
  | none => return none
  | some place => do
    let start ← counted limit (place + octetCount marker)
    let width ← counted limit (2 * count)
    let stop ← counted limit (start + width)
    match between? start stop line with
    | none => return none
    | some digits => bytesOf? limit digits

/-- The bytes behind the first occurrence of a marker in the first line where they can be read. -/
def bytesAfter? (limit : Option Nat) (marker : List Char) (count : Nat) (answer : List Char) :
    Except Fault (Option (List UInt8)) :=
  (Frame.compactLines answer).findSomeM? (bytesOn? limit marker count)

/-! ## Stored codes -/

/-- The letters of the systems. -/
def systemLetters : List Char := ['P', 'C', 'B', 'U']

/-- The code that a group of four digits stands for. -/
def decodeGroup? (group : List Char) : Except Fault (Option (List Char)) :=
  if octetCount group = 4 ∧ group.all isHexDigit ∧ group ≠ ['0', '0', '0', '0'] then
    match group.head?.bind hexValue? with
    | none => return none
    | some first => do
      let letter ← item systemLetters (first / 4)
      let rest ← slice 1 (octetCount group) group
      return some (letter :: hexDigit (first % 4) :: asciiUpper rest)
  else return none

/-- The code of a group of four octets, counted from the beginning. -/
def codeAt? (limit : Option Nat) (payload : List Char) (group : Nat) :
    Except Fault (Option (List Char)) := do
  let start ← counted limit (4 * group)
  let stop ← counted limit (start + 4)
  match between? start stop payload with
  | none => return none
  | some digits => decodeGroup? digits

/-- The stored codes of an answer. -/
def storedCodes (limit : Option Nat) (answer : String) : Except Fault (List String) := do
  let data ← payloads Trouble.storedMarker answer.toList
  let codes ← select (codeAt? limit data.flatten) (List.range (octetCount data.flatten / 4))
  return codes.map String.ofList

/-! ## Live values -/

open Live (Formula Parameter Pid Reading Supported)

/-- The number of data bytes that is asked for, beside the number of each parameter. It is written down
apart from the formulas. -/
def byteCounts : List (Pid × Nat) := [
  (0x0C, 2), (0x0D, 1), (0x05, 1), (0x11, 1), (0x0F, 1), (0x10, 2), (0x0A, 1), (0x14, 1), (0x04, 1),
  (0x06, 1), (0x07, 1), (0x0B, 1)]

/-- The number of data bytes that is asked for to read a parameter. -/
def byteCount (pid : Pid) : Nat := (byteCounts.lookup pid).getD 0

/-- The value that a formula makes of bytes that are looked up by their places. -/
def value (bytes : List UInt8) : Formula → Except Fault Float
  | .ofByte value => do
    let a ← item bytes 0
    return value a
  | .ofWord value => do
    let a ← item bytes 0
    let b ← item bytes 1
    return value a b

/-- The reading of the parameter of a number in an answer. -/
def decode? (limit : Option Nat) (pid : Pid) (answer : String) : Except Fault (Option Reading) :=
  match Live.parameter? pid with
  | none => return none
  | some p => do
    match ← bytesAfter? limit (Live.echo p.pid) (byteCount p.pid) answer.toList with
    | none => return none
    | some bytes =>
      let value ← value bytes p.formula
      return some ⟨p.pid, p.label, p.unit, value, bytes⟩

/-- The set of supported parameters in an answer. -/
def supported (limit : Option Nat) (answer : String) : Except Fault Supported := do
  match ← bytesAfter? limit Supported.marker 4 answer.toList with
  | none => return .none
  | some bytes =>
    let a ← item bytes 0
    let b ← item bytes 1
    let c ← item bytes 2
    let d ← item bytes 3
    return .ofBytes [a, b, c, d]

/-! ## Brand answers -/

/-- The last digits, four at the most, of two words. -/
def pairDigits? (pair : List Char × List Char) : Except Fault (Option (List Char)) :=
  let digits := pair.1 ++ pair.2
  if digits.all isHexDigit then do
    let low ← slice (octetCount digits - 4) (octetCount digits) digits
    return some low
  else return none

/-- The groups of digits of a spaced answer. -/
def spacedGroups (answer : List Char) : Except Fault (List (List Char)) :=
  if (words answer).length ≤ Brand.headerWords then return []
  else do
    let rest ← itemsFrom Brand.headerWords (words answer)
    select pairDigits? (pairs rest)

/-- The groups of digits of an answer without blanks inside its lines. -/
def compactGroups (answer : List Char) : Except Fault (List (List Char)) := do
  let frames ← payloads Brand.positiveMarker answer
  return frames.flatMap Brand.frameGroups

/-- The codes of a brand answer with their descriptions. -/
def describe (table : Trouble.CodeTable) (answer : String) :
    Except Fault (List Trouble.TroubleCode) := do
  let cs := answer.toList
  let groups ← if Brand.isSpaced cs then spacedGroups cs else compactGroups cs
  return (groups.map Brand.codeOf).map (table.label Brand.unknownCode)

end ScanTool.Strict
