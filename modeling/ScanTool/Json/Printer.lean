import ScanTool.Json.Value
import ScanTool.Text.Hex
import ScanTool.Decimal.Shortest

/-!
# Writing JSON

A value is written in one line without blanks, or over several lines with two blanks of indentation
per level. Only quotes, backslashes and control characters are escaped in strings. Doubles have the
fewest digits that read back: in positional notation with at least one decimal from `0.00001` up to
below ten to the sixteenth, and in scientific notation outside; of two equally near decimals the one
with an even last digit is written. What is not a number is `null`.
-/

namespace ScanTool.Json

open ScanTool.Decimal (shape shortest signed)
open ScanTool.Text (hexDigit)

/-- The written form of one character of a string. -/
def escapeChar (c : Char) : List Char :=
  if c = '"' then ['\\', '"']
  else if c = '\\' then ['\\', '\\']
  else if c = '\x08' then ['\\', 'b']
  else if c = '\x0c' then ['\\', 'f']
  else if c = '\n' then ['\\', 'n']
  else if c = '\r' then ['\\', 'r']
  else if c = '\t' then ['\\', 't']
  else if c.toNat < 0x20 then
    ['\\', 'u', '0', '0', Nat.digitChar (c.toNat / 16), Nat.digitChar (c.toNat % 16)]
  else [c]

/-- A string in quotes. -/
def writeText (s : String) : List Char := '"' :: s.toList.flatMap escapeChar ++ ['"']

/-- A double. -/
def writeReal (x : Float) : List Char :=
  match shape x with
  | .finite negative significand exponent =>
    if significand = 0 then signed negative ['0', '.', '0']
    else
      let d := shortest .even significand exponent
      let power : Int := d.exponent + (Nat.toDigits 10 d.coefficient).length - 1
      signed negative (if -5 ≤ power ∧ power < 16 then d.positional 1 else d.scientific)
  | _ => "null".toList

/-- An integer. -/
def writeInt (n : Int) : List Char := signed (n < 0) (Nat.toDigits 10 n.natAbs)

/-- A value that holds no other. -/
def writeScalar : Json → List Char
  | .null => "null".toList
  | .bool true => "true".toList
  | .bool false => "false".toList
  | .int n => writeInt n
  | .real x => writeReal x
  | .text s => writeText s
  | .list _ => []
  | .object _ => []

mutual

/-- A value in one line. -/
def write : Json → List Char
  | .list items => '[' :: writeItems true items ++ [']']
  | .object members => '\x7b' :: writeMembers true members ++ ['\x7d']
  | v => writeScalar v

/-- The items of an array, with a comma before each but the first. -/
def writeItems (first : Bool) : List Json → List Char
  | [] => []
  | v :: rest => (if first then [] else [',']) ++ write v ++ writeItems false rest

/-- The members of an object, with a comma before each but the first. -/
def writeMembers (first : Bool) : List (String × Json) → List Char
  | [] => []
  | (k, v) :: rest =>
    (if first then [] else [',']) ++ writeText k ++ ':' :: write v ++ writeMembers false rest

end

/-- A new line, indented to a level. -/
def newLine (level : Nat) : List Char := '\n' :: List.replicate (2 * level) ' '

mutual

/-- A value over several lines, at a level of indentation. -/
def writeTall (level : Nat) : Json → List Char
  | .list [] => ['[', ']']
  | .list (v :: rest) =>
    '[' :: writeTallItems (level + 1) true (v :: rest) ++ newLine level ++ [']']
  | .object [] => ['\x7b', '\x7d']
  | .object (m :: rest) =>
    '\x7b' :: writeTallMembers (level + 1) true (m :: rest) ++ newLine level ++ ['\x7d']
  | v => writeScalar v

/-- The items of an array, each on a line of its own. -/
def writeTallItems (level : Nat) (first : Bool) : List Json → List Char
  | [] => []
  | v :: rest =>
    (if first then [] else [',']) ++ newLine level ++ writeTall level v
      ++ writeTallItems level false rest

/-- The members of an object, each on a line of its own. -/
def writeTallMembers (level : Nat) (first : Bool) : List (String × Json) → List Char
  | [] => []
  | (k, v) :: rest =>
    (if first then [] else [',']) ++ newLine level ++ writeText k ++ ':' :: ' ' :: writeTall level v
      ++ writeTallMembers level false rest

end

/-- A value in one line. -/
def compact (v : Json) : String := String.ofList (write v)

/-- A value over several lines. -/
def pretty (v : Json) : String := String.ofList (writeTall 0 v)

end ScanTool.Json
