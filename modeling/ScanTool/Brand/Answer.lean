import ScanTool.Adapter.Frame
import ScanTool.Trouble.Table

/-!
# Answers to brand requests

Brands answer in their own ways, so the reading is approximate. An answer with blanks inside a line
is read word by word: after two words of header the others are taken in pairs. An answer without is
read frame by frame: after the echo and the identifier the digits are taken in fours. An incomplete
last group is dropped either way, and a group with anything but digits in it is skipped.
-/

namespace ScanTool.Brand

open ScanTool.Text
open Trouble (CodeTable TroubleCode)

/-- The description of a code that the brand's table lacks. -/
def unknownCode : String := "Unknown code"

/-- The number of words before the codes of a spaced answer. -/
def headerWords : Nat := 2

/-- The echo that opens a positive answer. -/
def positiveMarker : List Char := ['6', '2']

/-- The number of digits of the identifier after the echo. -/
def identifierDigits : Nat := 4

/-- The code of some digits. -/
def codeOf (digits : List Char) : String := String.ofList ('P' :: asciiUpper digits)

/-- Whether some line of an answer holds more than one word. -/
def isSpaced (answer : List Char) : Bool := (lines answer).any fun line => 2 ≤ (words line).length

/-- The last digits, four at the most, of two words, if they hold nothing but digits. -/
def pairDigits? (pair : List Char × List Char) : Option (List Char) :=
  let digits := pair.1 ++ pair.2
  if digits.all isHexDigit then some (digits.drop (digits.length - 4)) else none

/-- The groups of digits of a spaced answer. -/
def spacedGroups (answer : List Char) : List (List Char) :=
  (pairs ((words answer).drop headerWords)).filterMap pairDigits?

/-- Four octets, if all of them are digits. -/
def cellDigits? (group : List (Option Char)) : Option (List Char) :=
  (group.mapM id).bind fun digits => if digits.all isHexDigit then some digits else none

/-- The groups of digits of one frame. -/
def frameGroups (data : List Char) : List (List Char) :=
  match dropOctets? identifierDigits data with
  | none => []
  | some codes => (quads (cells codes)).filterMap cellDigits?

/-- The groups of digits of an answer without blanks inside its lines. -/
def compactGroups (answer : List Char) : List (List Char) :=
  (Frame.payloads positiveMarker answer).flatMap frameGroups

/-- The codes of an answer. -/
def codes (answer : String) : List String :=
  let cs := answer.toList
  (if isSpaced cs then spacedGroups cs else compactGroups cs).map codeOf

/-- The codes of an answer with their descriptions. -/
def describe (table : CodeTable) (answer : String) : List TroubleCode :=
  (codes answer).map (table.label unknownCode)

theorem map_code_describe (table : CodeTable) (answer : String) :
    (describe table answer).map (·.code) = codes answer := by
  rw [describe, List.map_map]
  exact List.map_id _

end ScanTool.Brand
