import ScanTool.Adapter.Frame
import ScanTool.Trouble.Table

/-!
# Stored codes

The answer to a request for stored codes carries the marker `43` on each of its lines. The data of
all lines is glued together and then cut into groups of four octets, so that a code may span two
lines; an incomplete last group is dropped, and a group that is no code is skipped without shifting
the others.
-/

namespace ScanTool.Trouble

open ScanTool.Text

/-- The request for stored codes. -/
def readCommand : String := "03"

/-- The request to erase stored codes. -/
def clearCommand : String := "04"

/-- The echo that opens every line with stored codes. -/
def storedMarker : List Char := ['4', '3']

/-- The description of a stored code that no table has. -/
def unrecognized : String := "Unrecognized / manufacturer-specific code"

/-- The data of all lines of an answer, one after the other. -/
def storedPayload (answer : List Char) : List Char := (Frame.payloads storedMarker answer).flatten

/-- The code that four octets stand for. -/
def decodeCells? (group : List (Option Char)) : Option (List Char) :=
  (group.mapM id).bind decodeGroup?

/-- The codes in a text of groups of four octets. -/
def decodeGroups (payload : List Char) : List (List Char) :=
  (quads (cells payload)).filterMap decodeCells?

/-- The stored codes of an answer, in the order in which they were sent. -/
def storedCodes (answer : String) : List String :=
  (decodeGroups (storedPayload answer.toList)).map String.ofList

/-- The stored codes of an answer with their descriptions. -/
def describeStored (table : CodeTable) (answer : String) : List TroubleCode :=
  (storedCodes answer).map (table.label unrecognized)

/-- The words that confirm that codes were erased. -/
def clearedWords : List (List Char) := [['O', 'K'], ['C', 'L', 'E', 'A', 'R', 'E', 'D']]

/-- Whether an answer confirms that codes were erased, in any case of its ASCII letters. -/
def confirmsClear (answer : String) : Bool :=
  clearedWords.any fun word => occursIn word (asciiUpper answer.toList)

end ScanTool.Trouble
