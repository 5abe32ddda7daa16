import ScanTool.Files.Basic
import ScanTool.Json.Printer
import ScanTool.Json.Reader
import ScanTool.Trouble.Standard

/-!
# Table files

A code table is kept in a JSON file, either as an object of codes and descriptions or as such an
object under the name `codes`. A description that is not a string stands for its JSON text. An entry
for a code named `codes` is told from the nested layout by not being an object.
-/

namespace ScanTool

open Trouble (CodeTable)

/-- Why a table file gives no table. -/
inductive TableError where
  /-- The file cannot be read. -/
  | unreadable (path : String) (fault : FileFault)
  /-- The file is not JSON. -/
  | malformed (path : String)
  /-- The file holds something other than an object. -/
  | notAnObject (path : String)
  deriving DecidableEq, Repr, Inhabited

/-- The wording of a failure. -/
def TableError.message : TableError → String
  | unreadable path fault => "Cannot read code table " ++ path ++ ": " ++ fault.message
  | malformed path => "Invalid code table " ++ path
  | notAnObject path => "Code table " ++ path ++ " is not an object"

namespace Trouble.CodeTable

/-- The description that a value stands for. -/
def descriptionOf : Json → String
  | .text s => s
  | v => v.compact

/-- The entries among the members of an object: those under `codes` if an object stands there, and
all members otherwise. What stands under `codes` is taken out to be looked at, and put back in order
if it is no object. -/
def membersOf (members : List (String × Json)) : List (String × Json) :=
  let others := removeBinding "codes" members
  match members.lookup "codes" with
  | some (.object codes) => codes
  | some value => putSorted "codes" value others
  | none => others

/-- The table that a JSON value in canonical form describes, if it is an object. -/
def ofJson? : Json → Option CodeTable
  | .object members => some (.ofList ((membersOf members).map fun m => (m.1, descriptionOf m.2)))
  | _ => none

/-- The JSON value of a table. -/
def toJson (t : CodeTable) : Json := .object (t.entries.map fun e => (e.1, .text e.2))

/-- The entries of a flat JSON object of strings. -/
def entriesOf? : List (String × Json) → Option (List (String × String))
  | [] => some []
  | (code, .text description) :: rest => (entriesOf? rest).map ((code, description) :: ·)
  | _ => none

/-- The table of a JSON text that holds one flat object of strings. -/
def ofText? (text : String) : Option CodeTable :=
  match Json.read? text with
  | some (.object members) => (entriesOf? members).map .ofList
  | _ => none

/-- The table in a file. -/
def ofFile (files : Files) (path : String) : Except TableError CodeTable :=
  match files.read path with
  | .error fault => .error (.unreadable path fault)
  | .ok text =>
    match Json.read? text with
    | none => .error (.malformed path)
    | some v =>
      match ofJson? v.canonical with
      | none => .error (.notAnObject path)
      | some table => .ok table

/-- The built-in table, with the entries of a file added if one is given. -/
def extended (files : Files) : Option String → Except TableError CodeTable
  | none => .ok standard
  | some path => (ofFile files path).map standard.merge

end Trouble.CodeTable

end ScanTool
