import ScanTool.Json.Value
import ScanTool.Toml.Moment

/-!
# Tables in TOML

The tables of a document while it is being read. A table remembers how it came to be, because a
table that has been written out under its own header can neither be written again nor be extended
by dotted names, one that was made by dotted names can be extended by these alone, and one in braces
cannot be extended at all. What a document describes is settled when all of it has been read: a
table is an object, except that one whose first name is `momentName` is the moment that the string
under this name writes.
-/

namespace ScanTool.Toml

/-- How a table came to be. -/
inductive Origin where
  /-- It has a header of its own, or it is the whole document. -/
  | written
  /-- It was named on the way to another table. -/
  | implied
  /-- It was named on the way to a value. -/
  | dotted
  /-- It is written in braces. -/
  | braces
  deriving DecidableEq, Repr

/-- What stands under a name. -/
inductive Node where
  /-- A value without parts. -/
  | leaf (value : Json)
  /-- A date, a time of day or both, in the written form. -/
  | moment (written : List Char)
  /-- An array. -/
  | list (items : List Node)
  /-- A table. -/
  | table (origin : Origin) (members : List (String × Node))
  /-- A series of tables under one name: those that are complete, and the last one. -/
  | series (earlier : List Node) (members : List (String × Node))
  deriving Inhabited

/-- The members of a table. -/
abbrev Members := List (String × Node)

/-- The name under which a table writes a moment. -/
def momentName : String := "$__toml_private_datetime"

/-- The moment that a string writes. -/
def Node.stringMoment? : Node → Option Json
  | .leaf (.text s) => (moment? .inString s.toList).map fun written => .text (String.ofList written)
  | _ => none

mutual

/-- The value of a node. -/
def Node.value? : Node → Option Json
  | .leaf value => some value
  | .moment written => some (.text (String.ofList written))
  | .list items => (itemValues? items).map .list
  | .table _ members => tableValue? members
  | .series earlier members => do
    let values ← itemValues? earlier
    let last ← tableValue? members
    return .list (values ++ [last])

/-- The values of the items of an array. -/
def itemValues? : List Node → Option (List Json)
  | [] => some []
  | node :: rest => do
    let value ← node.value?
    let values ← itemValues? rest
    return value :: values

/-- The value of a table. What follows the name of a moment does not count. -/
def tableValue? : List (String × Node) → Option Json
  | [] => some (.object [])
  | (name, node) :: rest =>
    if name = momentName then node.stringMoment?
    else do
      let value ← node.value?
      let others ← memberValues? rest
      return .object ((name, value) :: others)

/-- The members of a table as members of an object. -/
def memberValues? : List (String × Node) → Option (List (String × Json))
  | [] => some []
  | (name, node) :: rest => do
    let value ← node.value?
    let others ← memberValues? rest
    return (name, value) :: others

end

/-- Changes what stands under a name, or puts something there. -/
def alter (change : Option Node → Option Node) (name : String) : Members → Option Members
  | [] => (change none).map fun node => [(name, node)]
  | (k, node) :: rest =>
    if k = name then (change (some node)).map fun node => (k, node) :: rest
    else (alter change name rest).map ((k, node) :: ·)

/-- Does `work` in the table at the end of a path, given how that table came to be. Tables that are
missing are made with the origin `missing`. Dotted names do not lead into a table with a header, and
nothing leads into a table in braces. A series leads to its last table. -/
def within (missing : Origin) (work : Origin → Members → Option Members) :
    List String → Origin → Members → Option Members
  | [], origin, members => work origin members
  | name :: path, _, members =>
    alter (fun
      | none => (within missing work path missing []).map (.table missing)
      | some (.table origin members) =>
        if origin = .braces ∨ (missing = .dotted ∧ origin = .written) then none
        else (within missing work path origin members).map (.table origin)
      | some (.series earlier members) =>
        (within missing work path .written members).map (.series earlier)
      | some _ => none) name members

/-- Puts a node under a name of a table that is written out; `isDotted` says whether dotted names
have led there, which must be how the table came to be. -/
def place (isDotted : Bool) (name : String) (node : Node) (origin : Origin) (members : Members) :
    Option Members :=
  if isDotted = (origin == .dotted) then
    alter (fun before => if before.isNone then some node else none) name members
  else none

/-- Puts a node under a dotted name. -/
def assign (parents : List String) (name : String) (node : Node) (origin : Origin)
    (members : Members) : Option Members :=
  within .dotted (place (!parents.isEmpty) name node) parents origin members

/-- Opens a table under a name by a header. It may have been named before, by headers alone; then it
moves to the end, because a table stands where its own header stands. -/
def openTable (name : String) (_ : Origin) (members : Members) : Option Members :=
  match members.lookup name with
  | none => some (members ++ [(name, .table .written [])])
  | some (.table .implied inner) =>
    some (members.filter (fun m => m.1 ≠ name) ++ [(name, .table .written inner)])
  | some _ => none

/-- Opens one more table of a series under a name. -/
def openSeries (name : String) (_ : Origin) (members : Members) : Option Members :=
  alter (fun
    | none => some (.series [] [])
    | some (.series earlier last) => some (.series (earlier ++ [.table .written last]) [])
    | some _ => none) name members

end ScanTool.Toml
