/-!
# JSON values

Table files, configuration files and printed results are JSON. The members of an object are a list
in written order; `canonical` gives the form in which the members of every object are in ascending
order of their names and of two members with one name the later one has won.
-/

namespace ScanTool

/-- A JSON value. Numbers are kept apart by how they are written: integers that fit 64 bits, and
all others as doubles. -/
inductive Json where
  /-- The value `null`. -/
  | null
  /-- A truth value. -/
  | bool (value : Bool)
  /-- An integer that fits a signed or an unsigned 64-bit word. -/
  | int (value : Int)
  /-- Any other number. -/
  | real (value : Float)
  /-- A string. -/
  | text (value : String)
  /-- An array. -/
  | list (items : List Json)
  /-- An object: its members in order. -/
  | object (members : List (String × Json))
  deriving Inhabited

/-- Puts a binding into a list in ascending order of names, in place of an earlier one for the same
name. -/
def putSorted {α : Type} (name : String) (value : α) : List (String × α) → List (String × α)
  | [] => [(name, value)]
  | (k, v) :: rest =>
    if name < k then (name, value) :: (k, v) :: rest
    else if name = k then (name, value) :: rest
    else (k, v) :: putSorted name value rest

/-- Bindings without those of a name. -/
def removeBinding {α : Type} (name : String) (bindings : List (String × α)) : List (String × α) :=
  bindings.filter (·.1 != name)

/-- Bindings in ascending order of names; the last one for a name counts. -/
def sortBindings {α : Type} (bindings : List (String × α)) : List (String × α) :=
  bindings.foldl (fun sorted b => putSorted b.1 b.2 sorted) []

namespace Json

mutual

/-- A value with the members of every object sorted and of two members with one name the later. -/
def canonical : Json → Json
  | .list items => .list (canonicalItems items)
  | .object members => .object (sortBindings (canonicalMembers members))
  | v => v

/-- The items of an array, each in canonical form. -/
def canonicalItems : List Json → List Json
  | [] => []
  | v :: rest => canonical v :: canonicalItems rest

/-- The members of an object, each in canonical form. -/
def canonicalMembers : List (String × Json) → List (String × Json)
  | [] => []
  | (k, v) :: rest => (k, canonical v) :: canonicalMembers rest

end

/-- A member of an object, by name. -/
def field? (v : Json) (name : String) : Option Json :=
  match v with
  | .object members => members.lookup name
  | _ => none

end Json

end ScanTool
