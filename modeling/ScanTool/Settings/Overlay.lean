import ScanTool.Json.Value
import ScanTool.Text.Casing

/-!
# Layers of settings

Settings come in layers, each an object, and a later layer is laid over an earlier one. Two objects
are joined member by member; anything else takes the place of what was there. Names of members are
put into lower case on the way, so a layer can spell them in any case. An object without members
laid over something that is no object leaves that as it was.
-/

namespace ScanTool

open ScanTool.Text

/-- Binds a name, in the place of an earlier binding of it. -/
def setBinding {α : Type} (name : String) (value : α) : List (String × α) → List (String × α)
  | [] => [(name, value)]
  | (k, v) :: rest => if k = name then (k, value) :: rest else (k, v) :: setBinding name value rest

namespace Json

/-- The members of an object; nothing else has any. -/
def members : Json → List (String × Json)
  | .object members => members
  | _ => []

/-- The items of an array; nothing else has any. -/
def items : Json → List Json
  | .list items => items
  | _ => []

/-- An object with a member set. What is no object becomes one. -/
def set (v : Json) (name : String) (x : Json) : Json := .object (setBinding name x v.members)

mutual

/-- A value laid over another one, or over nothing. -/
def layOver : Json → Option Json → Json
  | .object members, base => layMembers members (base.getD (.object []))
  | v, _ => v

/-- Members laid over a value one after the other. -/
def layMembers : List (String × Json) → Json → Json
  | [], base => base
  | (name, v) :: rest, base =>
    let key := lowercase name
    layMembers rest (base.set key (layOver v (base.field? key)))

end

end Json

end ScanTool
