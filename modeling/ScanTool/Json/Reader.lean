import ScanTool.Json.Token

/-!
# Reading JSON

Tokens are taken one at a time by a machine that holds the open containers. At most 127 of them may
be open at once; nothing may follow the value.
-/

namespace ScanTool.Json

/-- An open container, waiting for a value. -/
inductive Frame where
  /-- An array: its items so far, in reverse. -/
  | list (items : List Json)
  /-- An object: its members so far, in reverse, and the name of the value awaited. -/
  | object (members : List (String × Json)) (name : String)

/-- What may come next. Every state but the last holds the containers around it. -/
inductive State where
  /-- A value. -/
  | value (stack : List Frame)
  /-- The first item of an array, or its end. -/
  | listStart (stack : List Frame)
  /-- A comma or the end of an array. -/
  | listNext (stack : List Frame) (items : List Json)
  /-- The first name of an object, or its end. -/
  | objectStart (stack : List Frame)
  /-- The next name of an object. -/
  | name (stack : List Frame) (members : List (String × Json))
  /-- The colon after a name. -/
  | colon (stack : List Frame) (members : List (String × Json)) (name : String)
  /-- A comma or the end of an object. -/
  | objectNext (stack : List Frame) (members : List (String × Json))
  /-- Nothing: the value is complete. -/
  | complete (value : Json)

/-- The most containers that may be open at once. -/
def depthLimit : Nat := 127

/-- Gives a completed value to the innermost open container. -/
def deliver (stack : List Frame) (v : Json) : State :=
  match stack with
  | [] => .complete v
  | .list items :: outer => .listNext outer (v :: items)
  | .object members name :: outer => .objectNext outer ((name, v) :: members)

/-- A token where a value is awaited. -/
def takeValue (stack : List Frame) : Token → Option State
  | .scalar v => some (deliver stack v)
  | .openList => if stack.length < depthLimit then some (.listStart stack) else none
  | .openObject => if stack.length < depthLimit then some (.objectStart stack) else none
  | _ => none

/-- One token. -/
def State.take : State → Token → Option State
  | .value stack, t => takeValue stack t
  | .listStart stack, .closeList => some (deliver stack (.list []))
  | .listStart stack, t => takeValue (.list [] :: stack) t
  | .listNext stack items, .comma => some (.value (.list items :: stack))
  | .listNext stack items, .closeList => some (deliver stack (.list items.reverse))
  | .objectStart stack, .closeObject => some (deliver stack (.object []))
  | .objectStart stack, .scalar (.text k) => some (.colon stack [] k)
  | .name stack members, .scalar (.text k) => some (.colon stack members k)
  | .colon stack members k, .colon => some (.value (.object members k :: stack))
  | .objectNext stack members, .comma => some (.name stack members)
  | .objectNext stack members, .closeObject => some (deliver stack (.object members.reverse))
  | _, _ => none

/-- The state after a run of tokens. -/
def State.run (s : State) : List Token → Option State
  | [] => some s
  | t :: ts =>
    match s.take t with
    | none => none
    | some s' => s'.run ts

/-- The value that tokens write. -/
def ofTokens? (ts : List Token) : Option Json :=
  match State.run (.value []) ts with
  | some (.complete v) => some v
  | _ => none

/-- Reads a JSON text, with the members of each object in written order. -/
def read? (s : String) : Option Json := (tokens? s.toList).bind ofTokens?

end ScanTool.Json
