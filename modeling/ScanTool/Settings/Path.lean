import ScanTool.Power
import ScanTool.Settings.Overlay
import ScanTool.Text.Blank

/-!
# Paths of settings

The names at the top of a layer can be paths: names after dots, and positions in square brackets.
Setting a path makes the objects and arrays on the way, in place of anything else that stands there.
A name that cannot be read as a path stands for itself. As everywhere in a layer, the case of names
does not count.
-/

namespace ScanTool

open ScanTool.Text

/-- One step of a path. -/
inductive PathStep where
  /-- To a member of an object. -/
  | member (name : String)
  /-- To an item of an array; a negative position counts from the end. -/
  | item (position : Int)
  deriving DecidableEq, Repr

namespace SettingsPath

/-- Whether a character can stand in a name on a path. -/
def isNameChar (c : Char) : Bool := c.isAlphanum || c == ' ' || c == '_' || c == '-'

/-- The natural that decimal digits write. -/
def decimal? (cs : List Char) : Option Nat :=
  if cs.isEmpty || !cs.all Char.isDigit then none
  else some (cs.foldl (fun n c => 10 * n + (c.toNat - '0'.toNat)) 0)

/-- A text without the spaces and tabs at either end. -/
def trimSpaces (cs : List Char) : List Char :=
  let isGap := fun c => c == ' ' || c == '\t'
  ((cs.dropWhile isGap).reverse.dropWhile isGap).reverse

/-- A position, written between the brackets. It fits a signed 64-bit word. -/
def position? (cs : List Char) : Option Int :=
  match trimSpaces cs with
  | '-' :: digits => (decimal? digits).bind fun n => if n ≤ twoTo 63 then some (-(n : Int)) else none
  | digits => (decimal? digits).bind fun n => if n < twoTo 63 then some (n : Int) else none

/-- The steps of a path. Each of them takes at least one character, which bounds their number. -/
def steps? : (fuel : Nat) → List Char → Option (List PathStep)
  | _, [] => some []
  | 0, _ => none
  | fuel + 1, '.' :: rest =>
    let name := rest.takeWhile isNameChar
    if name.isEmpty then none
    else (steps? fuel (rest.dropWhile isNameChar)).map (.member (String.ofList name) :: ·)
  | fuel + 1, '[' :: rest =>
    match rest.dropWhile (· != ']') with
    | [] => none
    | _ :: after =>
      match position? (rest.takeWhile (· != ']')) with
      | none => none
      | some n => (steps? fuel after).map (.item n :: ·)
  | _ + 1, _ => none

/-- The path that a name stands for. -/
def ofName (name : String) : List PathStep :=
  let cs := name.toList
  (steps? (cs.length + 1) ('.' :: cs)).getD [.member name]

/-- An array made to have an item at a position, and the place of that item. What is missing on the
way is null: after the last item, or before the first one if the position counts from the end. -/
def reach (position : Int) (items : List Json) : List Json × Nat :=
  if 0 ≤ position then
    (items ++ List.replicate (position.toNat + 1 - items.length) Json.null, position.toNat)
  else
    (List.replicate (position.natAbs - items.length) Json.null ++ items,
      items.length - position.natAbs)

/-- Lays a value over what stands at the end of a path. The names on the path are put into lower
case, and an item of an array is replaced. -/
def layAt (value : Json) : List PathStep → Json → Json
  | [], _ => value
  | [.member name], v =>
    let key := lowercase name
    v.set key (value.layOver (v.field? key))
  | .member name :: rest, v =>
    let key := lowercase name
    v.set key (layAt value rest ((v.field? key).getD .null))
  | .item position :: rest, v =>
    let (items, place) := reach position v.items
    .list (items.set place (layAt value rest (items[place]?.getD Json.null)))

end SettingsPath

/-- A layer laid over an object, given the names at the top of the layer and their values. -/
def Json.layPaths (layer : List (String × Json)) (base : Json) : Json :=
  layer.foldl (fun v m => SettingsPath.layAt m.2 (SettingsPath.ofName m.1) v) base

end ScanTool
