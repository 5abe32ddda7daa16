import ScanTool.Decimal.Shortest
import ScanTool.Settings.Layer

/-!
# Values of settings

A setting can be written as a value of another type if that stands for one of its own: a number as a
string, a string as a number. The settings of a group can also be given as a list, in order.
-/

namespace ScanTool.Settings

open ScanTool.Text

/-- The greatest number of an unsigned 64-bit word. -/
def largest : Nat := twoTo 64 - 1

/-- The natural nearest to a double, within the range of 64 bits; a half is rounded up. What is
below zero or no number counts as zero. -/
def nearestNat (x : Float) : Nat :=
  match Decimal.shape x with
  | .finite false significand exponent =>
    let n :=
      if 0 ≤ exponent then significand * twoTo exponent.toNat
      else (2 * significand + twoTo exponent.natAbs) / twoTo (exponent.natAbs + 1)
    min n largest
  | .infinite false => largest
  | _ => 0

/-- The natural that a text stands for: a truth value in words, or decimal digits with or without a
plus sign. -/
def natOfText? (s : String) : Option Nat :=
  let word := lowercase s
  if ["true", "on", "yes"].contains word then some 1
  else if ["false", "off", "no"].contains word then some 0
  else
    match s.toList with
    | '+' :: digits => SettingsPath.decimal? digits
    | digits => SettingsPath.decimal? digits

/-- A value as the layers keep it: an integer beyond the signed 64-bit words is the double nearest to
it. -/
def narrow : Json → Json
  | .int n => if n < (twoTo 63 : Int) then .int n else .real (Float.ofInt n)
  | v => v

/-- The natural that a value stands for. -/
def natOf? (v : Json) : Option Nat :=
  match narrow v with
  | .int n => if 0 ≤ n then some n.toNat else none
  | .real x => some (nearestNat x)
  | .bool b => some b.toNat
  | .text s => natOfText? s
  | _ => none

/-- The text that a value stands for. -/
def textOf? (v : Json) : Option String :=
  match narrow v with
  | .text s => some s
  | .bool b => some (toString b)
  | .int n => some (toString n)
  | .real x => some (Decimal.plainText x)
  | _ => none

/-- A way to read the value of a setting, given its name. -/
abbrev Read (α : Type) := String → Json → Except SettingsError α

/-- A natural below a bound. -/
def natural (bound : Nat) : Read Nat := fun name v =>
  match natOf? v with
  | some n => if n < bound then .ok n else .error (.wrongType name)
  | none => .error (.wrongType name)

/-- A text. -/
def text : Read String := fun name v =>
  match textOf? v with
  | some s => .ok s
  | none => .error (.wrongType name)

/-- A setting that may be left empty. -/
def optional {α : Type} (read : Read α) : Read (Option α) := fun name v =>
  match v with
  | .null => .ok none
  | v => (read name v).map some

/-- One of several choices: its name in any case, as a string or as the only name of an object. -/
def choice {α : Type} (choices : List α) (nameOf : α → String) : Read α := fun name v =>
  let word :=
    match v with
    | .text s => some s
    | .object [(s, _)] => some s
    | _ => none
  match word.bind fun s => choices.find? fun c => lowercase (nameOf c) == lowercase s with
  | some c => .ok c
  | none => .error (.wrongShape name)

/-- Bindings of names to texts. -/
def texts : List (String × Json) → Except SettingsError (List (String × String))
  | [] => .ok []
  | (name, v) :: rest => do
    let s ← text name v
    let others ← texts rest
    return (name, s) :: others

/-- A group of settings under free names. -/
def namedTexts : Read (List (String × String)) := fun name v =>
  match v with
  | .object members => texts members
  | _ => .error (.wrongShape name)

/-- A setting of a group, if it is there: the value under its name, or the item at its position if
the group is a list. -/
def setting {α : Type} (group : Json) (position : Nat) (name : String) (read : Read α) :
    Except SettingsError (Option α) :=
  let v :=
    match group with
    | .list items => items[position]?
    | v => v.field? name
  match v with
  | none => .ok none
  | some v => (read name v).map some

/-- A setting that must be there. -/
def need {α : Type} (name : String) : Option α → Except SettingsError α
  | some a => .ok a
  | none => .error (.absent name)

/-- Whether a value is a group of settings. -/
def isGroup : Json → Bool
  | .object _ => true
  | .list _ => true
  | _ => false

end ScanTool.Settings
