import ScanTool.Json.Value
import ScanTool.Power

/-!
# Reading JSON numbers

An integer that fits 64 bits is kept as it is; every other number becomes a double. The double is
made from the leading digits that fit an unsigned 64-bit word and a power of ten by one
multiplication or division, or, far below one, by several divisions. A number too large for a double
is refused.
-/

namespace ScanTool.Json

/-- The parts of a written number. -/
structure Numeral where
  /-- Whether it starts with a minus sign. -/
  negative : Bool
  /-- The digits before the point. -/
  whole : List Char
  /-- The digits after the point, if there is a point. -/
  fraction : Option (List Char)
  /-- Whether the exponent is negative, and its digits, if there is an exponent. -/
  power : Option (Bool × List Char)

/-- The parts of a number: no leading zeros, and at least one digit in each part. -/
def Numeral.of? (cs : List Char) : Option Numeral :=
  let (negative, cs) := match cs with
    | '-' :: rest => (true, rest)
    | _ => (false, cs)
  let whole := cs.takeWhile Char.isDigit
  let cs := cs.dropWhile Char.isDigit
  if whole = [] ∨ (whole.head? = some '0' ∧ whole.length ≠ 1) then none
  else
    let (fraction, cs) : Option (List Char) × List Char := match cs with
      | '.' :: rest => (some (rest.takeWhile Char.isDigit), rest.dropWhile Char.isDigit)
      | _ => (none, cs)
    let (power, cs) : Option (Bool × List Char) × List Char := match cs with
      | e :: rest =>
        if e = 'e' ∨ e = 'E' then
          match rest with
          | '-' :: ds => (some (true, ds.takeWhile Char.isDigit), ds.dropWhile Char.isDigit)
          | '+' :: ds => (some (false, ds.takeWhile Char.isDigit), ds.dropWhile Char.isDigit)
          | ds => (some (false, ds.takeWhile Char.isDigit), ds.dropWhile Char.isDigit)
        else (none, cs)
      | [] => (none, cs)
    if fraction = some [] ∨ power.map (·.2) = some [] ∨ cs ≠ [] then none
    else some ⟨negative, whole, fraction, power⟩

/-- The value of a run of decimal digits. -/
def digitsValue (cs : List Char) : Nat :=
  cs.foldl (fun n c => 10 * n + (c.toNat - '0'.toNat)) 0

/-- The largest value of a significand. -/
def wordLimit : Nat := twoTo 64 - 1

/-- Takes leading digits into a significand while it fits a word: the significand, and the digits
that are left. -/
def takeDigits (n : Nat) : List Char → Nat × List Char
  | [] => (n, [])
  | c :: cs =>
    let n' := 10 * n + (c.toNat - '0'.toNat)
    if n' ≤ wordLimit then takeDigits n' cs else (n, c :: cs)

/-- A power of ten as a double, rounded to nearest. -/
def powerOfTen (n : Nat) : Float := Float.ofScientific 1 false n

/-- `x / 10 ^ n`, in steps of at most 308 powers. -/
def scaleDown (fuel : Nat) (x : Float) (n : Nat) : Float :=
  match fuel with
  | 0 => 0
  | fuel + 1 => if n ≤ 308 then x / powerOfTen n else scaleDown fuel (x / powerOfTen 308) (n - 308)

/-- The double made from a significand and a power of ten, unless it is too large. -/
def scale? (significand : Nat) (power : Int) : Option Float :=
  let x := (UInt64.ofNat significand).toFloat
  if significand = 0 then some 0
  else if power < 0 then some (scaleDown 4 x power.natAbs)
  else if 308 < power then none
  else
    let y := x * powerOfTen power.toNat
    if y.isInf then none else some y

/-- The value of a number, unless it is too large for a double. -/
def Numeral.value? (n : Numeral) : Option Json :=
  let (significand, dropped) := takeDigits 0 n.whole
  if n.fraction = none ∧ n.power = none ∧ dropped = [] then
    if !n.negative then some (.int significand)
    else if 0 < significand ∧ significand ≤ twoTo 63 then some (.int (-(significand : Int)))
    else some (.real (-((UInt64.ofNat significand).toFloat)))
  else
    let fraction := n.fraction.getD []
    let (significand, left) := takeDigits significand fraction
    let written : Int := match n.power with
      | none => 0
      | some (negative, digits) =>
        if negative then -(digitsValue digits : Int) else (digitsValue digits : Int)
    let power : Int := dropped.length - (fraction.length - left.length : Nat) + written
    (scale? significand power).map fun x => .real (if n.negative then -x else x)

/-- Reads a number. -/
def number? (cs : List Char) : Option Json := (Numeral.of? cs).bind Numeral.value?

end ScanTool.Json
