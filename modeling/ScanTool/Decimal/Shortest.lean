import ScanTool.Decimal.Binary
import ScanTool.Decimal.Fixed

/-!
# The fewest digits that read back

A double is written with the fewest decimal digits from which it is read back, and among these with
the ones nearest to it. The reals that round to a double form an interval around it, which includes
its ends if the significand is even. For one digit, two digits and so on the two neighbours of the
value on that decimal grid are tried against the interval, in integer arithmetic; seventeen digits
always suffice. Where the value lies halfway between two neighbours that both read back, it is for
the format to say which one is taken.
-/

namespace ScanTool.Decimal

/-- Digits and a power of ten: `coefficient * 10 ^ exponent`. -/
structure Digits where
  /-- The digits, as a natural without trailing zeros unless it is zero. -/
  coefficient : Nat
  /-- The power of ten of the last digit. -/
  exponent : Int
  deriving DecidableEq, Repr

/-- Which of two neighbours on a decimal grid is taken where they are equally near. -/
inductive Tie where
  /-- The one whose last digit is even. -/
  | even
  /-- The greater one. -/
  | up
  deriving DecidableEq, Repr

/-- Whether the lower of two equally near neighbours is taken. -/
def Tie.takesLower (tie : Tie) (low : Nat) : Bool :=
  match tie with
  | .even => low % 2 == 0
  | .up => false

/-- The value, and the ends of the interval of reals that round to it, over one denominator. -/
structure Rounding where
  /-- The lower end of the interval. -/
  low : Nat
  /-- The value. -/
  value : Nat
  /-- The upper end of the interval. -/
  high : Nat
  /-- The common denominator. -/
  den : Nat
  /-- Whether the ends belong to the interval. -/
  closed : Bool

/-- The interval of a positive double. Below a power of two the doubles are twice as dense, so there
the lower end is nearer. -/
def Rounding.of (significand : Nat) (exponent : Int) : Rounding :=
  let below := if significand = twoTo 52 ∧ -1074 < exponent then 1 else 2
  let (value, den) := quotient (4 * significand) exponent
  let unit := if 0 ≤ exponent then twoTo exponent.toNat else 1
  ⟨value - below * unit, value, value + 2 * unit, 4 * den, significand % 2 == 0⟩

/-- Whether `c * 10 ^ e` lies in the interval. -/
def Rounding.has (r : Rounding) (c : Nat) (e : Int) : Bool :=
  let n := if 0 ≤ e then c * tenTo e.toNat * r.den else c * r.den
  let s := if 0 ≤ e then 1 else tenTo (-e).toNat
  if r.closed then r.low * s ≤ n && n ≤ r.high * s
  else r.low * s < n && n < r.high * s

/-- Twice the distance from the value to `c * 10 ^ e`, in a unit that depends on `e` alone. -/
def Rounding.offset (r : Rounding) (c : Nat) (e : Int) : Nat :=
  let n := if 0 ≤ e then c * tenTo e.toNat * r.den else c * r.den
  let v := if 0 ≤ e then r.value else r.value * tenTo (-e).toNat
  if n ≤ v then v - n else n - v

/-- The largest multiple of `10 ^ e` that is not above the value, as a multiple. -/
def Rounding.floor (r : Rounding) (e : Int) : Nat :=
  if 0 ≤ e then r.value / (tenTo e.toNat * r.den)
  else r.value * tenTo (-e).toNat / r.den

/-- The exponent of the value's first decimal digit. -/
def Rounding.magnitude (r : Rounding) : Int :=
  let guess : Int := (Nat.toDigits 10 r.value).length - (Nat.toDigits 10 r.den).length
  if r.floor guess = 0 then guess - 1 else guess

/-- The grid's point in the interval that is nearest to the value, if there is one. -/
def Rounding.pick? (r : Rounding) (tie : Tie) (e : Int) : Option Nat :=
  let low := r.floor e
  match r.has low e, r.has (low + 1) e with
  | true, true =>
    let a := r.offset low e
    let b := r.offset (low + 1) e
    some (if a < b ∨ (a = b ∧ tie.takesLower low) then low else low + 1)
  | true, false => some low
  | false, true => some (low + 1)
  | false, false => none

/-- Tries grids of more and more digits, the first digit standing at `10 ^ top`. -/
def Rounding.search (r : Rounding) (tie : Tie) (top : Int) : List Nat → Digits
  | [] => ⟨r.floor (top - 16), top - 16⟩
  | n :: more =>
    match r.pick? tie (top - n) with
    | some c => ⟨c, top - n⟩
    | none => r.search tie top more

/-- The same number without trailing zeros among the digits. -/
def Digits.strip (fuel : Nat) (d : Digits) : Digits :=
  match fuel with
  | 0 => d
  | fuel + 1 =>
    if d.coefficient ≠ 0 ∧ d.coefficient % 10 = 0 then
      Digits.strip fuel ⟨d.coefficient / 10, d.exponent + 1⟩
    else d

/-- The fewest digits from which a positive double is read back. -/
def shortest (tie : Tie) (significand : Nat) (exponent : Int) : Digits :=
  let r := Rounding.of significand exponent
  (r.search tie r.magnitude (List.range 17)).strip 20

/-- Digits in positional notation, with `least` places after the point at the least. -/
def Digits.positional (d : Digits) (least : Nat) : List Char :=
  let digits := Nat.toDigits 10 d.coefficient
  if 0 ≤ d.exponent then
    digits ++ List.replicate d.exponent.toNat '0'
      ++ (if least = 0 then [] else '.' :: List.replicate least '0')
  else
    let places := (-d.exponent).toNat
    let padded := List.replicate (places + 1 - digits.length) '0' ++ digits
    padded.take (padded.length - places) ++ '.' :: padded.drop (padded.length - places)

/-- Digits in scientific notation: one digit before the point, the sign of the exponent always. -/
def Digits.scientific (d : Digits) : List Char :=
  let digits := Nat.toDigits 10 d.coefficient
  let power : Int := d.exponent + digits.length - 1
  let fraction := digits.drop 1
  digits.take 1 ++ (if fraction.isEmpty then [] else '.' :: fraction)
    ++ 'e' :: (if power < 0 then '-' else '+') :: Nat.toDigits 10 power.natAbs

/-- A double in positional notation without needless places, however long. Of two equally near
decimals it is the one further from zero. -/
def plainText (x : Float) : String :=
  match shape x with
  | .nan => "NaN"
  | .infinite negative => String.ofList (signed negative ['i', 'n', 'f'])
  | .finite negative significand exponent =>
    let digits :=
      if significand = 0 then ['0'] else (shortest .up significand exponent).positional 0
    String.ofList (signed negative digits)

end ScanTool.Decimal
