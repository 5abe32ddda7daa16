import ScanTool.Power

/-!
# Binary floating-point numbers as integers

A finite double is a sign and `significand * 2 ^ exponent`. Everything that is written about a
double is computed from these two integers, so no rounding happens on the way.
-/

namespace ScanTool.Decimal

/-- What a double is. -/
inductive Shape where
  /-- Not a number. -/
  | nan
  /-- An infinity. -/
  | infinite (negative : Bool)
  /-- The number `significand * 2 ^ exponent`, with its sign; zero has a sign too. -/
  | finite (negative : Bool) (significand : Nat) (exponent : Int)
  deriving DecidableEq, Repr

/-- The double with these 64 bits: sign, eleven bits of exponent, fifty-two of fraction. -/
def shapeOfBits (bits : Nat) : Shape :=
  let negative := bits / twoTo 63 % 2 == 1
  let biased := bits / twoTo 52 % twoTo 11
  let fraction := bits % twoTo 52
  if biased = 2047 then if fraction = 0 then .infinite negative else .nan
  else if biased = 0 then .finite negative fraction (-1074)
  else .finite negative (twoTo 52 + fraction) (Int.ofNat biased - 1075)

/-- What a double is. -/
def shape (x : Float) : Shape := shapeOfBits x.toBits.toNat

/-- The number `significand * 2 ^ exponent` as a quotient of naturals. -/
def quotient (significand : Nat) (exponent : Int) : Nat × Nat :=
  if 0 ≤ exponent then (significand * twoTo exponent.toNat, 1)
  else (significand, twoTo (-exponent).toNat)

/-- The quotient rounded to the nearest natural; a tie goes to the even neighbour. -/
def roundQuotient (num den : Nat) : Nat :=
  let low := num / den
  let rest := 2 * (num % den)
  if rest < den then low
  else if den < rest then low + 1
  else if low % 2 = 0 then low
  else low + 1

end ScanTool.Decimal
