import ScanTool.Decimal.Binary

/-!
# Two decimal places

The value of a reading is shown with two decimals, rounded correctly from the exact binary value; a
tie goes to the even neighbour. The sign is kept even where the value rounds to zero.
-/

namespace ScanTool.Decimal

/-- A number of hundredths with two decimals. -/
def hundredths (n : Nat) : List Char :=
  Nat.toDigits 10 (n / 100) ++ '.' :: Nat.toDigits 10 (n / 10 % 10) ++ Nat.toDigits 10 (n % 10)

/-- A sign in front of the digits of a negative number. -/
def signed (negative : Bool) (digits : List Char) : List Char :=
  if negative then '-' :: digits else digits

/-- A double with two decimals. -/
def twoPlaces (x : Float) : String :=
  match shape x with
  | .nan => "NaN"
  | .infinite negative => String.ofList (signed negative ['i', 'n', 'f'])
  | .finite negative significand exponent =>
    let (num, den) := quotient significand exponent
    String.ofList (signed negative (hundredths (roundQuotient (100 * num) den)))

/-- The integer that a double is, if it is one. -/
def integer? (x : Float) : Option Int :=
  match shape x with
  | .finite negative significand exponent =>
    let (num, den) := quotient significand exponent
    if num % den = 0 then some (if negative then -(num / den : Int) else (num / den : Int))
    else none
  | _ => none

/-- An integer brought into the range of signed 64-bit integers. -/
def clamp64 (n : Int) : Int := max (-(twoTo 63 : Int)) (min n ((twoTo 63 : Int) - 1))

end ScanTool.Decimal
