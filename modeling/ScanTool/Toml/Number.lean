import ScanTool.Json.Value
import ScanTool.Power
import ScanTool.Text.Hex

/-!
# Numbers in TOML

Integers are written in decimal with a sign, or without one in hexadecimal, octal or binary, and fit
a signed 64-bit word. Other numbers are doubles, rounded correctly; one that is too large is
refused, unless it is negative. An underscore may stand between two digits.
-/

namespace ScanTool.Toml

open ScanTool.Text

/-- The digits of a run of digits and underscores, in which each underscore stands between two
digits. -/
def digitRun (isDigit : Char → Bool) (afterDigit : Bool) : List Char → Option (List Char)
  | [] => if afterDigit then some [] else none
  | c :: cs =>
    if isDigit c then (digitRun isDigit true cs).map (c :: ·)
    else if c = '_' ∧ afterDigit then digitRun isDigit false cs
    else none

/-- The number that digits write in a base. -/
def numberOf (base : Nat) (digits : List Char) : Nat :=
  digits.foldl (fun n c => base * n + (hexValue? c).getD 0) 0

/-- A sign at the beginning of a text: whether it is a minus, and what follows. -/
def takeSign : List Char → Bool × List Char
  | '-' :: rest => (true, rest)
  | '+' :: rest => (false, rest)
  | cs => (false, cs)

/-- A run of decimal digits that does not begin with a needless zero. -/
def wholeDigits? (cs : List Char) : Option (List Char) :=
  (digitRun Char.isDigit false cs).bind fun digits =>
    if digits.length = 1 ∨ digits.head? ≠ some '0' then some digits else none

/-- Whether a number fits a signed 64-bit word. -/
def fitsWord (n : Int) : Bool := -(twoTo 63 : Int) ≤ n && n < (twoTo 63 : Int)

/-- An integer that fits a signed 64-bit word. -/
def wordJson? (n : Int) : Option Json := if fitsWord n then some (.int n) else none

/-- An integer that is a whole text. -/
def integer? : List Char → Option Json
  | '0' :: 'x' :: rest =>
    (digitRun isHexDigit false rest).bind fun digits => wordJson? (numberOf 16 digits)
  | '0' :: 'o' :: rest =>
    (digitRun (fun c => '0' ≤ c && c ≤ '7') false rest).bind fun digits => wordJson? (numberOf 8 digits)
  | '0' :: 'b' :: rest =>
    (digitRun (fun c => c == '0' || c == '1') false rest).bind fun digits => wordJson? (numberOf 2 digits)
  | cs =>
    let (negative, cs) := takeSign cs
    (wholeDigits? cs).bind fun digits =>
      let n : Int := numberOf 10 digits
      wordJson? (if negative then -n else n)

/-- The double nearest to `digits * 10 ^ power`. Beyond the range of doubles it is zero or
infinite, which is found from the number of digits alone. -/
def nearest (digits : List Char) (power : Int) : Float :=
  let n := numberOf 10 digits
  let size : Int := (Nat.toDigits 10 n).length + power
  if n = 0 ∨ size < -400 then 0
  else if 400 < size then Float.ofBits 0x7FF0000000000000
  else Float.ofScientific n (power < 0) power.natAbs

/-- The power of ten after the `e` of a double. -/
def power? (cs : List Char) : Option Int :=
  let (negative, cs) := takeSign cs
  (digitRun Char.isDigit false cs).map fun digits =>
    let n : Int := numberOf 10 digits
    if negative then -n else n

/-- A double of its parts: the digits before the point, those after it if there is a point, and the
power of ten if there is one. -/
def ofParts? (negative : Bool) (whole : List Char) (decimals : Option (List Char))
    (power : Option (List Char)) : Option Json :=
  if decimals = none ∧ power = none then none
  else
    match wholeDigits? whole, decimals.map (digitRun Char.isDigit false), power.map power? with
    | some _, some none, _ => none
    | some _, _, some none => none
    | some whole, decimals, power =>
      let decimals := (decimals.bind id).getD []
      let power : Int := (power.bind id).getD 0
      let x := nearest (whole ++ decimals) (power - decimals.length)
      if negative then some (.real (-x)) else if x.isInf then none else some (.real x)
    | none, _, _ => none

/-- A double that is a whole text. -/
def real? (cs : List Char) : Option Json :=
  let (negative, cs) := takeSign cs
  if cs = ['i', 'n', 'f'] then
    some (.real (Float.ofBits (if negative then 0xFFF0000000000000 else 0x7FF0000000000000)))
  else if cs = ['n', 'a', 'n'] then some (.real (Float.ofBits 0x7FF8000000000000))
  else
    let isE := fun c => c == 'e' || c == 'E'
    let mantissa := cs.takeWhile fun c => !isE c
    let power := match cs.dropWhile fun c => !isE c with
      | _ :: rest => some rest
      | [] => none
    let whole := mantissa.takeWhile (· != '.')
    let decimals := match mantissa.dropWhile (· != '.') with
      | _ :: rest => some rest
      | [] => none
    ofParts? negative whole decimals power

end ScanTool.Toml
