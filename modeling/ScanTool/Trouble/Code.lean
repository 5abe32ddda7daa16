import ScanTool.Text.Hex

/-!
# Trouble codes

A stored code travels as four hexadecimal digits. The two high bits of the first digit choose the
system, powertrain, chassis, body or network; its two low bits are the first digit of the code; the
other three digits are copied. Four zeros are padding and no code.
-/

namespace ScanTool.Trouble

open ScanTool.Text

/-- A code with its description. -/
structure TroubleCode where
  /-- The code, such as `P0301`. -/
  code : String
  /-- What it means. -/
  description : String
  deriving DecidableEq, Repr, Inhabited

/-- The letter of the system that the first digit of a group names. -/
def systemLetter (digit : Nat) : Char :=
  match digit / 4 with
  | 0 => 'P'
  | 1 => 'C'
  | 2 => 'B'
  | _ => 'U'

/-- The code that a group of four digits stands for. Anything but four digits gives none, and so
does padding. -/
def decodeGroup? : List Char → Option (List Char)
  | [a, b, c, d] =>
    if [a, b, c, d].all isHexDigit && [a, b, c, d] != ['0', '0', '0', '0'] then
      (hexValue? a).map fun first =>
        systemLetter first :: hexDigit (first % 4) :: [b, c, d].map Char.toUpper
    else none
  | _ => none

end ScanTool.Trouble
