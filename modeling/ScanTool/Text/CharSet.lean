/-!
# Sets of characters

A property of characters is held as the closed ranges of code points that have it, in ascending
order. Membership walks the ranges, so that a statement about a property is a statement about a
list.
-/

namespace ScanTool.Text

/-- A set of characters: closed ranges of code points. -/
abbrev CharSet := List (Nat × Nat)

/-- Whether a code point lies in one of the ranges. -/
def CharSet.hasCode (s : CharSet) (n : Nat) : Bool :=
  s.any fun r => r.1 ≤ n && n ≤ r.2

/-- Whether a character lies in one of the ranges. -/
def CharSet.has (s : CharSet) (c : Char) : Bool := s.hasCode c.toNat

end ScanTool.Text
