/-!
# Cutting a text by octets

Frame layouts count octets of the UTF-8 form: an identifier takes three, a checksum two. A cut that
would fall inside a character is refused. `cells` shows a text octet by octet, with the octets of
characters outside ASCII left opaque, which is all a reader of hex digits needs to know of them.
-/

namespace ScanTool.Text

/-- The number of octets of a text in UTF-8. -/
def octetCount : List Char → Nat
  | [] => 0
  | c :: cs => c.utf8Size + octetCount cs

/-- What follows the first `n` octets, if the text has as many and the cut falls between
characters. -/
def dropOctets? : Nat → List Char → Option (List Char)
  | n, [] => if n = 0 then some [] else none
  | n, c :: cs =>
    if n = 0 then some (c :: cs)
    else if c.utf8Size ≤ n then dropOctets? (n - c.utf8Size) cs
    else none

/-- The first `n` octets, if the text has as many and the cut falls between characters. -/
def takeOctets? : Nat → List Char → Option (List Char)
  | n, [] => if n = 0 then some [] else none
  | n, c :: cs =>
    if n = 0 then some []
    else if c.utf8Size ≤ n then (takeOctets? (n - c.utf8Size) cs).map (c :: ·)
    else none

/-- A text without its last `n` octets, if it has as many and the cut falls between characters. -/
def dropLastOctets? (n : Nat) (cs : List Char) : Option (List Char) :=
  if n ≤ octetCount cs then takeOctets? (octetCount cs - n) cs else none

/-- The octets of a text: an ASCII character is its own octet, the octets of any other character
are opaque. -/
def cells (cs : List Char) : List (Option Char) :=
  cs.flatMap fun c => if c.utf8Size = 1 then [some c] else List.replicate c.utf8Size none

/-- What follows `lead` in a text that begins with it. -/
def after? (lead : List Char) (cs : List Char) : Option (List Char) :=
  match lead, cs with
  | [], rest => some rest
  | _ :: _, [] => none
  | a :: lead', c :: cs' => if a = c then after? lead' cs' else none

/-- What follows the first occurrence of `part` in a text. -/
def afterFirst? (part : List Char) : List Char → Option (List Char)
  | [] => after? part []
  | c :: cs =>
    match after? part (c :: cs) with
    | some rest => some rest
    | none => afterFirst? part cs

/-- A list cut into groups of four; an incomplete last group is dropped. -/
def quads {α : Type} : List α → List (List α)
  | a :: b :: c :: d :: rest => [a, b, c, d] :: quads rest
  | _ => []

/-- A list cut into pairs; an odd last element is dropped. -/
def pairs {α : Type} : List α → List (α × α)
  | a :: b :: rest => (a, b) :: pairs rest
  | _ => []

end ScanTool.Text
