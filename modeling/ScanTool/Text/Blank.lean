import ScanTool.Text.CharSet

/-!
# Blanks, lines and words

Adapter text is free-form: it is cut into lines at carriage returns and line feeds, and into words
at blanks. A blank is any character with the Unicode property White_Space, so the line breaks are
blanks too.
-/

namespace ScanTool.Text

/-- The characters with the Unicode property White_Space. -/
def blanks : CharSet := [
    (0x9, 0xD), (0x20, 0x20), (0x85, 0x85), (0xA0, 0xA0), (0x1680, 0x1680), (0x2000, 0x200A),
    (0x2028, 0x2029), (0x202F, 0x202F), (0x205F, 0x205F), (0x3000, 0x3000)]

/-- Whether a character is a blank. -/
def isBlank (c : Char) : Bool := blanks.has c

/-- Whether a character ends a line. -/
def isLineBreak (c : Char) : Bool := c == '\r' || c == '\n'

/-- The pieces between the characters for which `p` holds; there is one more than such characters,
and pieces may be empty. -/
def splitWhen (p : Char → Bool) : List Char → List (List Char)
  | [] => [[]]
  | c :: cs =>
    if p c then [] :: splitWhen p cs
    else
      match splitWhen p cs with
      | [] => [[c]]
      | piece :: rest => (c :: piece) :: rest

/-- The lines of a text, without the characters that end them. -/
def lines (cs : List Char) : List (List Char) := splitWhen isLineBreak cs

/-- The words of a text: its longest runs of characters that are not blank. -/
def words (cs : List Char) : List (List Char) :=
  (splitWhen isBlank cs).filter fun piece => !piece.isEmpty

/-- A text without the blanks at either end. -/
def trim (cs : List Char) : List Char :=
  ((cs.dropWhile isBlank).reverse.dropWhile isBlank).reverse

/-- A text without the blanks at either end. -/
def trimmed (s : String) : String := String.ofList (trim s.toList)

/-- A text with its ASCII letters in upper case and all other characters as they are. -/
def asciiUpper (cs : List Char) : List Char := cs.map Char.toUpper

/-- Whether `part` stands somewhere in a text. -/
def occursIn (part : List Char) : List Char → Bool
  | [] => part.isEmpty
  | c :: cs => part.isPrefixOf (c :: cs) || occursIn part cs

end ScanTool.Text
