import ScanTool.Text.Hex

/-!
# Strings in TOML

Four kinds of strings: in one line or over several, with escapes or without. Control characters are
refused, a line end is a line feed with or without a carriage return before it and counts as a line
feed. Over several lines, a backslash at the end of a line skips all blanks and line ends after it,
and up to two quotes may stand before the closing ones.
-/

namespace ScanTool.Toml

open ScanTool.Text

/-- A space or a tab. -/
def isSpace (c : Char) : Bool := c == ' ' || c == '\t'

/-- Whether a character may stand as it is in a string or a comment. -/
def isPlain (c : Char) : Bool := c == '\t' || (0x20 ≤ c.toNat && c.toNat != 0x7F)

/-- The character of some hexadecimal digits, unless they name none. -/
def charOfHex? (digits : List Char) : Option Char :=
  (digits.mapM hexValue?).bind fun values =>
    let n := values.foldl (fun n d => 16 * n + d) 0
    if n.isValidChar then some (Char.ofNat n) else none

/-- The character of an escape of one letter. -/
def charOfEscape? (c : Char) : Option Char :=
  match c with
  | 'b' => some '\x08'
  | 't' => some '\t'
  | 'n' => some '\n'
  | 'f' => some '\x0c'
  | 'r' => some '\r'
  | '"' => some '"'
  | '\\' => some '\\'
  | _ => none

/-- A string put in front of what is read after it. -/
def consText (c : Char) (r : Option (List Char × List Char)) : Option (List Char × List Char) :=
  r.map fun (done, rest) => (c :: done, rest)

/-- A string with escapes, after its opening quote: the string, and what follows its closing
quote. -/
def escapedText : List Char → Option (List Char × List Char)
  | [] => none
  | '"' :: rest => some ([], rest)
  | '\\' :: 'u' :: a :: b :: c :: d :: rest =>
    (charOfHex? [a, b, c, d]).bind fun ch => consText ch (escapedText rest)
  | '\\' :: 'U' :: a :: b :: c :: d :: e :: f :: g :: h :: rest =>
    (charOfHex? [a, b, c, d, e, f, g, h]).bind fun ch => consText ch (escapedText rest)
  | '\\' :: e :: rest => (charOfEscape? e).bind fun ch => consText ch (escapedText rest)
  | c :: rest => if isPlain c && c != '\\' then consText c (escapedText rest) else none

/-- A string without escapes, after its opening quote. -/
def rawText : List Char → Option (List Char × List Char)
  | [] => none
  | '\'' :: rest => some ([], rest)
  | c :: rest => if isPlain c then consText c (rawText rest) else none

/-- What a string over several lines is in the middle of. -/
inductive Fold where
  /-- Its text. -/
  | inText
  /-- The blanks between a backslash and the end of its line. -/
  | beforeBreak
  /-- The blanks and line ends after that. -/
  | afterBreak
  deriving DecidableEq

/-- A string with escapes over several lines, after its opening quotes. -/
def escapedLines (fold : Fold) : List Char → Option (List Char × List Char)
  | [] => none
  | '\r' :: '\n' :: rest =>
    if fold = .inText then consText '\n' (escapedLines .inText rest)
    else escapedLines .afterBreak rest
  | '\n' :: rest =>
    if fold = .inText then consText '\n' (escapedLines .inText rest)
    else escapedLines .afterBreak rest
  | c :: rest =>
    if fold ≠ .inText ∧ isSpace c then escapedLines fold rest
    else if fold = .beforeBreak then none
    else
      match c, rest with
      | '"', '"' :: '"' :: '"' :: '"' :: rest => some (['"', '"'], rest)
      | '"', '"' :: '"' :: '"' :: rest => some (['"'], rest)
      | '"', '"' :: '"' :: rest => some ([], rest)
      | '"', rest => consText '"' (escapedLines .inText rest)
      | '\\', 'u' :: a :: b :: c :: d :: rest =>
        (charOfHex? [a, b, c, d]).bind fun ch => consText ch (escapedLines .inText rest)
      | '\\', 'U' :: a :: b :: c :: d :: e :: f :: g :: h :: rest =>
        (charOfHex? [a, b, c, d, e, f, g, h]).bind fun ch => consText ch (escapedLines .inText rest)
      | '\\', e :: rest =>
        match charOfEscape? e with
        | some ch => consText ch (escapedLines .inText rest)
        | none =>
          if isSpace e then escapedLines .beforeBreak rest
          else
            match e, rest with
            | '\n', rest => escapedLines .afterBreak rest
            | '\r', '\n' :: rest => escapedLines .afterBreak rest
            | _, _ => none
      | '\\', [] => none
      | c, rest => if isPlain c then consText c (escapedLines .inText rest) else none

/-- A string without escapes over several lines, after its opening quotes. -/
def rawLines : List Char → Option (List Char × List Char)
  | [] => none
  | '\'' :: '\'' :: '\'' :: '\'' :: '\'' :: rest => some (['\'', '\''], rest)
  | '\'' :: '\'' :: '\'' :: '\'' :: rest => some (['\''], rest)
  | '\'' :: '\'' :: '\'' :: rest => some ([], rest)
  | '\r' :: '\n' :: rest => consText '\n' (rawLines rest)
  | c :: rest => if isPlain c || c == '\n' then consText c (rawLines rest) else none

/-- A text without a line end at its very beginning. -/
def dropBreak : List Char → List Char
  | '\n' :: rest => rest
  | '\r' :: '\n' :: rest => rest
  | cs => cs

/-- A string of any kind, with its quotes, if one stands at the beginning of a text. -/
def text? : List Char → Option (List Char × List Char)
  | '"' :: '"' :: '"' :: rest => escapedLines .inText (dropBreak rest)
  | '"' :: rest => escapedText rest
  | '\'' :: '\'' :: '\'' :: rest => rawLines (dropBreak rest)
  | '\'' :: rest => rawText rest
  | _ => none

end ScanTool.Toml
