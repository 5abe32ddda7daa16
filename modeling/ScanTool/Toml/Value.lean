import ScanTool.Toml.Moment
import ScanTool.Toml.Number
import ScanTool.Toml.Table
import ScanTool.Toml.Text

/-!
# Values in TOML

Strings, numbers, truth values, dates and times, arrays, and tables in braces. An array may go over
several lines, hold comments, and end in a comma; a table in braces may not. Both can be nested, up
to a limit, and so can dotted names.
-/

namespace ScanTool.Toml

/-- How deep arrays and tables can be nested, and how many parts a dotted name can have. -/
def deepest : Nat := 79

/-- A text without the blanks at its beginning. -/
def skipSpaces (cs : List Char) : List Char := cs.dropWhile isSpace

/-- A text without the blanks, line ends and comments at its beginning. A comment stops at a
character that it cannot hold. -/
def skipGap (inComment : Bool) : List Char → List Char
  | [] => []
  | '\n' :: rest => skipGap false rest
  | '\r' :: '\n' :: rest => skipGap false rest
  | c :: rest =>
    if inComment then if isPlain c then skipGap true rest else c :: rest
    else if isSpace c then skipGap false rest
    else if c = '#' then skipGap true rest
    else c :: rest

/-- Whether a character can stand in a name without quotes. -/
def isBare (c : Char) : Bool := c.isAlphanum || c == '_' || c == '-'

/-- One part of a name. -/
def namePart? (cs : List Char) : Option (String × List Char) :=
  match cs with
  | '"' :: rest => (escapedText rest).map fun (part, rest) => (String.ofList part, rest)
  | '\'' :: rest => (rawText rest).map fun (part, rest) => (String.ofList part, rest)
  | cs =>
    let part := cs.takeWhile isBare
    if part.isEmpty then none else some (String.ofList part, cs.dropWhile isBare)

/-- A dotted name of at most `limit` parts, with blanks around the parts: the parts before the last
one, the last one, and what follows. -/
def name? : (limit : Nat) → List Char → Option (List String × String × List Char)
  | 0, _ => none
  | limit + 1, cs => do
    let (part, rest) ← namePart? (skipSpaces cs)
    match skipSpaces rest with
    | '.' :: rest =>
      let (parents, last, rest) ← name? limit rest
      some (part :: parents, last, rest)
    | rest => some ([], part, rest)

/-- Whether a character can stand in a value that is neither quoted nor bracketed. -/
def isScalar (c : Char) : Bool := isBare c || c == '+' || c == '.' || c == ':'

/-- The value of a whole word. -/
def scalar? (word : List Char) : Option Node :=
  if word = "true".toList then some (.leaf (.bool true))
  else if word = "false".toList then some (.leaf (.bool false))
  else
    match moment? .asValue word with
    | some written => some (.moment written)
    | none => ((real? word).orElse fun _ => integer? word).map .leaf

/-- A date and a time of day that are two words with one space between them. -/
def dateAndTime? (word rest : List Char) : Option (Node × List Char) :=
  match date? word, rest with
  | some (date, []), ' ' :: rest =>
    (timeAndOffset? .asValue (rest.takeWhile isScalar)).map fun time =>
      (.moment (date ++ 'T' :: time), rest.dropWhile isScalar)
  | _, _ => none

/-- A value that is neither an array nor a table. -/
def simple? (cs : List Char) : Option (Node × List Char) :=
  match text? cs with
  | some (text, rest) => some (.leaf (.text (String.ofList text)), rest)
  | none =>
    let word := cs.takeWhile isScalar
    let rest := cs.dropWhile isScalar
    (dateAndTime? word rest).orElse fun _ => (scalar? word).map (·, rest)

/-- A way to read a value at the beginning of a text. -/
abbrev ValueReader := List Char → Option (Node × List Char)

/-- A dotted name, an equals sign and a value. -/
def binding? (value? : ValueReader) (cs : List Char) :
    Option ((List String × String × Node) × List Char) := do
  let (parents, name, rest) ← name? deepest cs
  let '=' :: rest := rest | none
  let (value, rest) ← value? (skipSpaces rest)
  some ((parents, name, value), rest)

/-- The items of an array, after the opening bracket or a comma. Each of them takes at least one
character, which bounds their number. -/
def items? (value? : ValueReader) : (fuel : Nat) → List Char → Option (List Node × List Char)
  | 0, _ => none
  | fuel + 1, cs =>
    match skipGap false cs with
    | ']' :: rest => some ([], rest)
    | cs => do
      let (item, rest) ← value? cs
      match skipGap false rest with
      | ']' :: rest => some ([item], rest)
      | ',' :: rest =>
        let (items, rest) ← items? value? fuel rest
        some (item :: items, rest)
      | _ => none

/-- The members of a table in braces, after the opening brace or a comma, put into a table. -/
def members? (value? : ValueReader) :
    (fuel : Nat) → Members → List Char → Option (Members × List Char)
  | 0, _, _ => none
  | fuel + 1, members, cs => do
    let ((parents, name, value), rest) ← binding? value? cs
    let members ← assign parents name value .written members
    match skipSpaces rest with
    | '\x7d' :: rest => some (members, rest)
    | ',' :: rest => members? value? fuel members rest
    | _ => none

/-- A value at the beginning of a text, in which arrays and tables are nested at most `depth`
deep. -/
def value? : (depth : Nat) → ValueReader
  | 0, cs => simple? cs
  | depth + 1, cs =>
    match cs with
    | '[' :: rest =>
      (items? (value? depth) (rest.length + 1) rest).map fun (items, rest) => (.list items, rest)
    | '\x7b' :: rest =>
      match skipSpaces rest with
      | '\x7d' :: rest => some (.table .braces [], rest)
      | rest =>
        (members? (value? depth) (rest.length + 1) [] rest).map fun (members, rest) =>
          (.table .braces members, rest)
    | cs => simple? cs

end ScanTool.Toml
