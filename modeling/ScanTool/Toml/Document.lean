import ScanTool.Toml.Value

/-!
# TOML documents

A document is a sequence of lines, each with a header, a binding or nothing, and perhaps a comment.
A header opens a table, or one more table of a series, and the bindings after it go there. What is
read is the value of the table that the document as a whole is.
-/

namespace ScanTool.Toml

/-- What follows the end of a line, if nothing stands before it but blanks and a comment. The end of
the document ends a line too. -/
def endLine? (cs : List Char) : Option (List Char) :=
  let rest :=
    match skipSpaces cs with
    | '#' :: rest => rest.dropWhile isPlain
    | rest => rest
  match rest with
  | [] => some []
  | '\n' :: rest => some rest
  | '\r' :: '\n' :: rest => some rest
  | _ => none

/-- A document that has been read in part. -/
structure Draft where
  /-- The path of the table that bindings go to. -/
  header : List String
  /-- The members of the document. -/
  members : Members

namespace Draft

/-- The beginning of a document. -/
def start : Draft := ⟨[], []⟩

/-- Opens a table, or one more table of a series. -/
def enter (r : Draft) (openIt : String → Origin → Members → Option Members)
    (parents : List String) (name : String) : Option Draft :=
  (within .implied (openIt name) parents .written r.members).map fun members =>
    ⟨parents ++ [name], members⟩

/-- Puts a node into the open table. -/
def add (r : Draft) (parents : List String) (name : String) (node : Node) : Option Draft :=
  (within .implied (assign parents name node) r.header .written r.members).map fun members =>
    { r with members := members }

/-- The header or binding on a line, if there is one, and what follows it. -/
def statement? (r : Draft) (cs : List Char) : Option (Draft × List Char) :=
  match skipSpaces cs with
  | [] => some (r, [])
  | '\n' :: rest => some (r, '\n' :: rest)
  | '\r' :: rest => some (r, '\r' :: rest)
  | '#' :: rest => some (r, '#' :: rest)
  | '[' :: '[' :: rest => do
    let (parents, name, rest) ← name? deepest rest
    let ']' :: ']' :: rest := rest | none
    let r ← r.enter openSeries parents name
    some (r, rest)
  | '[' :: rest => do
    let (parents, name, rest) ← name? deepest rest
    let ']' :: rest := rest | none
    let r ← r.enter openTable parents name
    some (r, rest)
  | rest => do
    let ((parents, name, node), rest) ← binding? (value? deepest) rest
    let r ← r.add parents name node
    some (r, rest)

/-- The lines of a document. Each of them takes at least one character, which bounds their number. -/
def lines? : (fuel : Nat) → Draft → List Char → Option Draft
  | 0, _, _ => none
  | _ + 1, r, [] => some r
  | fuel + 1, r, cs => do
    let (r, rest) ← r.statement? cs
    lines? fuel r (← endLine? rest)

end Draft

/-- A text without a byte order mark. -/
def skipMark : List Char → List Char
  | '\uFEFF' :: rest => rest
  | cs => cs

/-- The value that a document describes. -/
def read? (text : String) : Option Json := do
  let cs := skipMark text.toList
  let r ← Draft.start.lines? (cs.length + 1) cs
  tableValue? r.members

end ScanTool.Toml
