import ScanTool.Json.Number
import ScanTool.Text.Hex

/-!
# JSON tokens

A text is cut into tokens by a machine that looks at one character at a time. Its state is what it
is in the middle of: nothing, a string, an escape, a number or a word. Characters outside the basic
plane may be written as two escapes, the first of a high and the second of a low surrogate; a
surrogate that stands alone is refused.
-/

namespace ScanTool.Json

open ScanTool.Text (hexValue?)

/-- A token. -/
inductive Token where
  /-- An opening brace. -/
  | openObject
  /-- A closing brace. -/
  | closeObject
  /-- An opening bracket. -/
  | openList
  /-- A closing bracket. -/
  | closeList
  /-- The colon between a name and its value. -/
  | colon
  /-- The comma between items or members. -/
  | comma
  /-- A value that holds no other: a string, which may also be a name, a number or a word. -/
  | scalar (value : Json)

/-- What the machine is in the middle of. Characters read so far are held in reverse. -/
inductive Mode where
  /-- Between tokens. -/
  | between
  /-- Inside a string. -/
  | text (done : List Char)
  /-- After a backslash. -/
  | escape (done : List Char)
  /-- Inside an escape by number: the high surrogate before it, the digits read, their value. -/
  | unit (done : List Char) (high : Option Nat) (digits : Nat) (value : Nat)
  /-- After a high surrogate, where a backslash has to follow. -/
  | pair (done : List Char) (high : Nat)
  /-- After the backslash that follows a high surrogate. -/
  | pairEscape (done : List Char) (high : Nat)
  /-- Inside a number. -/
  | number (done : List Char)
  /-- Inside a word. -/
  | word (done : List Char)

/-- Whether a character may stand in a number. -/
def isNumberChar (c : Char) : Bool :=
  c.isDigit || c == '-' || c == '+' || c == '.' || c == 'e' || c == 'E'

/-- The value of a word. -/
def word? (cs : List Char) : Option Json :=
  if cs = ['n', 'u', 'l', 'l'] then some .null
  else if cs = ['t', 'r', 'u', 'e'] then some (.bool true)
  else if cs = ['f', 'a', 'l', 's', 'e'] then some (.bool false)
  else none

/-- A character between tokens: the tokens that it is, and what it begins. -/
def startToken (c : Char) : Option (List Token × Mode) :=
  if c = ' ' ∨ c = '\n' ∨ c = '\r' ∨ c = '\t' then some ([], .between)
  else if c = '\x7b' then some ([.openObject], .between)
  else if c = '\x7d' then some ([.closeObject], .between)
  else if c = '[' then some ([.openList], .between)
  else if c = ']' then some ([.closeList], .between)
  else if c = ':' then some ([.colon], .between)
  else if c = ',' then some ([.comma], .between)
  else if c = '"' then some ([], .text [])
  else if c = '-' ∨ c.isDigit then some ([], .number [c])
  else if c.isAlpha then some ([], .word [c])
  else none

/-- The character of a short escape. -/
def shortEscape? (c : Char) : Option Char :=
  if c = '"' then some '"'
  else if c = '\\' then some '\\'
  else if c = '/' then some '/'
  else if c = 'b' then some '\x08'
  else if c = 'f' then some '\x0c'
  else if c = 'n' then some '\n'
  else if c = 'r' then some '\r'
  else if c = 't' then some '\t'
  else none

/-- A completed escape by number, after the high surrogate before it. -/
def finishUnit (done : List Char) (high : Option Nat) (n : Nat) : Option Mode :=
  match high with
  | some h =>
    if 0xDC00 ≤ n ∧ n ≤ 0xDFFF then
      some (.text (Char.ofNat (0x10000 + (h - 0xD800) * 0x400 + (n - 0xDC00)) :: done))
    else none
  | none =>
    if 0xD800 ≤ n ∧ n ≤ 0xDBFF then some (.pair done n)
    else if 0xDC00 ≤ n ∧ n ≤ 0xDFFF then none
    else some (.text (Char.ofNat n :: done))

/-- The token at the end of a number or a word. -/
def scalarToken (v : Option Json) : Option (List Token) := v.map fun v => [.scalar v]

/-- One character: the tokens completed, and the state after it. -/
def step : Mode → Char → Option (List Token × Mode)
  | .between, c => startToken c
  | .text done, c =>
    if c = '"' then some ([.scalar (.text (String.ofList done.reverse))], .between)
    else if c = '\\' then some ([], .escape done)
    else if c.toNat < 0x20 then none
    else some ([], .text (c :: done))
  | .escape done, c =>
    if c = 'u' then some ([], .unit done none 0 0)
    else (shortEscape? c).map fun e => ([], .text (e :: done))
  | .unit done high digits value, c =>
    match hexValue? c with
    | none => none
    | some x =>
      if digits = 3 then (finishUnit done high (16 * value + x)).map fun m => ([], m)
      else some ([], .unit done high (digits + 1) (16 * value + x))
  | .pair done high, c => if c = '\\' then some ([], .pairEscape done high) else none
  | .pairEscape done high, c => if c = 'u' then some ([], .unit done (some high) 0 0) else none
  | .number done, c =>
    if isNumberChar c then some ([], .number (c :: done))
    else do
      let before ← scalarToken (number? done.reverse)
      let (after, mode) ← startToken c
      some (before ++ after, mode)
  | .word done, c =>
    if c.isAlpha then some ([], .word (c :: done))
    else do
      let before ← scalarToken (word? done.reverse)
      let (after, mode) ← startToken c
      some (before ++ after, mode)

/-- The tokens at the end of a text. -/
def finish : Mode → Option (List Token)
  | .between => some []
  | .number done => scalarToken (number? done.reverse)
  | .word done => scalarToken (word? done.reverse)
  | _ => none

/-- The tokens of the text that follows a state. -/
def tokensFrom : Mode → List Char → Option (List Token)
  | mode, [] => finish mode
  | mode, c :: cs =>
    match step mode c with
    | none => none
    | some (ts, mode') => (tokensFrom mode' cs).map (ts ++ ·)

/-- The tokens of a text. -/
def tokens? (cs : List Char) : Option (List Token) := tokensFrom .between cs

end ScanTool.Json
