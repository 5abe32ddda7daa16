import ScanTool.Text.Hex
import ScanTool.Text.Unprintable

/-!
# Quoted text

An adapter's answer is quoted in error messages so that what cannot be seen can be read: quotes and
backslashes are escaped, the usual control characters have short escapes, and any other character
without a form of its own is written by its number.
-/

namespace ScanTool.Text

/-- Whether a quoted text shows a character as it is. -/
def isShown (c : Char) : Bool :=
  (c == ' ' || !unprintables.has c) && !graphemeExtenders.has c

/-- The written form of one character inside quotes. -/
def quoteChar (c : Char) : List Char :=
  if c = '"' then ['\\', '"']
  else if c = '\\' then ['\\', '\\']
  else if c = '\n' then ['\\', 'n']
  else if c = '\r' then ['\\', 'r']
  else if c = '\t' then ['\\', 't']
  else if c = '\x00' then ['\\', '0']
  else if isShown c then [c]
  else ['\\', 'u', '\x7b'] ++ hexNumber c.toNat ++ ['\x7d']

/-- A text in quotes. -/
def quoted (s : String) : String :=
  String.ofList ('"' :: s.toList.flatMap quoteChar ++ ['"'])

end ScanTool.Text
