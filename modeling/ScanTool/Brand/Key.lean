import ScanTool.Text.Alphanumeric
import ScanTool.Text.Blank
import ScanTool.Text.Casing

/-!
# Brand keys

A brand is known by the letters and digits of its name in lower case, so that different spellings
name one brand. A key holds no separator of paths and no dot.
-/

namespace ScanTool

open ScanTool.Text

/-- The key of a brand. -/
structure BrandKey where
  /-- The letters and digits. -/
  text : String
  deriving DecidableEq, Repr, Inhabited

namespace BrandKey

/-- The letters and digits of a name, in lower case. -/
def normalize (name : List Char) : List Char :=
  ((trim name).filter isAlphanumeric).flatMap lowerChar

/-- The key of a name. -/
def ofName (name : String) : BrandKey := ⟨String.ofList (normalize name.toList)⟩

/-- Whether the key holds no letter or digit. -/
def isEmpty (k : BrandKey) : Bool := k.text.isEmpty

/-- The key with its first letter in upper case, for people. -/
def displayName (k : BrandKey) : String :=
  match k.text.toList with
  | [] => ""
  | first :: rest => String.ofList (upperChar first ++ rest)

/-- The name of the file that holds the brand's table. -/
def fileName (k : BrandKey) : String := k.text ++ ".json"

end BrandKey

end ScanTool
