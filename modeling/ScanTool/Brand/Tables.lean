import ScanTool.Brand.Key
import ScanTool.Brand.TableFile

/-!
# Brand tables

The tables of the brands lie in one directory, each in a file named for the key of its brand. A table
is looked for when it is first asked for and remembered from then on, also if there was none; a file
that cannot be used counts as an empty table.
-/

namespace ScanTool

open Trouble (CodeTable)

/-- The tables of the brands, as far as they are known. -/
structure BrandTables where
  /-- The directory with the files. -/
  dir : String
  /-- The tables known, the latest first. -/
  known : List (BrandKey × CodeTable)
  deriving Inhabited

namespace BrandTables

/-- The tables of a directory, of which none is known yet. -/
def ofDir (dir : String) : BrandTables := ⟨dir, []⟩

/-- Makes a table known without a file. -/
def insert (t : BrandTables) (brand : String) (table : CodeTable) : BrandTables :=
  { t with known := (.ofName brand, table) :: t.known }

/-- The table that the file of a key gives; the empty key has none. -/
def load (files : Files) (dir : String) (key : BrandKey) : CodeTable :=
  if key.isEmpty then .empty
  else
    match CodeTable.ofFile files (Files.join dir key.fileName) with
    | .ok table => table
    | .error _ => .empty

/-- The table of a key, from memory or else from its file. -/
def table (files : Files) (key : BrandKey) (t : BrandTables) : CodeTable × BrandTables :=
  match t.known.lookup key with
  | some table => (table, t)
  | none =>
    let table := load files t.dir key
    (table, { t with known := (key, table) :: t.known })

/-- A file name cut at its last dot: what stands before it and what after it. A dot at the beginning
cuts nothing off. -/
def splitExtension (name : List Char) : List Char × Option (List Char) :=
  let ext := (name.reverse.takeWhile (· != '.')).reverse
  let stem := name.take (name.length - ext.length - 1)
  if ext.length = name.length ∨ stem.isEmpty then (name, none) else (stem, some ext)

/-- The brand that a file name stands for, in its form for people. -/
def brandOf? (fileName : String) : Option String :=
  match splitExtension fileName.toList with
  | (stem, some ['j', 's', 'o', 'n']) => some (BrandKey.ofName (String.ofList stem)).displayName
  | _ => none

/-- The brands for which there are files, in their forms for people, ascending and each once. -/
def available (files : Files) (t : BrandTables) : List String :=
  (sortBindings (((files.list t.dir).filterMap brandOf?).map fun b => (b, ()))).map (·.1)

end BrandTables

end ScanTool
