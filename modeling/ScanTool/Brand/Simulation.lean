import ScanTool.Brand.Key
import ScanTool.Random.Draw
import ScanTool.Trouble.Table

/-!
# Simulated codes

Without a vehicle a brand has none, one or two codes of its table, drawn when they are first read.
The draw is remembered, so that reading again gives the same codes whatever the table has become,
until the brand is cleared; then it has none for good.
-/

namespace ScanTool

open Trouble (CodeTable)

/-- The simulated codes of the brands. -/
structure Simulation where
  /-- The codes of the brands that have been read or cleared, the latest first. -/
  remembered : List (BrandKey × List String)
  /-- Where the draws come from. -/
  source : Random.Stream
  deriving Repr, Inhabited

namespace Simulation

/-- The number of codes that a brand has at the most. -/
def mostCodes : Nat := 2

/-- The simulation of a seed, of which nothing has been read. -/
def ofSeed (seed : UInt64) : Simulation := ⟨[], .ofSeed seed⟩

/-- Draws codes from a table. Nothing is drawn from an empty table. -/
def draw (table : CodeTable) (source : Random.Stream) : List String × Random.Stream :=
  if table.isEmpty then ([], source)
  else
    let (count, source) := Random.drawBelowLong (mostCodes + 1) source
    Random.choose table.codes count source

/-- The codes of a brand, drawn from its table when they are first read. -/
def read (key : BrandKey) (table : CodeTable) (s : Simulation) : List String × Simulation :=
  match s.remembered.lookup key with
  | some codes => (codes, s)
  | none =>
    let (codes, source) := draw table s.source
    (codes, ⟨(key, codes) :: s.remembered, source⟩)

/-- Clears a brand. -/
def clear (key : BrandKey) (s : Simulation) : Simulation :=
  { s with remembered := (key, []) :: s.remembered }

/-- Whether a brand has codes. -/
def isActive (key : BrandKey) (s : Simulation) : Bool :=
  match s.remembered.lookup key with
  | some codes => !codes.isEmpty
  | none => false

end Simulation

end ScanTool
