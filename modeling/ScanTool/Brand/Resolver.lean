import ScanTool.Adapter.Session
import ScanTool.Brand.Answer
import ScanTool.Brand.Simulation
import ScanTool.Brand.Tables

/-!
# Codes of brands

Reading and clearing the codes of a brand, either over a channel or in simulation. Both go by the key
of the brand and by its table; the request to the vehicle can be set for each brand.
-/

namespace ScanTool

open ScanTool.Text
open Trouble (CodeTable TroubleCode)

/-- Where the codes of brands come from. -/
structure ResolverSettings where
  /-- The directory with the tables. -/
  tableDir : String
  /-- The requests that are set for brands, by name; of two names with one key the later counts. -/
  queries : List (String × String)
  /-- The seed of simulated codes, if they are to be repeatable. -/
  seed : Option UInt64
  deriving Repr

/-- The directory with the tables where nothing else is set. -/
def ResolverSettings.standardDir : String := "assets/manufacturer_specific_dtc"

/-- The settings used where nothing else is set. -/
def ResolverSettings.standard : ResolverSettings := ⟨standardDir, [], none⟩

instance : Inhabited ResolverSettings := ⟨.standard⟩

/-- The tables, the simulation and the requests of the brands. -/
structure Resolver where
  /-- The tables. -/
  tables : BrandTables
  /-- The simulation. -/
  simulation : Simulation
  /-- The requests that are set, the latest first. -/
  queries : List (BrandKey × String)
  deriving Inhabited

namespace Resolver

/-- The request for the codes of a brand for which none is set. -/
def usualQuery : String := "22 F190"

/-- The words with which a vehicle says that it has nothing to report. -/
def noData : List Char := "NO DATA".toList

/-- A resolver without requests of its own. -/
def ofParts (tables : BrandTables) (simulation : Simulation) : Resolver := ⟨tables, simulation, []⟩

/-- Sets requests for brands. -/
def withQueries (r : Resolver) (queries : List (String × String)) : Resolver :=
  { r with
    queries := queries.foldl (fun known q => (BrandKey.ofName q.1, q.2) :: known) r.queries }

/-- The resolver of some settings. Without a seed the draws start from `entropy`. -/
def ofSettings (s : ResolverSettings) (entropy : UInt64) : Resolver :=
  (ofParts (.ofDir s.tableDir) (.ofSeed (s.seed.getD entropy))).withQueries s.queries

/-- The request for the codes of a brand. -/
def query (r : Resolver) (brand : String) : String :=
  (r.queries.lookup (.ofName brand)).getD usualQuery

/-- The table of a brand. -/
def table (files : Files) (brand : String) (r : Resolver) : CodeTable × Resolver :=
  let (table, tables) := r.tables.table files (.ofName brand)
  (table, { r with tables := tables })

/-- The brands for which there are table files. -/
def available (files : Files) (r : Resolver) : List String := r.tables.available files

/-- What an answer to a request for the codes of a brand says. -/
def codesOf (table : CodeTable) (answer : String) : List TroubleCode :=
  if occursIn noData (asciiUpper answer.toList) then [] else Brand.describe table answer

/-- The codes of a brand in simulation. -/
def readSimulated (files : Files) (brand : String) (r : Resolver) : List TroubleCode × Resolver :=
  let (table, r) := r.table files brand
  let (codes, simulation) := r.simulation.read (.ofName brand) table
  (codes.map (table.label Brand.unknownCode), { r with simulation := simulation })

/-- Clears a brand in simulation. -/
def clearSimulated (brand : String) (r : Resolver) : Resolver :=
  { r with simulation := r.simulation.clear (.ofName brand) }

/-- Whether a brand has simulated codes. -/
def isActive (brand : String) (r : Resolver) : Bool := r.simulation.isActive (.ofName brand)

variable {σ : Type} [Channel σ]

/-- The codes of a brand from the vehicle. A brand without a table has none, and the channel is not
used. -/
def readLive (files : Files) (brand : String) (r : Resolver) (c : σ) :
    Except AdapterError (List TroubleCode) × Resolver × σ :=
  let request := r.query brand
  let (table, r) := r.table files brand
  if table.isEmpty then (.ok [], r, c)
  else
    match Channel.exchange request c with
    | (.error e, c) => (.error e, r, c)
    | (.ok answer, c) => (.ok (codesOf table answer), r, c)

/-- Reading a brand over a channel looks for its table and, unless that is empty, asks once. -/
theorem readLive_eq (files : Files) (brand : String) (r : Resolver) (c : σ) :
    r.readLive files brand c =
      if (r.table files brand).1.isEmpty then (.ok [], (r.table files brand).2, c)
      else
        ((ask (r.query brand) (codesOf (r.table files brand).1) c).1, (r.table files brand).2,
          (ask (r.query brand) (codesOf (r.table files brand).1) c).2) := by
  unfold readLive ask
  dsimp only
  split
  · rfl
  · rcases Channel.exchange (r.query brand) c with ⟨_ | _, c'⟩ <;> rfl

/-- Clears the codes of a vehicle, and says whether the adapter confirmed it. All brands are cleared
alike. -/
def clearLive (c : σ) : Except AdapterError Bool × σ := askClear c

/-- The codes of a brand, over a channel if there is one and in simulation otherwise. -/
def readCodes (files : Files) (brand : String) (r : Resolver) :
    Option σ → Except AdapterError (List TroubleCode) × Resolver × Option σ
  | some c =>
    let (result, r, c) := r.readLive files brand c
    (result, r, some c)
  | none =>
    let (codes, r) := r.readSimulated files brand
    (.ok codes, r, none)

/-- Clears a brand, over a channel if there is one and in simulation otherwise, where it always
succeeds. -/
def clear (brand : String) (r : Resolver) :
    Option σ → Except AdapterError Bool × Resolver × Option σ
  | some c =>
    let (result, c) := clearLive c
    (result, r, some c)
  | none => (.ok true, r.clearSimulated brand, none)

end Resolver

end ScanTool
