import ScanTool.Brand.Resolver

/-!
# Operations on a resolver

What can be done with a resolver, as data, so that a whole use of a resolver is a list of operations.
A resolver is used together with channels, which have names here and stay where they are between the
operations; the files may be others at every operation. Each operation is one of the functions of
`Resolver`.
-/

namespace ScanTool.Resolver

open Trouble (CodeTable TroubleCode)

/-- Something to do with a resolver; `ι` are the names of the channels. -/
inductive Operation (ι : Type) where
  /-- Ask for the table of a brand. -/
  | table (brand : String)
  /-- Read a brand in simulation. -/
  | readSimulated (brand : String)
  /-- Clear a brand in simulation. -/
  | clearSimulated (brand : String)
  /-- Ask whether a brand has simulated codes. -/
  | isActive (brand : String)
  /-- Read a brand over a channel. -/
  | readLive (brand : String) (channel : ι)
  /-- Clear a brand over a channel. -/
  | clearLive (brand : String) (channel : ι)
  /-- Read a brand over a channel if there is one and in simulation otherwise. -/
  | readCodes (brand : String) (channel : Option ι)
  /-- Clear a brand over a channel if there is one and in simulation otherwise. -/
  | clear (brand : String) (channel : Option ι)

/-- What an operation gives. -/
inductive Reply where
  /-- The table of a brand. -/
  | table (table : CodeTable)
  /-- The codes of a brand, or why they could not be read. -/
  | codes (result : Except AdapterError (List TroubleCode))
  /-- Whether a brand was cleared, or why it could not be. -/
  | cleared (result : Except AdapterError Bool)
  /-- Whether a brand has simulated codes. -/
  | active (active : Bool)
  deriving Inhabited

/-- A resolver and the channels that it is used with. -/
structure Workshop (ι σ : Type) where
  /-- The resolver. -/
  resolver : Resolver
  /-- The channels. -/
  channels : ι → σ

namespace Workshop

variable {ι σ : Type} [DecidableEq ι] [Channel σ]

/-- A workshop after one of its channels was used. A channel that was not given is not put back. -/
def putBack (w : Workshop ι σ) : Option ι → Option σ → Workshop ι σ
  | some i, some c => { w with channels := fun j => if j = i then c else w.channels j }
  | _, _ => w

/-- Carries an operation out, with the files as they are at that time. -/
def perform (files : Files) (w : Workshop ι σ) : Operation ι → Reply × Workshop ι σ
  | .table brand =>
    let (table, r) := w.resolver.table files brand
    (.table table, { w with resolver := r })
  | .readSimulated brand =>
    let (codes, r) := w.resolver.readSimulated files brand
    (.codes (.ok codes), { w with resolver := r })
  | .clearSimulated brand =>
    (.cleared (.ok true), { w with resolver := w.resolver.clearSimulated brand })
  | .isActive brand => (.active (w.resolver.isActive brand), w)
  | .readLive brand i =>
    let (result, r, c) := w.resolver.readLive files brand (w.channels i)
    (.codes result, { w with resolver := r }.putBack (some i) (some c))
  | .clearLive _ i =>
    let (result, c) := clearLive (w.channels i)
    (.cleared result, w.putBack (some i) (some c))
  | .readCodes brand i? =>
    let (result, r, c?) := w.resolver.readCodes files brand (i?.map w.channels)
    (.codes result, { w with resolver := r }.putBack i? c?)
  | .clear brand i? =>
    let (result, r, c?) := w.resolver.clear brand (i?.map w.channels)
    (.cleared result, { w with resolver := r }.putBack i? c?)

/-- The workshop after operations carried out one after the other, each with files of its own. -/
def performAll (w : Workshop ι σ) : List (Files × Operation ι) → Workshop ι σ
  | [] => w
  | (files, op) :: rest => (w.perform files op).2.performAll rest

/-- What every operation keeps, a use of the workshop keeps. -/
theorem performAll_induction {P : Workshop ι σ → Prop} {w : Workshop ι σ}
    {ops : List (Files × Operation ι)}
    (step : ∀ files w op, P w → P (w.perform files op).2) (h : P w) : P (w.performAll ops) := by
  induction ops generalizing w with
  | nil => exact h
  | cons head rest ih => exact ih (step head.1 w head.2 h)

end Workshop

end ScanTool.Resolver
