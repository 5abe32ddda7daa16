import ScanTool.Proofs.OwnTable
import ScanTool.Proofs.SessionAsChannel
import ScanTool.Proofs.TextCutting

/-!
# A live reading from end to end

A brand is read over a channel of any kind, also one that is closed or a session that is not ready. A
brand without entries in its table is answered at once. Any other is asked for with one request, and the
reading ends in one of three ways, `LiveRead`. To count requests the channel is listened to (`Overheard`),
which the reading cannot notice. Afterwards the resolver knows the table of the brand and is otherwise
as it was.
-/

namespace ScanTool

open ScanTool.Text
open Trouble (CodeTable TroubleCode)

variable {σ : Type} [Channel σ]

/-! ## Listening to a channel -/

/-- Something that is done to a channel. -/
inductive Use where
  | sent (request : String)
  | closed
  | paused (ms : Nat)

/-- A channel together with what was done to it, the latest first. -/
structure Overheard (σ : Type) where
  channel : σ
  uses : List Use

instance : Channel (Overheard σ) where
  exchange request o :=
    let (result, c) := Channel.exchange request o.channel
    (result, ⟨c, .sent request :: o.uses⟩)
  close o := ⟨Channel.close o.channel, .closed :: o.uses⟩
  pause ms o := ⟨Channel.pause ms o.channel, .paused ms :: o.uses⟩
  clock o := Channel.clock o.channel

theorem ask_overheard {α : Type} (request : String) (read : String → α) (o : Overheard σ) :
    ask request read o = ((ask request read o.channel).1,
      ⟨(ask request read o.channel).2, .sent request :: o.uses⟩) := by
  have exchange : Channel.exchange request o = ((Channel.exchange request o.channel).1,
      ⟨(Channel.exchange request o.channel).2, .sent request :: o.uses⟩) := rfl
  unfold ask
  rw [exchange]
  rcases Channel.exchange request o.channel with ⟨_ | _, c⟩ <;> rfl

/-! ## A ready session after work over its channel -/

namespace Session

/-- The session that a ready one becomes when work has left its channel as `c`: it goes on with this
channel, or it is disconnected if the transport failed. -/
inductive Continues {α : Type} (s : Session σ) (c : σ) : Except AdapterError α → Session σ → Prop
  | usable {result : Except AdapterError α} (carried : ∀ e, result = .error e → e.isTransport = false) :
    Continues s c result { s with channel := c }
  | dropped {e : AdapterError} (transport : e.isTransport = true) :
    Continues s c (.error e) { s with channel := Channel.close c, stage := .disconnected }

theorem attempt_continues {α : Type} (work : σ → Except AdapterError α × σ) {s : Session σ}
    (ready : s.stage = .ready) : (s.attempt work).1 = (work s.channel).1 ∧
      s.Continues (work s.channel).2 (work s.channel).1 (s.attempt work).2 := by
  have isReady : s.isReady = true := by simp [Session.isReady, ready]
  unfold attempt
  rw [if_pos isReady]
  rcases work s.channel with ⟨e | a, c⟩
  · refine ⟨rfl, ?_⟩
    show s.Continues c (.error e) (if e.isTransport then drop { s with channel := c } else _)
    cases transport : e.isTransport with
    | true => exact .dropped transport
    | false => exact .usable fun e' same => Except.error.inj same ▸ transport
  · exact ⟨rfl, .usable fun e failed => by cases failed⟩

end Session

namespace Resolver

/-! ## The exits of a reading -/

/-- The table of a brand: the one that is known of its key, or else the one that its file gives. -/
inductive Has (files : Files) (r : Resolver) (brand : String) : CodeTable → Prop
  | known {table : CodeTable} (known : r.tables.known? (.ofName brand) = some table) :
    Has files r brand table
  | loaded {table : CodeTable} (unknown : r.tables.known? (.ofName brand) = none)
    (gives : BrandTables.Gives files r.tables.dir (.ofName brand) table) : Has files r brand table

/-- An answer contains `NO DATA` in any case of its letters. -/
def SaysNoData (answer : String) : Prop :=
  ∃ spelled, spelled <:+: answer.toList ∧ asciiUpper spelled = noData

/-- How a reading ends, what it leaves of the channel, and what was done to the channel for it. -/
inductive LiveRead (table : CodeTable) (request : String) (c : σ) :
    Except AdapterError (List TroubleCode) → σ → List Use → Prop
  | noTable (empty : table.entries = []) : LiveRead table request c (.ok []) c []
  | failed {e : AdapterError} {c' : σ} (filled : table.entries ≠ [])
    (exchanged : Channel.exchange request c = (.error e, c')) :
    LiveRead table request c (.error e) c' [.sent request]
  | noData {answer : String} {c' : σ} (filled : table.entries ≠ [])
    (exchanged : Channel.exchange request c = (.ok answer, c')) (nothing : SaysNoData answer) :
    LiveRead table request c (.ok []) c' [.sent request]
  | codes {answer : String} {c' : σ} {found : List TroubleCode} (filled : table.entries ≠ [])
    (exchanged : Channel.exchange request c = (.ok answer, c')) (something : ¬ SaysNoData answer)
    (codes : found.map (·.code) = Brand.codes answer)
    (described : ∀ code ∈ found, table.get? code.code = some code.description ∨
      table.get? code.code = none ∧ code.description = "Unknown code") :
    LiveRead table request c (.ok found) c' [.sent request]

/-- What a reading of a brand leaves of a resolver. -/
structure KeepsOthers (files : Files) (brand : String) (r r' : Resolver) : Prop where
  queries : r'.queries = r.queries
  simulation : r'.simulation = r.simulation
  dir : r'.tables.dir = r.tables.dir
  /-- Nothing becomes known of other brands, and nothing is forgotten. -/
  known : ∀ key ≠ BrandKey.ofName brand, r'.tables.known? key = r.tables.known? key
  /-- Other brands are given the tables that they would have been given. -/
  others : ∀ other, BrandKey.ofName other ≠ BrandKey.ofName brand → ∀ later,
    (r'.table later other).1 = (r.table later other).1
  /-- The brand keeps its table however the files change. -/
  own : ∀ later, (r'.table later brand).1 = (r.table files brand).1

variable {files : Files} {r : Resolver} {brand answer : String} {table : CodeTable}

theorem has_table (files : Files) (r : Resolver) (brand : String) :
    Has files r brand (r.table files brand).1 := by
  show Has files r brand (r.tables.table files (.ofName brand)).1
  cases h : r.tables.known? (.ofName brand) with
  | some table =>
    rw [BrandTables.table_of_known h]
    exact .known h
  | none =>
    rw [BrandTables.table_of_unknown h]
    dsimp only
    exact .loaded h (BrandTables.gives_load files r.tables.dir (.ofName brand))

theorem keepsOthers_table (files : Files) (r : Resolver) (brand : String) :
    KeepsOthers files brand r (r.table files brand).2 where
  queries := rfl
  simulation := rfl
  dir := BrandTables.dir_table
  known _ ne := BrandTables.known?_table_of_ne ne.symm
  others _ ne later := BrandTables.table_after_other later ne.symm
  own later := BrandTables.table_again later

theorem saysNoData_iff : occursIn noData (asciiUpper answer.toList) = true ↔ SaysNoData answer := by
  rw [occursIn_iff, infix_asciiUpper_iff]
  rfl

theorem described_of_mem_describe {code : TroubleCode} (mem : code ∈ Brand.describe table answer) :
    table.get? code.code = some code.description ∨
      table.get? code.code = none ∧ code.description = "Unknown code" := by
  obtain ⟨digits, -, rfl⟩ := List.mem_map.mp mem
  cases found : table.get? digits with
  | some description =>
    left
    show table.get? digits = some (table.describe digits Brand.unknownCode)
    rw [CodeTable.describe, found]
    rfl
  | none =>
    right
    refine ⟨found, ?_⟩
    show table.describe digits Brand.unknownCode = "Unknown code"
    rw [CodeTable.describe, found]
    rfl

/-! ## The reading -/

theorem readLive_of_noTable (c : σ) (empty : (r.table files brand).1.entries = []) :
    r.readLive files brand c = (.ok [], (r.table files brand).2, c) := by
  have none : (r.table files brand).1.isEmpty = true := List.isEmpty_iff.mpr empty
  rw [readLive_eq, if_pos none]

theorem readLive_of_filled (c : σ) (filled : (r.table files brand).1.entries ≠ []) :
    r.readLive files brand c =
      ((ask (r.query brand) (codesOf (r.table files brand).1) c).1, (r.table files brand).2,
        (ask (r.query brand) (codesOf (r.table files brand).1) c).2) := by
  have some : ¬ (r.table files brand).1.isEmpty = true := fun none => filled (List.isEmpty_iff.mp none)
  rw [readLive_eq, if_neg some]

theorem liveRead_of_filled (request : String) (c : σ) (filled : table.entries ≠ []) :
    LiveRead table request c (ask request (codesOf table) c).1 (ask request (codesOf table) c).2
      [.sent request] := by
  unfold ask
  rcases exchanged : Channel.exchange request c with ⟨e | answer, c'⟩
  · exact .failed filled exchanged
  · show LiveRead table request c (.ok (codesOf table answer)) c' [.sent request]
    unfold codesOf
    by_cases nothing : occursIn noData (asciiUpper answer.toList) = true
    · rw [if_pos nothing]
      exact .noData filled exchanged (saysNoData_iff.mp nothing)
    · rw [if_neg nothing]
      exact .codes filled exchanged (saysNoData_iff.not.mp nothing)
        (Brand.map_code_describe table answer) fun code mem => described_of_mem_describe mem

theorem liveRead (files : Files) (r : Resolver) (brand : String) (c : σ) :
    LiveRead (r.table files brand).1 (r.query brand) c (r.readLive files brand c).1
      (r.readLive files brand c).2.2
      (r.readLive files brand (⟨c, []⟩ : Overheard σ)).2.2.uses := by
  by_cases empty : (r.table files brand).1.entries = []
  · rw [readLive_of_noTable c empty, readLive_of_noTable _ empty]
    exact .noTable empty
  · rw [readLive_of_filled c empty, readLive_of_filled _ empty, ask_overheard]
    exact liveRead_of_filled (r.query brand) c empty

/-- Reading over a channel that is listened to is reading over the channel. -/
theorem readLive_overheard (files : Files) (r : Resolver) (brand : String) (o : Overheard σ) :
    (r.readLive files brand o).1 = (r.readLive files brand o.channel).1 ∧
      (r.readLive files brand o).2.1 = (r.readLive files brand o.channel).2.1 ∧
      (r.readLive files brand o).2.2.channel = (r.readLive files brand o.channel).2.2 := by
  by_cases empty : (r.table files brand).1.entries = []
  · rw [readLive_of_noTable o empty, readLive_of_noTable o.channel empty]
    exact ⟨rfl, rfl, rfl⟩
  · rw [readLive_of_filled o empty, readLive_of_filled o.channel empty, ask_overheard]
    exact ⟨rfl, rfl, rfl⟩

theorem readLive_of_not_ready {s : Session σ} (filled : (r.table files brand).1.entries ≠ [])
    (notReady : s.stage ≠ .ready) :
    r.readLive files brand s = (.error (.notReady s.stage), (r.table files brand).2, s) := by
  rw [readLive_of_filled s filled, Session.ask_eq_attempt, Session.attempt_of_not_ready _ notReady]

theorem readLive_of_ready (files : Files) (r : Resolver) (brand : String) {s : Session σ}
    (ready : s.stage = .ready) :
    (r.readLive files brand s).1 = (r.readLive files brand s.channel).1 ∧
      s.Continues (r.readLive files brand s.channel).2.2 (r.readLive files brand s.channel).1
        (r.readLive files brand s).2.2 := by
  by_cases empty : (r.table files brand).1.entries = []
  · rw [readLive_of_noTable s empty, readLive_of_noTable s.channel empty]
    refine ⟨rfl, .usable ?_⟩
    rintro e ⟨⟩
  · rw [readLive_of_filled s empty, readLive_of_filled s.channel empty, Session.ask_eq_attempt]
    exact Session.attempt_continues _ ready

/-- A live reading from end to end. The brand's table is the one that is known of its key, or else what
its file gives. If it has no entries, there are no codes and nothing is done to the channel, whatever
state it is in. Otherwise one request is sent, the one for the brand, and nothing else is done to the
channel; a failure of the exchange is the result as it is, an answer with `NO DATA` in it gives no codes,
and any other gives its codes, described from the table. The requests of the brands, the simulation and
the tables of other brands stay. A session that is not ready refuses the request of such a brand and
stays as it is. Over a ready one the reading is the one over its channel, and only a failure of the
transport disconnects it. -/
theorem live_read_settled (files : Files) (r : Resolver) (brand : String) (c : σ) (s : Session σ) :
    let table := (r.table files brand).1
    let read := r.readLive files brand c
    let heard := r.readLive files brand (⟨c, []⟩ : Overheard σ)
    let above := r.readLive files brand s
    let below := r.readLive files brand s.channel
    Has files r brand table ∧
    LiveRead table (r.query brand) c read.1 read.2.2 heard.2.2.uses ∧
    (heard.1 = read.1 ∧ heard.2.1 = read.2.1 ∧ heard.2.2.channel = read.2.2) ∧
    KeepsOthers files brand r read.2.1 ∧
    (table.entries ≠ [] → s.stage ≠ .ready →
      above = (.error (.notReady s.stage), read.2.1, s)) ∧
    (s.stage = .ready →
      above.1 = below.1 ∧ above.2.1 = read.2.1 ∧ s.Continues below.2.2 below.1 above.2.2) := by
  intro table read heard above below
  have resolver : read.2.1 = (r.table files brand).2 := readLive_resolver files brand r c
  refine ⟨has_table files r brand, liveRead files r brand c, readLive_overheard files r brand ⟨c, []⟩,
    ?_, ?_, ?_⟩
  · rw [resolver]
    exact keepsOthers_table files r brand
  · intro filled notReady
    rw [resolver]
    exact readLive_of_not_ready filled notReady
  · intro ready
    have aboveResolver : above.2.1 = (r.table files brand).2 := readLive_resolver files brand r s
    obtain ⟨result, continues⟩ := readLive_of_ready files r brand ready
    exact ⟨result, aboveResolver.trans resolver.symm, continues⟩

/-- A table put in by hand and a request set under another spelling, over a session that is still
connecting and over one whose link drops. -/
theorem live_read_settled_of_two_sessions :
    let table := CodeTable.empty.insert "P1083" "Fuel control mixture lean"
    let gone : Files := fun _ => .error .missing
    let r := (ofParts ((BrandTables.ofDir "tables").insert "BMW" table) (.ofSeed 0)).withQueries
      [("B.M.W.", "22 2000")]
    let c := Script.empty.answer "22 2000" "62 2000 10 83 12 96"
    let connecting := Session.start c .standard
    let dropping : Session Script := ⟨c.failAt "22 2000", .standard, .ready, none⟩
    (r.readLive gone "bmw" c).1 =
        .ok [⟨"P1083", "Fuel control mixture lean"⟩, ⟨"P1296", "Unknown code"⟩] ∧
      r.readLive gone "bmw" connecting =
        (.error (.notReady .connecting), (r.readLive gone "bmw" c).2.1, connecting) ∧
      (r.readLive gone "bmw" dropping).1 = .error .disconnected ∧
      ∀ later, ((r.readLive gone "bmw" c).2.1.table later "audi").1 = (r.table later "audi").1 := by
  intro table gone r c connecting dropping
  have filled : (r.table gone "bmw").1.entries ≠ [] := by decide +kernel +zetaReduce
  have codes : (r.readLive gone "bmw" c).1 =
      .ok [⟨"P1083", "Fuel control mixture lean"⟩, ⟨"P1296", "Unknown code"⟩] := by
    decide +kernel +zetaReduce
  have failed : (r.readLive gone "bmw" dropping.channel).1 = .error .disconnected := by
    decide +kernel +zetaReduce
  obtain ⟨-, -, -, kept, refused, -⟩ := live_read_settled gone r "bmw" c connecting
  obtain ⟨-, -, -, -, -, ready⟩ := live_read_settled gone r "bmw" c dropping
  refine ⟨codes, refused filled ?_, (ready rfl).1.trans failed, fun later => kept.others "audi" ?_ later⟩
  · decide
  · decide +kernel

end Resolver

end ScanTool
