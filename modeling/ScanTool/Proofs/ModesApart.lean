import ScanTool.Proofs.CarriedOut
import ScanTool.Proofs.OwnTable

/-!
# Live and simulated work apart

A resolver reads and clears brands over channels and in simulation, and both look for tables in one
memory. While the files stay as they are it does not matter who looked for a table first, because
looking leaves every answer as it is. So live operations can be left out of a run without the others
noticing, and simulated ones without the live operations or the channels noticing.
-/

namespace ScanTool

/-! ## Tables that give the same answers -/

namespace BrandTables

/-- The two give every key the same table, as long as the files are these. -/
def SameAnswers (files : Files) (t t' : BrandTables) : Prop :=
  ∀ key, (t.table files key).1 = (t'.table files key).1

variable {files : Files} {t t' t'' : BrandTables} {key : BrandKey}

theorem SameAnswers.trans (h : SameAnswers files t t') (h' : SameAnswers files t' t'') :
    SameAnswers files t t'' := fun key => (h key).trans (h' key)

theorem SameAnswers.symm (h : SameAnswers files t t') : SameAnswers files t' t :=
  fun key => (h key).symm

/-- Looking for a table leaves all answers as they are. -/
theorem sameAnswers_table : SameAnswers files t (t.table files key).2 := by
  intro k
  by_cases same : key = k
  · subst same
    exact (table_again files).symm
  · exact (table_after_other files same).symm

theorem SameAnswers.table (h : SameAnswers files t t') :
    SameAnswers files (t.table files key).2 (t'.table files key).2 :=
  (sameAnswers_table.symm.trans h).trans sameAnswers_table

end BrandTables

namespace Resolver

/-! ## The two kinds of work -/

/-- The operation reads or clears a brand over a channel. -/
def Operation.isLive {ι : Type} : Operation ι → Bool
  | readLive _ _ => true
  | clearLive _ _ => true
  | readCodes _ channel => channel.isSome
  | clear _ channel => channel.isSome
  | _ => false

/-- The operation reads or clears a brand in simulation. -/
def Operation.isSimulated {ι : Type} : Operation ι → Bool
  | readSimulated _ => true
  | clearSimulated _ => true
  | readCodes _ channel => channel.isNone
  | clear _ channel => channel.isNone
  | _ => false

section

variable {ι σ : Type} [DecidableEq ι] [Channel σ] {files : Files} {op : Operation ι}

variable (σ) in
/-- Live work is reading a brand over a channel or clearing one. -/
theorem live_cases (live : op.isLive = true) :
    (∃ brand i, ∀ w : Workshop ι σ, w.perform files op = w.perform files (.readLive brand i)) ∨
      ∃ brand i, ∀ w : Workshop ι σ, w.perform files op = w.perform files (.clearLive brand i) := by
  match op, live with
  | .readLive brand i, _ => exact Or.inl ⟨brand, i, fun _ => rfl⟩
  | .readCodes brand (some i), _ => exact Or.inl ⟨brand, i, fun _ => rfl⟩
  | .clearLive brand i, _ => exact Or.inr ⟨brand, i, fun _ => rfl⟩
  | .clear brand (some i), _ => exact Or.inr ⟨brand, i, fun _ => rfl⟩

variable (σ) in
/-- Simulated work is reading a brand in simulation or clearing one. -/
theorem simulated_cases (simulated : op.isSimulated = true) :
    (∃ brand, ∀ w : Workshop ι σ, w.perform files op = w.perform files (.readSimulated brand)) ∨
      ∃ brand, ∀ w : Workshop ι σ, w.perform files op = w.perform files (.clearSimulated brand) := by
  match op, simulated with
  | .readSimulated brand, _ => exact Or.inl ⟨brand, fun _ => rfl⟩
  | .readCodes brand none, _ => exact Or.inl ⟨brand, fun _ => rfl⟩
  | .clearSimulated brand, _ => exact Or.inr ⟨brand, fun _ => rfl⟩
  | .clear brand none, _ => exact Or.inr ⟨brand, fun _ => rfl⟩

omit [DecidableEq ι] in
/-- An operation of neither kind is a question. -/
theorem question_cases (notLive : op.isLive = false) (notSimulated : op.isSimulated = false) :
    (∃ brand, op = .table brand) ∨ ∃ brand, op = .isActive brand := by
  match op, notLive, notSimulated with
  | .table brand, _, _ => exact Or.inl ⟨brand, rfl⟩
  | .isActive brand, _, _ => exact Or.inr ⟨brand, rfl⟩

omit [DecidableEq ι] in
theorem isSimulated_of_isLive (live : op.isLive = true) : op.isSimulated = false := by
  match op, live with
  | .readLive _ _, _ => rfl
  | .readCodes _ (some _), _ => rfl
  | .clearLive _ _, _ => rfl
  | .clear _ (some _), _ => rfl

/-! ## Without live work -/

/-- Two resolvers for which simulation is the same. -/
structure SameSimulated (files : Files) (r r' : Resolver) : Prop where
  answers : r.tables.SameAnswers files r'.tables
  simulation : r.simulation = r'.simulation

variable {r r' : Resolver} {w w' : Workshop ι σ}

theorem SameSimulated.readSimulated (h : SameSimulated files r r') (brand : String) :
    (r.readSimulated files brand).1 = (r'.readSimulated files brand).1 ∧
      SameSimulated files (r.readSimulated files brand).2 (r'.readSimulated files brand).2 := by
  have table : (r.table files brand).1 = (r'.table files brand).1 := h.answers _
  refine ⟨?_, ?_, ?_⟩
  · unfold Resolver.readSimulated
    simp only [table, table_simulation, h.simulation]
  · rw [readSimulated_tables, readSimulated_tables]
    exact h.answers.table
  · rw [readSimulated_simulation, readSimulated_simulation, table, h.simulation]

/-- Live work looks for tables and leaves the simulation alone. -/
theorem SameSimulated.after_live (h : SameSimulated files w.resolver w'.resolver)
    (live : op.isLive = true) :
    SameSimulated files w.resolver (w'.perform files op).2.resolver := by
  rcases live_cases σ live with ⟨brand, i, same⟩ | ⟨brand, i, same⟩
  · have looked : (w'.perform files op).2.resolver = (w'.resolver.table files brand).2 := by
      rw [same]
      exact readLive_resolver files brand w'.resolver (w'.channels i)
    rw [looked]
    exact ⟨h.answers.trans BrandTables.sameAnswers_table, h.simulation⟩
  · rw [same]
    exact h

/-- All other work goes by the tables and the simulation. -/
theorem SameSimulated.perform (h : SameSimulated files w.resolver w'.resolver)
    (notLive : op.isLive = false) :
    (w.perform files op).1 = (w'.perform files op).1 ∧
      SameSimulated files (w.perform files op).2.resolver (w'.perform files op).2.resolver := by
  cases simulated : op.isSimulated with
  | true =>
    rcases simulated_cases σ simulated with ⟨brand, same⟩ | ⟨brand, same⟩
    · obtain ⟨codes, kept⟩ := h.readSimulated brand
      rw [same, same]
      exact ⟨congrArg (fun codes => Reply.codes (.ok codes)) codes, kept⟩
    · rw [same, same]
      exact ⟨rfl, h.answers, congrArg (Simulation.clear (.ofName brand)) h.simulation⟩
  | false =>
    rcases question_cases notLive simulated with ⟨brand, rfl⟩ | ⟨brand, rfl⟩
    · exact ⟨congrArg Reply.table (h.answers _), h.answers.table, h.simulation⟩
    · have active : w.resolver.isActive brand = w'.resolver.isActive brand := by
        unfold Resolver.isActive
        rw [h.simulation]
      exact ⟨congrArg Reply.active active, h⟩

/-! ## Without simulated work -/

/-- Two workshops for which work over the channels is the same. -/
structure SameLive (files : Files) (w w' : Workshop ι σ) : Prop where
  answers : w.resolver.tables.SameAnswers files w'.resolver.tables
  queries : w.resolver.queries = w'.resolver.queries
  channels : w.channels = w'.channels

/-- Simulated work looks for tables and leaves the requests and the channels alone. -/
theorem SameLive.after_simulated (h : SameLive files w w') (simulated : op.isSimulated = true) :
    SameLive files w (w'.perform files op).2 := by
  rcases simulated_cases σ simulated with ⟨brand, same⟩ | ⟨brand, same⟩
  · have looked : (w'.perform files op).2.resolver.tables =
        (w'.resolver.tables.table files (.ofName brand)).2 := by
      rw [same]
      exact readSimulated_tables files brand w'.resolver
    refine ⟨?_, ?_, ?_⟩
    · rw [looked]
      exact h.answers.trans BrandTables.sameAnswers_table
    · rw [same]
      exact h.queries
    · rw [same]
      exact h.channels
  · rw [same]
    exact ⟨h.answers, h.queries, h.channels⟩

/-- Reading a brand over a channel goes by its table and its request. -/
theorem readLive_congr (brand : String) (c : σ) (answers : r.tables.SameAnswers files r'.tables)
    (queries : r.queries = r'.queries) :
    (r.readLive files brand c).1 = (r'.readLive files brand c).1 ∧
      (r.readLive files brand c).2.2 = (r'.readLive files brand c).2.2 := by
  have table : (r.table files brand).1 = (r'.table files brand).1 := answers _
  have query : r.query brand = r'.query brand := by
    unfold Resolver.query
    rw [queries]
  rw [readLive_eq, readLive_eq, table, query]
  split <;> exact ⟨rfl, rfl⟩

theorem perform_readLive_fst (brand : String) (i : ι) :
    (w.perform files (.readLive brand i)).1 =
      .codes (w.resolver.readLive files brand (w.channels i)).1 := rfl

theorem perform_readLive_resolver (brand : String) (i : ι) :
    (w.perform files (.readLive brand i)).2.resolver = (w.resolver.table files brand).2 :=
  readLive_resolver files brand w.resolver (w.channels i)

theorem perform_readLive_channels (brand : String) (i : ι) :
    (w.perform files (.readLive brand i)).2.channels =
      fun j => if j = i then (w.resolver.readLive files brand (w.channels i)).2.2 else w.channels j :=
  rfl

theorem perform_clearLive (brand : String) (i : ι) :
    w.perform files (.clearLive brand i) = (.cleared (clearLive (w.channels i)).1,
      ⟨w.resolver, fun j => if j = i then (clearLive (w.channels i)).2 else w.channels j⟩) := rfl

/-- Work over the channels goes by the tables, the requests and the channels, and questions change
nothing of them. -/
theorem SameLive.perform (h : SameLive files w w') (notSimulated : op.isSimulated = false) :
    (op.isLive = true → (w.perform files op).1 = (w'.perform files op).1) ∧
      SameLive files (w.perform files op).2 (w'.perform files op).2 := by
  cases live : op.isLive with
  | true =>
    rcases live_cases σ live with ⟨brand, i, same⟩ | ⟨brand, i, same⟩
    · obtain ⟨codes, channel⟩ := readLive_congr brand (w.channels i) h.answers h.queries
      rw [same, same]
      refine ⟨fun _ => ?_, ?_, ?_, ?_⟩
      · rw [perform_readLive_fst, perform_readLive_fst, codes, h.channels]
      · rw [perform_readLive_resolver, perform_readLive_resolver]
        exact h.answers.table
      · rw [perform_readLive_resolver, perform_readLive_resolver]
        exact h.queries
      · rw [perform_readLive_channels, perform_readLive_channels, channel, h.channels]
    · rw [same, same, perform_clearLive, perform_clearLive, h.channels]
      exact ⟨fun _ => rfl, h.answers, h.queries, rfl⟩
  | false =>
    refine ⟨fun isLive => absurd isLive Bool.false_ne_true, ?_⟩
    rcases question_cases live notSimulated with ⟨brand, rfl⟩ | ⟨brand, rfl⟩
    · exact ⟨h.answers.table, h.queries, h.channels⟩
    · exact h

/-! ## Runs -/

theorem unmissed_live : Unmissed (Workshop.perform (σ := σ) files) (fun op : Operation ι => !op.isLive)
    (fun op => !op.isLive) (fun _ w w' => SameSimulated files w.resolver w'.resolver) where
  skip same out := same.after_live (by simpa using out)
  take same kept := (same.perform (by simpa using kept)).2
  look same seen := ⟨seen, (same.perform (by simpa using seen)).1⟩

theorem unmissed_simulated : Unmissed (Workshop.perform (σ := σ) files)
    (fun op : Operation ι => !op.isSimulated) Operation.isLive (fun _ => SameLive files) where
  skip same out := same.after_simulated (by simpa using out)
  take same kept := (same.perform (by simpa using kept)).2
  look same seen :=
    have other := isSimulated_of_isLive seen
    ⟨by simp [other], (same.perform other).1 seen⟩

end

/-- Live and simulated work do not disturb each other while the files stay as they are. Any resolver
is used with any channels. Without the live operations, all others give what they give with them.
Without the simulated operations, the live ones give what they give with them, and every channel comes
to the same state, so that it has been sent the same requests. -/
theorem modes_apart {ι σ : Type} [DecidableEq ι] [Channel σ] (files : Files) (w : Workshop ι σ)
    (ops : List (Operation ι)) :
    let run (ops : List (Operation ι)) := carryOut (Workshop.perform files) w ops
    (run (ops.filter (!·.isLive))).1 = (run ops).1.filter (!·.1.isLive) ∧
    (run (ops.filter (!·.isSimulated))).1.filter (·.1.isLive) = (run ops).1.filter (·.1.isLive) ∧
    (run (ops.filter (!·.isSimulated))).2.channels = (run ops).2.channels := by
  intro run
  have alike : SameSimulated files w.resolver w.resolver := ⟨fun _ => rfl, rfl⟩
  have alikeLive : SameLive files w w := ⟨fun _ => rfl, rfl, rfl⟩
  refine ⟨?_, ?_, ?_⟩
  · have all : ∀ op ∈ ops.filter (!·.isLive), (!op.isLive) = true :=
      fun op mem => (List.mem_filter.mp mem).2
    rw [← filter_carryOut all]
    exact unmissed_live.replies alike
  · exact unmissed_simulated.replies alikeLive
  · exact (unmissed_simulated.states alikeLive).channels

end Resolver

end ScanTool
