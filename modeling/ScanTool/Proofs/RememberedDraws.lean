import ScanTool.Brand.Simulation
import ScanTool.Proofs.Bindings
import ScanTool.Proofs.DistinctDraws

/-!
# Simulated codes are remembered

A simulation is used by reading and clearing brands in any order. What it remembers of a brand is
decided by the first of these steps: nothing before it, the codes drawn after a read, no codes ever
after a clear. Each law is first one of a single step and then one of a list of steps; the main
statement puts them together for the simulation of a seed after any use.
-/

namespace ScanTool

open Trouble (CodeTable)

namespace Trouble.CodeTable

/-- The codes of a table are different, because they ascend. -/
theorem nodup_codes (t : CodeTable) : t.codes.Nodup := by
  refine List.pairwise_map.mpr (t.ascending.imp ?_)
  intro a b lt same
  rw [same] at lt
  exact String.lt_irrefl b.1 lt

end Trouble.CodeTable

namespace Simulation

/-- Something done with a simulation. -/
inductive Step where
  /-- The codes of a brand are read, from a table if they are not remembered. -/
  | read (key : BrandKey) (table : CodeTable)
  /-- A brand is cleared. -/
  | clear (key : BrandKey)
  /-- It is asked whether a brand has codes. -/
  | isActive (key : BrandKey)

/-- The brand that a step is about. -/
def Step.key : Step → BrandKey
  | read key _ => key
  | clear key => key
  | isActive key => key

/-- What a step gives. -/
inductive Answer where
  /-- The codes that were read. -/
  | codes (codes : List String)
  /-- Nothing; the brand is cleared. -/
  | cleared
  /-- Whether the brand has codes. -/
  | active (active : Bool)
  deriving DecidableEq

/-- Takes a step. -/
def act (s : Simulation) : Step → Answer × Simulation
  | .read key table => (.codes (s.read key table).1, (s.read key table).2)
  | .clear key => (.cleared, s.clear key)
  | .isActive key => (.active (s.isActive key), s)

/-- The simulation after steps taken one after the other. -/
def actAll (s : Simulation) : List Step → Simulation
  | [] => s
  | step :: rest => (s.act step).2.actAll rest

/-- What is remembered of a brand. -/
def memory? (s : Simulation) (key : BrandKey) : Option (List String) := s.remembered.lookup key

/-- The first read of `key` among the steps is one from `table` after the steps `before`. -/
def FirstRead (key : BrandKey) (steps before : List Step) (table : CodeTable) : Prop :=
  (∀ t, .read key t ∉ before) ∧ ∃ after, steps = before ++ .read key table :: after

variable {s : Simulation} {key k : BrandKey} {table : CodeTable} {codes : List String}
  {step : Step} {steps before after : List Step}

/-! ## One step -/

theorem memory?_ofSeed (seed : UInt64) (key : BrandKey) : (ofSeed seed).memory? key = none := rfl

theorem memory?_clear : (s.clear key).memory? key = some [] := by
  simp [clear, memory?]

theorem memory?_clear_of_ne (ne : key ≠ k) : (s.clear key).memory? k = s.memory? k :=
  lookup_cons_of_ne ne.symm

theorem read_of_memory? (h : s.memory? key = some codes) : s.read key table = (codes, s) := by
  unfold memory? at h
  simp [read, h]

theorem read_of_forgotten (h : s.memory? key = none) : s.read key table =
    ((draw table s.source).1, ⟨(key, (draw table s.source).1) :: s.remembered,
      (draw table s.source).2⟩) := by
  unfold memory? at h
  simp [read, h]

theorem memory?_read : (s.read key table).2.memory? key = some (s.read key table).1 := by
  cases h : s.memory? key with
  | some codes =>
    rw [read_of_memory? h]
    exact h
  | none =>
    rw [read_of_forgotten h]
    simp [memory?]

theorem memory?_read_of_ne (ne : key ≠ k) : (s.read key table).2.memory? k = s.memory? k := by
  cases h : s.memory? key with
  | some codes => rw [read_of_memory? h]
  | none =>
    rw [read_of_forgotten h]
    exact lookup_cons_of_ne ne.symm

/-- A step changes nothing that is remembered of another brand. -/
theorem memory?_act_of_ne (ne : step.key ≠ k) : (s.act step).2.memory? k = s.memory? k := by
  cases step with
  | read key table => exact memory?_read_of_ne ne
  | clear key => exact memory?_clear_of_ne ne
  | isActive key => rfl

/-- What is remembered of a brand stays until it is cleared. -/
theorem memory?_act_of_some (h : s.memory? k = some codes) (hs : step ≠ .clear k) :
    (s.act step).2.memory? k = some codes := by
  by_cases same : step.key = k
  · cases step with
    | read key table =>
      obtain rfl : key = k := same
      show (s.read key table).2.memory? key = some codes
      rw [read_of_memory? h]
      exact h
    | clear key => exact absurd (congrArg Step.clear same) hs
    | isActive key => exact h
  · rw [memory?_act_of_ne same]
    exact h

theorem memory?_act_of_cleared (h : s.memory? k = some []) : (s.act step).2.memory? k = some [] := by
  by_cases again : step = .clear k
  · subst again
    exact memory?_clear
  · exact memory?_act_of_some h again

theorem memory?_act_of_none (h : s.memory? k = none) (hr : ∀ t, step ≠ .read k t)
    (hc : step ≠ .clear k) : (s.act step).2.memory? k = none := by
  by_cases same : step.key = k
  · cases step with
    | read key table => exact absurd (congrArg (Step.read · table) same) (hr table)
    | clear key => exact absurd (congrArg Step.clear same) hc
    | isActive key => exact h
  · rw [memory?_act_of_ne same]
    exact h

theorem isActive_iff : s.isActive key = true ↔ ∃ codes, s.memory? key = some codes ∧ codes ≠ [] := by
  unfold isActive memory?
  cases s.remembered.lookup key <;> simp

/-- Drawn codes are different codes of the table, two at the most. -/
theorem draw_spec (table : CodeTable) (source : Random.Stream) :
    (draw table source).1.Nodup ∧ (∀ c ∈ (draw table source).1, c ∈ table.codes) ∧
      (draw table source).1.length ≤ min mostCodes table.size := by
  unfold draw
  split
  · simp
  · have count : (Random.drawBelowLong (mostCodes + 1) source).1 ≤ mostCodes :=
      Nat.le_of_lt_succ (Random.drawBelowLong_lt (Nat.succ_pos mostCodes) source)
    obtain ⟨nodup, mem, length⟩ := Random.choose_distinct table.nodup_codes
      (Random.drawBelowLong (mostCodes + 1) source).1 (Random.drawBelowLong (mostCodes + 1) source).2
    have size : table.codes.length = table.size := List.length_map ..
    refine ⟨nodup, mem, Nat.le_trans length ?_⟩
    rw [size]
    omega

/-! ## Many steps -/

theorem actAll_append : s.actAll (before ++ after) = (s.actAll before).actAll after := by
  induction before generalizing s with
  | nil => rfl
  | cons step rest ih => exact ih

theorem memory?_actAll_of_some (h : s.memory? k = some codes) (hs : .clear k ∉ steps) :
    (s.actAll steps).memory? k = some codes := by
  induction steps generalizing s with
  | nil => exact h
  | cons step rest ih =>
    refine ih (memory?_act_of_some h ?_) (fun hrest => hs (List.mem_cons_of_mem step hrest))
    rintro rfl
    exact hs List.mem_cons_self

theorem memory?_actAll_of_none (h : s.memory? k = none) (hr : ∀ t, .read k t ∉ steps)
    (hc : .clear k ∉ steps) : (s.actAll steps).memory? k = none := by
  induction steps generalizing s with
  | nil => exact h
  | cons step rest ih =>
    refine ih (memory?_act_of_none h ?_ ?_) (fun t hrest => hr t (List.mem_cons_of_mem step hrest))
      (fun hrest => hc (List.mem_cons_of_mem step hrest))
    · rintro t rfl
      exact hr t List.mem_cons_self
    · rintro rfl
      exact hc List.mem_cons_self

/-- A brand that was cleared has no codes, whatever was done before and after. -/
theorem memory?_actAll_of_clear (h : .clear k ∈ steps) : (s.actAll steps).memory? k = some [] := by
  have stays (rest : List Step) {s : Simulation} (hs : s.memory? k = some []) :
      (s.actAll rest).memory? k = some [] := by
    induction rest generalizing s with
    | nil => exact hs
    | cons step rest ih => exact ih (memory?_act_of_cleared hs)
  obtain ⟨before, after, rfl⟩ := List.append_of_mem h
  rw [actAll_append]
  exact stays after memory?_clear

/-- A brand that was read and not cleared has the codes of its first read. -/
theorem memory?_actAll_of_firstRead (first : FirstRead k steps before table)
    (hc : .clear k ∉ steps) :
    (s.actAll steps).memory? k = some ((s.actAll before).read k table).1 := by
  obtain ⟨-, after, rfl⟩ := first
  rw [actAll_append]
  show (((s.actAll before).read k table).2.actAll after).memory? k = _
  refine memory?_actAll_of_some memory?_read fun h => hc ?_
  exact List.mem_append_right _ (List.mem_cons_of_mem _ h)

theorem exists_firstRead (h : .read k table ∈ steps) :
    ∃ before table₀, FirstRead k steps before table₀ := by
  induction steps with
  | nil => cases h
  | cons step rest ih =>
    by_cases now : ∃ t, step = .read k t
    · obtain ⟨t, rfl⟩ := now
      exact ⟨[], t, by simp, rest, rfl⟩
    · have later : .read k table ∈ rest :=
        (List.mem_cons.mp h).resolve_left fun e => now ⟨table, e.symm⟩
      obtain ⟨before, table₀, none, after, rfl⟩ := ih later
      refine ⟨step :: before, table₀, fun t ht => ?_, after, rfl⟩
      rcases List.mem_cons.mp ht with e | ht
      · exact now ⟨t, e.symm⟩
      · exact none t ht

/-- The simulated codes of a brand `k` after any use of the simulation of a seed. A brand that was
cleared has none. A brand that was read and never cleared has the codes of its first read, from
whatever table it is read again. The first read gives different codes of its table, two at the most.
The brand has codes exactly if it was read, never cleared, and the first read gave some. No step on
another brand changes what is remembered of it. -/
theorem codes_remembered (seed : UInt64) (steps : List Step) (k : BrandKey) :
    let s := (ofSeed seed).actAll steps
    let firstCodes (before : List Step) (table : CodeTable) :=
      (((ofSeed seed).actAll before).read k table).1
    (.clear k ∈ steps → ∀ table, (s.read k table).1 = []) ∧
    (.clear k ∉ steps → ∀ before table₀, FirstRead k steps before table₀ →
      ∀ table, (s.read k table).1 = firstCodes before table₀) ∧
    ((∀ table, .read k table ∉ steps) → ∀ table,
      (s.read k table).1.Nodup ∧ (∀ c ∈ (s.read k table).1, c ∈ table.codes) ∧
        (s.read k table).1.length ≤ min 2 table.size) ∧
    (s.isActive k = true ↔ .clear k ∉ steps ∧
      ∃ before table₀, FirstRead k steps before table₀ ∧ firstCodes before table₀ ≠ []) ∧
    (∀ step : Step, step.key ≠ k → (s.act step).2.memory? k = s.memory? k) := by
  intro s firstCodes
  have cleared (hc : .clear k ∈ steps) : s.memory? k = some [] := memory?_actAll_of_clear hc
  have readBefore (hc : .clear k ∉ steps) {before : List Step} {table₀ : CodeTable}
      (first : FirstRead k steps before table₀) :
      s.memory? k = some (firstCodes before table₀) := memory?_actAll_of_firstRead first hc
  have untouched (hr : ∀ table, .read k table ∉ steps) (hc : .clear k ∉ steps) :
      s.memory? k = none := memory?_actAll_of_none (memory?_ofSeed seed k) hr hc
  refine ⟨?_, ?_, ?_, ?_, fun step ne => memory?_act_of_ne ne⟩
  · intro hc table
    rw [read_of_memory? (cleared hc)]
  · intro hc before table₀ first table
    rw [read_of_memory? (readBefore hc first)]
  · intro hr table
    by_cases hc : .clear k ∈ steps
    · rw [read_of_memory? (cleared hc)]
      simp
    · rw [read_of_forgotten (untouched hr hc)]
      exact draw_spec table s.source
  · rw [isActive_iff]
    constructor
    · rintro ⟨codes, hcodes, ne⟩
      have hc : .clear k ∉ steps := fun hc => by
        rw [cleared hc] at hcodes
        exact ne (Option.some.inj hcodes).symm
      refine ⟨hc, ?_⟩
      by_cases hr : ∃ table, .read k table ∈ steps
      · obtain ⟨table, hr⟩ := hr
        obtain ⟨before, table₀, first⟩ := exists_firstRead hr
        rw [readBefore hc first] at hcodes
        exact ⟨before, table₀, first, Option.some.inj hcodes ▸ ne⟩
      · rw [untouched (fun table h => hr ⟨table, h⟩) hc] at hcodes
        cases hcodes
    · rintro ⟨hc, before, table₀, first, ne⟩
      exact ⟨_, readBefore hc first, ne⟩

/-- Two brands of which one is cleared; the other keeps its codes when its table is gone. -/
theorem codes_remembered_of_two_brands :
    let audi : BrandKey := ⟨"audi"⟩
    let bmw : BrandKey := ⟨"bmw"⟩
    let table := CodeTable.empty.insert "P1296" "Cooling system malfunction"
    let steps : List Step := [.isActive bmw, .read audi table, .clear bmw, .read audi .empty]
    let s := (ofSeed 0).actAll steps
    .clear bmw ∈ steps ∧ (s.read bmw table).1 = [] ∧
      .clear audi ∉ steps ∧ FirstRead audi steps [.isActive bmw] table ∧
      (s.read audi .empty).1 = ["P1296"] := by
  intro audi bmw table steps s
  have cleared : .clear bmw ∈ steps := by simp [steps]
  have kept : .clear audi ∉ steps := by simp [steps, audi, bmw]
  have first : FirstRead audi steps [.isActive bmw] table := ⟨by simp, _, rfl⟩
  have drawn : (((ofSeed 0).actAll [.isActive bmw]).read audi table).1 = ["P1296"] := by
    decide +kernel +zetaReduce
  exact ⟨cleared, (codes_remembered 0 steps bmw).1 cleared table, kept, first,
    ((codes_remembered 0 steps audi).2.1 kept _ table first .empty).trans drawn⟩

end Simulation

end ScanTool
