import ScanTool.Proofs.CarriedOut
import ScanTool.Proofs.RememberedDraws

/-!
# Repeated steps do not move a draw

All brands draw from one source, so a step that drew without need would change the codes of every
brand that is first read later. Reading a brand that is settled, one that was read or cleared before,
draws nothing, and clearing draws nothing at all. So steps that repeat can be put into a run, and no
other brand notices; if they only read, nothing is noticed at all. What two runs have in common is
`SameDraws`: the source, which brands are settled, and what is remembered of one of them.
-/

namespace ScanTool.Simulation

open Trouble (CodeTable)

/-- The step settles what is remembered of its brand. -/
def Step.settles : Step → Bool
  | read _ _ => true
  | clear _ => true
  | isActive _ => false

/-- A step of a run, and whether it was put into a shorter run. -/
structure Entry where
  /-- The step. -/
  step : Step
  /-- Whether it was put in. -/
  putIn : Bool

/-- The steps that are put into a run repeat: each of them reads or clears a brand that was read or
cleared before. The brands in `settled` were so before the run. -/
def Repeats (settled : List BrandKey) : List Entry → Prop
  | [] => True
  | e :: rest =>
    (e.putIn = true → e.step.settles = true ∧ e.step.key ∈ settled) ∧
      Repeats (if e.step.settles then e.step.key :: settled else settled) rest

/-- Takes the step of an entry. -/
def enter (s : Simulation) (e : Entry) : Answer × Simulation := s.act e.step

/-- Two simulations that draw alike from now on, and agree on a brand. -/
structure SameDraws (k : BrandKey) (s s' : Simulation) : Prop where
  source : s.source = s'.source
  settled : ∀ j, (s.memory? j).isSome = (s'.memory? j).isSome
  memory : s.memory? k = s'.memory? k

/-- All brands of a list are settled. -/
def Settled (s : Simulation) (settled : List BrandKey) : Prop :=
  ∀ k ∈ settled, (s.memory? k).isSome = true

/-- What is put into the rest of a run repeats, and what it repeats is settled by now. -/
def Repeating (s : Simulation) (rest : List Entry) : Prop :=
  ∃ settled, s.Settled settled ∧ Repeats settled rest

variable {s s' : Simulation} {key k : BrandKey} {table : CodeTable} {step : Step}
  {settled : List BrandKey} {e : Entry} {rest : List Entry}

/-! ## What a read does -/

theorem read_fst : (s.read key table).1 = (s.memory? key).getD (draw table s.source).1 := by
  cases h : s.memory? key with
  | some codes => rw [read_of_memory? h, Option.getD_some]
  | none => rw [read_of_forgotten h, Option.getD_none]

/-- Only the first read of a brand draws. -/
theorem source_read : (s.read key table).2.source =
    if (s.memory? key).isSome then s.source else (draw table s.source).2 := by
  cases h : s.memory? key with
  | some codes =>
    rw [read_of_memory? h]
    rfl
  | none =>
    rw [read_of_forgotten h]
    rfl

/-- Reading again changes nothing. -/
theorem read_again (again : (s.memory? key).isSome = true) : (s.read key table).2 = s := by
  obtain ⟨codes, found⟩ := Option.isSome_iff_exists.mp again
  rw [read_of_memory? found]

/-! ## What a step settles -/

theorem isSome_memory?_act : ((s.act step).2.memory? k).isSome =
    ((step.settles && decide (step.key = k)) || (s.memory? k).isSome) := by
  by_cases own : step.key = k
  · cases step with
    | read key table =>
      obtain rfl : key = k := own
      show ((s.read key table).2.memory? key).isSome = _
      rw [memory?_read]
      simp [Step.settles, Step.key]
    | clear key =>
      obtain rfl : key = k := own
      show ((s.clear key).memory? key).isSome = _
      rw [memory?_clear]
      simp [Step.settles, Step.key]
    | isActive key => rfl
  · rw [memory?_act_of_ne own]
    simp [own]

theorem Settled.act (h : s.Settled settled) : (s.act step).2.Settled
    (if step.settles then step.key :: settled else settled) := by
  intro k mem
  rw [isSome_memory?_act]
  cases settles : step.settles with
  | false =>
    rw [settles] at mem
    simp [h k mem]
  | true =>
    rw [settles] at mem
    rcases List.mem_cons.mp mem with rfl | mem
    · simp
    · simp [h k mem]

theorem Repeating.enter (h : s.Repeating (e :: rest)) : (s.enter e).2.Repeating rest := by
  obtain ⟨settled, known, -, later⟩ := h
  exact ⟨_, known.act, later⟩

theorem Repeating.again (h : s.Repeating (e :: rest)) (putIn : e.putIn = true) :
    e.step.settles = true ∧ (s.memory? e.step.key).isSome = true := by
  obtain ⟨settled, known, repeats, -⟩ := h
  obtain ⟨settles, mem⟩ := repeats putIn
  exact ⟨settles, known _ mem⟩

/-! ## Two simulations side by side -/

/-- Both take the step. -/
theorem SameDraws.act (h : SameDraws k s s') : SameDraws k (s.act step).2 (s'.act step).2 := by
  refine ⟨?_, ?_, ?_⟩
  · cases step with
    | read key table =>
      show (s.read key table).2.source = (s'.read key table).2.source
      rw [source_read, source_read, h.settled, h.source]
    | clear key => exact h.source
    | isActive key => exact h.source
  · intro j
    rw [isSome_memory?_act, isSome_memory?_act, h.settled]
  · by_cases own : step.key = k
    · cases step with
      | read key table =>
        obtain rfl : key = k := own
        show (s.read key table).2.memory? key = (s'.read key table).2.memory? key
        rw [memory?_read, memory?_read, read_fst, read_fst, h.memory, h.source]
      | clear key =>
        obtain rfl : key = k := own
        show (s.clear key).memory? key = (s'.clear key).memory? key
        rw [memory?_clear, memory?_clear]
      | isActive key => exact h.memory
    · rw [memory?_act_of_ne own, memory?_act_of_ne own, h.memory]

/-- A step about the brand that they agree on gives the same. -/
theorem SameDraws.answer (h : SameDraws k s s') (own : step.key = k) :
    (s.act step).1 = (s'.act step).1 := by
  cases step with
  | read key table =>
    obtain rfl : key = k := own
    show Answer.codes (s.read key table).1 = Answer.codes (s'.read key table).1
    rw [read_fst, read_fst, h.memory, h.source]
  | clear key => rfl
  | isActive key =>
    obtain rfl : key = k := own
    have active : s.isActive key = s'.isActive key :=
      Bool.eq_iff_iff.mpr (by rw [isActive_iff, isActive_iff, h.memory])
    exact congrArg Answer.active active

/-- Only the second takes the step, which repeats and is about another brand. -/
theorem SameDraws.after_repeated (h : SameDraws k s s') (settles : step.settles = true)
    (again : (s'.memory? step.key).isSome = true) (ne : step.key ≠ k) :
    SameDraws k s (s'.act step).2 := by
  refine ⟨?_, ?_, ?_⟩
  · cases step with
    | read key table =>
      have known : (s'.memory? key).isSome = true := again
      show s.source = (s'.read key table).2.source
      rw [read_again known, h.source]
    | clear key => exact h.source
    | isActive key => exact h.source
  · intro j
    rw [isSome_memory?_act, h.settled, settles]
    by_cases own : step.key = j
    · subst own
      simp [again]
    · simp [own]
  · rw [memory?_act_of_ne ne, h.memory]

/-! ## Runs -/

/-- A brand does not miss the steps about others. What is remembered of those may differ between the
two runs, but not whether they are settled, which is all that decides over drawing. -/
theorem unmissed_repeated (k : BrandKey) : Unmissed enter (fun e => !e.putIn)
    (fun e => decide (e.step.key = k)) (fun rest s s' => SameDraws k s s' ∧
      (∀ e ∈ rest, e.putIn = true → e.step.key ≠ k) ∧ s'.Repeating rest) where
  skip := by
    rintro e rest s s' ⟨same, ne, repeating⟩ out
    have putIn : e.putIn = true := by simpa using out
    obtain ⟨settles, again⟩ := repeating.again putIn
    exact ⟨same.after_repeated settles again (ne e List.mem_cons_self putIn),
      fun e' mem => ne e' (List.mem_cons_of_mem e mem), repeating.enter⟩
  take := by
    rintro e rest s s' ⟨same, ne, repeating⟩ -
    exact ⟨same.act, fun e' mem => ne e' (List.mem_cons_of_mem e mem), repeating.enter⟩
  look := by
    rintro e rest s s' ⟨same, ne, -⟩ seen
    have own : e.step.key = k := of_decide_eq_true seen
    refine ⟨?_, same.answer own⟩
    cases putIn : e.putIn with
    | false => rfl
    | true => exact absurd own (ne e List.mem_cons_self putIn)

/-- If only reads are put in, the two runs are in one state throughout. -/
theorem unmissed_reads : Unmissed enter (fun e => !e.putIn) (fun e => !e.putIn)
    (fun rest s s' => s = s' ∧
      (∀ e ∈ rest, e.putIn = true → ∃ key table, e.step = .read key table) ∧ s'.Repeating rest) where
  skip := by
    rintro e rest s s' ⟨rfl, reads, repeating⟩ out
    have putIn : e.putIn = true := by simpa using out
    obtain ⟨key, table, read⟩ := reads e List.mem_cons_self putIn
    have again : (s.memory? key).isSome = true := by
      have settled := (repeating.again putIn).2
      rw [read] at settled
      exact settled
    have unchanged : (enter s e).2 = s := by
      unfold enter
      rw [read]
      exact read_again again
    exact ⟨unchanged.symm, fun e' mem => reads e' (List.mem_cons_of_mem e mem), repeating.enter⟩
  take := by
    rintro e rest s s' ⟨rfl, reads, repeating⟩ -
    exact ⟨rfl, fun e' mem => reads e' (List.mem_cons_of_mem e mem), repeating.enter⟩
  look := by
    rintro e rest s s' ⟨rfl, -⟩ seen
    exact ⟨seen, rfl⟩

/-- Reading and clearing brands again does not move the draw of another brand. Steps are put into a
run of the simulation of a seed, each of which reads or clears a brand that was read or cleared before.
Then a brand that none of them is about gives the same answers with them and without them, and if
they all read, so does every other step. -/
theorem draws_unmoved (seed : UInt64) (run : List Entry) (repeats : Repeats [] run) :
    let answers (run : List Entry) := (carryOut enter (ofSeed seed) run).1
    let shorter := run.filter (!·.putIn)
    (∀ k, (∀ e ∈ run, e.putIn = true → e.step.key ≠ k) →
      (answers shorter).filter (·.1.step.key = k) = (answers run).filter (·.1.step.key = k)) ∧
    ((∀ e ∈ run, e.putIn = true → ∃ key table, e.step = .read key table) →
      answers shorter = (answers run).filter (!·.1.putIn)) := by
  intro answers shorter
  have start : (ofSeed seed).Repeating run := ⟨[], by simp [Settled], repeats⟩
  refine ⟨?_, ?_⟩
  · intro k ne
    exact (unmissed_repeated k).replies ⟨⟨rfl, fun _ => rfl, rfl⟩, ne, start⟩
  · intro reads
    have all : ∀ e ∈ shorter, (!e.putIn) = true := fun e mem => (List.mem_filter.mp mem).2
    have same := unmissed_reads.replies ⟨rfl, reads, start⟩
    rw [filter_carryOut all] at same
    exact same

/-- Audi is read again from another table and cleared before BMW is read for the first time, which BMW
does not notice. If it is only read again, nothing is noticed. -/
theorem draws_unmoved_by_another_brand :
    let audi : BrandKey := ⟨"audi"⟩
    let bmw : BrandKey := ⟨"bmw"⟩
    let table := (CodeTable.empty.insert "P1188" "Fuel trim").insert "P1296" "Cooling system"
    let cleared : List Entry := [⟨.read audi table, false⟩, ⟨.read audi .empty, true⟩,
      ⟨.isActive audi, false⟩, ⟨.clear audi, true⟩, ⟨.read bmw table, false⟩]
    let reread : List Entry := [⟨.read audi table, false⟩, ⟨.read audi .empty, true⟩,
      ⟨.isActive audi, false⟩, ⟨.read bmw table, false⟩]
    (Repeats [] cleared ∧ (∀ e ∈ cleared, e.putIn = true → e.step.key ≠ bmw) ∧
      (carryOut enter (ofSeed 5) (cleared.filter (!·.putIn))).1.filter (·.1.step.key = bmw) =
        (carryOut enter (ofSeed 5) cleared).1.filter (·.1.step.key = bmw)) ∧
    Repeats [] reread ∧ (∀ e ∈ reread, e.putIn = true → ∃ key table, e.step = .read key table) ∧
      (carryOut enter (ofSeed 5) (reread.filter (!·.putIn))).1 =
        (carryOut enter (ofSeed 5) reread).1.filter (!·.1.putIn) ∧
      (carryOut enter (ofSeed 5) reread).1.map (·.2) =
        [.codes ["P1188"], .codes ["P1188"], .active true, .codes ["P1296"]] := by
  intro audi bmw table cleared reread
  have repeats : Repeats [] cleared := by
    simp [cleared, Repeats, Step.settles, Step.key]
  have other : ∀ e ∈ cleared, e.putIn = true → e.step.key ≠ bmw := by
    simp [cleared, Step.key, audi, bmw]
  have rereads : Repeats [] reread := by
    simp [reread, Repeats, Step.settles, Step.key]
  have reads : ∀ e ∈ reread, e.putIn = true → ∃ key table, e.step = .read key table := by
    simp [reread]
  have answers : (carryOut enter (ofSeed 5) reread).1.map (·.2) =
      [.codes ["P1188"], .codes ["P1188"], .active true, .codes ["P1296"]] := by
    decide +kernel +zetaReduce
  exact ⟨⟨repeats, other, (draws_unmoved 5 cleared repeats).1 bmw other⟩,
    rereads, reads, (draws_unmoved 5 reread rereads).2 reads, answers⟩

end ScanTool.Simulation
