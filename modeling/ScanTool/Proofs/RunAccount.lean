import ScanTool.Proofs.SweepSteps

/-!
# The account of a run

A run completes sweeps until the number set has been made, a sweep fails, or nobody takes the last
snapshot. `Rounds` and `Ends` say so as rules, without fuel: the rounds that succeed one after the
other, and how the run ends after them. The main statement is what the counter of the poller, the
snapshots taken and the result of a run have to do with each other, for every run that comes to an
end, that a limited run does come to an end, and what is left of the counter after many runs.
-/

namespace ScanTool.Live.Poller

variable {σ : Type} [Channel σ] {p q : Poller} {s t : Session σ} {first : Bool}
  {room : Option Nat} {completed : List Snapshot}

/-- Rounds of a run that succeed one after the other, each of them begun while the number of sweeps
set has not been made: the snapshots `completed`, and the poller and the session that are left. -/
inductive Rounds : (first : Bool) → Poller → Session σ → (completed : List Snapshot) → Poller →
    Session σ → Prop where
  /-- No round. -/
  | none (first : Bool) (p : Poller) (s : Session σ) : Rounds first p s [] p s
  /-- A round and those after it. -/
  | more {first : Bool} {p p' q : Poller} {s s' t : Session σ} {snapshot : Snapshot}
    {completed : List Snapshot} (going : p.isDone = false)
    (round : p.round first s = (.ok snapshot, p', s')) (rest : Rounds false p' s' completed q t) :
    Rounds first p s (snapshot :: completed) q t

/-- Why a run ends. -/
inductive Ending where
  /-- The number of sweeps set has been made. -/
  | limit
  /-- A sweep fails. -/
  | failed (e : AdapterError)
  /-- Nobody takes the last snapshot. -/
  | untaken
  deriving DecidableEq

/-- How a run ends after the sweeps `completed`, which have left the poller `p` and the session `s`,
if `room` snapshots are taken, or any number of them. -/
inductive Ends (first : Bool) (room : Option Nat) (completed : List Snapshot) (p : Poller)
    (s : Session σ) : Ending → Run σ → Prop where
  /-- All snapshots were taken and no further sweep is begun. -/
  | limit (done : p.isDone = true) (taken : ∀ k, room = some k → completed.length ≤ k) :
    Ends first room completed p s .limit ⟨.ok (), completed, p, s⟩
  /-- All snapshots were taken and the next sweep fails. -/
  | failed {e : AdapterError} {p' : Poller} {s' : Session σ} (going : p.isDone = false)
    (round : p.round (first && completed.isEmpty) s = (.error e, p', s'))
    (taken : ∀ k, room = some k → completed.length ≤ k) :
    Ends first room completed p s (.failed e) ⟨.error e, completed, p', s'⟩
  /-- The last snapshot is handed over when as many were taken as ever will be. -/
  | untaken {accepted : List Snapshot} {last : Snapshot} (split : completed = accepted ++ [last])
    (gone : room = some accepted.length) :
    Ends first room completed p s .untaken ⟨.ok (), accepted, p, s⟩

/-! ## One round -/

theorem isDone_iff : p.isDone = true ↔ ∃ m, p.settings.limit = some m ∧ m ≤ p.sweeps := by
  unfold isDone
  cases p.settings.limit <;> simp

theorem lt_of_going (going : p.isDone = false) {m : Nat} (limit : p.settings.limit = some m) :
    p.sweeps < m := by
  refine Nat.lt_of_not_le fun le => ?_
  have done : p.isDone = true := isDone_iff.mpr ⟨m, limit, le⟩
  rw [going] at done
  cases done

theorem round_ok {p' : Poller} {s' : Session σ} {snapshot : Snapshot}
    (h : p.round first s = (.ok snapshot, p', s')) : p' = { p with sweeps := p.sweeps + 1 } := by
  have counted := sweep_poller p (if first then s else Channel.pause p.settings.interval s)
  unfold round at h
  rw [h] at counted
  exact counted

theorem round_error {p' : Poller} {s' : Session σ} {e : AdapterError}
    (h : p.round first s = (.error e, p', s')) : p' = p := by
  have counted := sweep_poller p (if first then s else Channel.pause p.settings.interval s)
  unfold round at h
  rw [h] at counted
  exact counted

/-- Everything that a run can do next, whatever fuel is left after it. -/
theorem runFrom_cases (first : Bool) (room : Option Nat) (p : Poller) (s : Session σ) :
    (p.isDone = true ∧ ∀ fuel, runFrom first (fuel + 1) room p s = some ⟨.ok (), [], p, s⟩) ∨
    (p.isDone = false ∧ ∃ e p' s', p.round first s = (.error e, p', s') ∧
      ∀ fuel, runFrom first (fuel + 1) room p s = some ⟨.error e, [], p', s'⟩) ∨
    (p.isDone = false ∧ ∃ snapshot p' s', p.round first s = (.ok snapshot, p', s') ∧
      room = some 0 ∧ ∀ fuel, runFrom first (fuel + 1) room p s = some ⟨.ok (), [], p', s'⟩) ∨
    (p.isDone = false ∧ ∃ snapshot p' s', p.round first s = (.ok snapshot, p', s') ∧
      room ≠ some 0 ∧ ∀ fuel, runFrom first (fuel + 1) room p s =
        (runFrom false fuel (room.map (· - 1)) p' s').map fun r =>
          { r with snapshots := snapshot :: r.snapshots }) := by
  cases done : p.isDone with
  | true => exact Or.inl ⟨rfl, fun fuel => by simp [runFrom, done]⟩
  | false =>
    refine Or.inr ?_
    rcases hround : p.round first s with ⟨e | snapshot, p', s'⟩
    · exact Or.inl ⟨rfl, e, p', s', rfl, fun fuel => by simp [runFrom, done, hround]⟩
    · by_cases hroom : room = some 0
      · exact Or.inr (Or.inl ⟨rfl, snapshot, p', s', rfl, hroom,
          fun fuel => by simp [runFrom, done, hround, hroom]⟩)
      · exact Or.inr (Or.inr ⟨rfl, snapshot, p', s', rfl, hroom,
          fun fuel => by simp [runFrom, done, hround, hroom]⟩)

/-! ## A run follows the rules -/

/-- One more snapshot was taken before the sweeps after which a run ends. -/
theorem Ends.more {ending : Ending} {r : Run σ} {snapshot : Snapshot} (hroom : room ≠ some 0)
    (h : Ends false (room.map (· - 1)) completed p s ending r) :
    Ends first room (snapshot :: completed) p s ending
      { r with snapshots := snapshot :: r.snapshots } := by
  have taken (h : ∀ k, room.map (· - 1) = some k → completed.length ≤ k) :
      ∀ k, room = some k → (snapshot :: completed).length ≤ k := by
    intro k hk
    have hpos : k ≠ 0 := fun h0 => hroom (h0 ▸ hk)
    have := h (k - 1) (by simp [hk])
    simp only [List.length_cons]
    omega
  cases h with
  | limit done all => exact .limit done (taken all)
  | failed going round all =>
    refine .failed going ?_ (taken all)
    simpa using round
  | @untaken accepted last split gone =>
    obtain ⟨k, hk, hlast⟩ := Option.map_eq_some_iff.mp gone
    have hpos : k ≠ 0 := fun h0 => hroom (h0 ▸ hk)
    have split' : snapshot :: completed = (snapshot :: accepted) ++ [last] := by
      rw [split, List.cons_append]
    have length : k = (snapshot :: accepted).length := by
      rw [List.length_cons]
      omega
    exact .untaken split' (hk.trans (congrArg some length))

/-- A run that comes to an end has completed some rounds and ended as the rules say. The induction is
on the fuel, and each round uses up one unit of it. -/
theorem ends_of_runFrom {fuel : Nat} {r : Run σ} (h : runFrom first fuel room p s = some r) :
    ∃ completed q t ending, Rounds first p s completed q t ∧
      Ends first room completed q t ending r := by
  induction fuel generalizing first room p s r with
  | zero => cases h
  | succ fuel ih =>
    rcases runFrom_cases first room p s with ⟨done, e⟩ | ⟨going, e, p', s', round, e'⟩ |
      ⟨going, snapshot, p', s', round, gone, e⟩ | ⟨going, snapshot, p', s', round, hroom, e⟩
    · obtain rfl := Option.some.inj ((e fuel).symm.trans h)
      exact ⟨[], p, s, .limit, .none first p s, .limit done (by simp)⟩
    · obtain rfl := Option.some.inj ((e' fuel).symm.trans h)
      exact ⟨[], p, s, .failed e, .none first p s, .failed going (by simpa using round) (by simp)⟩
    · obtain rfl := Option.some.inj ((e fuel).symm.trans h)
      have split : [snapshot] = [] ++ [snapshot] := rfl
      exact ⟨[snapshot], p', s', .untaken, .more going round (.none false p' s'),
        .untaken split gone⟩
    · rw [e fuel] at h
      obtain ⟨r', hr', rfl⟩ := Option.map_eq_some_iff.mp h
      obtain ⟨completed, q, t, ending, rounds, ends⟩ := ih hr'
      exact ⟨snapshot :: completed, q, t, ending, .more going round rounds, ends.more hroom⟩

/-- Every round counts, and a round is begun only while the number set has not been made. -/
theorem Rounds.poller (h : Rounds first p s completed q t) :
    q = { p with sweeps := p.sweeps + completed.length } ∧
      (∀ m, p.settings.limit = some m → p.sweeps ≤ m → q.sweeps ≤ m) := by
  induction h with
  | none first p s => exact ⟨rfl, fun _ _ h => h⟩
  | @more first p p' q s s' t snapshot completed going round rest ih =>
    obtain rfl := round_ok round
    refine ⟨?_, fun m limit _ => ih.2 m limit (lt_of_going going limit)⟩
    rw [ih.1, List.length_cons]
    simp only [Nat.add_assoc, Nat.add_comm completed.length]

theorem Rounds.of_done (done : p.isDone = true) (h : Rounds first p s completed q t) :
    completed = [] ∧ q = p ∧ t = s := by
  cases h with
  | none => exact ⟨rfl, rfl, rfl⟩
  | more going => rw [done] at going; cases going

/-! ## A limited run comes to an end -/

/-- More fuel does not change what a run comes to. -/
theorem runFrom_succ {fuel : Nat} {r : Run σ} (h : runFrom first fuel room p s = some r) :
    runFrom first (fuel + 1) room p s = some r := by
  induction fuel generalizing first room p s r with
  | zero => cases h
  | succ fuel ih =>
    rcases runFrom_cases first room p s with ⟨-, e⟩ | ⟨-, _, _, _, -, e⟩ | ⟨-, _, _, _, -, -, e⟩ |
      ⟨-, snapshot, p', s', -, -, e⟩
    · rw [e, ← e fuel, h]
    · rw [e, ← e fuel, h]
    · rw [e, ← e fuel, h]
    · rw [e] at h ⊢
      obtain ⟨r', hr', rfl⟩ := Option.map_eq_some_iff.mp h
      rw [ih hr', Option.map_some]

theorem runFrom_of_le {fuel fuel' : Nat} {r : Run σ} (h : runFrom first fuel room p s = some r)
    (le : fuel ≤ fuel') : runFrom first fuel' room p s = some r := by
  induction le with
  | refl => exact h
  | step _ ih => exact runFrom_succ ih

/-- Each round brings the counter closer to the number set, so a run needs no more rounds than are
missing. -/
theorem exists_runFrom {fuel m : Nat} (limit : p.settings.limit = some m)
    (enough : m - p.sweeps < fuel) : ∃ r, runFrom first fuel room p s = some r := by
  induction fuel generalizing first room p s with
  | zero => omega
  | succ fuel ih =>
    rcases runFrom_cases first room p s with ⟨-, e⟩ | ⟨-, _, _, _, -, e⟩ | ⟨-, _, _, _, -, -, e⟩ |
      ⟨going, snapshot, p', s', round, -, e⟩
    · exact ⟨_, e fuel⟩
    · exact ⟨_, e fuel⟩
    · exact ⟨_, e fuel⟩
    · obtain rfl := round_ok round
      have below := lt_of_going going limit
      obtain ⟨r, hr⟩ : ∃ r, runFrom false fuel (room.map (· - 1))
          { p with sweeps := p.sweeps + 1 } s' = some r :=
        ih limit (by dsimp only; omega)
      exact ⟨_, by rw [e, hr, Option.map_some]⟩

/-! ## The account -/

/-- What a run over the session `s` with room for `room` snapshots has to account for, if it completed
the sweeps `completed` and ended for the reason `ending`. -/
structure Account (room : Option Nat) (p : Poller) (s : Session σ) (completed : List Snapshot)
    (ending : Ending) (r : Run σ) : Prop where
  /-- Nothing is done if the number set has been made before. -/
  idle : ∀ m, p.settings.limit = some m → m ≤ p.sweeps → r = ⟨.ok (), [], p, s⟩
  /-- The snapshots taken are the first ones completed. -/
  taken : r.snapshots = room.elim completed completed.take
  /-- Exactly the sweeps completed count. -/
  poller : r.poller = { p with sweeps := p.sweeps + completed.length }
  /-- At most one sweep was completed for nothing, namely if its snapshot was not taken. -/
  lost : completed.length = r.snapshots.length + if ending = .untaken then 1 else 0
  /-- The counter never exceeds the number set. -/
  within : ∀ m, p.settings.limit = some m → p.sweeps ≤ m → r.poller.sweeps ≤ m
  /-- If no sweep fails and enough snapshots are taken, the number set is made. -/
  full : ∀ m, p.settings.limit = some m → p.sweeps < m → (∀ e, ending ≠ .failed e) →
    (∀ k, room = some k → m - p.sweeps ≤ k) → r.result = .ok () ∧ r.poller.sweeps = m
  /-- The run fails exactly if a sweep does, and with the same failure. -/
  failed_iff : ∀ e, ending = .failed e ↔ r.result = .error e
  /-- If a sweep fails, every snapshot completed before was taken. -/
  failed : ∀ e, ending = .failed e → r.snapshots = completed

/-- What the rules say of the counter, the snapshots and the result. -/
theorem account_of_ends {ending : Ending} {r : Run σ} (rounds : Rounds true p s completed q t)
    (ends : Ends true room completed q t ending r) : Account room p s completed ending r := by
  obtain ⟨same, within⟩ := rounds.poller
  have limit : q.settings.limit = p.settings.limit := by rw [same]
  have all (h : ∀ k, room = some k → completed.length ≤ k) :
      completed = room.elim completed completed.take := by
    cases room with
    | none => rfl
    | some k => exact (List.take_of_length_le (h k rfl)).symm
  have idle {m : Nat} (hm : p.settings.limit = some m) (le : m ≤ p.sweeps) :
      p.isDone = true := isDone_iff.mpr ⟨m, hm, le⟩
  cases ends with
  | limit done taken =>
    exact
      { idle := fun m hm le => by
          obtain ⟨rfl, rfl, rfl⟩ := rounds.of_done (idle hm le)
          rfl
        taken := all taken
        poller := same
        lost := rfl
        within := within
        full := fun m hm below _ _ => by
          obtain ⟨m', hm', le⟩ := isDone_iff.mp done
          obtain rfl : m' = m := by simpa [limit, hm] using hm'.symm
          exact ⟨rfl, Nat.le_antisymm (within m' hm (by omega)) le⟩
        failed_iff := by simp
        failed := by simp }
  | @failed e p' s' going round taken =>
    obtain rfl := round_error round
    exact
      { idle := fun m hm le => by
          obtain ⟨-, rfl, -⟩ := rounds.of_done (idle hm le)
          rw [idle hm le] at going
          cases going
        taken := all taken
        poller := same
        lost := by simp
        within := within
        full := fun m hm below ok _ => absurd rfl (ok e)
        failed_iff := by simp
        failed := fun _ _ => rfl }
  | @untaken accepted last split gone =>
    have length : completed.length = accepted.length + 1 := by simp [split]
    exact
      { idle := fun m hm le => by
          obtain ⟨rfl, -, -⟩ := rounds.of_done (idle hm le)
          simp at split
        taken := by simp [gone, split]
        poller := same
        lost := by simpa using length
        within := within
        full := fun m hm below _ enough => by
          have := enough accepted.length gone
          have le := within m hm (by omega)
          rw [same] at le
          dsimp only at le
          omega
        failed_iff := by simp
        failed := by simp }

/-- The poller after runs one after the other, each of them over a session and with a receiver of its
own. -/
inductive AfterRuns (p : Poller) : Poller → Prop where
  /-- No run. -/
  | none : AfterRuns p p
  /-- One more run. -/
  | run {σ : Type} [Channel σ] {q : Poller} {fuel : Nat} {room : Option Nat} {s : Session σ}
    {r : Run σ} (before : AfterRuns p q) (run : q.run fuel room s = some r) : AfterRuns p r.poller

/-- Over any number of runs the settings stay, and the counter stays within the number set. -/
theorem AfterRuns.within (h : AfterRuns p q) {m : Nat} (limit : p.settings.limit = some m)
    (start : p.sweeps ≤ m) : q.settings.limit = some m ∧ q.sweeps ≤ m := by
  induction h with
  | none => exact ⟨limit, start⟩
  | run before run ih =>
    obtain ⟨completed, _, _, ending, rounds, ends⟩ := ends_of_runFrom run
    have account := account_of_ends rounds ends
    exact ⟨by rw [account.poller]; exact ih.1, account.within m ih.1 ih.2⟩

/-- Every run that comes to an end has its account, whatever the poller has counted before. A limited
run comes to an end, and with as many rounds as are missing. Over any number of runs of a fresh
poller the counter stays within the number set. -/
theorem run_accounts (p : Poller) (room : Option Nat) (s : Session σ) :
    (∀ fuel r, p.run fuel room s = some r → ∃ completed q t ending,
      Rounds true p s completed q t ∧ Ends true room completed q t ending r ∧
        Account room p s completed ending r) ∧
    (∀ m, p.settings.limit = some m →
      ∃ r, ∀ fuel, m - p.sweeps < fuel → p.run fuel room s = some r) ∧
    (∀ settings m q, settings.limit = some m → AfterRuns (ofSettings settings) q →
      q.sweeps ≤ m) := by
  refine ⟨?_, ?_, ?_⟩
  · intro fuel r h
    obtain ⟨completed, q, t, ending, rounds, ends⟩ := ends_of_runFrom h
    exact ⟨completed, q, t, ending, rounds, ends, account_of_ends rounds ends⟩
  · intro m limit
    obtain ⟨r, hr⟩ : ∃ r, p.run (m - p.sweeps + 1) room s = some r :=
      exists_runFrom limit (Nat.lt_succ_self (m - p.sweeps))
    exact ⟨r, fun fuel enough => runFrom_of_le hr enough⟩
  · intro settings m q limit runs
    exact (runs.within limit (Nat.zero_le m)).2

/-- A run with two of at most four sweeps still to make, over a receiver that takes one snapshot and
then goes away: both sweeps are made, and the second snapshot is lost. -/
theorem run_accounts_for_lost_snapshot :
    let settings := { PollerSettings.standard with limit := some 4 }
    let p : Poller := { ofSettings settings with sweeps := 2 }
    let s : Session Script :=
      { Session.start (Script.empty.answer "0100" "410008188000") .standard with stage := .ready }
    ∃ r completed ending, p.run 5 (some 1) s = some r ∧ Account (some 1) p s completed ending r ∧
      r.poller.sweeps = 4 ∧ r.snapshots = completed.take 1 ∧ completed.length = 2 := by
  intro settings p s
  have sweeps : (p.run 5 (some 1) s).map (·.poller.sweeps) = some 4 := by decide +kernel
  obtain ⟨r, hr, hsweeps⟩ := Option.map_eq_some_iff.mp sweeps
  obtain ⟨completed, _, _, ending, -, -, account⟩ := (run_accounts p (some 1) s).1 5 r hr
  have counted : r.poller.sweeps = 2 + completed.length := congrArg Poller.sweeps account.poller
  exact ⟨r, completed, ending, hr, account, hsweeps, account.taken, by omega⟩

end ScanTool.Live.Poller
