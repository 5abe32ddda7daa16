import ScanTool.Adapter.Operation
import ScanTool.Live.Poller

/-!
# Monitors

A monitor is a session together with a poller that sweeps over it. Its life is a list of steps, each
an operation on the session or a sweep. What every operation of the session keeps, a monitor keeps,
because a sweep does nothing to the session but to ask for the supported parameters and to query.
-/

namespace ScanTool.Live

/-- A session with a poller. -/
structure Monitor (σ : Type) where
  /-- The poller. -/
  poller : Poller
  /-- The session. -/
  session : Session σ

/-- Something that a monitor does. -/
inductive Monitor.Step where
  /-- An operation on the session. -/
  | operate (op : Operation)
  /-- A sweep. -/
  | sweep

namespace Poller

variable {σ : Type} [Channel σ] {P : Session σ → Prop}

/-- What every query keeps, asking for one parameter of a sweep keeps. -/
theorem sample_induction (query : ∀ s, P s → ∀ pid, P (s.query pid).2) (supported : Supported)
    (p : Parameter) {s : Session σ} (h : P s) : P (sample supported p s).2 := by
  unfold sample
  split
  · have hq := query s h p.pid
    rcases hr : s.query p.pid with ⟨_ | _ | _, s'⟩ <;> rw [hr] at hq <;> exact hq
  · exact h

/-- What every query keeps, asking for a list of parameters keeps. -/
theorem samples_induction (query : ∀ s, P s → ∀ pid, P (s.query pid).2) (supported : Supported)
    (ps : List Parameter) {s : Session σ} (h : P s) : P (samples supported ps s).2 := by
  induction ps generalizing s with
  | nil => exact h
  | cons p rest ih =>
    have hp := sample_induction query supported p h
    unfold samples
    rcases hr : sample supported p s with ⟨_ | _, s'⟩ <;> rw [hr] at hp
    · exact hp
    · have hrest := ih hp
      rcases hr' : samples supported rest s' with ⟨_ | _, s''⟩ <;> rw [hr'] at hrest
      · simpa [hr'] using hrest
      · simpa [hr'] using hrest

/-- What asking for the supported parameters and every query keep, a sweep keeps. -/
theorem sweep_induction (probe : ∀ s, P s → P s.probe.2)
    (query : ∀ s, P s → ∀ pid, P (s.query pid).2) (p : Poller) {s : Session σ} (h : P s) :
    P (p.sweep s).2.2 := by
  have hs := probe s h
  unfold sweep
  rcases hr : s.probe with ⟨_ | supported, s'⟩ <;> rw [hr] at hs
  · exact hs
  · have hsamples := samples_induction query supported (p.settings.pids.filterMap parameter?) hs
    rcases hr' : samples supported (p.settings.pids.filterMap parameter?) s' with ⟨_ | _, s''⟩ <;>
      rw [hr'] at hsamples
    · simpa [hr'] using hsamples
    · simpa [hr'] using hsamples

end Poller

namespace Monitor

variable {σ : Type} [Channel σ]

/-- Takes a step. -/
def act (m : Monitor σ) : Step → Except AdapterError (Reply ⊕ Snapshot) × Monitor σ
  | .operate op => (m.session.perform op).map (Except.map .inl) fun s => { m with session := s }
  | .sweep =>
    match m.poller.sweep m.session with
    | (result, p, s) => (result.map .inr, ⟨p, s⟩)

/-- The monitor after steps taken one after the other. -/
def actAll (m : Monitor σ) : List Step → Monitor σ
  | [] => m
  | step :: rest => (m.act step).2.actAll rest

/-- What the operations of the steps, asking for the supported parameters and every query keep, a
life of the monitor keeps. -/
theorem actAll_induction {P : Session σ → Prop} {m : Monitor σ} {steps : List Step}
    (operate : ∀ s, P s → ∀ op, .operate op ∈ steps → P (s.perform op).2)
    (probe : ∀ s, P s → P s.probe.2) (query : ∀ s, P s → ∀ pid, P (s.query pid).2)
    (h : P m.session) : P (m.actAll steps).session := by
  induction steps generalizing m with
  | nil => exact h
  | cons step rest ih =>
    refine ih (fun s hs op hop => operate s hs op (List.mem_cons_of_mem _ hop)) ?_
    cases step with
    | operate op => exact operate m.session h op List.mem_cons_self
    | sweep => exact Poller.sweep_induction probe query m.poller h

end Monitor

end ScanTool.Live
