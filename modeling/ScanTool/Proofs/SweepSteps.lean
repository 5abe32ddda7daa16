import ScanTool.Live.Poller

/-!
# Sweeps step by step

The functions of the set-up, of the session and of the poller as work that goes on only if the work
before it succeeded. A proof about a sweep or a set-up needs one lemma about such a sequence and one
about each request.
-/

namespace ScanTool

open Live

/-- What is done next if the work before it succeeded. -/
def andThen {τ α β : Type} (o : Except AdapterError α × τ)
    (next : α → τ → Except AdapterError β × τ) : Except AdapterError β × τ :=
  match o with
  | (.error e, t) => (.error e, t)
  | (.ok a, t) => next a t

variable {σ : Type} [Channel σ]

namespace Setup

theorem sendRest_cons (s : Setup) (command : String) (rest : List String) (c : σ) :
    s.sendRest (command :: rest) c =
      andThen (s.send command (Channel.pause s.delay c)) fun _ => s.sendRest rest := by
  simp only [sendRest]
  rcases s.send command (Channel.pause s.delay c) with ⟨_ | _, d⟩ <;> rfl

theorem run_of_commands {s : Setup} {command : String} {rest : List String}
    (hs : s.commands = command :: rest) (c : σ) :
    s.run c = andThen (s.send command c) fun _ => s.sendRest rest := by
  simp only [run, hs]
  rcases s.send command c with ⟨_ | _, d⟩ <;> rfl

end Setup

namespace Session

/-- A vehicle that has not been asked is asked. -/
theorem probe_unknown {s : Session σ} (unknown : s.supported = none) :
    s.probe = andThen (s.attempt askSupported) fun set s =>
      (.ok set, { s with supported := some set }) := by
  unfold Session.probe
  rw [unknown]
  cases s.isReady <;> rcases s.attempt askSupported with ⟨_ | _, s'⟩ <;> rfl

theorem query_eq_andThen (pid : Pid) (s : Session σ) : s.query pid =
    andThen s.probe fun set s =>
      if set.contains pid then s.attempt (askValue pid) else (.error (.unsupported pid), s) := by
  unfold query
  rcases s.probe with ⟨_ | _, s'⟩ <;> rfl

end Session

namespace Live.Poller

/-- The entry of a parameter that was asked for. -/
def asked (p : Parameter) (reading : Option Reading) : Entry :=
  ⟨p.pid, p.label, reading.elim .absent .value⟩

theorem sample_of_contains {set : Supported} {p : Parameter} (hp : set.contains p.pid = true)
    (s : Session σ) :
    sample set p s = (s.query p.pid).map (Except.map (asked p)) id := by
  unfold sample
  rw [if_pos hp]
  rcases s.query p.pid with ⟨_ | _ | _, s'⟩ <;> rfl

theorem samples_cons (set : Supported) (p : Parameter) (rest : List Parameter)
    (s : Session σ) : samples set (p :: rest) s =
      andThen (sample set p s) fun e t => (samples set rest t).map (Except.map (e :: ·)) id := by
  simp only [samples]
  rcases sample set p s with ⟨_ | e, t⟩
  · rfl
  · rcases hr : samples set rest t with ⟨_ | es, u⟩ <;> simp [andThen, hr, Except.map]

theorem sweep_eq (p : Poller) (s : Session σ) :
    p.sweep s =
      let o := andThen s.probe fun set t =>
        (samples set (p.settings.pids.filterMap parameter?) t).map
          (Except.map fun es => Snapshot.mk (Channel.clock s) es) id
      (o.1, { p with sweeps := p.sweeps + if o.1.isOk then 1 else 0 }, o.2) := by
  unfold sweep
  rcases s.probe with ⟨_ | set, t⟩
  · rfl
  · rcases hs : samples set (p.settings.pids.filterMap parameter?) t with ⟨_ | es, u⟩ <;>
      simp [andThen, hs, Except.map, Except.isOk, Except.toBool]

/-- A sweep counts if and only if it succeeds. -/
theorem sweep_poller (p : Poller) (s : Session σ) :
    (p.sweep s).2.1 = { p with sweeps := p.sweeps + if (p.sweep s).1.isOk then 1 else 0 } := by
  rw [sweep_eq]

end Live.Poller

end ScanTool
