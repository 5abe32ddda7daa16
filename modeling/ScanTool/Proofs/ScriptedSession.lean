import ScanTool.Adapter.Operation

/-!
# Sessions over a script

What an exchange, the set-up and every attempt of a session come to when the channel is a script.
An exchange with an open script has two outcomes, and a session adds a third: `heard` is the state
after an answer, `lost` the state after the link has dropped, and a session that is not ready
refuses. The proofs about whole uses of a session rest on these equations and open no definition of
the session again.
-/

namespace ScanTool

namespace Script

variable {c c' : Script} {request : String}

/-- The script with one more request written down. -/
def heard (request : String) (c : Script) : Script := { c with received := request :: c.received }

/-- The script with one more request written down, at which the link drops. -/
def lost (request : String) (c : Script) : Script := { c.heard request with closed := true }

@[simp] theorem lost_closed : (c.lost request).closed = true := rfl

/-- A script whose answers agree with those of another gives the same replies. -/
theorem reply_congr {c c' : Script} (h : c'.answers = c.answers) (request : String) :
    c'.reply request = c.reply request := by
  unfold reply
  rw [h]

/-- An open script drops the link at the request at which it fails. -/
theorem exchange_failing (isOpen : c.closed = false) (fails : c.failsAt = some request) :
    Channel.exchange request c = (.error .disconnected, c.lost request) := by
  show exchange request c = _
  unfold exchange
  simp [isOpen, fails, lost, heard]

/-- An open script answers every other request. -/
theorem exchange_answered (isOpen : c.closed = false) (answers : c.failsAt ≠ some request) :
    Channel.exchange request c = (.ok (c.reply request), c.heard request) := by
  show exchange request c = _
  unfold exchange
  simp [isOpen, answers, heard, reply]

/-- `c'` is what becomes of `c` when the requests `sent` are received; it may be closed by then, and
time may have passed. -/
structure Receives (c : Script) (sent : List String) (c' : Script) : Prop where
  /-- The answers stay. -/
  answers : c'.answers = c.answers
  /-- The request at which the script fails stays. -/
  failsAt : c'.failsAt = c.failsAt
  /-- Only the requests are written down. -/
  received : c'.received = sent.reverse ++ c.received

theorem Receives.refl (c : Script) : c.Receives [] c := ⟨rfl, rfl, rfl⟩

theorem Receives.trans {c₁ c₂ c₃ : Script} {l₁ l₂ : List String} (h₁ : c₁.Receives l₁ c₂)
    (h₂ : c₂.Receives l₂ c₃) : c₁.Receives (l₁ ++ l₂) c₃ :=
  ⟨h₂.answers.trans h₁.answers, h₂.failsAt.trans h₁.failsAt, by
    rw [h₂.received, h₁.received, List.reverse_append, List.append_assoc]⟩

theorem Receives.log {sent : List String} (h : c.Receives sent c') : c'.log = c.log ++ sent := by
  show c'.received.reverse = c.received.reverse ++ sent
  rw [h.received, List.reverse_append, List.reverse_reverse]

theorem Receives.heard (request : String) (c : Script) : c.Receives [request] (c.heard request) :=
  ⟨rfl, rfl, rfl⟩

theorem Receives.lost (request : String) (c : Script) : c.Receives [request] (c.lost request) :=
  ⟨rfl, rfl, rfl⟩

theorem Receives.pause (ms : Nat) (c : Script) : c.Receives [] (Channel.pause ms c) :=
  ⟨rfl, rfl, rfl⟩

end Script

/-! ## The set-up -/

namespace Setup

variable {c : Script}

/-- One command of the set-up is written down, and the script stays open if it succeeds. -/
theorem send_receives (s : Setup) (command : String) (isOpen : c.closed = false) :
    c.Receives [command] (s.send command c).2 ∧
      ((s.send command c).1 = .ok () → (s.send command c).2.closed = false) := by
  unfold send
  by_cases fails : c.failsAt = some command
  · rw [Script.exchange_failing isOpen fails]
    exact ⟨.lost command c, fun h => by cases h⟩
  · rw [Script.exchange_answered isOpen fails]
    dsimp only
    split
    · exact ⟨.heard command c, fun _ => isOpen⟩
    · exact ⟨.heard command c, fun h => by cases h⟩

/-- The commands after the first are written down in order up to the first failure. -/
theorem sendRest_receives (s : Setup) (commands : List String) (isOpen : c.closed = false) :
    ∃ sent, sent <+: commands ∧ c.Receives sent (s.sendRest commands c).2 ∧
      ((s.sendRest commands c).1 = .ok () → (s.sendRest commands c).2.closed = false) := by
  induction commands generalizing c with
  | nil => exact ⟨[], List.prefix_rfl, .refl c, fun _ => isOpen⟩
  | cons command rest ih =>
    have first := s.send_receives command (c := Channel.pause s.delay c) isOpen
    simp only [sendRest]
    rcases he : s.send command (Channel.pause s.delay c) with ⟨_ | _, c'⟩
    · rw [he] at first
      exact ⟨[command], by simp, (Script.Receives.pause s.delay c).trans first.1,
        fun h => by cases h⟩
    · rw [he] at first
      obtain ⟨sent, hsent, hrec, hopen⟩ := ih (first.2 rfl)
      exact ⟨command :: sent, by simpa using hsent,
        ((Script.Receives.pause s.delay c).trans first.1).trans hrec, hopen⟩

/-- The set-up sends its commands in order up to the first failure, and leaves the script open if it
succeeds. -/
theorem run_receives (s : Setup) (isOpen : c.closed = false) :
    ∃ sent, sent <+: s.commands ∧ c.Receives sent (s.run c).2 ∧
      ((s.run c).1 = .ok () → (s.run c).2.closed = false) := by
  unfold run
  cases hc : s.commands with
  | nil => exact ⟨[], List.prefix_rfl, .refl c, fun _ => isOpen⟩
  | cons command rest =>
    have first := s.send_receives command isOpen
    dsimp only
    rcases he : s.send command c with ⟨_ | _, c'⟩
    · rw [he] at first
      exact ⟨[command], by simp, first.1, fun h => by cases h⟩
    · rw [he] at first
      obtain ⟨sent, hsent, hrec, hopen⟩ := s.sendRest_receives rest (first.2 rfl)
      exact ⟨command :: sent, by simpa using hsent, first.1.trans hrec, hopen⟩

end Setup

/-! ## Attempts of a session -/

namespace Session

section anyChannel

variable {σ : Type} [Channel σ] {s s' : Session σ}

/-- A session that is not ready refuses, and nothing changes. -/
theorem attempt_of_not_ready {α : Type} (work : σ → Except AdapterError α × σ)
    (h : s.stage ≠ .ready) : s.attempt work = (.error (.notReady s.stage), s) := by
  simp [attempt, isReady, h]

/-- A request through the session as a channel is an attempt that keeps the answer as it is. -/
theorem exchange_eq_attempt (request : String) (s : Session σ) :
    Channel.exchange request s = s.attempt (ask request id) := by
  have h : Channel.exchange request = ask request (id : String → String) (σ := σ) := by
    funext c
    unfold ask
    rcases Channel.exchange request c with ⟨_ | _, c'⟩ <;> rfl
  rw [← h]
  rfl

theorem probe_of_not_ready (h : s.stage ≠ .ready) :
    s.probe = (.error (.notReady s.stage), s) := by
  have hr : s.isReady = false := by simp [isReady, h]
  simp [probe, hr, attempt_of_not_ready _ h]

/-- A vehicle that has been asked is not asked again. -/
theorem probe_known {set : Live.Supported} (ready : s.stage = .ready)
    (known : s.supported = some set) : s.probe = (.ok set, s) := by
  simp [probe, isReady, ready, known]

theorem query_of_not_ready (pid : Live.Pid) (h : s.stage ≠ .ready) :
    s.query pid = (.error (.notReady s.stage), s) := by
  simp [query, probe_of_not_ready h]

/-- A query fails if the vehicle cannot be asked which parameters it supports. -/
theorem query_of_probe_error (pid : Live.Pid) {e : AdapterError} (h : s.probe = (.error e, s')) :
    s.query pid = (.error e, s') := by
  simp [query, h]

/-- A parameter that the vehicle does not support is not asked for. -/
theorem query_unsupported {pid : Live.Pid} {set : Live.Supported} (h : s.probe = (.ok set, s'))
    (hpid : set.contains pid = false) : s.query pid = (.error (.unsupported pid), s') := by
  simp [query, h, hpid]

/-- A parameter that the vehicle supports is asked for. -/
theorem query_supported {pid : Live.Pid} {set : Live.Supported} (h : s.probe = (.ok set, s'))
    (hpid : set.contains pid = true) : s.query pid = s'.attempt (askValue pid) := by
  simp [query, h, hpid]

end anyChannel

variable {s : Session Script} {request : String}

/-- The session after an answer to a request. -/
def heard (request : String) (s : Session Script) : Session Script :=
  { s with channel := s.channel.heard request }

/-- The session after the link has dropped at a request. -/
def lost (request : String) (s : Session Script) : Session Script :=
  { s with channel := s.channel.lost request, stage := .disconnected }

/-- The session after the vehicle has told which parameters it supports. -/
def learned (s : Session Script) : Session Script :=
  { s.heard Live.Supported.command with
    supported := some (.ofAnswer (s.channel.reply Live.Supported.command)) }

@[simp] theorem lost_channel : (s.lost request).channel = s.channel.lost request := rfl
@[simp] theorem lost_stage : (s.lost request).stage = .disconnected := rfl
@[simp] theorem learned_supported :
    s.learned.supported = some (.ofAnswer (s.channel.reply Live.Supported.command)) := rfl

/-- The tie between a session and its channel: the channel is closed exactly when the session is
disconnected. -/
def Tied (s : Session Script) : Prop := s.channel.closed = true ↔ s.stage = .disconnected

theorem Tied.isOpen (h : s.Tied) (hs : s.stage ≠ .disconnected) : s.channel.closed = false := by
  rw [← Bool.not_eq_true]
  exact fun hc => hs (h.mp hc)

theorem Tied.heard (h : s.Tied) : (s.heard request).Tied := h

theorem Tied.learned (h : s.Tied) : s.learned.Tied := h

theorem tied_lost : (s.lost request).Tied := by simp [Tied]

/-- An attempt of a ready session over an open script that drops the link at the request. -/
theorem attempt_failing {α : Type} (read : String → α) (ready : s.stage = .ready)
    (isOpen : s.channel.closed = false) (fails : s.channel.failsAt = some request) :
    s.attempt (ask request read) = (.error .disconnected, s.lost request) := by
  simp [attempt, isReady, ready, ask, Script.exchange_failing isOpen fails,
    AdapterError.isTransport, drop, Channel.close, lost, Script.lost]

/-- An attempt of a ready session over an open script that answers the request. -/
theorem attempt_answered {α : Type} (read : String → α) (ready : s.stage = .ready)
    (isOpen : s.channel.closed = false) (answers : s.channel.failsAt ≠ some request) :
    s.attempt (ask request read) = (.ok (read (s.channel.reply request)), s.heard request) := by
  simp [attempt, isReady, ready, ask, Script.exchange_answered isOpen answers, heard]

theorem probe_failing (ready : s.stage = .ready) (isOpen : s.channel.closed = false)
    (unknown : s.supported = none) (fails : s.channel.failsAt = some Live.Supported.command) :
    s.probe = (.error .disconnected, s.lost Live.Supported.command) := by
  have h := attempt_failing Live.Supported.ofAnswer ready isOpen fails
  simp [probe, isReady, ready, unknown, askSupported, h]

theorem probe_answered (ready : s.stage = .ready) (isOpen : s.channel.closed = false)
    (unknown : s.supported = none) (answers : s.channel.failsAt ≠ some Live.Supported.command) :
    s.probe = (.ok (.ofAnswer (s.channel.reply Live.Supported.command)), s.learned) := by
  have h := attempt_answered Live.Supported.ofAnswer ready isOpen answers
  simp [probe, isReady, ready, unknown, askSupported, h, learned]

/-- Everything that an attempt of a tied session can come to. -/
theorem attempt_cases {α : Type} (h : s.Tied) (request : String) (read : String → α) :
    (s.stage ≠ .ready ∧ s.attempt (ask request read) = (.error (.notReady s.stage), s)) ∨
    (s.stage = .ready ∧ s.attempt (ask request read) = (.error .disconnected, s.lost request)) ∨
    (s.stage = .ready ∧
      s.attempt (ask request read) = (.ok (read (s.channel.reply request)), s.heard request)) := by
  by_cases ready : s.stage = .ready
  · have isOpen := h.isOpen (by simp [ready])
    by_cases fails : s.channel.failsAt = some request
    · exact Or.inr (Or.inl ⟨ready, attempt_failing read ready isOpen fails⟩)
    · exact Or.inr (Or.inr ⟨ready, attempt_answered read ready isOpen fails⟩)
  · exact Or.inl ⟨ready, attempt_of_not_ready _ ready⟩

/-- Everything that asking a tied session for the supported parameters can come to. -/
theorem probe_cases (h : s.Tied) :
    (s.stage ≠ .ready ∧ s.probe = (.error (.notReady s.stage), s)) ∨
    (s.stage = .ready ∧ ∃ set, s.supported = some set ∧ s.probe = (.ok set, s)) ∨
    (s.stage = .ready ∧ s.supported = none ∧
      s.probe = (.error .disconnected, s.lost Live.Supported.command)) ∨
    (s.stage = .ready ∧ s.supported = none ∧
      s.probe = (.ok (.ofAnswer (s.channel.reply Live.Supported.command)), s.learned)) := by
  by_cases ready : s.stage = .ready
  · have isOpen := h.isOpen (by simp [ready])
    cases known : s.supported with
    | some set => exact Or.inr (Or.inl ⟨ready, set, rfl, probe_known ready known⟩)
    | none =>
      by_cases fails : s.channel.failsAt = some Live.Supported.command
      · exact Or.inr (Or.inr (Or.inl ⟨ready, rfl, probe_failing ready isOpen known fails⟩))
      · exact Or.inr (Or.inr (Or.inr ⟨ready, rfl, probe_answered ready isOpen known fails⟩))
  · exact Or.inl ⟨ready, probe_of_not_ready ready⟩

/-- A session that has told the supported parameters knows them. -/
theorem supported_of_probe {s' : Session Script} {set : Live.Supported} (h : s.Tied)
    (hp : s.probe = (.ok set, s')) : s'.supported = some set := by
  rcases probe_cases h with ⟨-, e⟩ | ⟨-, set', known, e⟩ | ⟨-, -, e⟩ | ⟨-, -, e⟩ <;>
    rw [hp] at e <;> cases e
  · exact known
  · rfl

end Session

end ScanTool
