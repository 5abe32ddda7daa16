import ScanTool.Proofs.ScriptedSession
import ScanTool.Proofs.SweepSteps

/-!
# What a sweep asks and finds

A sweep over a ready session sends the requests of its plan one after the other. `Asks` says how work
of this kind ends: all requests are answered and it succeeds, or it is cut off at the first one that
fails. It holds of one request, is kept by what follows, and so holds of a sweep; the main statement
says which entries the sweep gives, what it sends, and what is left of the session and the poller
either way.
-/

namespace ScanTool

open Live

namespace Script

variable {c : Script} {request : String}

/-- The exchange of a request with the script fails. -/
def Fails (c : Script) (request : String) : Prop := c.closed = true ∨ c.failsAt = some request

instance (c : Script) (request : String) : Decidable (c.Fails request) :=
  inferInstanceAs (Decidable (_ ∨ _))

theorem not_fails_iff : ¬ c.Fails request ↔ c.closed = false ∧ c.failsAt ≠ some request := by
  simp [Fails]

theorem exchange_closed (closed : c.closed = true) :
    Channel.exchange request c = (.error .disconnected, c) := if_pos closed

end Script

namespace Session

variable {s t : Session Script} {set : Supported} {requests : List String} {α β : Type}

/-- The set that a session goes by: the one it knows, or else the one in the answer of the vehicle. -/
def probed (s : Session Script) : Supported :=
  s.supported.getD (.ofAnswer (s.channel.reply Supported.command))

/-- The session after requests that were answered, by which time it knows the supported
parameters. -/
def answered (set : Supported) (requests : List String) (s : Session Script) : Session Script :=
  { s with
    channel := { s.channel with received := requests.reverse ++ s.channel.received }
    supported := some set }

theorem answered_answered (l₁ l₂ : List String) :
    (s.answered set l₁).answered set l₂ = s.answered set (l₁ ++ l₂) := by
  simp [answered]

theorem answered_log : (s.answered set requests).channel.log = s.channel.log ++ requests := by
  simp [answered, Script.log]

/-- `t` is what is left of the session `s` when the exchange of `r` fails after the requests `before`
were answered. A closed channel does not write the request down. -/
structure CutOff (s : Session Script) (before : List String) (r : String)
    (t : Session Script) : Prop where
  stage : t.stage = .disconnected
  closed : t.channel.closed = true
  log : t.channel.log = s.channel.log ++ before ++ if s.channel.closed then [] else [r]

/-- The outcome of work over the session `s` that sends `requests` one after the other and comes to
`a` if all of them are answered. -/
inductive Asks (set : Supported) (s : Session Script) (requests : List String) (a : α) :
    Except AdapterError α × Session Script → Prop where
  /-- All requests are answered. -/
  | all (answered : ∀ r ∈ requests, ¬ s.channel.Fails r) :
    Asks set s requests a (.ok a, s.answered set requests)
  /-- The request `r` is the first one that fails. -/
  | cut {before after : List String} {r : String} {t : Session Script}
    (split : requests = before ++ r :: after) (answered : ∀ q ∈ before, ¬ s.channel.Fails q)
    (fails : s.channel.Fails r) (cutOff : s.CutOff before r t) :
    Asks set s requests a (.error .disconnected, t)

theorem Asks.nothing (known : s.supported = some set) (a : α) : Asks set s [] a (.ok a, s) := by
  have same : s.answered set [] = s := by
    simp [answered, ← known]
  have h : Asks set s [] a (.ok a, s.answered set []) := .all (by simp)
  rwa [same] at h

theorem Asks.map {a : α} {o : Except AdapterError α × Session Script} (f : α → β)
    (h : Asks set s requests a o) : Asks set s requests (f a) (o.map (Except.map f) id) := by
  cases h with
  | all answered => exact .all answered
  | cut split answered fails cutOff => exact .cut split answered fails cutOff

/-- Work that is followed by other work. -/
theorem Asks.andThen {l₁ l₂ : List String} {a : α} {b : β}
    {o : Except AdapterError α × Session Script}
    {next : α → Session Script → Except AdapterError β × Session Script}
    (h : Asks set s l₁ a o)
    (hnext : Asks set (s.answered set l₁) l₂ b (next a (s.answered set l₁))) :
    Asks set s (l₁ ++ l₂) b (ScanTool.andThen o next) := by
  cases h with
  | @cut before after r t split answered fails cutOff =>
    have split' : l₁ ++ l₂ = before ++ r :: (after ++ l₂) := by
      rw [split, List.append_assoc, List.cons_append]
    exact .cut split' answered fails cutOff
  | all first =>
    show Asks set s (l₁ ++ l₂) b (next a (s.answered set l₁))
    -- the exchanges after the first ones fail where they would have failed before them
    generalize next a (s.answered set l₁) = o' at hnext
    cases hnext with
    | all second =>
      rw [answered_answered]
      refine .all fun r hr => ?_
      rcases List.mem_append.mp hr with hr | hr
      · exact first r hr
      · exact second r hr
    | @cut before after r t split second fails cutOff =>
      have log : t.channel.log =
          s.channel.log ++ (l₁ ++ before) ++ if s.channel.closed then [] else [r] := by
        rw [cutOff.log, answered_log, List.append_assoc s.channel.log]
        rfl
      have split' : l₁ ++ l₂ = (l₁ ++ before) ++ r :: after := by
        rw [split, List.append_assoc]
      refine .cut split' ?_ fails ⟨cutOff.stage, cutOff.closed, log⟩
      intro q hq
      rcases List.mem_append.mp hq with hq | hq
      · exact first q hq
      · exact second q hq

/-- The first request that fails cuts the session off. -/
theorem attempt_cutOff (read : String → α) (ready : s.stage = .ready) {r : String}
    (fails : s.channel.Fails r) :
    ∃ t, s.attempt (ask r read) = (.error .disconnected, t) ∧ s.CutOff [] r t := by
  by_cases closed : s.channel.closed = true
  · refine ⟨s.drop, ?_, rfl, rfl, ?_⟩
    · rw [attempt, if_pos (by simp [isReady, ready])]
      simp [ask, Script.exchange_closed closed, AdapterError.isTransport]
    · simp [closed, drop, Channel.close, Script.log]
  · have isOpen : s.channel.closed = false := by simpa using closed
    have failsAt : s.channel.failsAt = some r := fails.resolve_left closed
    refine ⟨s.lost r, attempt_failing read ready isOpen failsAt, rfl, rfl, ?_⟩
    simp [isOpen, Script.log, Script.lost, Script.heard]

/-- One request of a session that knows the supported parameters. -/
theorem asks_attempt (read : String → α) (ready : s.stage = .ready)
    (known : s.supported = some set) (r : String) :
    Asks set s [r] (read (s.channel.reply r)) (s.attempt (ask r read)) := by
  by_cases fails : s.channel.Fails r
  · obtain ⟨t, e, cutOff⟩ := attempt_cutOff read ready fails
    rw [e]
    have split : [r] = [] ++ r :: [] := rfl
    exact .cut split (by simp) fails cutOff
  · obtain ⟨isOpen, answers⟩ := Script.not_fails_iff.mp fails
    have same : s.heard r = s.answered set [r] := by
      simp [heard, answered, Script.heard, ← known]
    rw [attempt_answered read ready isOpen answers, same]
    exact .all (by simpa using fails)

/-- Asking for the supported parameters sends a request only if they are not known. -/
theorem asks_probe (ready : s.stage = .ready) :
    Asks s.probed s (if s.supported.isSome then [] else [Supported.command]) s.probed s.probe := by
  cases known : s.supported with
  | some set =>
    have e : s.probed = set := by simp [probed, known]
    rw [probe_known ready known, e]
    exact .nothing known set
  | none =>
    have e : s.probed = .ofAnswer (s.channel.reply Supported.command) := by simp [probed, known]
    rw [e]
    by_cases fails : s.channel.Fails Supported.command
    · obtain ⟨t, ht, cutOff⟩ := attempt_cutOff Supported.ofAnswer ready fails
      rw [probe_unknown known, askSupported, ht]
      have split : [Supported.command] = [] ++ Supported.command :: [] := rfl
      exact .cut split (by simp) fails cutOff
    · obtain ⟨isOpen, answers⟩ := Script.not_fails_iff.mp fails
      rw [probe_answered ready isOpen known answers]
      exact .all (by simpa using fails)

end Session

namespace Live.Poller

variable {s : Session Script} {set : Supported}

/-- The entry that a sweep gives for a parameter number if every request is answered; none if the
parameter cannot be decoded. -/
def entryOf? (set : Supported) (reply : String → String) (pid : Pid) : Option Entry :=
  (parameter? pid).map fun p =>
    ⟨pid, p.label,
      if set.contains pid then (decode? pid (reply (request pid))).elim .absent .value
      else .unsupported⟩

/-- The queries of a sweep: for each parameter in turn that can be decoded and is supported. -/
def queries (set : Supported) (pids : List Pid) : List String :=
  (pids.filter fun pid => (parameter? pid).isSome && set.contains pid).map request

/-- All requests of a sweep, in order. -/
def plan (pids : List Pid) (s : Session Script) : List String :=
  (if s.supported.isSome then [] else [Supported.command]) ++ queries s.probed pids

theorem pid_of_parameter? {pid : Pid} {p : Parameter} (h : parameter? pid = some p) :
    p.pid = pid := by
  simpa using List.find?_some h

theorem asks_sample (ready : s.stage = .ready) (known : s.supported = some set) {pid : Pid}
    {p : Parameter} {e : Entry} (hp : parameter? pid = some p)
    (he : entryOf? set s.channel.reply pid = some e) :
    s.Asks set (queries set [pid]) e (sample set p s) := by
  obtain rfl := pid_of_parameter? hp
  by_cases contains : set.contains p.pid = true
  · have he' : asked p (decode? p.pid (s.channel.reply (request p.pid))) = e := by
      simpa [entryOf?, hp, contains, asked] using he
    have hq : queries set [p.pid] = [request p.pid] := by simp [queries, hp, contains]
    rw [sample_of_contains contains, hq, ← he',
      Session.query_supported (Session.probe_known ready known) contains]
    exact (Session.asks_attempt _ ready known _).map (asked p)
  · have he' : (⟨p.pid, p.label, .unsupported⟩ : Entry) = e := by
      simpa [entryOf?, hp, contains] using he
    have hq : queries set [p.pid] = [] := by simp [queries, contains]
    unfold sample
    rw [if_neg contains, hq, he']
    exact .nothing known e

/-- The parameters of a sweep are asked for in order. The induction is on the numbers, those that
cannot be decoded included. -/
theorem asks_samples (ready : s.stage = .ready) (known : s.supported = some set)
    (pids : List Pid) :
    s.Asks set (queries set pids) (pids.filterMap (entryOf? set s.channel.reply))
      (samples set (pids.filterMap parameter?) s) := by
  induction pids generalizing s with
  | nil => exact .nothing known []
  | cons pid rest ih =>
    cases hp : parameter? pid with
    | none =>
      have he : entryOf? set s.channel.reply pid = none := by simp [entryOf?, hp]
      have hq : queries set (pid :: rest) = queries set rest := by simp [queries, hp]
      rw [List.filterMap_cons_none hp, List.filterMap_cons_none he, hq]
      exact ih ready known
    | some p =>
      obtain ⟨e, he⟩ : ∃ e, entryOf? set s.channel.reply pid = some e := by simp [entryOf?, hp]
      have hq : queries set (pid :: rest) = queries set [pid] ++ queries set rest := by
        rw [queries, ← List.singleton_append, List.filter_append, List.map_append]
        rfl
      rw [List.filterMap_cons_some hp, List.filterMap_cons_some he, hq, samples_cons]
      refine (asks_sample ready known hp he).andThen ?_
      exact (ih (s := s.answered set (queries set [pid])) ready rfl).map (e :: ·)

theorem asks_sweep (ready : s.stage = .ready) (p : Poller) :
    s.Asks s.probed (plan p.settings.pids s)
      ⟨Channel.clock s, p.settings.pids.filterMap (entryOf? s.probed s.channel.reply)⟩
      ((p.sweep s).map id Prod.snd) := by
  rw [sweep_eq]
  refine (Session.asks_probe ready).andThen (Session.Asks.map _ ?_)
  exact asks_samples (s := s.answered s.probed _) ready rfl p.settings.pids

/-- Leaving out what cannot be decoded changes neither the entries nor the requests. -/
theorem filterMap_entryOf?_ofSettings (settings : PollerSettings) (reply : String → String) :
    (ofSettings settings).settings.pids.filterMap (entryOf? set reply) =
      settings.pids.filterMap (entryOf? set reply) := by
  have spared (pid : Pid) :
      (if (parameter? pid).isSome then entryOf? set reply pid else none) = entryOf? set reply pid := by
    cases hp : parameter? pid <;> simp [entryOf?, hp]
  simp only [ofSettings, List.filterMap_filter, spared]

theorem queries_ofSettings (settings : PollerSettings) :
    queries set (ofSettings settings).settings.pids = queries set settings.pids := by
  have spared (pid : Pid) :
      ((parameter? pid).isSome && set.contains pid && (parameter? pid).isSome) =
        ((parameter? pid).isSome && set.contains pid) := by
    cases (parameter? pid).isSome <;> simp
  simp only [queries, ofSettings, List.filter_filter, spared]

/-- A sweep over a ready session, for any configured parameters `settings.pids` and any number `n` of
sweeps made before. If every request of its plan is answered, it gives the entries of the configured
parameters in order, has sent the plan and nothing else, and counts. If some request fails, it is cut
off at the first one that does: it fails in transport, sends nothing after that request and does not
count, and the session is disconnected. -/
theorem sweep_exact (settings : PollerSettings) (n : Nat) (s : Session Script)
    (ready : s.stage = .ready) :
    let p : Poller := { ofSettings settings with sweeps := n }
    let requests := plan settings.pids s
    let outcome := p.sweep s
    ((∀ r ∈ requests, ¬ s.channel.Fails r) →
      (∃ snapshot, outcome.1 = .ok snapshot ∧
        snapshot.entries = settings.pids.filterMap (entryOf? s.probed s.channel.reply)) ∧
      outcome.2.2.channel.log = s.channel.log ++ requests ∧
      outcome.2.1 = { p with sweeps := n + 1 } ∧
      outcome.2.2.stage = .ready ∧ outcome.2.2.supported = some s.probed) ∧
    ((∃ r ∈ requests, s.channel.Fails r) →
      (∃ e : AdapterError, outcome.1 = .error e ∧ e.isTransport = true) ∧
      (∃ before r after, requests = before ++ r :: after ∧ (∀ q ∈ before, ¬ s.channel.Fails q) ∧
        s.channel.Fails r ∧
        outcome.2.2.channel.log =
          s.channel.log ++ before ++ if s.channel.closed then [] else [r]) ∧
      outcome.2.1 = p ∧
      outcome.2.2.stage = .disconnected ∧ outcome.2.2.channel.closed = true) := by
  intro p requests outcome
  have counted : outcome.2.1 = { p with sweeps := n + if outcome.1.isOk then 1 else 0 } :=
    sweep_poller p s
  have sameEntries : p.settings.pids.filterMap (entryOf? s.probed s.channel.reply) =
      settings.pids.filterMap (entryOf? s.probed s.channel.reply) :=
    filterMap_entryOf?_ofSettings settings s.channel.reply
  have sameQueries : queries s.probed p.settings.pids = queries s.probed settings.pids :=
    queries_ofSettings settings
  have asks := asks_sweep ready p
  rw [sameEntries, plan, sameQueries] at asks
  change s.Asks s.probed requests _ (outcome.1, outcome.2.2) at asks
  obtain ⟨result, p', s'⟩ := outcome
  cases asks with
  | all answered =>
    constructor
    · intro _
      exact ⟨⟨_, rfl, rfl⟩, Session.answered_log, counted, ready, rfl⟩
    · rintro ⟨r, hr, fails⟩
      exact absurd fails (answered r hr)
  | @cut before after r t split answered fails cutOff =>
    constructor
    · intro all
      exact absurd fails (all r (by simp [split]))
    · intro _
      exact ⟨⟨.disconnected, rfl, rfl⟩, ⟨before, r, after, split, answered, fails, cutOff.log⟩,
        counted, cutOff.stage, cutOff.closed⟩

/-- A sweep that the link cuts short at its third request: the repeated parameter after it is not
asked for again. -/
theorem sweep_exact_over_dropped_link :
    let settings : PollerSettings :=
      { PollerSettings.standard with pids := [0x0C, 0x42, 0x10, 0x0D, 0x0C] }
    let p : Poller := { ofSettings settings with sweeps := 4 }
    let s : Session Script :=
      { Session.start ((Script.empty.answer "0100" "410008188000").failAt "010D") .standard with
        stage := .ready }
    s.stage = .ready ∧ plan settings.pids s = ["0100", "010C", "010D", "010C"] ∧
      (∃ r ∈ plan settings.pids s, s.channel.Fails r) ∧
      (p.sweep s).2.1.sweeps = 4 ∧ (p.sweep s).2.2.stage = .disconnected := by
  intro settings p s
  have requests : plan settings.pids s = ["0100", "010C", "010D", "010C"] := by decide +kernel
  have fails : ∃ r ∈ plan settings.pids s, s.channel.Fails r := by
    rw [requests]
    exact ⟨"010D", by simp, Or.inr rfl⟩
  obtain ⟨-, -, same, stage, -⟩ := (sweep_exact settings 4 s rfl).2 fails
  exact ⟨rfl, requests, fails, congrArg Poller.sweeps same, stage⟩

end Live.Poller

end ScanTool
