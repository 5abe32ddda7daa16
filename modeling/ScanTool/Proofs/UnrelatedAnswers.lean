import Mathlib.Data.List.Forall2
import Mathlib.Data.Set.Insert
import ScanTool.Live.Monitor
import ScanTool.Proofs.ScriptedSession
import ScanTool.Proofs.SweepSteps

/-!
# Answers to unrelated requests

Two runs over scripts that differ in the answers to some requests only. `Insulated` says how far the
difference reaches in one operation: both runs fail alike or succeed with related values, the
results are equal if none of those requests was sent, and the two states agree as before. There is
one lemma for each function of the set-up, of the session and of the poller; the main statement is
about any life of two monitors and the step after it.
-/

namespace ScanTool

open Live

/-! ## Two runs side by side -/

/-- States that write down the requests they send, and of which two can agree but for the answers to
some requests. -/
class Compared (τ : Type) where
  /-- The requests sent, the latest first. -/
  received : τ → List String
  /-- The states differ at most in the answers to requests of a set. -/
  AgreeBut : Set String → τ → τ → Prop

/-- Two results are the same failure, or two successes with values that `R` relates. -/
inductive Alike {α : Type} (R : α → α → Prop) :
    Except AdapterError α → Except AdapterError α → Prop where
  /-- Both succeed. -/
  | ok {a a' : α} (h : R a a') : Alike R (.ok a) (.ok a')
  /-- Both fail in the same way. -/
  | error (e : AdapterError) : Alike R (.error e) (.error e)

theorem Alike.mono {α : Type} {R S : α → α → Prop} {x x' : Except AdapterError α}
    (h : Alike R x x') (hR : ∀ a a', R a a' → S a a') : Alike S x x' := by
  cases h with
  | ok ha => exact .ok (hR _ _ ha)
  | error e => exact .error e

theorem Alike.map {α β : Type} {R : α → α → Prop} {Q : β → β → Prop} {x x' : Except AdapterError α}
    {f f' : α → β} (h : Alike R x x') (hf : ∀ a a', R a a' → Q (f a) (f' a')) :
    Alike Q (x.map f) (x'.map f') := by
  cases h with
  | ok ha => exact .ok (hf _ _ ha)
  | error e => exact .error e

theorem Alike.isOk_eq {α : Type} {R : α → α → Prop} {x x' : Except AdapterError α}
    (h : Alike R x x') : x'.isOk = x.isOk := by
  cases h <;> rfl

/-- The outcomes `o` and `o'` of the same work on two states, the first of which was `t`: the
difference in the answers to the requests of `D` reaches no further than `R`, and it reaches nothing
if none of them was sent. -/
structure Insulated {τ : Type} [Compared τ] (D : Set String) {α : Type} (R : α → α → Prop) (t : τ)
    (o o' : Except AdapterError α × τ) : Prop where
  /-- The states afterwards agree. -/
  agree : Compared.AgreeBut D o.2 o'.2
  /-- The results are alike. -/
  alike : Alike R o.1 o'.1
  /-- The results are equal unless a request of `D` was sent. -/
  sent : ∃ sent, Compared.received o.2 = sent ++ Compared.received t ∧
    ((∀ r ∈ sent, r ∉ D) → o.1 = o'.1)

section compared

variable {τ : Type} [Compared τ] {D : Set String} {α β : Type} {R : α → α → Prop}
  {Q : β → β → Prop} {t t' : τ}

/-- Both runs fail in the same way and send nothing. -/
theorem Insulated.refused (h : Compared.AgreeBut D t t') (e : AdapterError) :
    Insulated D R t (.error e, t) (.error e, t') :=
  ⟨h, .error e, [], rfl, fun _ => rfl⟩

/-- Both runs succeed with the same value and send nothing. -/
theorem Insulated.known (h : Compared.AgreeBut D t t') {a : α} (ha : R a a) :
    Insulated D R t (.ok a, t) (.ok a, t') :=
  ⟨h, .ok ha, [], rfl, fun _ => rfl⟩

theorem Insulated.mono {S : α → α → Prop} {o o' : Except AdapterError α × τ}
    (h : Insulated D R t o o') (hR : ∀ a a', R a a' → S a a') : Insulated D S t o o' :=
  ⟨h.agree, h.alike.mono hR, h.sent⟩

/-- Work that begins after other requests were sent. -/
theorem Insulated.since {u : τ} {o o' : Except AdapterError α × τ} (sent : List String)
    (hsent : Compared.received u = sent ++ Compared.received t) (h : Insulated D R u o o') :
    Insulated D R t o o' := by
  obtain ⟨agree, alike, sent', hsent', heq⟩ := h
  refine ⟨agree, alike, sent' ++ sent, ?_, fun hD => heq fun r hr => ?_⟩
  · rw [List.append_assoc, ← hsent]
    exact hsent'
  · exact hD r (List.mem_append_left _ hr)

/-- What follows work with the same result in both runs. -/
theorem Insulated.andThen {o o' : Except AdapterError α × τ}
    {next : α → τ → Except AdapterError β × τ} (h : Insulated D Eq t o o')
    (hnext : ∀ a u u', Compared.AgreeBut D u u' → Insulated D Q u (next a u) (next a u')) :
    Insulated D Q t (ScanTool.andThen o next) (ScanTool.andThen o' next) := by
  obtain ⟨agree, alike, sent, hsent, -⟩ := h
  rcases o with ⟨x, u⟩
  rcases o' with ⟨x', u'⟩
  cases alike with
  | error e => exact ⟨agree, .error e, sent, hsent, fun _ => rfl⟩
  | @ok a _ ha =>
    subst ha
    exact (hnext a u u' agree).since sent hsent

/-- What is made of the results. -/
theorem Insulated.map {o o' : Except AdapterError α × τ} (f : α → β)
    (hf : ∀ a a', R a a' → Q (f a) (f a')) (h : Insulated D R t o o') :
    Insulated D Q t (o.map (Except.map f) id) (o'.map (Except.map f) id) := by
  obtain ⟨agree, alike, sent, hsent, heq⟩ := h
  exact ⟨agree, alike.map hf, sent, hsent, fun hD => congrArg (Except.map f) (heq hD)⟩

/-- What is made of the results of two pieces of work, the second of which does not look at the
result of the first. -/
theorem Insulated.andThen_map {γ : Type} {S : γ → γ → Prop} {o o' : Except AdapterError α × τ}
    {next : τ → Except AdapterError β × τ} {f : α → β → γ} (h : Insulated D R t o o')
    (hnext : ∀ u u', Compared.AgreeBut D u u' → Insulated D Q u (next u) (next u'))
    (hf : ∀ a a' b b', R a a' → Q b b' → S (f a b) (f a' b')) :
    Insulated D S t (ScanTool.andThen o fun a u => (next u).map (Except.map (f a)) id)
      (ScanTool.andThen o' fun a u => (next u).map (Except.map (f a)) id) := by
  obtain ⟨agree, alike, sent, hsent, heq⟩ := h
  rcases o with ⟨x, u⟩
  rcases o' with ⟨x', u'⟩
  cases alike with
  | error e => exact ⟨agree, .error e, sent, hsent, fun _ => rfl⟩
  | @ok a a' ha =>
    obtain ⟨agree', alike', sent', hsent', heq'⟩ := hnext u u' agree
    refine ⟨agree', alike'.map fun b b' => hf a a' b b' ha, sent' ++ sent, ?_, fun hD => ?_⟩
    · rw [List.append_assoc, ← hsent]
      exact hsent'
    · -- nothing of `D` was sent for the first results either, so they are equal as well
      obtain rfl : a = a' := Except.ok.inj (heq fun r hr => hD r (List.mem_append_right _ hr))
      exact congrArg (Except.map (f a)) (heq' fun r hr => hD r (List.mem_append_left _ hr))

end compared

/-! ## Scripts -/

/-- The scripts differ at most in the answers to requests of `D`. -/
structure Script.AgreeBut (D : Set String) (c c' : Script) : Prop where
  /-- All other requests have the same answer. -/
  reply : ∀ r ∉ D, c'.reply r = c.reply r
  /-- The scripts have received the same requests. -/
  received : c'.received = c.received
  /-- The scripts fail at the same request. -/
  failsAt : c'.failsAt = c.failsAt
  /-- Both scripts are closed, or none is. -/
  closed : c'.closed = c.closed
  /-- The same time has passed. -/
  elapsed : c'.elapsed = c.elapsed

instance : Compared Script := ⟨Script.received, Script.AgreeBut⟩

variable {D : Set String}

namespace Script.AgreeBut

variable {c c' : Script}

/-- Two answers to a request of `D`. -/
theorem answer {request : String} (hr : request ∈ D) (c : Script) (text text' : String) :
    (c.answer request text).AgreeBut D (c.answer request text') where
  reply r h := by
    have hne : (r == request) = false := beq_eq_false_iff_ne.mpr fun e => h (e ▸ hr)
    simp [Script.reply, Script.answer, List.lookup_cons, hne]
  received := rfl
  failsAt := rfl
  closed := rfl
  elapsed := rfl

theorem heard (h : c.AgreeBut D c') (request : String) :
    (c.heard request).AgreeBut D (c'.heard request) :=
  { h with received := congrArg (request :: ·) h.received }

theorem lost (h : c.AgreeBut D c') (request : String) :
    (c.lost request).AgreeBut D (c'.lost request) :=
  { h.heard request with closed := rfl }

theorem close (h : c.AgreeBut D c') : (Channel.close c).AgreeBut D (Channel.close c') :=
  { h with closed := rfl }

theorem pause (h : c.AgreeBut D c') (ms : Nat) :
    (Channel.pause ms c).AgreeBut D (Channel.pause ms c') :=
  { h with elapsed := congrArg (· + ms) h.elapsed }

/-- One request over the two scripts. -/
theorem exchange (h : c.AgreeBut D c') (request : String) :
    Insulated D (fun a a' => request ∉ D → a = a') c (Channel.exchange request c)
      (Channel.exchange request c') := by
  cases hc : c.closed with
  | true =>
    have closed (c : Script) (hc : c.closed = true) :
        Channel.exchange request c = (.error .disconnected, c) := if_pos hc
    rw [closed c hc, closed c' (h.closed.trans hc)]
    exact .refused h _
  | false =>
    have hc' := h.closed.trans hc
    by_cases fails : c.failsAt = some request
    · rw [exchange_failing hc fails, exchange_failing hc' (h.failsAt.trans fails)]
      exact ⟨h.lost request, .error _, [request], rfl, fun _ => rfl⟩
    · have answers : c'.failsAt ≠ some request := by rwa [h.failsAt]
      rw [exchange_answered hc fails, exchange_answered hc' answers]
      refine ⟨h.heard request, .ok fun hr => (h.reply request hr).symm, [request], rfl,
        fun hr => ?_⟩
      rw [h.reply request (hr request List.mem_cons_self)]

/-- One request over the two scripts, of whose answer something is made. -/
theorem ask {α : Type} (h : c.AgreeBut D c') (request : String) (read : String → α) :
    Insulated D (fun a a' => request ∉ D → a = a') c (ask request read c)
      (ScanTool.ask request read c') := by
  have e (c : Script) : ScanTool.ask request read c =
      (Channel.exchange request c).map (Except.map read) id := by
    unfold ScanTool.ask
    rcases Channel.exchange request c with ⟨_ | _, c⟩ <;> rfl
  rw [e c, e c']
  exact (h.exchange request).map read fun a a' ha hr => congrArg read (ha hr)

end Script.AgreeBut

/-! ## The set-up -/

namespace Setup

variable {s : Setup} {c c' : Script}

/-- One command of the set-up, whose answer is not looked at or is the same. -/
theorem send_insulated {command : String} (spared : s.policy = .strict → command ∉ D)
    (h : c.AgreeBut D c') : Insulated D Eq c (s.send command c) (s.send command c') := by
  obtain ⟨agree, alike, sent, hsent, -⟩ := h.exchange command
  unfold send
  rcases he : Channel.exchange command c with ⟨x, d⟩
  rcases he' : Channel.exchange command c' with ⟨x', d'⟩
  rw [he] at alike hsent agree
  rw [he'] at alike agree
  cases alike with
  | error e => exact ⟨agree, .error e, sent, hsent, fun _ => rfl⟩
  | @ok a a' hR =>
    cases hp : s.policy with
    | bestEffort =>
      -- the two answers may differ here, and neither is looked at
      simp only [true_or, if_true]
      exact ⟨agree, .ok rfl, sent, hsent, fun _ => rfl⟩
    | strict =>
      obtain rfl := hR (spared hp)
      dsimp only
      split
      · exact ⟨agree, .ok rfl, sent, hsent, fun _ => rfl⟩
      · exact ⟨agree, .error _, sent, hsent, fun _ => rfl⟩

/-- The commands after the first. -/
theorem sendRest_insulated {commands : List String}
    (spared : s.policy = .strict → ∀ r ∈ commands, r ∉ D) (h : c.AgreeBut D c') :
    Insulated D Eq c (s.sendRest commands c) (s.sendRest commands c') := by
  induction commands generalizing c c' with
  | nil => exact .known h rfl
  | cons command rest ih =>
    rw [sendRest_cons, sendRest_cons]
    -- the pause before the command is not written down
    refine .since (u := Channel.pause s.delay c) [] rfl (Insulated.andThen ?_ fun _ d d' hd => ?_)
    · exact send_insulated (fun hp => spared hp command List.mem_cons_self) (h.pause s.delay)
    · exact ih (fun hp r hr => spared hp r (List.mem_cons_of_mem _ hr)) hd

/-- The whole set-up. -/
theorem run_insulated (spared : s.policy = .strict → ∀ r ∈ s.commands, r ∉ D)
    (h : c.AgreeBut D c') : Insulated D Eq c (s.run c) (s.run c') := by
  have hs : s.commands = "ATE0" :: ["ATL0", "ATS0", "ATH1", s.protocol.command] := rfl
  rw [run_of_commands hs, run_of_commands hs]
  rw [hs] at spared
  refine Insulated.andThen ?_ fun _ d d' hd => ?_
  · exact send_insulated (fun hp => spared hp _ List.mem_cons_self) h
  · exact sendRest_insulated (fun hp r hr => spared hp r (List.mem_cons_of_mem _ hr)) hd

end Setup

/-! ## Sessions -/

namespace Session

/-- The sessions differ at most in the answers to requests of `D`, and if the answers of the set-up
are looked at, they are the same. -/
structure AgreeBut (D : Set String) (s s' : Session Script) : Prop where
  /-- The channels differ at most in these answers. -/
  channel : s.channel.AgreeBut D s'.channel
  /-- The settings are the same. -/
  settings : s'.settings = s.settings
  /-- The sessions are at the same stage. -/
  stage : s'.stage = s.stage
  /-- The same parameters are known to be supported. -/
  supported : s'.supported = s.supported
  /-- Answers of the set-up that are looked at are the same. -/
  spared : s.settings.policy = .strict → ∀ r ∈ s.settings.setup.commands, r ∉ D

instance : Compared (Session Script) := ⟨fun s => s.channel.received, AgreeBut⟩

variable {s s' : Session Script}

theorem AgreeBut.drop (h : s.AgreeBut D s') : s.drop.AgreeBut D s'.drop :=
  { h with channel := h.channel.close, stage := rfl }

theorem AgreeBut.isReady (h : s.AgreeBut D s') : s'.isReady = s.isReady :=
  congrArg (· == Stage.ready) h.stage

/-- Work over the channels of two sessions. -/
theorem AgreeBut.attempt {α : Type} {R : α → α → Prop}
    {work : Script → Except AdapterError α × Script} (h : s.AgreeBut D s')
    (hwork : Insulated D R s.channel (work s.channel) (work s'.channel)) :
    Insulated D R s (s.attempt work) (s'.attempt work) := by
  obtain ⟨agree, alike, sent, hsent, heq⟩ := hwork
  unfold Session.attempt
  rw [h.isReady]
  cases s.isReady with
  | false =>
    rw [h.stage]
    exact .refused h _
  | true =>
    rcases hw : work s.channel with ⟨x, d⟩
    rcases hw' : work s'.channel with ⟨x', d'⟩
    rw [hw] at agree alike hsent heq
    rw [hw'] at agree alike heq
    have kept : AgreeBut D { s with channel := d } { s' with channel := d' } :=
      { h with channel := agree }
    cases alike with
    | ok hR => exact ⟨kept, .ok hR, sent, hsent, fun hD => by cases heq hD; rfl⟩
    | error e =>
      cases ht : e.isTransport with
      | false => simpa [ht] using ⟨kept, .error e, sent, hsent, fun _ => rfl⟩
      | true => simpa [ht] using ⟨kept.drop, .error e, sent, hsent, fun _ => rfl⟩

/-- One request of two sessions. -/
theorem AgreeBut.ask {α : Type} (h : s.AgreeBut D s') (request : String) (read : String → α) :
    Insulated D (fun a a' => request ∉ D → a = a') s (s.attempt (ask request read))
      (s'.attempt (ScanTool.ask request read)) :=
  h.attempt (h.channel.ask request read)

theorem AgreeBut.setUp (h : s.AgreeBut D s') : Insulated D Eq s s.setUp s'.setUp := by
  unfold Session.setUp
  rw [h.stage, h.settings]
  by_cases connecting : s.stage = .connecting
  · rw [if_pos connecting, if_pos connecting]
    have hrun := Setup.run_insulated (s := s.settings.setup) h.spared h.channel
    obtain ⟨agree, alike, sent, hsent, -⟩ := hrun
    rcases hr : s.settings.setup.run s.channel with ⟨x, d⟩
    rcases hr' : s.settings.setup.run s'.channel with ⟨x', d'⟩
    rw [hr] at agree alike hsent
    rw [hr'] at agree alike
    cases alike with
    | ok _ =>
      exact ⟨{ h with channel := agree, settings := rfl, stage := rfl }, .ok rfl, sent, hsent,
        fun _ => rfl⟩
    | error e =>
      exact ⟨{ h with channel := agree.close, settings := rfl, stage := rfl }, .error e, sent,
        hsent, fun _ => rfl⟩
  · rw [if_neg connecting, if_neg connecting]
    exact .refused h _

theorem AgreeBut.probe (h : s.AgreeBut D s') (hD : Supported.command ∉ D) :
    Insulated D Eq s s.probe s'.probe := by
  by_cases ready : s.stage = .ready
  · have ready' := h.stage.trans ready
    cases known : s.supported with
    | some set =>
      rw [probe_known ready known, probe_known ready' (h.supported.trans known)]
      exact .known h rfl
    | none =>
      rw [probe_unknown known, probe_unknown (h.supported.trans known)]
      refine Insulated.andThen ?_ fun set t t' ht => ?_
      · exact (h.ask Supported.command Supported.ofAnswer).mono fun _ _ ha => ha hD
      · exact ⟨{ ht with supported := rfl }, .ok rfl, [], rfl, fun _ => rfl⟩
  · rw [probe_of_not_ready ready, probe_of_not_ready (by rwa [h.stage]), h.stage]
    exact .refused h _

theorem AgreeBut.query (h : s.AgreeBut D s') (hD : Supported.command ∉ D) (pid : Pid) :
    Insulated D (fun a a' => Live.request pid ∉ D → a = a') s (s.query pid) (s'.query pid) := by
  rw [query_eq_andThen, query_eq_andThen]
  refine (h.probe hD).andThen fun set t t' ht => ?_
  split
  · exact ht.ask (Live.request pid) (Live.decode? pid)
  · exact .refused ht _

theorem close_received (s : Session Script) : s.close.channel.received = s.channel.received := by
  unfold Session.close
  split <;> rfl

theorem AgreeBut.close (h : s.AgreeBut D s') : s.close.AgreeBut D s'.close := by
  unfold Session.close
  rw [h.stage]
  split
  · exact h
  · exact h.drop

/-- One operation on two sessions. -/
theorem AgreeBut.perform (h : s.AgreeBut D s') (hD : Supported.command ∉ D) (op : Operation) :
    Insulated D (fun _ _ => True) s (s.perform op) (s'.perform op) := by
  cases op with
  | setUp => exact h.setUp.map _ fun _ _ _ => trivial
  | probe => exact (h.probe hD).map _ fun _ _ _ => trivial
  | query pid => exact (h.query hD pid).map _ fun _ _ _ => trivial
  | readCodes table => exact (h.ask Trouble.readCommand _).map _ fun _ _ _ => trivial
  | clearCodes => exact (h.ask Trouble.clearCommand _).map _ fun _ _ _ => trivial
  | send request =>
    show Insulated D _ s ((Channel.exchange request s).map _ _)
      ((Channel.exchange request s').map _ _)
    rw [exchange_eq_attempt, exchange_eq_attempt]
    exact (h.ask request id).map _ fun _ _ _ => trivial
  | close => exact ⟨h.close, .ok trivial, [], close_received s, fun _ => rfl⟩

end Session

/-! ## Sweeps -/

namespace Live

/-- The entries are about the same parameter, and equal unless the request for it is in `D`. -/
structure Entry.AgreeBut (D : Set String) (e e' : Entry) : Prop where
  /-- The parameter is the same. -/
  pid : e'.pid = e.pid
  /-- The name is the same. -/
  label : e'.label = e.label
  /-- An entry whose request is not in `D` is the same. -/
  eq_of_not_mem : request e.pid ∉ D → e = e'

/-- The snapshots were begun at the same time and agree entry by entry. -/
structure Snapshot.AgreeBut (D : Set String) (s s' : Snapshot) : Prop where
  /-- The time is the same. -/
  startedAt : s'.startedAt = s.startedAt
  /-- The entries are about the same parameters in the same order, and those whose requests are not
  in `D` are the same. -/
  entries : List.Forall₂ (Entry.AgreeBut D) s.entries s'.entries

namespace Poller

variable {s s' : Session Script}

/-- One parameter of two sweeps. -/
theorem sample_insulated (h : s.AgreeBut D s') (hD : Supported.command ∉ D) (set : Supported)
    (p : Parameter) :
    Insulated D (Entry.AgreeBut D) s (sample set p s) (sample set p s') := by
  cases hp : set.contains p.pid with
  | true =>
    rw [sample_of_contains hp, sample_of_contains hp]
    exact (h.query hD p.pid).map _ fun a a' ha => ⟨rfl, rfl, fun hr => congrArg (asked p) (ha hr)⟩
  | false =>
    unfold sample
    rw [hp]
    exact .known h ⟨rfl, rfl, fun _ => rfl⟩

/-- Several parameters of two sweeps. -/
theorem samples_insulated (h : s.AgreeBut D s') (hD : Supported.command ∉ D) (set : Supported)
    (ps : List Parameter) :
    Insulated D (List.Forall₂ (Entry.AgreeBut D)) s (samples set ps s) (samples set ps s') := by
  induction ps generalizing s s' with
  | nil => exact .known h .nil
  | cons p rest ih =>
    rw [samples_cons, samples_cons]
    exact (sample_insulated h hD set p).andThen_map (fun t t' ht => ih ht) fun _ _ _ _ => .cons

/-- Two sweeps. -/
theorem sweep_insulated (h : s.AgreeBut D s') (hD : Supported.command ∉ D) (p : Poller) :
    Insulated D (Snapshot.AgreeBut D) s ((p.sweep s).map id Prod.snd)
        ((p.sweep s').map id Prod.snd) ∧
      (p.sweep s').2.1 = (p.sweep s).2.1 := by
  have hclock : Channel.clock s' = Channel.clock s := h.channel.elapsed
  have all := (h.probe hD).andThen fun set t t' ht =>
    (samples_insulated ht hD set (p.settings.pids.filterMap parameter?)).map
      (Q := Snapshot.AgreeBut D) (Snapshot.mk (Channel.clock s)) fun _ _ hes => ⟨rfl, hes⟩
  rw [sweep_eq, sweep_eq, hclock]
  refine ⟨all, ?_⟩
  dsimp only
  rw [all.alike.isOk_eq]

end Poller

/-! ## Monitors -/

namespace Monitor

/-- The monitors differ at most in the answers to requests of `D`. -/
structure AgreeBut (D : Set String) (m m' : Monitor Script) : Prop where
  /-- The pollers are the same. -/
  poller : m'.poller = m.poller
  /-- The sessions differ at most in these answers. -/
  session : m.session.AgreeBut D m'.session

instance : Compared (Monitor Script) := ⟨fun m => m.session.channel.received, AgreeBut⟩

/-- Both are replies of an operation, or both are snapshots that agree. -/
inductive Related (D : Set String) : Reply ⊕ Snapshot → Reply ⊕ Snapshot → Prop where
  /-- Two replies. -/
  | reply (r r' : Reply) : Related D (.inl r) (.inl r')
  /-- Two snapshots. -/
  | snapshot {s s' : Snapshot} (h : s.AgreeBut D s') : Related D (.inr s) (.inr s')

variable {m m' : Monitor Script}

/-- One step of two monitors. -/
theorem act_insulated (h : m.AgreeBut D m') (hD : Supported.command ∉ D) (step : Step) :
    Insulated D (Related D) m (m.act step) (m'.act step) := by
  cases step with
  | operate op =>
    obtain ⟨agree, alike, sent, hsent, heq⟩ := h.session.perform hD op
    exact ⟨⟨h.poller, agree⟩, alike.map fun r r' _ => .reply r r', sent, hsent,
      fun hr => congrArg (Except.map fun r => (.inl r : Reply ⊕ Snapshot)) (heq hr)⟩
  | sweep =>
    obtain ⟨⟨agree, alike, sent, hsent, heq⟩, hp⟩ := Poller.sweep_insulated h.session hD m.poller
    show Insulated D _ m (_, _) (_, _)
    rw [h.poller]
    exact ⟨⟨hp, agree⟩, alike.map fun _ _ hs => .snapshot hs, sent, hsent,
      fun hr => congrArg (Except.map fun r => (.inr r : Reply ⊕ Snapshot)) (heq hr)⟩

theorem AgreeBut.actAll (h : m.AgreeBut D m') (hD : Supported.command ∉ D) (steps : List Step) :
    (m.actAll steps).AgreeBut D (m'.actAll steps) := by
  induction steps generalizing m m' with
  | nil => exact h
  | cons step rest ih => exact ih (act_insulated h hD step).agree

end Monitor

/-- Whatever two monitors do over scripts that differ in the answers to requests of `D`, none of
which the sessions look at to find their way, they are at the same stage, know the same set, have
completed the same number of sweeps and have sent the same requests. The next step fails alike or
succeeds alike; its result is the same if no request of `D` is sent in it, and in a sweep every
entry is the same whose request is not in `D`. -/
theorem answers_do_not_leak (D : Set String) (c c' : Script) (settings : SessionSettings)
    (p : Poller) (agree : c.AgreeBut D c') (hD : Supported.command ∉ D)
    (spared : settings.policy = .strict → ∀ r ∈ settings.setup.commands, r ∉ D)
    (steps : List Monitor.Step) (step : Monitor.Step) :
    let m := (Monitor.mk p (Session.start c settings)).actAll steps
    let m' := (Monitor.mk p (Session.start c' settings)).actAll steps
    (m'.session.stage = m.session.stage ∧ m'.session.supported = m.session.supported ∧
      m'.poller = m.poller ∧ m'.session.channel.log = m.session.channel.log) ∧
    Alike (Monitor.Related D) (m.act step).1 (m'.act step).1 ∧
    ∃ sent, (m.act step).2.session.channel.log = m.session.channel.log ++ sent ∧
      ((∀ r ∈ sent, r ∉ D) → (m.act step).1 = (m'.act step).1) := by
  have start : Monitor.AgreeBut D ⟨p, Session.start c settings⟩ ⟨p, Session.start c' settings⟩ :=
    ⟨rfl, agree, rfl, rfl, rfl, spared⟩
  have h := start.actAll hD steps
  obtain ⟨-, alike, sent, hsent, heq⟩ := Monitor.act_insulated h hD step
  refine ⟨⟨h.session.stage, h.session.supported, h.poller,
    congrArg List.reverse h.session.channel.received⟩, alike, sent.reverse, ?_, fun hr => ?_⟩
  · rw [Script.log, Script.log, ← List.reverse_append]
    exact congrArg List.reverse hsent
  · exact heq fun r hr' => hr r (List.mem_reverse.mpr hr')

/-- A sweep and a query after it under the strict policy, over two scripts of which one tells the
engine speed. -/
theorem answers_do_not_leak_from_engine_speed :
    let D : Set String := {"010C"}
    let settings := { SessionSettings.standard with policy := .strict }
    let c := (Script.empty.answerSetup.answer "0100" "4100FFFFFFFF").answer "010C" "410C1AF8"
    let c' := (Script.empty.answerSetup.answer "0100" "4100FFFFFFFF").answer "010C" "NO DATA"
    let m := (Monitor.mk default (Session.start c settings)).actAll [.operate .setUp, .sweep]
    let m' := (Monitor.mk default (Session.start c' settings)).actAll [.operate .setUp, .sweep]
    c.AgreeBut D c' ∧ Supported.command ∉ D ∧
      (settings.policy = .strict → ∀ r ∈ settings.setup.commands, r ∉ D) ∧
      m'.session.channel.log = m.session.channel.log ∧
      Alike (Monitor.Related D) (m.act (.operate (.query 0x0D))).1
        (m'.act (.operate (.query 0x0D))).1 := by
  have mem : "010C" ∈ ({"010C"} : Set String) := rfl
  have agree := Script.AgreeBut.answer mem
    (Script.empty.answerSetup.answer "0100" "4100FFFFFFFF") "410C1AF8" "NO DATA"
  have hD : Supported.command ∉ ({"010C"} : Set String) := by simp [Supported.command]
  have spared : SetupPolicy.strict = .strict →
      ∀ r ∈ Setup.commands ⟨.auto, .strict, Setup.usualDelay⟩, r ∉ ({"010C"} : Set String) :=
    fun _ => by decide
  have h := answers_do_not_leak _ _ _ { SessionSettings.standard with policy := .strict } default
    agree hD spared [.operate .setUp, .sweep] (.operate (.query 0x0D))
  exact ⟨agree, hD, spared, h.1.2.2.2, h.2.1⟩

end Live

end ScanTool
