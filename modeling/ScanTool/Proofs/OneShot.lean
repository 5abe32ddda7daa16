import ScanTool.Adapter.Bench
import ScanTool.Command.Run
import ScanTool.Proofs.ExactSweep
import ScanTool.Proofs.RunAccount
import ScanTool.Proofs.SessionAsChannel

/-!
# Commands that run once

All commands that talk to the vehicle, but for the endless live view, load what they need, connect a
session, make some exchanges over it, close it, and print. `Workplace.Completes` says which exchanges a
command needs, in terms of the channel alone. The main statement is that a command succeeds exactly if
its tables load, the session is set up and these exchanges succeed, that one which fails prints nothing,
and that the session is closed either way.
-/

namespace ScanTool

open Live
open Trouble (CodeTable)

/-- A command talks to the vehicle and runs once. -/
def Command.IsOneShot : Command → Prop
  | .live once => once = true
  | .pids | .readCodes | .clearCodes => True
  | .listBrands => False
  | .readBrand _ simulate | .clearBrand _ simulate => simulate = false

section overChannel

variable {σ : Type} [Channel σ]

/-- Requests sent over a channel one after the other are all answered. -/
def Answered : List String → σ → Prop
  | [], _ => True
  | request :: rest, c => ∃ answer c', Channel.exchange request c = (.ok answer, c') ∧ Answered rest c'

theorem not_answered_of_error {request : String} {rest : List String} {c c' : σ} {e : AdapterError}
    (failed : Channel.exchange request c = (.error e, c')) : ¬ Answered (request :: rest) c := by
  rintro ⟨answer, c'', answered, -⟩
  rw [failed] at answered
  cases answered

theorem answered_of_ok {request answer : String} {rest : List String} {c c' : σ}
    (answered : Channel.exchange request c = (.ok answer, c')) :
    Answered (request :: rest) c ↔ Answered rest c' := by
  refine ⟨?_, fun later => ⟨answer, c', answered, later⟩⟩
  rintro ⟨answer', c'', again, later⟩
  rw [answered] at again
  cases again
  exact later

/-! ## Requests of a session -/

namespace Session

variable {s : Session σ} {request : String} {α : Type}

theorem attempt_of_answered (read : String → α) (ready : s.stage = .ready) {answer : String} {c : σ}
    (answered : Channel.exchange request s.channel = (.ok answer, c)) :
    s.attempt (ask request read) = (.ok (read answer), { s with channel := c }) := by
  simp [attempt, isReady, ready, ask, answered]

theorem attempt_of_failed (read : String → α) (ready : s.stage = .ready) {e : AdapterError} {c : σ}
    (failed : Channel.exchange request s.channel = (.error e, c)) :
    ∃ t, s.attempt (ask request read) = (.error e, t) := by
  simp [attempt, isReady, ready, ask, failed]

/-- What a request gives is read from the answer, if there is one. -/
theorem attempt_eq_ok_iff (read : String → α) (ready : s.stage = .ready) {a : α} :
    (s.attempt (ask request read)).1 = .ok a ↔
      ∃ answer c, Channel.exchange request s.channel = (.ok answer, c) ∧ read answer = a := by
  rcases exchanged : Channel.exchange request s.channel with ⟨e | answer, c⟩
  · obtain ⟨t, failed⟩ := attempt_of_failed read ready exchanged
    simp [failed]
  · simp [attempt_of_answered read ready exchanged]

theorem attempt_succeeds_iff (read : String → α) (ready : s.stage = .ready) :
    (∃ a, (s.attempt (ask request read)).1 = .ok a) ↔ Answered [request] s.channel := by
  simp only [attempt_eq_ok_iff read ready, Answered, and_true]
  exact ⟨fun ⟨_, answer, c, answered, _⟩ => ⟨answer, c, answered⟩,
    fun ⟨answer, c, answered⟩ => ⟨read answer, answer, c, answered, rfl⟩⟩

end Session

/-! ## A sweep -/

namespace Live.Poller

variable {s : Session σ} {set : Supported}

theorem exists_ok_map {α β τ : Type} (f : α → β) (o : Except AdapterError α × τ) :
    (∃ b, (o.map (Except.map f) id).1 = .ok b) ↔ ∃ a, o.1 = .ok a := by
  rcases o with ⟨_ | _, t⟩ <;> simp [Except.map]

/-- The rest of a sweep succeeds exactly if all its queries are answered. The induction is on the
numbers of the parameters, those that cannot be decoded included. -/
theorem samples_succeed_iff (ready : s.stage = .ready) (known : s.supported = some set)
    (pids : List Pid) : (∃ es, (samples set (pids.filterMap parameter?) s).1 = .ok es) ↔
      Answered (queries set pids) s.channel := by
  induction pids generalizing s with
  | nil => simp [samples, queries, Answered]
  | cons pid rest ih =>
    cases hp : parameter? pid with
    | none =>
      have skipped : queries set (pid :: rest) = queries set rest := by simp [queries, hp]
      rw [List.filterMap_cons_none hp, skipped]
      exact ih ready known
    | some p =>
      obtain rfl := pid_of_parameter? hp
      rw [List.filterMap_cons_some hp, samples_cons]
      cases contains : set.contains p.pid with
      | false =>
        have skipped : queries set (p.pid :: rest) = queries set rest := by
          simp [queries, contains]
        have passed : sample set p s = (.ok ⟨p.pid, p.label, .unsupported⟩, s) := by
          simp [sample, contains]
        rw [skipped, passed, ← ih ready known]
        exact exists_ok_map _ _
      | true =>
        have asked : queries set (p.pid :: rest) = request p.pid :: queries set rest := by
          simp [queries, hp, contains]
        rw [asked, sample_of_contains contains,
          Session.query_supported (Session.probe_known ready known) contains, askValue]
        rcases exchanged : Channel.exchange (request p.pid) s.channel with ⟨e | answer, c⟩
        · obtain ⟨t, failed⟩ := Session.attempt_of_failed (decode? p.pid) ready exchanged
          rw [failed]
          refine iff_of_false ?_ (not_answered_of_error exchanged)
          rintro ⟨es, ⟨⟩⟩
        · rw [Session.attempt_of_answered (decode? p.pid) ready exchanged, answered_of_ok exchanged,
            ← ih (s := { s with channel := c }) ready known]
          exact exists_ok_map _ _

/-- A sweep of a session that has not asked yet asks which parameters are supported, and then for
those. -/
theorem sweep_succeeds_iff (ready : s.stage = .ready) (unknown : s.supported = none) (p : Poller) :
    (∃ snapshot, (p.sweep s).1 = .ok snapshot) ↔
      ∃ answer c, Channel.exchange Supported.command s.channel = (.ok answer, c) ∧
        Answered (queries (.ofAnswer answer) p.settings.pids) c := by
  rw [sweep_eq, Session.probe_unknown unknown, askSupported]
  rcases exchanged : Channel.exchange Supported.command s.channel with ⟨e | answer, c⟩
  · obtain ⟨t, failed⟩ := Session.attempt_of_failed Supported.ofAnswer ready exchanged
    rw [failed]
    refine iff_of_false ?_ ?_
    · rintro ⟨snapshot, ⟨⟩⟩
    · rintro ⟨answer, c', ⟨⟩, -⟩
  · rw [Session.attempt_of_answered Supported.ofAnswer ready exchanged]
    have rest := samples_succeed_iff (s := { s with channel := c, supported := some (.ofAnswer answer) })
      ready rfl p.settings.pids
    refine (exists_ok_map _ _).trans (rest.trans ⟨fun later => ⟨answer, c, rfl, later⟩, ?_⟩)
    rintro ⟨answer', c', ⟨⟩, later⟩
    exact later

/-- What a run of one sweep comes to, given the sweep. -/
def single : Except AdapterError Snapshot × Poller × Session σ → Run σ
  | (.error e, p, s) => ⟨.error e, [], p, s⟩
  | (.ok snapshot, p, s) => ⟨.ok (), [snapshot], p, s⟩

/-- A run of one sweep needs two rounds, the second one to notice that it is done. -/
theorem run_once {p : Poller} (limit : p.settings.limit = some 1) (fresh : p.sweeps = 0)
    (fuel : Nat) : p.run (fuel + 2) none s = some (single (p.sweep s)) := by
  have going : p.isDone = false := by simp [isDone, limit, fresh]
  rcases swept : p.sweep s with ⟨e | snapshot, p', s'⟩
  · simp [run, runFrom, going, round, swept, single]
  · have round : p.round true s = (.ok snapshot, p', s') := swept
    have counted : p' = { p with sweeps := p.sweeps + 1 } := round_ok round
    have done : p'.isDone = true := isDone_iff.mpr ⟨1, by simp [counted, limit, fresh]⟩
    simp [run, runFrom, going, round, single, done]

end Live.Poller

/-! ## Letting go of the channel -/

namespace Session

variable {s s' : Session σ} {α : Type}

/-- The session is disconnected and its channel has been closed. -/
def Released (s : Session σ) : Prop := s.stage = .disconnected ∧ ∃ c, s.channel = Channel.close c

/-- A session that is disconnected has closed its channel. -/
def LetsGo (s : Session σ) : Prop := s.stage = .disconnected → ∃ c, s.channel = Channel.close c

theorem letsGo_of_ready (ready : s.stage = .ready) : s.LetsGo := by
  intro gone
  rw [ready] at gone
  cases gone

theorem released_drop (s : Session σ) : s.drop.Released := ⟨rfl, s.channel, rfl⟩

theorem released_close (h : s.LetsGo) : s.close.Released := by
  unfold close
  split
  · rename_i gone
    exact ⟨gone, h gone⟩
  · exact released_drop s

theorem letsGo_attempt (work : σ → Except AdapterError α × σ) (h : s.LetsGo) :
    (s.attempt work).2.LetsGo := by
  unfold attempt
  split
  · rename_i accepts
    have ready : s.stage = .ready := by simpa [isReady] using accepts
    rcases work s.channel with ⟨e | a, c⟩ <;> dsimp only
    · split
      · exact fun _ => (released_drop _).2
      · exact letsGo_of_ready ready
    · exact letsGo_of_ready ready
  · exact h

theorem letsGo_probe (h : s.LetsGo) : s.probe.2.LetsGo := by
  unfold probe
  split
  · exact h
  · have attempted := letsGo_attempt askSupported h
    rcases asked : s.attempt askSupported with ⟨_ | _, s'⟩ <;> rw [asked] at attempted <;>
      exact attempted

theorem letsGo_query (pid : Pid) (h : s.LetsGo) : (s.query pid).2.LetsGo := by
  have probed := letsGo_probe h
  unfold query
  rcases known : s.probe with ⟨e | set, s'⟩ <;> rw [known] at probed <;> dsimp only
  · exact probed
  · split
    · exact letsGo_attempt (askValue pid) probed
    · exact probed

/-- The set-up of a new session makes it ready, or lets go of its channel. -/
theorem setUp_start (c : σ) (settings : SessionSettings) :
    (∃ s, (start c settings).setUp = (.ok (), s) ∧ s.stage = .ready ∧ s.supported = none) ∨
      ∃ e s, (start c settings).setUp = (.error e, s) ∧ s.Released := by
  have connecting : (start c settings).stage = .connecting := rfl
  unfold setUp
  rw [if_pos connecting]
  rcases (start c settings).settings.setup.run (start c settings).channel with ⟨e | _, c'⟩
  · exact Or.inr ⟨e, _, rfl, released_drop _⟩
  · exact Or.inl ⟨_, rfl, rfl, rfl⟩

end Session

/-! ## What the outcome of a command says -/

namespace Outcome

/-- The outcome of a command that opens a channel exactly if `opens` holds and succeeds exactly if
`succeeds` does. -/
structure Settles (o : Outcome σ) (opens succeeds : Prop) : Prop where
  /-- The command succeeds if it should. -/
  success_iff : o.failure = none ↔ succeeds
  /-- A command that fails prints nothing. -/
  silent : o.failure ≠ none → o.output = ""
  /-- There is a session if a channel was opened. -/
  session_iff : o.session.isSome = true ↔ opens
  /-- The session has been closed. -/
  released : ∀ s, o.session = some s → s.Released

variable {o : Outcome σ} {opens succeeds : Prop}

theorem settles_fail {session : Option (Session σ)} (e : CommandError)
    (fails : ¬ succeeds) (session_iff : session.isSome = true ↔ opens)
    (released : ∀ s, session = some s → s.Released) : (fail e session).Settles opens succeeds where
  success_iff := iff_of_false (by simp [fail]) fails
  silent _ := rfl
  session_iff := session_iff
  released := released

theorem Settles.congr {opens' succeeds' : Prop} (h : o.Settles opens succeeds)
    (opens_iff : opens ↔ opens') (succeeds_iff : succeeds ↔ succeeds') :
    o.Settles opens' succeeds' := by
  rwa [← propext opens_iff, ← propext succeeds_iff]

/-- What is left by a command that closes its session after all its exchanges. -/
theorem settles_of_closed {s : Session σ} (closed : o.session = some s.close) (letsGo : s.LetsGo)
    (success_iff : o.failure = none ↔ succeeds) (silent : o.failure ≠ none → o.output = "") :
    o.Settles True succeeds where
  success_iff := success_iff
  silent := silent
  session_iff := iff_of_true (by simp [closed]) trivial
  released := by
    intro t left
    obtain rfl := Option.some.inj (closed.symm.trans left)
    exact Session.released_close letsGo

end Outcome

namespace Workplace

variable {w : Workplace σ} {s : Session σ} {α : Type}

/-- A command that connects opens a channel if it can, and succeeds if the session is set up and the
work over it succeeds. -/
theorem settles_connected {work : Session σ → Outcome σ} {completes : σ → Prop}
    (works : ∀ s : Session σ, s.stage = .ready → s.supported = none →
      (work s).Settles True (completes s.channel)) :
    (w.connected work).Settles (∃ c, w.openChannel w.settings.session = .ok c)
      (∃ c s, w.openChannel w.settings.session = .ok c ∧
        (Session.start c w.settings.session).setUp = (.ok (), s) ∧ completes s.channel) := by
  unfold connected Session.connect
  rcases opened : w.openChannel w.settings.session with e | c
  · refine Outcome.settles_fail _ ?_ ?_ ?_
    · rintro ⟨c, s, ⟨⟩, -⟩
    · simp
    · rintro s ⟨⟩
  · rcases Session.setUp_start c w.settings.session with
      ⟨s, setUp, ready, unknown⟩ | ⟨e, s, setUp, released⟩
    · simp only [setUp]
      refine (works s ready unknown).congr (iff_of_true trivial ⟨c, rfl⟩) ?_
      refine ⟨fun completes => ⟨c, s, rfl, setUp, completes⟩, ?_⟩
      rintro ⟨c', s', ⟨⟩, again, completes⟩
      rw [setUp] at again
      cases again
      exact completes
    · simp only [setUp]
      refine Outcome.settles_fail _ ?_ (iff_of_true rfl ⟨c, rfl⟩) ?_
      · rintro ⟨c', s', ⟨⟩, again, -⟩
        rw [setUp] at again
        cases again
      · rintro s' ⟨⟩
        exact released

/-- A request over a session that is closed before anything is printed. -/
theorem settles_ask {errand : Errand} {request : Session σ → Except AdapterError α × Session σ}
    {said : α → Except CommandError String} {succeeds : Prop}
    (letsGo : (request s).2.LetsGo)
    (succeeds_iff : (∃ a report, (request s).1 = .ok a ∧ said a = .ok report) ↔ succeeds) :
    (ask errand request said s).Settles True succeeds := by
  unfold ask
  rcases requested : request s with ⟨e | a, t⟩ <;> rw [requested] at letsGo succeeds_iff <;>
    dsimp only
  · refine Outcome.settles_of_closed rfl letsGo (iff_of_false (by simp [Outcome.fail]) fun h => ?_)
      fun _ => rfl
    obtain ⟨a, report, ⟨⟩, -⟩ := succeeds_iff.mpr h
  · rcases saying : said a with e | report <;> dsimp only [Outcome.print]
    · refine Outcome.settles_of_closed rfl letsGo
        (iff_of_false (by simp [Outcome.fail]) fun h => ?_) fun _ => rfl
      obtain ⟨a', report, ⟨⟩, spoken⟩ := succeeds_iff.mpr h
      rw [saying] at spoken
      cases spoken
    · have success : succeeds := succeeds_iff.mp ⟨a, report, rfl, saying⟩
      exact Outcome.settles_of_closed rfl letsGo (iff_of_true rfl success)
        fun failed => absurd rfl failed

/-! ## The commands -/

/-- The tables that a command needs load. A table of a brand that cannot be loaded counts as empty. -/
def TablesLoad (w : Workplace σ) : Command → Prop
  | .readCodes => ∃ table, CodeTable.extended w.files w.settings.genericFile = .ok table
  | _ => True

/-- The exchanges of a command over the channel of a session that is set up succeed, and the adapter
confirms what it is to confirm. A live view asks for those parameters that the vehicle says it
supports, and a brand without a table is not asked for. -/
def Completes (w : Workplace σ) : Command → σ → Prop
  | .live _, c => ∃ answer c', Channel.exchange Supported.command c = (.ok answer, c') ∧
      Answered (Poller.queries (.ofAnswer answer) w.settings.poller.pids) c'
  | .pids, c => Answered [Supported.command] c
  | .readCodes, c => Answered [Trouble.readCommand] c
  | .readBrand brand _, c => (w.resolver.table w.files brand).1.isEmpty = true ∨
      Answered [w.resolver.query brand] c
  | .clearCodes, c | .clearBrand _ _, c => ∃ answer c',
      Channel.exchange Trouble.clearCommand c = (.ok answer, c') ∧
        Trouble.confirmsClear answer = true
  | .listBrands, _ => True

/-- A command gets as far as to open a channel. -/
def Opens (w : Workplace σ) (command : Command) : Prop :=
  w.TablesLoad command ∧ ∃ c, w.openChannel w.settings.session = .ok c

/-- All that a command needs succeeds: its tables load, the session is opened and set up, and the
exchanges of the command succeed. -/
def Succeeds (w : Workplace σ) (command : Command) : Prop :=
  w.TablesLoad command ∧ ∃ c s, w.openChannel w.settings.session = .ok c ∧
    (Session.start c w.settings.session).setUp = (.ok (), s) ∧ w.Completes command s.channel

theorem exists_said {α : Type} {result : Except AdapterError α} (report : α → String) :
    (∃ a r, result = .ok a ∧ (.ok (report a) : Except CommandError String) = .ok r) ↔
      ∃ a, result = .ok a :=
  ⟨fun ⟨a, _, h, _⟩ => ⟨a, h⟩, fun ⟨a, h⟩ => ⟨a, _, h, rfl⟩⟩

theorem settles_pids (ready : s.stage = .ready) (unknown : s.supported = none)
    (report : Supported → String) :
    (ask .probe Session.probe (fun set => .ok (report set)) s).Settles True
      (Answered [Supported.command] s.channel) := by
  refine settles_ask (Session.letsGo_probe (Session.letsGo_of_ready ready)) ?_
  rw [exists_said report, ← Session.attempt_succeeds_iff Supported.ofAnswer ready,
    Session.probe_unknown unknown, askSupported]
  rcases s.attempt (ScanTool.ask Supported.command Supported.ofAnswer) with ⟨_ | _, t⟩ <;>
    simp [andThen]

theorem settles_readCodes (ready : s.stage = .ready) (table : CodeTable)
    (report : List Trouble.TroubleCode → String) :
    (ask .readCodes (Session.readCodes table) (fun cs => .ok (report cs)) s).Settles True
      (Answered [Trouble.readCommand] s.channel) := by
  refine settles_ask (Session.letsGo_attempt _ (Session.letsGo_of_ready ready)) ?_
  exact (exists_said report).trans (Session.attempt_succeeds_iff _ ready)

theorem confirm_eq_ok_iff {said : String} {confirmed : Bool} :
    (∃ report, confirm said confirmed = .ok report) ↔ confirmed = true := by
  cases confirmed <;> simp [confirm]

/-- Erasing codes, for the session itself or on behalf of a brand. -/
theorem settles_clear {errand : Errand} {said : String}
    {request : Session σ → Except AdapterError Bool × Session σ}
    (clears : request s = s.attempt askClear) (ready : s.stage = .ready) :
    (ask errand request (confirm said) s).Settles True
      (∃ answer c, Channel.exchange Trouble.clearCommand s.channel = (.ok answer, c) ∧
        Trouble.confirmsClear answer = true) := by
  refine settles_ask ?_ ?_ <;> rw [clears]
  · exact Session.letsGo_attempt _ (Session.letsGo_of_ready ready)
  simp only [exists_and_left, confirm_eq_ok_iff, askClear, Session.attempt_eq_ok_iff _ ready]
  constructor
  · rintro ⟨_, ⟨answer, c, answered, rfl⟩, confirmed⟩
    exact ⟨answer, c, answered, confirmed⟩
  · rintro ⟨answer, c, answered, confirmed⟩
    exact ⟨_, ⟨answer, c, answered, rfl⟩, confirmed⟩

/-- Reading the codes of a brand asks for them, unless the brand has no table. -/
theorem readLive_eq (r : Resolver) (files : Files) (brand : String) (c : σ) :
    ((r.readLive files brand c).1, (r.readLive files brand c).2.2) =
      if (r.table files brand).1.isEmpty then (.ok [], c)
      else ScanTool.ask (r.query brand) (Resolver.codesOf (r.table files brand).1) c := by
  rw [Resolver.readLive_eq]
  split <;> rfl

theorem readBrand_eq (w : Workplace σ) (brand : String) : w.readBrand brand =
    w.connected (ask (.readBrand brand)
      (fun s => ((w.resolver.readLive w.files brand s).1, (w.resolver.readLive w.files brand s).2.2))
      fun cs => .ok (w.codes cs)) := by
  unfold readBrand
  congr 2

theorem settles_readBrand (ready : s.stage = .ready) (brand : String)
    (report : List Trouble.TroubleCode → String) :
    (ask (.readBrand brand)
      (fun s => ((w.resolver.readLive w.files brand s).1, (w.resolver.readLive w.files brand s).2.2))
      (fun cs => .ok (report cs)) s).Settles True
      (w.Completes (.readBrand brand false) s.channel) := by
  have letsGo := Session.letsGo_of_ready ready
  refine settles_ask ?_ ((exists_said report).trans ?_)
  · rw [readLive_eq]
    split
    · exact letsGo
    · rw [Session.ask_eq_attempt]
      exact Session.letsGo_attempt _ letsGo
  · rw [readLive_eq, Session.ask_eq_attempt]
    unfold Completes
    split
    · rename_i empty
      exact iff_of_true ⟨[], rfl⟩ (Or.inl empty)
    · rename_i filled
      exact (Session.attempt_succeeds_iff _ ready).trans (or_iff_right filled).symm

/-- The poller of a live view that runs once. -/
theorem settles_live (ready : s.stage = .ready) (unknown : s.supported = none) :
    (w.shown (Poller.single ((w.poller true).sweep s))).Settles True
      (w.Completes (.live true) s.channel) := by
  have letsGo : ((w.poller true).sweep s).2.2.LetsGo :=
    Poller.sweep_induction (fun _ => Session.letsGo_probe) (fun _ h pid => Session.letsGo_query pid h)
      _ (Session.letsGo_of_ready ready)
  have success := Poller.sweep_succeeds_iff ready unknown (w.poller true)
  have configured (set : Supported) : Poller.queries set (w.poller true).settings.pids =
      Poller.queries set w.settings.poller.pids := Poller.queries_ofSettings _
  simp only [configured] at success
  rcases swept : (w.poller true).sweep s with ⟨e | snapshot, p, t⟩ <;> rw [swept] at letsGo success
  · refine Outcome.settles_of_closed rfl letsGo
      (iff_of_false (by simp [shown, Poller.single]) fun completes => ?_) fun _ => rfl
    obtain ⟨snapshot, ⟨⟩⟩ := success.mpr completes
  · exact Outcome.settles_of_closed rfl letsGo (iff_of_true rfl (success.mp ⟨snapshot, rfl⟩))
      fun failed => absurd rfl failed

/-- A live view that runs once is a sweep over a connected session. -/
theorem live_once (w : Workplace σ) (fuel : Nat) : w.live (fuel + 2) true =
    some (w.connected fun s => w.shown (Poller.single ((w.poller true).sweep s))) := by
  unfold live connected
  split
  · rfl
  · rfl
  · rw [Poller.run_once rfl rfl, Option.map_some]

/-- A command that needs no tables settles as its work over a connected session does. -/
theorem settles_without_tables {work : Session σ → Outcome σ} {command : Command}
    (loads : w.TablesLoad command)
    (works : ∀ s : Session σ, s.stage = .ready → s.supported = none →
      (work s).Settles True (w.Completes command s.channel)) :
    (w.connected work).Settles (w.Opens command) (w.Succeeds command) :=
  (settles_connected works).congr (and_iff_right loads).symm (and_iff_right loads).symm

/-- Every command that runs once settles. -/
theorem run_settles {command : Command} (oneShot : command.IsOneShot) (fuel : Nat) :
    ∃ o, w.run (fuel + 2) command = some o ∧ o.Settles (w.Opens command) (w.Succeeds command) := by
  cases command with
  | live once =>
    obtain rfl : once = true := oneShot
    exact ⟨_, w.live_once fuel,
      settles_without_tables trivial fun s ready unknown => settles_live ready unknown⟩
  | pids =>
    exact ⟨_, rfl, settles_without_tables trivial fun s ready unknown =>
      settles_pids ready unknown _⟩
  | readCodes =>
    refine ⟨_, rfl, ?_⟩
    unfold readCodes
    rcases loaded : CodeTable.extended w.files w.settings.genericFile with e | table
    · have unloaded : ¬ w.TablesLoad .readCodes := by
        rintro ⟨table, loads⟩
        rw [loaded] at loads
        cases loads
      refine Outcome.settles_fail _ (fun h => unloaded h.1) (iff_of_false (by simp) ?_) ?_
      · exact fun h => unloaded h.1
      · rintro s ⟨⟩
    · exact settles_without_tables ⟨table, loaded⟩ fun s ready _ =>
        settles_readCodes ready table _
  | clearCodes =>
    exact ⟨_, rfl, settles_without_tables trivial fun s ready _ => settles_clear rfl ready⟩
  | listBrands => exact absurd oneShot id
  | readBrand brand simulate =>
    obtain rfl : simulate = false := oneShot
    refine ⟨w.readBrand brand, rfl, ?_⟩
    rw [readBrand_eq]
    exact settles_without_tables trivial fun s ready _ => settles_readBrand ready brand w.codes
  | clearBrand brand simulate =>
    obtain rfl : simulate = false := oneShot
    exact ⟨_, rfl, settles_without_tables trivial fun s ready _ =>
      settles_clear (s.ask_eq_attempt _ _) ready⟩

end Workplace

end overChannel

/-- A command that runs once, under any settings and over a line to any adapter, comes to an outcome. It
succeeds exactly if its tables load, the session is opened and set up, and its exchanges succeed and
confirm what they are to confirm. If it fails, nothing is printed. A session that was opened is
disconnected by then, and its line is closed. -/
theorem Workplace.one_shot_settled {π : Type} [Port π] (w : Workplace (SerialLine π))
    (command : Command) (oneShot : command.IsOneShot) (fuel : Nat) (rounds : 2 ≤ fuel) :
    ∃ o, w.run fuel command = some o ∧
      (o.failure = none ↔ w.TablesLoad command ∧ ∃ line s,
        w.openChannel w.settings.session = .ok line ∧
        (Session.start line w.settings.session).setUp = (.ok (), s) ∧
        w.Completes command s.channel) ∧
      (o.failure ≠ none → o.output = "") ∧
      (o.session.isSome = true ↔
        w.TablesLoad command ∧ ∃ line, w.openChannel w.settings.session = .ok line) ∧
      ∀ s, o.session = some s → s.stage = .disconnected ∧ s.channel.isOpen = false := by
  obtain ⟨more, rfl⟩ := Nat.exists_eq_add_of_le' rounds
  obtain ⟨o, run, settles⟩ := w.run_settles oneShot more
  refine ⟨o, run, settles.success_iff, settles.silent, settles.session_iff, fun s opened => ?_⟩
  obtain ⟨gone, line, closed⟩ := settles.released s opened
  exact ⟨gone, by rw [closed]; rfl⟩

/-- An adapter that can be set up and does not know how to erase codes: the command fails after its only
exchange, prints nothing, and closes the line. -/
theorem Workplace.one_shot_settled_unconfirmed :
    let refusal := "?\r\r>".toUTF8.toList
    let adapter : Bench :=
      ⟨[("04", [refusal])], [Bench.usualAnswer], none, [], [], 0, true, true, [], [], 0⟩
    let files : Files := fun _ => .ok .device
    let w : Workplace (SerialLine Bench) :=
      ⟨files, ⟨.standard, "tables", none, [], none⟩, false, 0, SerialLine.openLine files adapter⟩
    Command.clearCodes.IsOneShot ∧ ∃ o, w.run 2 .clearCodes = some o ∧
      o.failure = some .unconfirmed ∧ o.output = "" ∧
      ∃ s, o.session = some s ∧ s.stage = .disconnected ∧ s.channel.isOpen = false := by
  intro refusal adapter files w
  obtain ⟨o, run, -, silent, opened, closed⟩ := w.one_shot_settled .clearCodes trivial 2 (Nat.le_refl 2)
  have failure : w.clearCodes.failure = some .unconfirmed := by decide +kernel
  obtain rfl : w.clearCodes = o := Option.some.inj run
  have connected : w.clearCodes.session.isSome = true := opened.mpr ⟨trivial, _, rfl⟩
  obtain ⟨s, session⟩ := Option.isSome_iff_exists.mp connected
  exact ⟨trivial, _, rfl, failure, silent (by simp [failure]), s, session, closed s session⟩

end ScanTool
