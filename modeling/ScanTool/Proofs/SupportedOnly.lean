import ScanTool.Live.Monitor
import ScanTool.Proofs.SessionLifecycle

/-!
# Only supported parameters are asked for

A vehicle is asked once which parameters it supports, and after that only for parameters of the set
in its answer. `History` ties the log of a script to what the session knows: either the vehicle has
not been asked and nothing was queried, or the log is `AskedOnce` and the session either knows the
set or has lost the link while asking. Every operation but a raw request keeps the tie, and so does
a sweep.
-/

namespace ScanTool

open Live ScanTool.Text

/-- A request of the form of a query: `01` and two characters. -/
def IsQuery (request : String) : Prop := ∃ a b, request = String.ofList ['0', '1', a, b]

/-- A log, the latest request first, in which the vehicle was asked once which parameters it
supports and was queried only after that, and only for parameters of `set`. -/
def AskedOnce (set : Supported) (received : List String) : Prop :=
  ∃ later earlier, received = later ++ Supported.command :: earlier ∧
    (∀ r ∈ earlier, ¬ IsQuery r) ∧
    ∀ r ∈ later, IsQuery r → ∃ pid, set.contains pid = true ∧ r = Live.request pid

/-- The tie between what a session knows, its stage and the log, the latest request first, for a
vehicle that supports `set`. -/
def History (set : Supported) (known : Option Supported) (stage : Stage)
    (received : List String) : Prop :=
  (known = none ∧ ∀ r ∈ received, ¬ IsQuery r) ∨
  (AskedOnce set received ∧ (known = some set ∨ known = none ∧ stage = .disconnected))

/-! ## Requests that are no queries -/

theorem isQuery_command : IsQuery Supported.command := ⟨'0', '0', rfl⟩

theorem not_isQuery_of_head {request : String} {c : Char} {cs : List Char}
    (h : request.toList = c :: cs) (hc : c ≠ '0') : ¬ IsQuery request := by
  rintro ⟨a, b, rfl⟩
  rw [String.toList_ofList, List.cons.injEq] at h
  exact hc h.1.symm

theorem not_isQuery_readCommand : ¬ IsQuery Trouble.readCommand := by
  rintro ⟨a, b, h⟩
  have := congrArg String.toList h
  simp [Trouble.readCommand] at this

theorem not_isQuery_clearCommand : ¬ IsQuery Trouble.clearCommand := by
  rintro ⟨a, b, h⟩
  have := congrArg String.toList h
  simp [Trouble.clearCommand] at this

theorem not_isQuery_setup (s : Setup) {request : String} (h : request ∈ s.commands) :
    ¬ IsQuery request := by
  have hcommand : ∃ cs, s.protocol.command.toList = 'A' :: cs := by
    unfold BusProtocol.command
    rw [String.toList_append]
    exact ⟨_, rfl⟩
  obtain ⟨cs, hcs⟩ := hcommand
  simp only [Setup.commands, List.mem_cons, List.not_mem_nil, or_false] at h
  rcases h with rfl | rfl | rfl | rfl | rfl
  · exact not_isQuery_of_head rfl (by decide)
  · exact not_isQuery_of_head rfl (by decide)
  · exact not_isQuery_of_head rfl (by decide)
  · exact not_isQuery_of_head rfl (by decide)
  · exact not_isQuery_of_head hcs (by decide)

/-- The request for the supported parameters is no query of a supported parameter: parameter 0 is in
no set. -/
theorem command_ne_request {set : Supported} {pid : Pid} (h : set.contains pid = true) :
    Supported.command ≠ Live.request pid := by
  intro he
  have hdigit : ∀ n < 16, '0' = hexDigit n → n = 0 := by decide
  have hdigits : '0' = hexDigit (pid.toNat / 16) ∧ '0' = hexDigit (pid.toNat % 16) := by
    have hlist := congrArg String.toList he
    rw [show Supported.command.toList = ['0', '1', '0', '0'] from rfl] at hlist
    simpa [Live.request, hexPair] using hlist
  have hlt := pid.toNat_lt
  have hhigh := hdigit (pid.toNat / 16) (by omega) hdigits.1
  have hlow := hdigit (pid.toNat % 16) (by omega) hdigits.2
  have hpositive := (Supported.contains_iff.mp h).1
  omega

/-! ## How the log grows -/

variable {set : Supported} {known : Option Supported} {stage : Stage} {received : List String}

theorem AskedOnce.cons_other {r : String} (h : AskedOnce set received) (hr : ¬ IsQuery r) :
    AskedOnce set (r :: received) := by
  obtain ⟨later, earlier, rfl, he, hl⟩ := h
  refine ⟨r :: later, earlier, rfl, he, fun r' hr' hq => ?_⟩
  rcases List.mem_cons.mp hr' with rfl | hr'
  · exact absurd hq hr
  · exact hl r' hr' hq

theorem AskedOnce.cons_request {pid : Pid} (h : AskedOnce set received)
    (hpid : set.contains pid = true) : AskedOnce set (Live.request pid :: received) := by
  obtain ⟨later, earlier, rfl, he, hl⟩ := h
  refine ⟨Live.request pid :: later, earlier, rfl, he, fun r' hr' hq => ?_⟩
  rcases List.mem_cons.mp hr' with rfl | hr'
  · exact ⟨pid, hpid, rfl⟩
  · exact hl r' hr' hq

/-- A request that is no query keeps the tie. -/
theorem History.cons_other {r : String} (h : History set known stage received)
    (hr : ¬ IsQuery r) : History set known stage (r :: received) := by
  rcases h with ⟨hk, hn⟩ | ⟨ha, hk⟩
  · refine Or.inl ⟨hk, fun r' hr' => ?_⟩
    rcases List.mem_cons.mp hr' with rfl | hr'
    · exact hr
    · exact hn r' hr'
  · exact Or.inr ⟨ha.cons_other hr, hk⟩

theorem History.append_others {sent : List String} (h : History set known stage received)
    (hs : ∀ r ∈ sent, ¬ IsQuery r) : History set known stage (sent ++ received) := by
  induction sent with
  | nil => exact h
  | cons r rest ih =>
    have hrest := ih fun r' hr' => hs r' (List.mem_cons_of_mem _ hr')
    exact hrest.cons_other (hs r List.mem_cons_self)

/-- A link that drops keeps the tie. -/
theorem History.disconnect (h : History set known stage received) :
    History set known .disconnected received := by
  rcases h with h | ⟨ha, hk | hk⟩
  · exact Or.inl h
  · exact Or.inr ⟨ha, Or.inl hk⟩
  · exact Or.inr ⟨ha, Or.inr ⟨hk.1, rfl⟩⟩

/-- The stage matters only to a session that lost the link while it asked for the set. -/
theorem History.of_stage {stage' : Stage} (h : History set known stage received)
    (hs : stage ≠ .disconnected) : History set known stage' received := by
  rcases h with h | ⟨ha, hk | hk⟩
  · exact Or.inl h
  · exact Or.inr ⟨ha, Or.inl hk⟩
  · exact absurd hk.2 hs

/-- What a session knows is the set in the answer. -/
theorem History.eq_of_known {set' : Supported} (h : History set (some set') stage received) :
    set' = set ∧ AskedOnce set received := by
  rcases h with ⟨hk, -⟩ | ⟨ha, hk | ⟨hk, -⟩⟩
  · cases hk
  · exact ⟨Option.some.inj hk, ha⟩
  · cases hk

/-- A session that knows nothing and has not lost the link has asked nothing. -/
theorem History.askedOnce (h : History set none stage received) (hs : stage ≠ .disconnected) :
    AskedOnce set (Supported.command :: received) := by
  rcases h with ⟨-, hn⟩ | ⟨-, hk | hk⟩
  · exact ⟨[], received, rfl, hn, by simp⟩
  · cases hk
  · exact absurd hk.2 hs

/-! ## What the tie says of the log in order -/

theorem AskedOnce.count_le_one (h : AskedOnce set received) :
    received.count Supported.command ≤ 1 := by
  obtain ⟨later, earlier, rfl, he, hl⟩ := h
  have notEarlier : Supported.command ∉ earlier := fun hm => he _ hm isQuery_command
  have notLater : Supported.command ∉ later := fun hm => by
    obtain ⟨pid, hpid, e⟩ := hl _ hm isQuery_command
    exact command_ne_request hpid e
  simp [List.count_eq_zero_of_not_mem notEarlier, List.count_eq_zero_of_not_mem notLater]

/-- A query comes after the one request for the supported parameters. -/
theorem AskedOnce.asked_before (h : AskedOnce set received) {before after : List String}
    {r : String} (hlog : received.reverse = before ++ r :: after) (hq : IsQuery r)
    (hr : r ≠ Supported.command) :
    Supported.command ∈ before ∧ ∃ pid, set.contains pid = true ∧ r = Live.request pid := by
  obtain ⟨later, earlier, rfl, he, hl⟩ := h
  rw [List.reverse_append, List.reverse_cons, List.append_assoc, List.singleton_append] at hlog
  -- `r` is at the request for the set or after it, or else at it or before it
  rcases List.append_eq_append_iff.mp hlog with ⟨_ | ⟨x, mid⟩, rfl, hmid⟩ | ⟨_ | ⟨x, mid⟩, hmid, e⟩
  · exact absurd (List.cons.inj hmid).1.symm hr
  · obtain ⟨rfl, hlater⟩ := List.cons.inj hmid
    have hmem : r ∈ later := by
      rw [← List.mem_reverse, hlater]
      simp
    exact ⟨by simp, hl r hmem hq⟩
  · exact absurd (List.cons.inj e).1 hr
  · obtain ⟨rfl, -⟩ := List.cons.inj e
    refine absurd hq (he r ?_)
    rw [← List.mem_reverse, hmid]
    simp

theorem History.count_le_one (h : History set known stage received) :
    received.count Supported.command ≤ 1 := by
  rcases h with ⟨-, hn⟩ | ⟨ha, -⟩
  · rw [List.count_eq_zero_of_not_mem fun hm => hn _ hm isQuery_command]
    exact Nat.zero_le 1
  · exact ha.count_le_one

theorem History.asked_before (h : History set known stage received) {before after : List String}
    {r : String} (hlog : received.reverse = before ++ r :: after) (hq : IsQuery r)
    (hr : r ≠ Supported.command) :
    Supported.command ∈ before ∧ ∃ pid, set.contains pid = true ∧ r = Live.request pid := by
  rcases h with ⟨-, hn⟩ | ⟨ha, -⟩
  · refine absurd hq (hn r ?_)
    rw [← List.mem_reverse, hlog]
    simp
  · exact ha.asked_before hlog hq hr

/-! ## Every operation but a raw request keeps the tie -/

/-- A session that began over the script `c`, with its log in order. -/
structure InOrder (c : Script) (s : Session Script) : Prop where
  /-- Nothing is being set up, and the channel is closed exactly when the session is
  disconnected. -/
  settled : s.Settled
  /-- The answers are those of the script. -/
  answers : s.channel.answers = c.answers
  /-- What the session knows fits the log. -/
  history : History (.ofAnswer (c.reply Supported.command)) s.supported s.stage s.channel.received

namespace InOrder

variable {c : Script} {s : Session Script}

theorem start (settings : SessionSettings) (isOpen : c.closed = false) (unused : c.received = []) :
    InOrder c (Session.start c settings) where
  settled := Session.settled_start settings isOpen
  answers := rfl
  history := Or.inl ⟨rfl, by simp [Session.start, unused]⟩

/-- The session after an answer to a request that keeps the tie. -/
theorem heard {r : String} (h : InOrder c s)
    (hr : History (.ofAnswer (c.reply Supported.command)) s.supported s.stage
      (r :: s.channel.received)) : InOrder c (s.heard r) where
  settled := ⟨h.settled.stage_ne, h.settled.tied.heard⟩
  answers := h.answers
  history := hr

/-- The session after the link has dropped at a request that keeps the tie. -/
theorem lost {r : String} (h : InOrder c s)
    (hr : History (.ofAnswer (c.reply Supported.command)) s.supported .disconnected
      (r :: s.channel.received)) : InOrder c (s.lost r) where
  settled := ⟨by simp, Session.tied_lost⟩
  answers := h.answers
  history := hr

/-- An attempt at a request that keeps the tie. -/
theorem attempt {α : Type} {r : String} (h : InOrder c s) (read : String → α)
    (hr : s.stage = .ready → History (.ofAnswer (c.reply Supported.command)) s.supported s.stage
      (r :: s.channel.received)) : InOrder c (s.attempt (ask r read)).2 := by
  rcases Session.attempt_cases h.settled.tied r read with
    ⟨-, e⟩ | ⟨ready, e⟩ | ⟨ready, e⟩ <;> rw [e]
  · exact h
  · exact h.lost (hr ready).disconnect
  · exact h.heard (hr ready)

theorem probe (h : InOrder c s) : InOrder c s.probe.2 := by
  have hreply := Script.reply_congr h.answers Supported.command
  have hh := h.history
  rcases Session.probe_cases h.settled.tied with
    ⟨-, e⟩ | ⟨-, set, -, e⟩ | ⟨ready, unknown, e⟩ | ⟨ready, unknown, e⟩ <;> rw [e]
  · exact h
  · exact h
  · rw [unknown] at hh
    refine h.lost (Or.inr ⟨hh.askedOnce (by simp [ready]), Or.inr ⟨unknown, rfl⟩⟩)
  · rw [unknown] at hh
    exact
      { settled := ⟨h.settled.stage_ne, h.settled.tied.learned⟩
        answers := h.answers
        history := Or.inr ⟨hh.askedOnce (by simp [ready]), Or.inl (by simp [hreply])⟩ }

theorem query (h : InOrder c s) (pid : Pid) : InOrder c (s.query pid).2 := by
  have h' := h.probe
  rcases hp : s.probe with ⟨e | set, s'⟩ <;> rw [hp] at h'
  · rw [Session.query_of_probe_error pid hp]
    exact h'
  · cases hpid : set.contains pid with
    | false =>
      rw [Session.query_unsupported hp hpid]
      exact h'
    | true =>
      rw [Session.query_supported hp hpid]
      have known := Session.supported_of_probe h.settled.tied hp
      have hh := h'.history
      rw [known] at hh
      obtain ⟨rfl, asked⟩ := hh.eq_of_known
      exact h'.attempt _ fun _ => Or.inr ⟨asked.cons_request hpid, Or.inl known⟩

theorem setUp (h : InOrder c s) : InOrder c s.setUp.2 := by
  have settled := (Session.perform_lawful h.settled .setUp).settled
  by_cases connecting : s.stage = .connecting
  · have isOpen := h.settled.tied.isOpen (by simp [connecting])
    obtain ⟨sent, hsent, hrec, -⟩ := s.settings.setup.run_receives isOpen
    have hlog : History (.ofAnswer (c.reply Supported.command)) s.supported s.stage
        (s.settings.setup.run s.channel).2.received := by
      rw [hrec.received]
      refine h.history.append_others fun r hr => ?_
      exact not_isQuery_setup _ (hsent.subset (List.mem_reverse.mp hr))
    have hans := hrec.answers.trans h.answers
    refine ⟨settled, ?_, ?_⟩
    · unfold Session.setUp
      rw [if_pos connecting]
      rcases hrun : s.settings.setup.run s.channel with ⟨_ | _, c'⟩ <;> rw [hrun] at hans <;>
        exact hans
    · unfold Session.setUp
      rw [if_pos connecting]
      rcases hrun : s.settings.setup.run s.channel with ⟨_ | _, c'⟩ <;> rw [hrun] at hlog
      · exact hlog.disconnect
      · exact hlog.of_stage (by simp [connecting])
  · have e : s.setUp = (.error (.notReady s.stage), s) := by simp [Session.setUp, connecting]
    rw [e]
    exact h

theorem close (h : InOrder c s) : InOrder c s.close := by
  refine ⟨(Session.perform_lawful h.settled .close).settled, ?_, ?_⟩
  · unfold Session.close
    split
    · exact h.answers
    · exact h.answers
  · unfold Session.close
    split
    · exact h.history
    · exact h.history.disconnect

/-- The log stays in order under every operation but a raw request. -/
theorem perform (h : InOrder c s) {op : Operation} (hop : ∀ r, op ≠ .send r) :
    InOrder c (s.perform op).2 := by
  cases op with
  | setUp => exact h.setUp
  | probe => exact h.probe
  | query pid => exact h.query pid
  | readCodes table =>
    exact h.attempt (Trouble.describeStored table)
      fun _ => h.history.cons_other not_isQuery_readCommand
  | clearCodes =>
    exact h.attempt Trouble.confirmsClear fun _ => h.history.cons_other not_isQuery_clearCommand
  | send request => exact absurd rfl (hop request)
  | close => exact h.close

end InOrder

/-! ## What a session knows, it keeps -/

namespace Session

variable {σ : Type} [Channel σ] {s : Session σ} {set : Supported}

theorem attempt_supported {α : Type} (work : σ → Except AdapterError α × σ) (s : Session σ) :
    (s.attempt work).2.supported = s.supported := by
  unfold attempt
  split
  · rcases work s.channel with ⟨e | _, c⟩
    · cases ht : e.isTransport <;> simp [ht, drop]
    · rfl
  · rfl

theorem setUp_supported (s : Session σ) : s.setUp.2.supported = s.supported := by
  unfold setUp
  split
  · rcases s.settings.setup.run s.channel with ⟨_ | _, c⟩ <;> rfl
  · rfl

theorem close_supported (s : Session σ) : s.close.supported = s.supported := by
  unfold close
  split <;> rfl

theorem probe_keeps (h : s.supported = some set) : s.probe.2.supported = some set := by
  by_cases ready : s.stage = .ready
  · rw [probe_known ready h]
    exact h
  · rw [probe_of_not_ready ready]
    exact h

theorem query_keeps (h : s.supported = some set) (pid : Pid) :
    (s.query pid).2.supported = some set := by
  have h' := probe_keeps h
  rcases hp : s.probe with ⟨e | set', s'⟩ <;> rw [hp] at h'
  · rw [query_of_probe_error pid hp]
    exact h'
  · cases hpid : set'.contains pid with
    | false =>
      rw [query_unsupported hp hpid]
      exact h'
    | true =>
      rw [query_supported hp hpid, attempt_supported]
      exact h'

theorem perform_keeps (h : s.supported = some set) (op : Operation) :
    (s.perform op).2.supported = some set := by
  cases op with
  | setUp => exact (setUp_supported s).trans h
  | probe => exact probe_keeps h
  | query pid => exact query_keeps h pid
  | readCodes table => exact (attempt_supported (askStoredCodes table) s).trans h
  | clearCodes => exact (attempt_supported askClear s).trans h
  | send request => exact (attempt_supported (Channel.exchange request) s).trans h
  | close => exact (close_supported s).trans h

end Session

/-- What a monitor's session knows, it knows ever after. -/
theorem Live.Monitor.actAll_keeps {σ : Type} [Channel σ] {m : Monitor σ} {set : Supported}
    (steps : List Monitor.Step) (h : m.session.supported = some set) :
    (m.actAll steps).session.supported = some set :=
  actAll_induction (P := fun s => s.supported = some set)
    (fun _ hs op _ => Session.perform_keeps hs op) (fun _ hs => Session.probe_keeps hs)
    (fun _ hs pid => Session.query_keeps hs pid) h

/-- The log of a monitor that sends no raw request is in order. -/
theorem Live.Monitor.inOrder_actAll {c : Script} {m : Monitor Script} {steps : List Monitor.Step}
    (noSend : ∀ r, Monitor.Step.operate (.send r) ∉ steps) (h : InOrder c m.session) :
    InOrder c (m.actAll steps).session :=
  actAll_induction
    (fun _ hs _ hop => hs.perform fun r e => noSend r (e ▸ hop))
    (fun _ hs => hs.probe) (fun _ hs pid => hs.query pid) h

/-- Whatever a monitor does short of raw requests, it asks the vehicle at most once which parameters
it supports, queries it only after that and only for parameters of the set in the answer, and once
it knows the set, it knows it ever after. -/
theorem vehicle_asked_once (c : Script) (settings : SessionSettings) (p : Poller)
    (isOpen : c.closed = false) (unused : c.received = []) (steps : List Monitor.Step)
    (noSend : ∀ r, Monitor.Step.operate (.send r) ∉ steps) :
    let m := (Monitor.mk p (Session.start c settings)).actAll steps
    m.session.channel.log.count Supported.command ≤ 1 ∧
    (∀ before r after, m.session.channel.log = before ++ r :: after → IsQuery r →
      r ≠ Supported.command →
      Supported.command ∈ before ∧
        ∃ pid, (Supported.ofAnswer (c.reply Supported.command)).contains pid = true ∧
          r = Live.request pid) ∧
    (∀ set later, m.session.supported = some set →
      (m.actAll later).session.supported = some set) := by
  have inOrder := Monitor.inOrder_actAll (m := ⟨p, Session.start c settings⟩) noSend
    (.start settings isOpen unused)
  refine ⟨?_, fun before r after hlog hq hr => inOrder.history.asked_before hlog hq hr,
    fun set later h => Monitor.actAll_keeps later h⟩
  rw [Script.log, List.count_reverse]
  exact inOrder.history.count_le_one

/-- A sweep that the link cuts short, with a query before it. -/
theorem vehicle_asked_once_in_broken_sweep :
    let c := (Script.empty.answerSetup.answer "0100" "4100FFFFFFFF").failAt "010D"
    let steps := [.operate .setUp, .operate (.query 0x0C), .sweep, .operate (.query 0x0C)]
    let m := (Monitor.mk default (Session.start c .standard)).actAll steps
    c.closed = false ∧ c.received = [] ∧ (∀ r, Monitor.Step.operate (.send r) ∉ steps) ∧
      m.session.channel.log.count Supported.command ≤ 1 :=
  have noSend : ∀ r, Monitor.Step.operate (.send r) ∉
      [.operate .setUp, .operate (.query 0x0C), .sweep, .operate (.query 0x0C)] := by simp
  ⟨rfl, rfl, noSend, (vehicle_asked_once _ .standard default rfl rfl _ noSend).1⟩

end ScanTool
