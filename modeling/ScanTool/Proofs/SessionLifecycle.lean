import ScanTool.Proofs.ScriptedSession

/-!
# The life of a session

A session over a script is connecting, ready or disconnected after every operation, its channel is
closed exactly when it is disconnected, and it comes back from nowhere. `Lawful` says what one
operation does to these; the main statement is that after any use of a session, however it went,
the next operation is lawful.
-/

namespace ScanTool

/-- An operation is accepted at a stage: the adapter is set up while the session is connecting, a
session is closed at any stage, and all else needs a ready session. -/
def Operation.Accepted : Operation → Stage → Prop
  | .setUp, stage => stage = .connecting
  | .close, _ => True
  | _, stage => stage = .ready

namespace Session

/-- What the law of a session's life asks of the outcome of one operation. -/
structure Lawful (s : Session Script) (op : Operation)
    (outcome : Except AdapterError Reply × Session Script) : Prop where
  /-- The session is never left in the middle of the set-up. -/
  stage_mem : outcome.2.stage = .connecting ∨ outcome.2.stage = .ready ∨
    outcome.2.stage = .disconnected
  /-- The channel is closed exactly when the session is disconnected. -/
  tied : outcome.2.channel.closed = true ↔ outcome.2.stage = .disconnected
  /-- A disconnected session stays so. -/
  of_disconnected : s.stage = .disconnected → outcome.2.stage = .disconnected
  /-- A ready session stays so or is disconnected. -/
  of_ready : s.stage = .ready → outcome.2.stage = .ready ∨ outcome.2.stage = .disconnected
  /-- An operation that is not accepted fails with the stage and changes nothing. -/
  refused : ¬ op.Accepted s.stage →
    outcome = (.error (.notReady s.stage), s)
  /-- A ready session is disconnected exactly by the failures of transport. -/
  transport_iff : op ≠ .close → s.stage = .ready →
    ((∃ e : AdapterError, outcome.1 = .error e ∧ e.isTransport = true) ↔
      outcome.2.stage = .disconnected)

/-- What every operation keeps: the session is not in the middle of the set-up, and its channel is
closed exactly when it is disconnected. -/
structure Settled (s : Session Script) : Prop where
  /-- The session is not being set up. -/
  stage_ne : s.stage ≠ .initializing
  /-- The tie between session and channel. -/
  tied : s.Tied

theorem settled_start (settings : SessionSettings) {c : Script} (isOpen : c.closed = false) :
    (start c settings).Settled where
  stage_ne := by simp [start]
  tied := by simp [Tied, start, isOpen]

variable {s s' : Session Script} {op : Operation}

theorem Lawful.settled {outcome : Except AdapterError Reply × Session Script}
    (h : s.Lawful op outcome) : outcome.2.Settled where
  stage_ne hs := by
    rcases h.stage_mem with h' | h' | h' <;> rw [hs] at h' <;> cases h'
  tied := h.tied

/-! ## The three ways in which an operation ends -/

/-- The operation failed with the stage, and nothing changed. -/
theorem Lawful.of_refused (h : s.Settled) : s.Lawful op (.error (.notReady s.stage), s) where
  stage_mem := by
    cases hs : s.stage with
    | initializing => exact absurd hs h.stage_ne
    | _ => simp
  tied := h.tied
  of_disconnected := id
  of_ready := Or.inl
  refused _ := rfl
  transport_iff _ ready := by simp [AdapterError.isTransport, ready]

/-- The operation was accepted and failed because the link had dropped. -/
theorem Lawful.of_dropped (hop : op.Accepted s.stage) (closed : s'.channel.closed = true)
    (hs' : s'.stage = .disconnected) : s.Lawful op (.error .disconnected, s') where
  stage_mem := Or.inr (Or.inr hs')
  tied := by simp [closed, hs']
  of_disconnected _ := hs'
  of_ready _ := Or.inr hs'
  refused h := absurd hop h
  transport_iff _ _ := by simp [AdapterError.isTransport, hs']

/-- The operation was accepted by a ready session and did not fail in transport. -/
theorem Lawful.of_kept {result : Except AdapterError Reply} (ready : s.stage = .ready)
    (hop : op.Accepted s.stage) (isOpen : s'.channel.closed = false) (hs' : s'.stage = .ready)
    (hr : ∀ e, result = .error e → e.isTransport = false) : s.Lawful op (result, s') where
  stage_mem := Or.inr (Or.inl hs')
  tied := by simp [isOpen, hs']
  of_disconnected h := by rw [ready] at h; cases h
  of_ready _ := Or.inl hs'
  refused h := absurd hop h
  transport_iff _ _ := by
    simp only [hs', reduceCtorEq, iff_false, not_exists, not_and, Bool.not_eq_true]
    exact hr

/-! ## Every operation is lawful -/

/-- An operation that is one attempt of the session. -/
theorem lawful_attempt {α : Type} (h : s.Settled) (hop : op.Accepted s.stage ↔ s.stage = .ready)
    (request : String) (read : String → α) (f : α → Reply) :
    s.Lawful op ((s.attempt (ask request read)).map (Except.map f) id) := by
  rcases attempt_cases h.tied request read with ⟨ready, e⟩ | ⟨ready, e⟩ | ⟨ready, e⟩ <;> rw [e]
  · exact .of_refused h
  · exact .of_dropped (hop.mpr ready) rfl rfl
  · exact .of_kept ready (hop.mpr ready) (h.tied.isOpen (by simp [ready])) ready
      (fun _ h => by cases h)

theorem lawful_probe (h : s.Settled) : s.Lawful .probe (s.perform .probe) := by
  show s.Lawful .probe (s.probe.map _ _)
  rcases probe_cases h.tied with ⟨ready, e⟩ | ⟨ready, set, -, e⟩ | ⟨ready, -, e⟩ | ⟨ready, -, e⟩ <;>
    rw [e]
  · exact .of_refused h
  · exact .of_kept ready ready (h.tied.isOpen (by simp [ready])) ready (fun _ h => by cases h)
  · exact .of_dropped ready rfl rfl
  · exact .of_kept ready ready (h.tied.isOpen (by simp [ready])) ready (fun _ h => by cases h)

/-- The second half of a query, once the supported parameters are known: the session `s'` is as
ready as `s` was. -/
theorem lawful_query_of_probe {pid : Live.Pid} {set : Live.Supported} (ready : s.stage = .ready)
    (hp : s.probe = (.ok set, s')) (ready' : s'.stage = .ready) (tied' : s'.Tied) :
    s.Lawful (.query pid) (s.perform (.query pid)) := by
  have isOpen' : s'.channel.closed = false := tied'.isOpen (by simp [ready'])
  show s.Lawful (.query pid) ((s.query pid).map _ _)
  cases hpid : set.contains pid with
  | false =>
    rw [query_unsupported hp hpid]
    exact .of_kept ready ready isOpen' ready' (fun e h => by cases h; rfl)
  | true =>
    rw [query_supported hp hpid]
    rcases attempt_cases tied' (Live.request pid) (Live.decode? pid) with
      ⟨hs, -⟩ | ⟨-, e⟩ | ⟨-, e⟩
    · exact absurd ready' hs
    · rw [askValue, e]
      exact .of_dropped ready rfl rfl
    · rw [askValue, e]
      exact .of_kept ready ready isOpen' ready' (fun _ h => by cases h)

theorem lawful_query (h : s.Settled) (pid : Live.Pid) :
    s.Lawful (.query pid) (s.perform (.query pid)) := by
  rcases probe_cases h.tied with ⟨ready, -⟩ | ⟨ready, set, -, e⟩ | ⟨ready, -, e⟩ | ⟨ready, -, e⟩
  · show s.Lawful (.query pid) ((s.query pid).map _ _)
    rw [query_of_not_ready pid ready]
    exact .of_refused h
  · exact lawful_query_of_probe ready e ready h.tied
  · show s.Lawful (.query pid) ((s.query pid).map _ _)
    rw [query_of_probe_error pid e]
    exact .of_dropped ready rfl rfl
  · exact lawful_query_of_probe ready e ready h.tied.learned

theorem lawful_setUp (h : s.Settled) : s.Lawful .setUp (s.perform .setUp) := by
  show s.Lawful .setUp (s.setUp.map _ _)
  by_cases connecting : s.stage = .connecting
  · have isOpen := h.tied.isOpen (by simp [connecting])
    obtain ⟨-, -, -, hopen⟩ := s.settings.setup.run_receives isOpen
    unfold setUp
    rw [if_pos connecting]
    rcases hrun : s.settings.setup.run s.channel with ⟨e | _, c⟩
    · exact
        { stage_mem := Or.inr (Or.inr rfl)
          tied := by simp [drop, Channel.close]
          of_disconnected := fun _ => rfl
          of_ready := fun _ => Or.inr rfl
          refused := fun hop => absurd connecting hop
          transport_iff := fun _ ready => by rw [connecting] at ready; cases ready }
    · rw [hrun] at hopen
      exact
        { stage_mem := Or.inr (Or.inl rfl)
          tied := by simpa using hopen rfl
          of_disconnected := fun hs => by rw [connecting] at hs; cases hs
          of_ready := fun _ => Or.inl rfl
          refused := fun hop => absurd connecting hop
          transport_iff := fun _ ready => by rw [connecting] at ready; cases ready }
  · unfold setUp
    rw [if_neg connecting]
    exact .of_refused h

theorem lawful_close (h : s.Settled) : s.Lawful .close (s.perform .close) := by
  have hc : s.close.stage = .disconnected ∧ s.close.channel.closed = true := by
    unfold close
    split
    · rename_i hs
      exact ⟨hs, h.tied.mpr hs⟩
    · exact ⟨rfl, rfl⟩
  exact
    { stage_mem := Or.inr (Or.inr hc.1)
      tied := by simp [perform, hc.1, hc.2]
      of_disconnected := fun _ => hc.1
      of_ready := fun _ => Or.inr hc.1
      refused := fun hop => absurd trivial hop
      transport_iff := fun hop => absurd rfl hop }

theorem perform_lawful (h : s.Settled) (op : Operation) : s.Lawful op (s.perform op) := by
  cases op with
  | setUp => exact lawful_setUp h
  | probe => exact lawful_probe h
  | query pid => exact lawful_query h pid
  | readCodes table =>
    exact lawful_attempt h Iff.rfl Trouble.readCommand (Trouble.describeStored table) .codes
  | clearCodes => exact lawful_attempt h Iff.rfl Trouble.clearCommand Trouble.confirmsClear .cleared
  | send request =>
    show s.Lawful (.send request) ((Channel.exchange request s).map _ _)
    rw [exchange_eq_attempt]
    exact lawful_attempt h Iff.rfl request id .answer
  | close => exact lawful_close h

theorem settled_performAll (h : s.Settled) (ops : List Operation) : (s.performAll ops).Settled :=
  performAll_induction (fun _ hs op _ => (perform_lawful hs op).settled) h

/-- After any use of a session that began over an open script, every operation is lawful. -/
theorem lawful_after_any_use (c : Script) (settings : SessionSettings) (isOpen : c.closed = false)
    (ops : List Operation) (op : Operation) :
    ((start c settings).performAll ops).Lawful op
      (((start c settings).performAll ops).perform op) :=
  perform_lawful (settled_performAll (settled_start settings isOpen) ops) op

/-- The law at a link that drops while a parameter is asked for, and at the query after it. -/
theorem lawful_after_dropped_link :
    let c := (Script.empty.answerSetup.answer "0100" "4100FFFFFFFF").failAt "010C"
    let s := (start c .standard).performAll [.setUp, .query 0x0C]
    c.closed = false ∧ s.Lawful (.query 0x0D) (s.perform (.query 0x0D)) :=
  ⟨rfl, lawful_after_any_use _ .standard rfl [.setUp, .query 0x0C] (.query 0x0D)⟩

end Session

end ScanTool
