import ScanTool.Proofs.ScriptedSession
import ScanTool.Proofs.SweepSteps
import ScanTool.Proofs.TextCutting

/-!
# What the set-up comes to

The set-up of an adapter sends its commands in order. A command offends if its exchange fails or,
under the strict policy, if the answer does not say `OK`. `Setup.Ends` says how the commands end: all
of them are sent and none offends, or the first that offends is the last one sent. The main statement
says what this makes of a session, and what the two policies have to do with each other: the strict
one goes the same way and may stop earlier.
-/

namespace ScanTool

open ScanTool.Text

/-! ## The word that accepts a command -/

/-- An answer says `OK`, in any case of the two letters. -/
def SaysOk (answer : String) : Prop :=
  ∃ word ∈ [['O', 'K'], ['O', 'k'], ['o', 'K'], ['o', 'k']], word <:+: answer.toList

theorem Text.toUpper_eq_iff {c capital small : Char} (fixed : capital.toUpper = capital)
    (upper : small.toUpper = capital) (apart : capital.toNat + 32 = small.toNat) :
    c.toUpper = capital ↔ c = capital ∨ c = small := by
  constructor
  · intro h
    rcases toUpper_cases c with same | ⟨-, -, shifted⟩
    · exact Or.inl (same ▸ h)
    · rw [h, apart] at shifted
      exact Or.inr (Char.toNat_inj.mp shifted).symm
  · rintro (rfl | rfl)
    · exact fixed
    · exact upper

theorem asciiUpper_eq_ok_iff {word : List Char} : asciiUpper word = ['O', 'K'] ↔
    word ∈ [['O', 'K'], ['O', 'k'], ['o', 'K'], ['o', 'k']] := by
  have letterO (c : Char) : c.toUpper = 'O' ↔ c = 'O' ∨ c = 'o' :=
    toUpper_eq_iff (by decide) (by decide) (by decide)
  have letterK (c : Char) : c.toUpper = 'K' ↔ c = 'K' ∨ c = 'k' :=
    toUpper_eq_iff (by decide) (by decide) (by decide)
  match word with
  | [] => simp [asciiUpper]
  | [_] => simp [asciiUpper]
  | [a, b] =>
    simp only [asciiUpper, List.map_cons, List.map_nil, List.cons.injEq, letterO, letterK,
      List.mem_cons, List.not_mem_nil]
    grind
  | _ :: _ :: _ :: _ => simp [asciiUpper]

theorem Setup.accepts_iff {answer : String} : accepts answer = true ↔ SaysOk answer := by
  unfold accepts SaysOk
  rw [occursIn_iff, infix_asciiUpper_iff]
  simp only [asciiUpper_eq_ok_iff]
  exact exists_congr fun _ => and_comm

/-! ## The commands -/

namespace Setup

variable {s : Setup} {c c' : Script} {command : String} {commands : List String}

/-- A command offends: its exchange with the script fails, or the policy is strict and the answer does
not say `OK`. -/
def Offends (s : Setup) (c : Script) (command : String) : Prop :=
  c.failsAt = some command ∨ s.policy = .strict ∧ ¬ SaysOk (c.reply command)

/-- The failure that a command which offends ends the set-up with. -/
def offence (c : Script) (command : String) : AdapterError :=
  if c.failsAt = some command then .disconnected
  else .rejected command (trimmed (c.reply command))

/-- How commands that are sent in order to an open script end. -/
inductive Ends (s : Setup) (c : Script) (commands : List String) :
    Except AdapterError Unit × Script → Prop where
  /-- All are sent, and none offends. -/
  | accepted {c' : Script} (spotless : ∀ command ∈ commands, ¬ s.Offends c command)
    (receives : c.Receives commands c') (isOpen : c'.closed = false) : Ends s c commands (.ok (), c')
  /-- The first that offends is the last one sent. -/
  | stopped {before after : List String} {command : String} {c' : Script}
    (split : commands = before ++ command :: after)
    (spotless : ∀ earlier ∈ before, ¬ s.Offends c earlier) (offends : s.Offends c command)
    (receives : c.Receives (before ++ [command]) c') :
    Ends s c commands (.error (offence c command), c')

/-- What a script has received before does not matter to what offends. -/
theorem offends_congr {sent : List String} (h : c.Receives sent c') :
    s.Offends c' command ↔ s.Offends c command := by
  unfold Offends
  rw [h.failsAt, Script.reply_congr h.answers]

theorem offence_congr {sent : List String} (h : c.Receives sent c') :
    offence c' command = offence c command := by
  unfold offence
  rw [h.failsAt, Script.reply_congr h.answers]

/-- One command. -/
theorem send_ends (s : Setup) (command : String) (isOpen : c.closed = false) :
    s.Ends c [command] (s.send command c) := by
  have first : [command] = [] ++ command :: [] := rfl
  unfold send
  by_cases fails : c.failsAt = some command
  · have e : AdapterError.disconnected = offence c command := by simp [offence, fails]
    rw [Script.exchange_failing isOpen fails, e]
    exact .stopped first (by simp) (Or.inl fails) (.lost command c)
  · rw [Script.exchange_answered isOpen fails]
    dsimp only
    split
    · rename_i fine
      have spotless : ¬ s.Offends c command := by
        rintro (failed | ⟨strict, silent⟩)
        · exact fails failed
        · rw [strict] at fine
          exact silent (accepts_iff.mp (fine.resolve_left (by simp)))
      exact .accepted (by simpa using spotless) (.heard command c) isOpen
    · rename_i unfit
      have e : AdapterError.rejected command (trimmed (c.reply command)) = offence c command := by
        simp [offence, fails]
      rw [not_or] at unfit
      have strict : s.policy = .strict := by
        cases h : s.policy with
        | bestEffort => exact absurd h unfit.1
        | strict => rfl
      rw [e]
      exact .stopped first (by simp)
        (Or.inr ⟨strict, fun saysOK => unfit.2 (accepts_iff.mpr saysOK)⟩) (.heard command c)

/-- Commands that are sent after others that did not offend. -/
theorem Ends.since {sent : List String} {o : Except AdapterError Unit × Script}
    (fine : ∀ command ∈ sent, ¬ s.Offends c command) (receives : c.Receives sent c')
    (h : s.Ends c' commands o) : s.Ends c (sent ++ commands) o := by
  have spotless_append {more : List String} (rest : ∀ command ∈ more, ¬ s.Offends c' command) :
      ∀ command ∈ sent ++ more, ¬ s.Offends c command := by
    intro command mem
    rcases List.mem_append.mp mem with mem | mem
    · exact fine command mem
    · exact fun offends => rest command mem ((offends_congr receives).mpr offends)
  cases h with
  | accepted rest received isOpen =>
    exact .accepted (spotless_append rest) (receives.trans received) isOpen
  | @stopped before after command c'' split rest offends received =>
    have split' : sent ++ commands = (sent ++ before) ++ command :: after := by
      rw [split, List.append_assoc]
    have received' := receives.trans received
    rw [← List.append_assoc] at received'
    rw [offence_congr receives]
    exact .stopped split' (spotless_append rest) ((offends_congr receives).mp offends) received'

/-- A command, and what is done after it if it does not offend. -/
theorem Ends.andThen {o : Except AdapterError Unit × Script}
    {next : Unit → Script → Except AdapterError Unit × Script} (h : s.Ends c [command] o)
    (hnext : ∀ c', c'.closed = false → s.Ends c' commands (next () c')) :
    s.Ends c (command :: commands) (ScanTool.andThen o next) := by
  cases h with
  | @accepted c' spotless receives isOpen => exact (hnext c' isOpen).since spotless receives
  | @stopped before after last c' split spotless offends receives =>
    have split' : command :: commands = before ++ last :: (after ++ commands) := by
      rw [← List.cons_append, ← List.append_assoc, ← split]
      rfl
    exact .stopped split' spotless offends receives

theorem sendRest_ends (s : Setup) (commands : List String) (isOpen : c.closed = false) :
    s.Ends c commands (s.sendRest commands c) := by
  induction commands generalizing c with
  | nil => exact .accepted (by simp) (.refl c) isOpen
  | cons command rest ih =>
    -- the pause before the command is not written down
    have paused : (Channel.pause s.delay c).closed = false := isOpen
    have first : s.Ends c ([] ++ [command]) (s.send command (Channel.pause s.delay c)) :=
      (s.send_ends command paused).since (by simp) (.pause s.delay c)
    rw [sendRest_cons]
    exact first.andThen fun c' isOpen' => ih isOpen'

theorem run_ends (s : Setup) (isOpen : c.closed = false) : s.Ends c s.commands (s.run c) := by
  have hs : s.commands = "ATE0" :: ["ATL0", "ATS0", "ATH1", s.protocol.command] := rfl
  rw [run_of_commands hs, hs]
  exact (s.send_ends "ATE0" isOpen).andThen fun _ isOpen' => s.sendRest_ends _ isOpen'

/-- What offends more easily is stopped no later: the commands sent are some of those sent otherwise,
and if none offends, nothing is different otherwise. -/
theorem Ends.earlier {t : Setup} {o o' : Except AdapterError Unit × Script}
    (easier : ∀ command, t.Offends c command → s.Offends c command) (h : s.Ends c commands o)
    (h' : t.Ends c commands o') :
    o.2.log <+: o'.2.log ∧ (o.1.isOk = true → o'.1.isOk = true ∧ o'.2.log = o.2.log) := by
  cases h with
  | accepted spotless receives _ =>
    cases h' with
    | accepted _ receives' _ =>
      have same := receives'.log.trans receives.log.symm
      exact ⟨same ▸ List.prefix_rfl, fun _ => ⟨rfl, same⟩⟩
    | stopped split _ offends _ =>
      exact absurd (easier _ offends) (spotless _ (by simp [split]))
  | @stopped before after command c₁ split spotless offends receives =>
    refine ⟨?_, fun ok => by cases ok⟩
    rw [receives.log]
    cases h' with
    | accepted _ receives' _ =>
      rw [receives'.log, List.prefix_append_right_inj]
      exact ⟨after, by simp [split]⟩
    | @stopped before' after' command' c₂ split' _ offends' receives' =>
      rw [receives'.log, List.prefix_append_right_inj]
      -- otherwise the command that stops the other run would have been sent before
      have whole : before ++ [command] <+: commands := ⟨after, by simp [split]⟩
      have whole' : before' ++ [command'] <+: commands := ⟨after', by simp [split']⟩
      refine List.prefix_of_prefix_length_le whole whole' (Nat.le_of_not_lt fun shorter => ?_)
      have early : before' ++ [command'] <+: before := by
        refine List.prefix_of_prefix_length_le whole' ⟨command :: after, split.symm⟩ ?_
        simp only [List.length_append, List.length_singleton] at shorter ⊢
        omega
      exact spotless command' (early.subset (by simp)) (easier command' offends')

end Setup

/-! ## The session -/

namespace Session

/-- A session under another policy of the set-up. -/
def under {σ : Type} (policy : SetupPolicy) (s : Session σ) : Session σ :=
  { s with settings := { s.settings with policy := policy } }

variable {s : Session Script}

theorem setUp_of_ok (connecting : s.stage = .connecting) {c : Script}
    (h : s.settings.setup.run s.channel = (.ok (), c)) :
    s.setUp = (.ok (), { s with channel := c, stage := .ready }) := by
  unfold setUp
  rw [if_pos connecting, h]

theorem setUp_of_error (connecting : s.stage = .connecting) {e : AdapterError} {c : Script}
    (h : s.settings.setup.run s.channel = (.error e, c)) :
    s.setUp = (.error e, { s with channel := Channel.close c, stage := .disconnected }) := by
  unfold setUp
  rw [if_pos connecting, h]
  rfl

/-- What is left of the channel and of the stage after the set-up. -/
theorem setUp_run (connecting : s.stage = .connecting) :
    s.setUp.2.channel.log = (s.settings.setup.run s.channel).2.log ∧
      (s.setUp.2.stage = .ready ↔ (s.settings.setup.run s.channel).1.isOk = true) := by
  rcases run : s.settings.setup.run s.channel with ⟨e | _, c⟩
  · rw [setUp_of_error connecting run]
    exact ⟨rfl, iff_of_false (by simp) (by simp [Except.isOk, Except.toBool])⟩
  · rw [setUp_of_ok connecting run]
    exact ⟨rfl, iff_of_true rfl rfl⟩

/-- What setting the session `s` up comes to if it is done by `commands`. -/
structure SetUpBy (s : Session Script) (commands : List String)
    (outcome : Except AdapterError Unit × Session Script) : Prop where
  /-- The session is ready exactly if no command offends. -/
  ready_iff : outcome.2.stage = .ready ↔
    ∀ command ∈ commands, ¬ s.settings.setup.Offends s.channel command
  /-- Then all commands have been sent, and the channel is open. -/
  of_ready : outcome.2.stage = .ready → outcome.1 = .ok () ∧
    outcome.2.channel.closed = false ∧ outcome.2.channel.log = s.channel.log ++ commands
  /-- Otherwise the first command that offends was the last one sent and is the failure, and the
  session is disconnected. -/
  of_not_ready : outcome.2.stage ≠ .ready →
    outcome.2.stage = .disconnected ∧ outcome.2.channel.closed = true ∧
    ∃ before command after, commands = before ++ command :: after ∧
      (∀ earlier ∈ before, ¬ s.settings.setup.Offends s.channel earlier) ∧
      s.settings.setup.Offends s.channel command ∧
      outcome.2.channel.log = s.channel.log ++ (before ++ [command]) ∧
      outcome.1 = .error (Setup.offence s.channel command)

theorem setUpBy_commands (connecting : s.stage = .connecting) (isOpen : s.channel.closed = false) :
    s.SetUpBy s.settings.setup.commands s.setUp := by
  have ends := s.settings.setup.run_ends isOpen
  generalize run : s.settings.setup.run s.channel = o at ends
  cases ends with
  | accepted spotless receives isOpen' =>
    rw [setUp_of_ok connecting run]
    exact
      { ready_iff := iff_of_true rfl spotless
        of_ready := fun _ => ⟨rfl, isOpen', receives.log⟩
        of_not_ready := fun unready => absurd rfl unready }
  | @stopped before after command c' split spotless offends receives =>
    rw [setUp_of_error connecting run]
    have one : command ∈ s.settings.setup.commands := by simp [split]
    exact
      { ready_iff := iff_of_false (by simp) fun all => all command one offends
        of_ready := fun ready => by cases ready
        of_not_ready := fun _ =>
          ⟨rfl, rfl, before, command, after, split, spotless, offends, receives.log, rfl⟩ }

/-- Setting a connecting session up over an open script. Under either policy it sends the commands in
order: if none offends, it sends all and is ready, and otherwise the first that offends is the last
one sent, and the session is disconnected. The strict policy sends no other commands than the best
effort, and where it ends ready, so does the best effort by the same commands. -/
theorem setUp_exact (s : Session Script) (connecting : s.stage = .connecting)
    (isOpen : s.channel.closed = false) :
    (∀ policy, (s.under policy).SetUpBy
      ["ATE0", "ATL0", "ATS0", "ATH1", "ATSP" ++ toString s.settings.protocol.number]
      (s.under policy).setUp) ∧
    (let strict := (s.under .strict).setUp.2
     let lenient := (s.under .bestEffort).setUp.2
     strict.channel.log <+: lenient.channel.log ∧
     (strict.stage = .ready →
       lenient.stage = .ready ∧ lenient.channel.log = strict.channel.log)) := by
  have each (policy : SetupPolicy) :
      (s.under policy).SetUpBy s.settings.setup.commands (s.under policy).setUp :=
    setUpBy_commands connecting isOpen
  have ends (policy : SetupPolicy) : (s.under policy).settings.setup.Ends s.channel
      s.settings.setup.commands ((s.under policy).settings.setup.run s.channel) :=
    Setup.run_ends _ isOpen
  -- an exchange that fails offends under both policies
  have easier (command : String)
      (offends : (s.under .bestEffort).settings.setup.Offends s.channel command) :
      (s.under .strict).settings.setup.Offends s.channel command :=
    Or.inl (offends.resolve_right fun strict => by cases strict.1)
  obtain ⟨logStrict, readyStrict⟩ := setUp_run (s := s.under .strict) connecting
  obtain ⟨logLenient, readyLenient⟩ := setUp_run (s := s.under .bestEffort) connecting
  obtain ⟨shorter, ready⟩ := (ends .strict).earlier easier (ends .bestEffort)
  refine ⟨each, ?_, ?_⟩
  · rw [logStrict, logLenient]
    exact shorter
  · rw [logStrict, logLenient, readyStrict, readyLenient]
    exact ready

/-- An adapter that answers the third command in lower case and does not know the fourth: the strict
policy stops there, and the best effort does not. -/
theorem setUp_of_unknown_command :
    let c := ((Script.empty.answerSetup.answer "ATS0" "\rok\r").answer "ATH1" "? ").failAt "0100"
    let s := Session.start c { SessionSettings.standard with protocol := .kwpFast }
    s.stage = .connecting ∧ s.channel.closed = false ∧
      (s.under .strict).setUp.1 = .error (.rejected "ATH1" "?") ∧
      (s.under .strict).setUp.2.channel.log = ["ATE0", "ATL0", "ATS0", "ATH1"] ∧
      (s.under .strict).setUp.2.stage = .disconnected ∧
      (s.under .bestEffort).setUp.2.stage = .ready ∧
      (s.under .bestEffort).setUp.2.channel.log = ["ATE0", "ATL0", "ATS0", "ATH1", "ATSP5"] := by
  intro c s
  obtain ⟨setUpBy, -⟩ := setUp_exact s rfl rfl
  have stopped : (s.under .strict).setUp.2.stage = .disconnected := by decide +kernel
  have ready : (s.under .bestEffort).setUp.2.stage = .ready := by decide +kernel
  obtain ⟨-, -, log⟩ := (setUpBy .bestEffort).of_ready ready
  have protocol : "ATSP" ++ toString s.settings.protocol.number = "ATSP5" := by decide +kernel
  rw [protocol] at log
  have sent : (s.under .strict).setUp.2.channel.log = ["ATE0", "ATL0", "ATS0", "ATH1"] := by
    decide +kernel
  obtain ⟨-, -, before, command, after, -, -, -, log', error⟩ :=
    (setUpBy .strict).of_not_ready (by simp [stopped])
  -- the failure tells the last command that was sent
  rw [sent] at log'
  obtain rfl : "ATH1" = command := by simpa using congrArg List.getLast? log'
  have rejected : Setup.offence c "ATH1" = .rejected "ATH1" "?" := by decide +kernel
  exact ⟨rfl, rfl, error.trans (congrArg Except.error rejected), sent, stopped, ready, log⟩

end Session

end ScanTool
