import ScanTool.Brand.Resolver
import ScanTool.Proofs.SupportedOnly
import ScanTool.Proofs.SweepSteps

/-!
# A session as a channel

A session asks over its own channel and checks before and after. Whoever has the session as a channel
asks over it and meets the same checks, earlier: there the checks see the outcome of an exchange before
the answer is read. Reading an answer neither fails nor mends a failure, so both ways come to the same
(`ask_eq_attempt`), in every stage and over every channel.
-/

namespace ScanTool

open Trouble (CodeTable)

variable {σ : Type} [Channel σ]

namespace Session

/-- Asking over a session is an attempt of the session to ask over its channel. -/
theorem ask_eq_attempt {α : Type} (request : String) (read : String → α) (s : Session σ) :
    ask request read s = s.attempt (ask request read) := by
  have exchange : Channel.exchange request s = s.attempt (Channel.exchange request) := rfl
  unfold ask
  rw [exchange]
  unfold attempt
  cases ready : s.isReady with
  | false => rfl
  | true =>
    -- the exchange over the channel decides, and reading its answer comes after that
    rcases outcome : Channel.exchange request s.channel with ⟨e | answer, c⟩
    · simp only [if_true, outcome]
    · simp only [if_true, outcome]

/-- A session that has not asked the vehicle learns the set that it tells whoever has the session as a
channel, and does nothing else. -/
theorem askSupported_of_unknown {s : Session σ} (unknown : s.supported = none) :
    askSupported s = (s.probe.1, { s.probe.2 with supported := none }) := by
  have asked : askSupported s = s.attempt askSupported :=
    ask_eq_attempt Live.Supported.command Live.Supported.ofAnswer s
  have kept : (s.attempt askSupported).2.supported = none :=
    (attempt_supported askSupported s).trans unknown
  rw [asked, probe_unknown unknown]
  rcases outcome : s.attempt askSupported with ⟨result, channel, settings, stage, supported⟩
  rw [outcome] at kept
  obtain rfl : supported = none := kept
  cases result with
  | error e => rfl
  | ok set => rfl

end Session

/-- Work over a session as a channel is work of the session, in every stage and over every channel:
reading the stored codes, clearing them directly or on behalf of a brand, and, while the vehicle has
not been asked, asking which parameters it supports. The results are the same, and so is the session
afterwards with its stage and its channel; only the session that asks for itself keeps the set. -/
theorem session_as_channel (s : Session σ) (table : CodeTable) (r : Resolver) (brand : String) :
    askStoredCodes table s = s.readCodes table ∧
    askClear s = s.clearCodes ∧
    Resolver.clearLive s = s.clearCodes ∧
    r.clear brand (some s) = (s.clearCodes.1, r, some s.clearCodes.2) ∧
    (s.supported = none → (askSupported s).1 = s.probe.1 ∧
      (askSupported s).2 = { s.probe.2 with supported := none }) := by
  have codes : askStoredCodes table s = s.readCodes table :=
    s.ask_eq_attempt Trouble.readCommand (Trouble.describeStored table)
  have cleared : askClear s = s.clearCodes :=
    s.ask_eq_attempt Trouble.clearCommand Trouble.confirmsClear
  refine ⟨codes, cleared, cleared, ?_, ?_⟩
  · rw [← cleared]
    rfl
  · intro unknown
    rw [Session.askSupported_of_unknown unknown]
    exact ⟨rfl, rfl⟩

/-- A session over a link that drops when the vehicle is asked, used in both ways. -/
theorem session_as_channel_over_dropped_link :
    let c := Script.empty.answerSetup.failAt "0100"
    let s := (Session.start c .standard).setUp.2
    s.supported = none ∧ s.stage = .ready ∧
      (askSupported s).1 = .error .disconnected ∧ s.probe.1 = .error .disconnected ∧
      (askSupported s).2.channel = s.probe.2.channel ∧ s.probe.2.channel.closed = true := by
  intro c s
  have unknown : s.supported = none := rfl
  have failed : s.probe.1 = .error .disconnected := rfl
  obtain ⟨result, session⟩ :=
    (session_as_channel s .empty (.ofParts (.ofDir "tables") (.ofSeed 0)) "bmw").2.2.2.2 unknown
  refine ⟨unknown, rfl, result.trans failed, failed, ?_, rfl⟩
  rw [session]

end ScanTool
