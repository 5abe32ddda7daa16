import ScanTool.Adapter.SessionSettings
import ScanTool.Live.Supported
import ScanTool.Trouble.Stored

/-!
# Sessions

A session owns a channel to an adapter. It is connecting at first, ready once the adapter is set up,
and disconnected once it is closed or a failure of transport has occurred; it never comes back from
there. Only a ready session accepts requests. A session is itself a channel, so that what works over
a channel works over a session, with the same checks.
-/

namespace ScanTool

section overChannel

variable {σ : Type} [Channel σ]

/-- Sends a request and reads the answer. -/
def ask {α : Type} (request : String) (read : String → α) (c : σ) : Except AdapterError α × σ :=
  match Channel.exchange request c with
  | (.ok answer, c) => (.ok (read answer), c)
  | (.error e, c) => (.error e, c)

/-- Asking leaves the channel as the exchange does, whatever is read from the answer. -/
theorem ask_channel {α : Type} (request : String) (read : String → α) (c : σ) :
    (ask request read c).2 = (Channel.exchange request c).2 := by
  unfold ask
  rcases Channel.exchange request c with ⟨_ | _, c'⟩ <;> rfl

/-- Asks which parameters the vehicle supports. -/
def askSupported : σ → Except AdapterError Live.Supported × σ :=
  ask Live.Supported.command Live.Supported.ofAnswer

/-- Asks for the stored codes. -/
def askStoredCodes (table : Trouble.CodeTable) :
    σ → Except AdapterError (List Trouble.TroubleCode) × σ :=
  ask Trouble.readCommand (Trouble.describeStored table)

/-- Asks to erase the stored codes, and says whether the adapter confirmed it. -/
def askClear : σ → Except AdapterError Bool × σ := ask Trouble.clearCommand Trouble.confirmsClear

/-- Asks for the value of a parameter. -/
def askValue (pid : Live.Pid) : σ → Except AdapterError (Option Live.Reading) × σ :=
  ask (Live.request pid) (Live.decode? pid)

end overChannel

/-- A session over a channel. -/
structure Session (σ : Type) where
  /-- The channel. -/
  channel : σ
  /-- The settings. -/
  settings : SessionSettings
  /-- The stage of the session's life. -/
  stage : Stage
  /-- The parameters that the vehicle supports, once it has been asked. -/
  supported : Option Live.Supported
  deriving Inhabited

namespace Session

variable {σ : Type} [Channel σ]

/-- The session at the beginning of its life, over an open channel. -/
def start (channel : σ) (settings : SessionSettings) : Session σ :=
  ⟨channel, settings, .connecting, none⟩

/-- Whether the session accepts requests. -/
def isReady (s : Session σ) : Bool := s.stage == .ready

/-- The session with its channel released. -/
def drop (s : Session σ) : Session σ :=
  { s with channel := Channel.close s.channel, stage := .disconnected }

/-- Sets the adapter up. Any failure disconnects the session. -/
def setUp (s : Session σ) : Except AdapterError Unit × Session σ :=
  if s.stage = .connecting then
    match s.settings.setup.run s.channel with
    | (.ok (), c) => (.ok (), { s with channel := c, stage := .ready })
    | (.error e, c) => (.error e, ({ s with channel := c, stage := .initializing }).drop)
  else (.error (.notReady s.stage), s)

/-- Does something over the channel of a ready session. A failure of transport disconnects the
session. -/
def attempt {α : Type} (work : σ → Except AdapterError α × σ) (s : Session σ) :
    Except AdapterError α × Session σ :=
  if s.isReady then
    match work s.channel with
    | (.ok a, c) => (.ok a, { s with channel := c })
    | (.error e, c) =>
      let s := { s with channel := c }
      (.error e, if e.isTransport then s.drop else s)
  else (.error (.notReady s.stage), s)

/-- The parameters that the vehicle supports; it is asked only once. -/
def probe (s : Session σ) : Except AdapterError Live.Supported × Session σ :=
  match s.isReady, s.supported with
  | true, some set => (.ok set, s)
  | _, _ =>
    match s.attempt askSupported with
    | (.ok set, s) => (.ok set, { s with supported := some set })
    | (.error e, s) => (.error e, s)

/-- The value of a parameter, or none if the answer holds no value. A parameter that the vehicle does
not support is not asked for. -/
def query (pid : Live.Pid) (s : Session σ) :
    Except AdapterError (Option Live.Reading) × Session σ :=
  match s.probe with
  | (.error e, s) => (.error e, s)
  | (.ok set, s) =>
    if set.contains pid then s.attempt (askValue pid) else (.error (.unsupported pid), s)

/-- The stored codes, described from a table. -/
def readCodes (table : Trouble.CodeTable) (s : Session σ) :
    Except AdapterError (List Trouble.TroubleCode) × Session σ :=
  s.attempt (askStoredCodes table)

/-- Erases the stored codes, and says whether the adapter confirmed it. -/
def clearCodes (s : Session σ) : Except AdapterError Bool × Session σ := s.attempt askClear

/-- Closes the session. -/
def close (s : Session σ) : Session σ := if s.stage = .disconnected then s else s.drop

/-- A session as a channel: requests are accepted only while it is ready. -/
instance : Channel (Session σ) where
  exchange request s := s.attempt (Channel.exchange request)
  close := close
  pause ms s := { s with channel := Channel.pause ms s.channel }
  clock s := Channel.clock s.channel

end Session

end ScanTool
