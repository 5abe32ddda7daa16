import ScanTool.Adapter.Setup
import ScanTool.Json.Value
import ScanTool.Power

/-!
# Settings of a session

What is known about an adapter before it is talked to, and the JSON form of it. A JSON object need
not give every field; those it leaves out keep their usual values.
-/

namespace ScanTool

/-- The settings of a session. -/
structure SessionSettings where
  /-- The path of the serial device. -/
  device : String
  /-- The speed of the serial line. -/
  baudRate : Nat
  /-- The protocol between adapter and vehicle. -/
  protocol : BusProtocol
  /-- What is asked of the answers during the set-up. -/
  policy : SetupPolicy
  /-- The pause between two commands of the set-up, in milliseconds. -/
  setupDelay : Nat
  /-- The wait between writing a request and reading the answer, in milliseconds. -/
  settleDelay : Nat
  /-- The time allowed for an answer, in milliseconds. -/
  readTimeout : Nat
  deriving DecidableEq, Repr

/-- The name under which a JSON value gives one of several choices: a string, or an object with that
name alone and the value `null`. -/
def Json.choice? : Json → Option String
  | .text name => some name
  | .object [(name, .null)] => some name
  | _ => none

/-- A natural number below a bound. -/
def Json.natBelow? (bound : Nat) : Json → Option Nat
  | .int n => if 0 ≤ n ∧ n.toNat < bound then some n.toNat else none
  | _ => none

/-- A string. -/
def Json.text? : Json → Option String
  | .text s => some s
  | _ => none

/-- The protocol of a JSON value. -/
def BusProtocol.ofJson? (v : Json) : Option BusProtocol := v.choice?.bind BusProtocol.ofName?

/-- The policy of a JSON value. -/
def SetupPolicy.ofJson? (v : Json) : Option SetupPolicy := v.choice?.bind SetupPolicy.ofName?

namespace SessionSettings

/-- The settings used where nothing else is set. -/
def standard : SessionSettings :=
  ⟨"/dev/rfcomm0", 38400, .auto, .bestEffort, Setup.usualDelay, 500, 3000⟩

instance : Inhabited SessionSettings := ⟨standard⟩

/-- How the adapter is set up under these settings. -/
def setup (s : SessionSettings) : Setup := ⟨s.protocol, s.policy, s.setupDelay⟩

/-- A field of an object: its value if it is there and can be read, `usual` if it is left out. -/
def field? {α : Type} (v : Json) (name : String) (usual : α) (read : Json → Option α) : Option α :=
  match v.field? name with
  | none => some usual
  | some x => read x

/-- The settings of a JSON object, if all its fields can be read. -/
def ofJson? (v : Json) : Option SessionSettings := do
  let device ← field? v "device" standard.device Json.text?
  let baudRate ← field? v "baud_rate" standard.baudRate (Json.natBelow? (twoTo 32))
  let protocol ← field? v "protocol" standard.protocol BusProtocol.ofJson?
  let policy ← field? v "init_policy" standard.policy SetupPolicy.ofJson?
  let setupDelay ← field? v "init_delay_ms" standard.setupDelay (Json.natBelow? (twoTo 64))
  let settleDelay ← field? v "settle_delay_ms" standard.settleDelay (Json.natBelow? (twoTo 64))
  let readTimeout ← field? v "read_timeout_ms" standard.readTimeout (Json.natBelow? (twoTo 64))
  return ⟨device, baudRate, protocol, policy, setupDelay, settleDelay, readTimeout⟩

end SessionSettings

end ScanTool
