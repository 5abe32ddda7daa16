import ScanTool.Adapter.Session

/-!
# Operations on a session

What can be done with a session, as data, so that a whole use of a session is a list of operations.
Each operation is one of the functions of `Session`; a reply holds what the function gives if it
succeeds.
-/

namespace ScanTool

/-- Something to do with a session. -/
inductive Operation where
  /-- Set the adapter up. -/
  | setUp
  /-- Ask which parameters the vehicle supports. -/
  | probe
  /-- Ask for the value of a parameter. -/
  | query (pid : Live.Pid)
  /-- Read the stored codes and describe them from a table. -/
  | readCodes (table : Trouble.CodeTable)
  /-- Erase the stored codes. -/
  | clearCodes
  /-- Send a request through the session as a channel. -/
  | send (request : String)
  /-- Close the session. -/
  | close

/-- What an operation that succeeds gives. -/
inductive Reply where
  /-- Nothing but that it succeeded. -/
  | done
  /-- The parameters that the vehicle supports. -/
  | supported (set : Live.Supported)
  /-- The value of a parameter, if the answer held one. -/
  | reading (reading : Option Live.Reading)
  /-- The stored codes. -/
  | codes (codes : List Trouble.TroubleCode)
  /-- Whether the adapter confirmed that the codes were erased. -/
  | cleared (confirmed : Bool)
  /-- The text of an answer. -/
  | answer (text : String)
  deriving Inhabited

namespace Session

variable {σ : Type} [Channel σ]

/-- Carries an operation out. -/
def perform (s : Session σ) : Operation → Except AdapterError Reply × Session σ
  | .setUp => s.setUp.map (Except.map fun _ => .done) id
  | .probe => s.probe.map (Except.map .supported) id
  | .query pid => (s.query pid).map (Except.map .reading) id
  | .readCodes table => (s.readCodes table).map (Except.map .codes) id
  | .clearCodes => s.clearCodes.map (Except.map .cleared) id
  | .send request => (Channel.exchange request s).map (Except.map .answer) id
  | .close => (.ok .done, s.close)

/-- The session after operations carried out one after the other. -/
def performAll (s : Session σ) : List Operation → Session σ
  | [] => s
  | op :: rest => (s.perform op).2.performAll rest

/-- What every operation keeps, a use of the session keeps. -/
theorem performAll_induction {P : Session σ → Prop} {s : Session σ} {ops : List Operation}
    (step : ∀ s, P s → ∀ op ∈ ops, P (s.perform op).2) (h : P s) : P (s.performAll ops) := by
  induction ops generalizing s with
  | nil => exact h
  | cons op rest ih =>
    exact ih (fun s hs op hop => step s hs op (List.mem_cons_of_mem _ hop))
      (step s h op List.mem_cons_self)

end Session

end ScanTool
