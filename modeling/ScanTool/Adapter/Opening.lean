import ScanTool.Adapter.Serial
import ScanTool.Adapter.Session
import ScanTool.Files.Basic

/-!
# Opening an adapter

A serial line is opened by the path of its device. A session is connected in two steps: the line is
opened, and the adapter is set up over it.
-/

namespace ScanTool

/-- Why a path cannot be opened as a serial line, if it cannot. -/
def lineFault? (files : Files) (device : String) : Option String :=
  match files device with
  | .ok .device => none
  | .ok (.directory _) => some "Is a directory"
  | .ok (.text _) => some "Not a typewriter"
  | .ok .binary => some "Not a typewriter"
  | .error .missing => some "No such file or directory"
  | .error .notDirectory => some "Not a directory"
  | .error .directory => some "Is a directory"
  | .error .notText => some "Not a typewriter"
  | .error .nameTooLong => some "File name too long"
  | .error .badName => some "Invalid argument"

/-- Opens the line of a session over a port. -/
def SerialLine.openLine {π : Type} [Port π] (files : Files) (port : π) (s : SessionSettings) :
    Except AdapterError (SerialLine π) :=
  match lineFault? files s.device with
  | some reason => .error (.line reason)
  | none => .ok (.start s.device s.settleDelay s.readTimeout port)

/-- What has come of connecting a session. -/
inductive Connection (σ : Type) where
  /-- The channel could not be opened. -/
  | unopened (error : AdapterError)
  /-- The adapter could not be set up, and the session has been closed. -/
  | failed (error : AdapterError) (session : Session σ)
  /-- The session accepts requests. -/
  | ready (session : Session σ)

/-- The session, if a channel was opened. -/
def Connection.session? {σ : Type} : Connection σ → Option (Session σ)
  | .unopened _ => none
  | .failed _ s => some s
  | .ready s => some s

/-- Connects a session over a channel, if that could be opened. -/
def Session.connect {σ : Type} [Channel σ] (settings : SessionSettings) :
    Except AdapterError σ → Connection σ
  | .error e => .unopened e
  | .ok channel =>
    match (Session.start channel settings).setUp with
    | (.ok (), s) => .ready s
    | (.error e, s) => .failed e s

end ScanTool
