import ScanTool.Text.Hex
import ScanTool.Text.Quoted

/-!
# Failures of a session

What can go wrong between the program and an adapter. A failure of transport means that the channel
can no longer be trusted; the others leave it usable. That an answer holds nothing of use is no
failure.
-/

namespace ScanTool

open ScanTool.Text

/-- The stages of a session's life. -/
inductive Stage where
  /-- The channel is gone. -/
  | disconnected
  /-- The channel is open and the adapter is not set up. -/
  | connecting
  /-- The adapter is being set up. -/
  | initializing
  /-- Requests are accepted. -/
  | ready
  deriving DecidableEq, Repr, Inhabited

/-- The name of a stage. -/
def Stage.name : Stage → String
  | .disconnected => "Disconnected"
  | .connecting => "Connecting"
  | .initializing => "Initializing"
  | .ready => "Ready"

/-- All stages. -/
def Stage.all : List Stage := [.disconnected, .connecting, .initializing, .ready]

/-- The stage of a name. -/
def Stage.ofName? (name : String) : Option Stage := Stage.all.find? (·.name == name)

/-- What can go wrong between the program and an adapter. -/
inductive AdapterError where
  /-- The serial line could not be opened, written or read. -/
  | line (reason : String)
  /-- No prompt came within the time allowed, in milliseconds. -/
  | timeout (ms : Nat)
  /-- The channel is closed. -/
  | disconnected
  /-- The adapter did not accept a command of the set-up. -/
  | rejected (command answer : String)
  /-- The vehicle does not support a parameter. -/
  | unsupported (pid : UInt8)
  /-- The session does not accept the request at this stage. -/
  | notReady (stage : Stage)
  deriving DecidableEq, Repr, Inhabited

namespace AdapterError

/-- The wording of a failure. -/
def message : AdapterError → String
  | line reason => "Serial port error: " ++ reason
  | timeout ms => "Timeout waiting for OBD response after " ++ toString ms ++ "ms"
  | disconnected => "OBD adapter disconnected"
  | rejected command answer => "Adapter rejected " ++ command ++ ": " ++ quoted answer
  | unsupported pid => "PID " ++ String.ofList (hexPair pid) ++ " not supported by vehicle"
  | notReady stage => "Session not ready (state: " ++ stage.name ++ ")"

/-- Whether a failure means that the channel can no longer be trusted. -/
def isTransport : AdapterError → Bool
  | line _ => true
  | timeout _ => true
  | disconnected => true
  | rejected _ _ => false
  | unsupported _ => false
  | notReady _ => false

end AdapterError

/-- The ways in which an operation on a device can fail. -/
inductive Fault where
  | addressInUse | addressNotAvailable | alreadyExists | argumentListTooLong | brokenPipe
  | connectionAborted | connectionRefused | connectionReset | crossesDevices | deadlock
  | directoryNotEmpty | executableFileBusy | fileTooLarge | hostUnreachable | interrupted
  | invalidData | invalidFilename | invalidInput | isADirectory | networkDown | networkUnreachable
  | notADirectory | notConnected | notFound | notSeekable | other | outOfMemory | permissionDenied
  | quotaExceeded | readOnlyFilesystem | resourceBusy | staleNetworkFileHandle | storageFull
  | timedOut | tooManyLinks | unexpectedEnd | unsupported | wouldBlock | writeZero
  deriving DecidableEq, Repr, Inhabited

namespace Fault

/-- What a fault is called. -/
def description : Fault → String
  | addressInUse => "address in use"
  | addressNotAvailable => "address not available"
  | alreadyExists => "entity already exists"
  | argumentListTooLong => "argument list too long"
  | brokenPipe => "broken pipe"
  | connectionAborted => "connection aborted"
  | connectionRefused => "connection refused"
  | connectionReset => "connection reset"
  | crossesDevices => "cross-device link or rename"
  | deadlock => "deadlock"
  | directoryNotEmpty => "directory not empty"
  | executableFileBusy => "executable file busy"
  | fileTooLarge => "file too large"
  | hostUnreachable => "host unreachable"
  | interrupted => "operation interrupted"
  | invalidData => "invalid data"
  | invalidFilename => "invalid filename"
  | invalidInput => "invalid input parameter"
  | isADirectory => "is a directory"
  | networkDown => "network down"
  | networkUnreachable => "network unreachable"
  | notADirectory => "not a directory"
  | notConnected => "not connected"
  | notFound => "entity not found"
  | notSeekable => "seek on unseekable file"
  | other => "other error"
  | outOfMemory => "out of memory"
  | permissionDenied => "permission denied"
  | quotaExceeded => "quota exceeded"
  | readOnlyFilesystem => "read-only filesystem or storage medium"
  | resourceBusy => "resource busy"
  | staleNetworkFileHandle => "stale network file handle"
  | storageFull => "no storage space"
  | timedOut => "timed out"
  | tooManyLinks => "too many links"
  | unexpectedEnd => "unexpected end of file"
  | unsupported => "unsupported"
  | wouldBlock => "operation would block"
  | writeZero => "write zero"

/-- Whether a fault means that the other side has gone. -/
def isHangUp : Fault → Bool
  | unexpectedEnd => true
  | brokenPipe => true
  | connectionAborted => true
  | _ => false

/-- The failure of a session that a fault of its line causes. -/
def toError (f : Fault) (reason : String) : AdapterError :=
  if f.isHangUp then .disconnected else .line reason

end Fault

end ScanTool
