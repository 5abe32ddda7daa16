import ScanTool.Adapter.Channel
import ScanTool.Text.Utf8

/-!
# Serial lines

A request is written to a serial line with a carriage return after it, and the answer is all that
comes before the first prompt. A port hands out the bytes of a line in the reads that they happen to
arrive in; only their sequence matters for the answer. What follows the prompt in the reads made so
far is dropped, and what has not been read yet is left for the next request.
-/

namespace ScanTool

open ScanTool.Text

/-- What a read from a line brings. -/
inductive Arrival where
  /-- Some bytes. -/
  | bytes (chunk : List UInt8)
  /-- The end: the other side has hung up. -/
  | ended
  /-- A failure of the line. -/
  | failed (error : AdapterError)
  deriving Repr, Inhabited

/-- A state that gives access to a serial line. -/
class Port (π : Type) where
  /-- Writes bytes. -/
  write : List UInt8 → π → Except AdapterError Unit × π
  /-- The reads that can be made one after the other before so many milliseconds have passed, each
  with the port after it, and the port once the time has passed. -/
  reads : Nat → π → List (Arrival × π) × π
  /-- Drops what is waiting to be read. -/
  discard : π → π
  /-- Lets some milliseconds pass. -/
  pause : Nat → π → π
  /-- The time, in milliseconds. -/
  clock : π → Nat

/-- The byte that ends an answer. -/
def prompt : UInt8 := 62

/-- The bytes of a request as it is written to a line. -/
def requestBytes (request : String) : List UInt8 := request.toUTF8.toList ++ [13]

/-- The bytes before the first prompt in a sequence of reads that begins where `sofar` ends, and the
port after the read that brought the prompt. `last` is the port after all reads. -/
def collect {π : Type} (timeout : Nat) (sofar : List UInt8) (last : π) :
    List (Arrival × π) → Except AdapterError (List UInt8) × π
  | [] => (.error (.timeout timeout), last)
  | (.ended, p) :: _ => (.error .disconnected, p)
  | (.failed e, p) :: _ => (.error e, p)
  | (.bytes chunk, p) :: rest =>
    if (sofar ++ chunk).contains prompt then (.ok ((sofar ++ chunk).takeWhile (· != prompt)), p)
    else collect timeout (sofar ++ chunk) last rest

/-- A serial line to an adapter. -/
structure SerialLine (π : Type) where
  /-- The path of the device. -/
  device : String
  /-- The port. -/
  port : π
  /-- Whether the line is open. -/
  isOpen : Bool
  /-- The wait between writing and reading, in milliseconds. -/
  settleDelay : Nat
  /-- The time allowed for an answer, in milliseconds. -/
  readTimeout : Nat
  deriving Inhabited

namespace SerialLine

variable {π : Type} [Port π]

/-- Takes a line into use. What is waiting on it, such as a banner, is dropped. -/
def start (device : String) (settleDelay readTimeout : Nat) (port : π) : SerialLine π :=
  ⟨device, Port.discard port, true, settleDelay, readTimeout⟩

/-- Sends a request and collects the answer. -/
def exchange (request : String) (line : SerialLine π) : Except AdapterError String × SerialLine π :=
  if line.isOpen then
    match Port.write (requestBytes request) line.port with
    | (.error e, p) => (.error e, { line with port := p })
    | (.ok (), p) =>
      let (arrivals, last) := Port.reads line.readTimeout (Port.pause line.settleDelay p)
      match collect line.readTimeout [] last arrivals with
      | (.error e, p) => (.error e, { line with port := p })
      | (.ok bytes, p) => (.ok (utf8Lossy bytes), { line with port := p })
  else (.error .disconnected, line)

instance : Channel (SerialLine π) where
  exchange := exchange
  close line := { line with isOpen := false }
  pause ms line := { line with port := Port.pause ms line.port }
  clock line := Port.clock line.port

end SerialLine

end ScanTool
