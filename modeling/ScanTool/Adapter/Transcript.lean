import ScanTool.Adapter.Serial

/-!
# Transcripts

What has happened on a line so far, for a line that is not in memory. A run over a transcript goes on
as long as the transcript tells what happened, and notes what it asks for next; from there on nothing
that it does counts. Once that has been done on the line itself and added to the transcript, the run
is repeated and gets one step further.
-/

namespace ScanTool

/-- What is asked of a line. -/
inductive LineRequest where
  /-- To write bytes. -/
  | write (bytes : List UInt8)
  /-- To read until a prompt has come or so many milliseconds have passed. -/
  | read (timeout : Nat)
  /-- To drop what is waiting. -/
  | discard
  /-- To let some milliseconds pass. -/
  | pause (ms : Nat)
  deriving Repr, Inhabited

/-- What has come of it. -/
inductive LineReply where
  /-- Of writing. -/
  | written (result : Except AdapterError Unit)
  /-- Of reading. -/
  | arrived (arrivals : List Arrival)
  /-- Of anything else. -/
  | done
  deriving Inhabited

/-- What has happened on a line. -/
structure Transcript where
  /-- What has come of the requests that are still to be made, each with the time after it. -/
  replies : List (LineReply × Nat)
  /-- The first request of which nothing is known. -/
  wanted : Option LineRequest
  /-- The time, in milliseconds. -/
  now : Nat
  deriving Inhabited

namespace Transcript

/-- The beginning of a transcript. -/
def start (replies : List (LineReply × Nat)) (now : Nat) : Transcript := ⟨replies, none, now⟩

/-- What came of a request, if it is known. -/
def next (request : LineRequest) (t : Transcript) : Option LineReply × Transcript :=
  match t.wanted, t.replies with
  | some _, _ => (none, t)
  | none, [] => (none, { t with wanted := some request })
  | none, (reply, now) :: rest => (some reply, ⟨rest, none, now⟩)

instance : Port Transcript where
  write bytes t :=
    match t.next (.write bytes) with
    | (some (.written result), t) => (result, t)
    | (_, t) => (.error .disconnected, t)
  reads timeout t :=
    match t.next (.read timeout) with
    | (some (.arrived arrivals), t) => (arrivals.map fun a => (a, t), t)
    | (_, t) => ([], t)
  discard t := (t.next .discard).2
  pause ms t := (t.next (.pause ms)).2
  clock t := t.now

end Transcript

end ScanTool
