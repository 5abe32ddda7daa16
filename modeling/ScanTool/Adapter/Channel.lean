import ScanTool.Adapter.Error

/-!
# Channels

A channel carries one request at a time to an adapter and brings back the text of the answer. What
the text says is not looked at here. A channel also keeps the time, because a session pauses between
some of its requests. `Script` is the channel for trying things out: it answers from a fixed script,
writes down what it was sent, and its clock moves only by the pauses.
-/

namespace ScanTool

/-- A state that carries requests to an adapter. -/
class Channel (σ : Type) where
  /-- Sends a request and waits for the text of the answer. -/
  exchange : String → σ → Except AdapterError String × σ
  /-- Releases the channel. -/
  close : σ → σ
  /-- Lets some milliseconds pass. -/
  pause : Nat → σ → σ
  /-- The time, in milliseconds. -/
  clock : σ → Nat

/-- A channel that answers from a script. -/
structure Script where
  /-- The answers to requests, the latest first. -/
  answers : List (String × String)
  /-- The requests received, the latest first. -/
  received : List String
  /-- The request at which the channel fails, as if the link had dropped. -/
  failsAt : Option String
  /-- Whether the channel has been closed. -/
  closed : Bool
  /-- The milliseconds that have passed. -/
  elapsed : Nat
  deriving Repr, Inhabited

namespace Script

/-- An open channel without answers. -/
def empty : Script := ⟨[], [], none, false, 0⟩

/-- What an adapter says to a request that it does not understand. -/
def unknownAnswer : String := "?"

/-- Scripts the answer to a request. -/
def answer (request text : String) (s : Script) : Script :=
  { s with answers := (request, text) :: s.answers }

/-- The requests that set an adapter up. -/
def setupRequests : List String := [
  "ATE0", "ATL0", "ATS0", "ATH1", "ATSP0", "ATSP1", "ATSP2", "ATSP3", "ATSP4", "ATSP5", "ATSP6",
  "ATSP7", "ATSP8", "ATSP9"]

/-- Scripts the answer `OK` to all requests that set an adapter up. -/
def answerSetup (s : Script) : Script :=
  setupRequests.foldl (fun s request => s.answer request "OK") s

/-- Makes the channel fail at a request. -/
def failAt (request : String) (s : Script) : Script := { s with failsAt := some request }

/-- The requests received, in order. -/
def log (s : Script) : List String := s.received.reverse

/-- The answer that the script has for a request. -/
def reply (request : String) (s : Script) : String :=
  (s.answers.lookup request).getD unknownAnswer

/-- Answers a request from the script. A closed channel neither answers nor writes down. -/
def exchange (request : String) (s : Script) : Except AdapterError String × Script :=
  if s.closed then (.error .disconnected, s)
  else
    let s := { s with received := request :: s.received }
    if s.failsAt = some request then (.error .disconnected, { s with closed := true })
    else (.ok (s.reply request), s)

instance : Channel Script where
  exchange := exchange
  close s := { s with closed := true }
  pause ms s := { s with elapsed := s.elapsed + ms }
  clock s := s.elapsed

end Script

end ScanTool
