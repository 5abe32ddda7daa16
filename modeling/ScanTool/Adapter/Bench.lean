import ScanTool.Adapter.Serial
import ScanTool.Text.Blank

/-!
# The bench

A made-up adapter at the other end of a serial line, for trying out what a line does: answers that
come in pieces, answers without a prompt, leftovers, silence, and hanging up. The adapter cuts what
it receives into requests at carriage returns. Time passes only by waiting, so a run on the bench is
a function of its script.
-/

namespace ScanTool

open ScanTool.Text

/-- What the adapter does at some time. -/
inductive BenchEvent where
  /-- It sends bytes. -/
  | send (bytes : List UInt8)
  /-- It hangs up. -/
  | hangUp
  deriving Repr, Inhabited

/-- The number of bytes that an event brings. -/
def BenchEvent.size : BenchEvent → Nat
  | send bytes => bytes.length
  | hangUp => 0

/-- An adapter on the bench and the line to it. -/
structure Bench where
  /-- The answers to requests, each in the pieces in which it is sent. -/
  answers : List (String × List (List UInt8))
  /-- The answer to any other request. -/
  fallback : List (List UInt8)
  /-- The request after which the adapter hangs up. -/
  hangsUpAt : Option String
  /-- The bytes waiting to be read. -/
  queue : List UInt8
  /-- What the adapter is going to do, by time. -/
  plan : List (Nat × BenchEvent)
  /-- When the adapter has done what it was asked for. -/
  freeAt : Nat
  /-- Whether the adapter still takes requests. -/
  listens : Bool
  /-- Whether the line is up. -/
  isUp : Bool
  /-- The bytes of the request that is not complete. -/
  partialRequest : List UInt8
  /-- The requests received, the latest first. -/
  received : List String
  /-- The time, in milliseconds. -/
  now : Nat
  deriving Repr, Inhabited

namespace Bench

/-- The milliseconds between two pieces of an answer. -/
def pieceGap : Nat := 4

/-- The milliseconds between the last answer and hanging up. -/
def hangUpDelay : Nat := 8

/-- The number of bytes that a read brings at the most. -/
def readSize : Nat := 64

/-- The bytes of `OK` and the prompt. -/
def usualAnswer : List UInt8 := "OK\r\r>".toUTF8.toList

/-- The failure of writing to a line that is down. -/
def writeFailure : AdapterError := .line "Input/output error (os error 5)"

/-- The requests received, in order. -/
def log (b : Bench) : List String := b.received.reverse

/-- The pieces of an answer, each with the time at which it is sent. -/
def schedule (t : Nat) : List (List UInt8) → List (Nat × BenchEvent)
  | [] => []
  | piece :: rest => (t, .send piece) :: schedule (t + pieceGap) rest

/-- A request taken by the adapter. -/
def take (b : Bench) (request : String) : Bench :=
  if b.listens then
    let ends := b.hangsUpAt == some request
    let pieces :=
      match b.answers.lookup request with
      | some pieces => pieces
      | none => if ends then [] else b.fallback
    let begin := max b.now b.freeAt
    let done := begin + pieceGap * (pieces.length - 1)
    { b with
      received := request :: b.received
      plan := b.plan ++ schedule begin pieces ++ (if ends then [(done + hangUpDelay, .hangUp)] else [])
      freeAt := done
      listens := !ends }
  else b

/-- A byte received by the adapter. -/
def receive (b : Bench) (byte : UInt8) : Bench :=
  if byte = 13 then { b with partialRequest := [] }.take (utf8Lossy b.partialRequest)
  else { b with partialRequest := b.partialRequest ++ [byte] }

/-- Something that the adapter does. -/
def happen (b : Bench) : BenchEvent → Bench
  | .send bytes => if b.isUp then { b with queue := b.queue ++ bytes } else b
  | .hangUp => { b with isUp := false, queue := [] }

/-- Does what is planned up to the present, given the plan. -/
def settlePlan (b : Bench) : List (Nat × BenchEvent) → Bench
  | [] => { b with plan := [] }
  | (t, e) :: rest =>
    if t ≤ b.now then settlePlan (b.happen e) rest else { b with plan := (t, e) :: rest }

/-- Does what is planned up to the present. -/
def settle (b : Bench) : Bench := b.settlePlan b.plan

/-- Lets time pass up to `t`. -/
def waitUntil (b : Bench) (t : Nat) : Bench := { b with now := max b.now t }.settle

/-- The bytes that are waiting or planned, and the events planned: a bound on the number of reads. -/
def outstanding (b : Bench) : Nat :=
  b.plan.foldl (fun n e => n + 1 + e.2.size) b.queue.length

/-- The reads that can be made up to `deadline`, at most as many as `fuel`. -/
def readsFrom (deadline : Nat) : (fuel : Nat) → Bench → List (Arrival × Bench) × Bench
  | 0, b => ([], b.waitUntil deadline)
  | fuel + 1, b =>
    if !b.isUp then ([(.ended, b)], b)
    else if b.queue.isEmpty then
      match b.plan with
      | [] => ([], b.waitUntil deadline)
      | (t, _) :: _ =>
        if t ≤ deadline then readsFrom deadline fuel (b.waitUntil t)
        else ([], b.waitUntil deadline)
    else
      let after := { b with queue := b.queue.drop readSize }
      let (later, last) := readsFrom deadline fuel after
      ((.bytes (b.queue.take readSize), after) :: later, last)

instance : Port Bench where
  write bytes b :=
    let b := b.settle
    if b.isUp then (.ok (), (bytes.foldl receive b).settle) else (.error writeFailure, b)
  reads patience b := readsFrom (b.now + patience) (b.settle.outstanding + 1) b.settle
  discard b := { b with queue := [] }
  pause ms b := b.waitUntil (b.now + ms)
  clock b := b.now

end Bench

end ScanTool
