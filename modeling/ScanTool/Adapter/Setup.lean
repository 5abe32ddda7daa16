import ScanTool.Adapter.Channel
import ScanTool.Adapter.Protocol
import ScanTool.Text.Blank

/-!
# Setting an adapter up

A session begins with five commands: echo off, line feeds off, blanks off, headers on, and the
protocol. Between two of them the program pauses. Under the strict policy an answer without `OK` ends
the set-up; under the other answers are not looked at.
-/

namespace ScanTool

open ScanTool.Text

/-- What is asked of the answers during the set-up. -/
inductive SetupPolicy where
  /-- Nothing. -/
  | bestEffort
  /-- Every answer says `OK`. -/
  | strict
  deriving DecidableEq, Repr, Inhabited

namespace SetupPolicy

/-- All policies. -/
def all : List SetupPolicy := [bestEffort, strict]

/-- The name of a policy in settings. -/
def name : SetupPolicy → String
  | bestEffort => "best_effort"
  | strict => "strict"

/-- The policy of a name. -/
def ofName? (name : String) : Option SetupPolicy := all.find? (·.name == name)

end SetupPolicy

/-- How an adapter is set up. -/
structure Setup where
  /-- The protocol to select. -/
  protocol : BusProtocol
  /-- What is asked of the answers. -/
  policy : SetupPolicy
  /-- The pause between two commands, in milliseconds. -/
  delay : Nat
  deriving DecidableEq, Repr, Inhabited

namespace Setup

/-- The usual pause between two commands, in milliseconds. -/
def usualDelay : Nat := 400

/-- The commands in the order in which they are sent. -/
def commands (s : Setup) : List String := ["ATE0", "ATL0", "ATS0", "ATH1", s.protocol.command]

/-- Whether an answer says `OK`, in any case. -/
def accepts (answer : String) : Bool := occursIn ['O', 'K'] (asciiUpper answer.toList)

variable {σ : Type} [Channel σ]

/-- Sends one command. -/
def send (s : Setup) (command : String) (c : σ) : Except AdapterError Unit × σ :=
  match Channel.exchange command c with
  | (.error e, c) => (.error e, c)
  | (.ok answer, c) =>
    if s.policy = .bestEffort ∨ accepts answer then (.ok (), c)
    else (.error (.rejected command (trimmed answer)), c)

/-- Sends commands, each after a pause. -/
def sendRest (s : Setup) : List String → σ → Except AdapterError Unit × σ
  | [], c => (.ok (), c)
  | command :: rest, c =>
    match s.send command (Channel.pause s.delay c) with
    | (.error e, c) => (.error e, c)
    | (.ok (), c) => s.sendRest rest c

/-- Sends all commands, with pauses between them, and stops at the first failure. -/
def run (s : Setup) (c : σ) : Except AdapterError Unit × σ :=
  match s.commands with
  | [] => (.ok (), c)
  | first :: rest =>
    match s.send first c with
    | (.error e, c) => (.error e, c)
    | (.ok (), c) => s.sendRest rest c

end Setup

end ScanTool
