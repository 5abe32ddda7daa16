import ScanTool.Adapter.Session
import ScanTool.Live.Snapshot

/-!
# Polling

A poller asks for a list of parameters again and again. One round is a sweep and gives a snapshot;
a failure ends the sweep. A run repeats sweeps with a pause between them until the number of sweeps
set has been made, a sweep fails, or whoever takes the snapshots has gone away.
-/

namespace ScanTool.Live

/-- The settings of a poller. -/
structure PollerSettings where
  /-- The pause between two sweeps of a run, in milliseconds. -/
  interval : Nat
  /-- The parameters to ask for, in order. -/
  pids : List Pid
  /-- The number of sweeps after which runs end, if it is limited. -/
  limit : Option Nat
  deriving Repr

/-- The whole catalog once a second, without limit. -/
def PollerSettings.standard : PollerSettings := ⟨1000, catalog.map (·.pid), none⟩

instance : Inhabited PollerSettings := ⟨.standard⟩

/-- A poller. -/
structure Poller where
  /-- Its settings; every parameter can be decoded. -/
  settings : PollerSettings
  /-- The number of sweeps completed. -/
  sweeps : Nat
  deriving Repr, Inhabited

namespace Poller

/-- A poller that has made no sweep. Parameters that cannot be decoded are left out. -/
def ofSettings (settings : PollerSettings) : Poller :=
  ⟨{ settings with pids := settings.pids.filter fun pid => (parameter? pid).isSome }, 0⟩

variable {σ : Type} [Channel σ]

/-- Asks for one parameter of a sweep, if the vehicle supports it. -/
def sample (supported : Supported) (p : Parameter) (s : Session σ) :
    Except AdapterError Entry × Session σ :=
  if supported.contains p.pid then
    match s.query p.pid with
    | (.ok (some reading), s) => (.ok ⟨p.pid, p.label, .value reading⟩, s)
    | (.ok none, s) => (.ok ⟨p.pid, p.label, .absent⟩, s)
    | (.error e, s) => (.error e, s)
  else (.ok ⟨p.pid, p.label, .unsupported⟩, s)

/-- Asks for parameters one after the other. -/
def samples (supported : Supported) : List Parameter → Session σ →
    Except AdapterError (List Entry) × Session σ
  | [], s => (.ok [], s)
  | p :: rest, s =>
    match sample supported p s with
    | (.error e, s) => (.error e, s)
    | (.ok entry, s) =>
      match samples supported rest s with
      | (.error e, s) => (.error e, s)
      | (.ok entries, s) => (.ok (entry :: entries), s)

/-- One round over the parameters. The vehicle is first asked which of them it supports, if that is
not known. A round counts only if it succeeds. -/
def sweep (p : Poller) (s : Session σ) : Except AdapterError Snapshot × Poller × Session σ :=
  let startedAt := Channel.clock s
  match s.probe with
  | (.error e, s) => (.error e, p, s)
  | (.ok supported, s) =>
    match samples supported (p.settings.pids.filterMap parameter?) s with
    | (.error e, s) => (.error e, p, s)
    | (.ok entries, s) => (.ok ⟨startedAt, entries⟩, { p with sweeps := p.sweeps + 1 }, s)

/-- What a run has come to. -/
structure Run (σ : Type) where
  /-- How it ended. -/
  result : Except AdapterError Unit
  /-- The snapshots that were taken, in order. -/
  snapshots : List Snapshot
  /-- The poller afterwards. -/
  poller : Poller
  /-- The session afterwards. -/
  session : Session σ

/-- Whether the number of sweeps set has been made. -/
def isDone (p : Poller) : Bool :=
  match p.settings.limit with
  | some limit => limit ≤ p.sweeps
  | none => false

/-- One round of a run: a sweep, after a pause unless it is the first. -/
def round (first : Bool) (p : Poller) (s : Session σ) :
    Except AdapterError Snapshot × Poller × Session σ :=
  p.sweep (if first then s else Channel.pause p.settings.interval s)

/-- The rest of a run in which `room` more snapshots are taken, or any number of them. That nobody
takes a snapshot is noticed only when there is one to hand over. The rounds are counted by `fuel`;
if it runs out, there is no result. -/
def runFrom (first : Bool) : (fuel : Nat) → (room : Option Nat) → Poller → Session σ →
    Option (Run σ)
  | 0, _, _, _ => none
  | fuel + 1, room, p, s =>
    if p.isDone then some ⟨.ok (), [], p, s⟩
    else
      match p.round first s with
      | (.error e, p, s) => some ⟨.error e, [], p, s⟩
      | (.ok snapshot, p, s) =>
        if room = some 0 then some ⟨.ok (), [], p, s⟩
        else
          (runFrom false fuel (room.map (· - 1)) p s).map fun r =>
            { r with snapshots := snapshot :: r.snapshots }

/-- Repeats sweeps until the number set has been made, one fails, or nobody takes the snapshots any
more. -/
def run (fuel : Nat) (room : Option Nat) (p : Poller) (s : Session σ) : Option (Run σ) :=
  runFrom true fuel room p s

end Poller

end ScanTool.Live
