import ScanTool.Live.Parameter

/-!
# Snapshots

A snapshot is the result of asking for a list of parameters once: for each of them in turn a value,
the note that the answer held none, or the note that the vehicle does not support it.
-/

namespace ScanTool.Live

/-- What came of one parameter. -/
inductive Sample where
  /-- A value was read. -/
  | value (reading : Reading)
  /-- The parameter was asked for, but the answer held no value. -/
  | absent
  /-- The vehicle does not support the parameter, so it was not asked for. -/
  | unsupported
  deriving Inhabited

/-- One parameter of a snapshot. -/
structure Entry where
  /-- The number of the parameter. -/
  pid : Pid
  /-- Its name. -/
  label : String
  /-- What came of it. -/
  sample : Sample
  deriving Inhabited

/-- The result of asking for a list of parameters once. -/
structure Snapshot where
  /-- When it was begun, in milliseconds. -/
  startedAt : Nat
  /-- The parameters in the order in which they were asked for. -/
  entries : List Entry
  deriving Inhabited

/-- The value of an entry, if it has one. -/
def Entry.value? (e : Entry) : Option Float :=
  match e.sample with
  | .value reading => some reading.value
  | _ => none

/-- The first value of a parameter. -/
def Snapshot.value? (s : Snapshot) (pid : Pid) : Option Float :=
  (s.entries.filter (·.pid == pid)).findSome? Entry.value?

/-- The number of entries with a value. -/
def Snapshot.valueCount (s : Snapshot) : Nat :=
  (s.entries.filter fun e => e.value?.isSome).length

end ScanTool.Live
