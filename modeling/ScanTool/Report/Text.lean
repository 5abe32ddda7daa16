import ScanTool.Decimal.Fixed
import ScanTool.Live.Snapshot
import ScanTool.Live.Supported
import ScanTool.Trouble.Code

/-!
# Reports for people

The written forms of results, a line for each value, code, parameter or brand.
-/

namespace ScanTool.Report

open ScanTool.Live ScanTool.Trouble

/-- A value: a whole number without decimals, within the range of 64 bits, and any other number with
two. -/
def value (x : Float) : String :=
  match Decimal.integer? x with
  | some n => toString (Decimal.clamp64 n)
  | none => Decimal.twoPlaces x

/-- A reading: name, value and unit. -/
def reading (r : Reading) : String :=
  r.label ++ ": " ++ value r.value ++ (if r.unit.isEmpty then "" else " " ++ r.unit)

/-- What came of one parameter. -/
def entry (e : Entry) : String :=
  match e.sample with
  | .value r => "  " ++ reading r ++ "\n"
  | .absent => "  " ++ e.label ++ ": no data\n"
  | .unsupported => "  " ++ e.label ++ ": not supported\n"

/-- The lines of a report, one after the other. -/
def joined (lines : List String) : String := String.join lines

/-- A snapshot. -/
def snapshot (s : Snapshot) : String := joined (s.entries.map entry)

/-- Codes and their descriptions. -/
def codes (cs : List TroubleCode) : String :=
  if cs.isEmpty then "No trouble codes\n"
  else joined (cs.map fun c => c.code ++ "  " ++ c.description ++ "\n")

/-- A supported parameter: its request, and its name and unit if it can be decoded. -/
def supportedPid (pid : Pid) : String :=
  match parameter? pid with
  | some p => request pid ++ "  " ++ p.label ++ " [" ++ p.unit ++ "]\n"
  | none => request pid ++ "\n"

/-- The parameters that a vehicle supports. -/
def supported (s : Supported) : String := joined (s.pids.map supportedPid)

/-- The brands for which there are tables. -/
def brands (names : List String) : String :=
  if names.isEmpty then "No manufacturer tables found\n"
  else joined (names.map (· ++ "\n"))

end ScanTool.Report
