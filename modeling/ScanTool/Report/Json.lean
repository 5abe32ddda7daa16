import ScanTool.Json.Printer
import ScanTool.Live.Snapshot
import ScanTool.Live.Supported
import ScanTool.Trouble.Code

/-!
# Reports for programs

The JSON values of results. They are printed over several lines.
-/

namespace ScanTool.Report

open ScanTool.Live ScanTool.Trouble

/-- A list of small numbers. -/
def bytesJson (bytes : List UInt8) : Json := .list (bytes.map fun b => .int b.toNat)

/-- The members of a reading. -/
def readingMembers (r : Reading) : List (String × Json) := [
  ("pid", .int r.pid.toNat), ("label", .text r.label), ("unit", .text r.unit),
  ("value", .real r.value), ("raw_bytes", bytesJson r.bytes)]

/-- A reading. -/
def readingJson (r : Reading) : Json := .object (readingMembers r)

/-- What came of one parameter. -/
def sampleJson : Sample → Json
  | .value r => .object (("status", .text "value") :: readingMembers r)
  | .absent => .object [("status", .text "absent")]
  | .unsupported => .object [("status", .text "unsupported")]

/-- One parameter of a snapshot. -/
def entryJson (e : Entry) : Json :=
  .object [("pid", .int e.pid.toNat), ("label", .text e.label), ("sample", sampleJson e.sample)]

/-- A snapshot. -/
def snapshotJson (s : Snapshot) : Json :=
  .object [("timestamp_ms", .int s.startedAt), ("entries", .list (s.entries.map entryJson))]

/-- A code and its description. -/
def codeJson (c : TroubleCode) : Json :=
  .object [("code", .text c.code), ("description", .text c.description)]

/-- Codes and their descriptions. -/
def codesJson (cs : List TroubleCode) : Json := .list (cs.map codeJson)

/-- The parameters that a vehicle supports. -/
def pidsJson (s : Supported) : Json := bytesJson s.pids

/-- A set of supported parameters under its name. -/
def supportedJson (s : Supported) : Json := .object [("pids", pidsJson s)]

/-- The brands for which there are tables. -/
def brandsJson (names : List String) : Json := .list (names.map .text)

end ScanTool.Report
