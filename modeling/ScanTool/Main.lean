import ScanTool.Adapter.Transcript
import ScanTool.CommandLine.Program
import Std.Time.DateTime.Timestamp

/-!
# The program on the command line

The outer layer: it looks at the files that the program asks for, carries out what the program asks
of the line, and prints. A line must have been set to its speed and to raw bytes beforehand.
-/

namespace ScanTool.Main

/-- Why a file cannot be looked at. -/
def faultOf : IO.Error → FileFault
  | .inappropriateType .. => .notDirectory
  | _ => .missing

/-- What is found at a path. -/
def look (path : String) : IO (Except FileFault FileNode) := do
  try
    let entries ← ((← IO.currentDir) / path).readDir
    return .ok (.directory (entries.toList.map (·.fileName)))
  catch _ =>
    try
      let handle ← IO.FS.Handle.mk path .read
      if ← handle.isTty then return .ok .device
      let bytes ← handle.readBinToEnd
      match String.fromUTF8? bytes with
      | some content => return .ok (.text content)
      | none => return .ok .binary
    catch e => return .error (faultOf e)

/-- What is found at some paths; nothing is found anywhere else. -/
def survey (paths : List String) : IO Files := do
  let found ← paths.mapM fun path => return (path, ← look path)
  return fun path => (found.lookup path).getD (.error .missing)

/-- A variable cut at its first equals sign. -/
def variableOf? (entry : String) : Option (String × String) :=
  let cs := entry.toList
  match cs.dropWhile (· != '=') with
  | [] => none
  | _ :: value => some (String.ofList (cs.takeWhile (· != '=')), String.ofList value)

/-- The environment variables. -/
def environment : IO (List (String × String)) := do
  let bytes ← IO.FS.readBinFile "/proc/self/environ"
  let text := Text.utf8Lossy bytes.toList
  return (text.splitOn "\x00").filterMap variableOf?

/-- The time, in milliseconds. -/
def now : IO Nat := do
  return (← Std.Time.Timestamp.now).toMillisecondsSinceUnixEpoch.val.toNat

/-- An open device: one handle for reading and one for writing, and the read that has been begun. -/
structure Device where
  /-- The handle for reading. -/
  input : IO.FS.Handle
  /-- The handle for writing. -/
  output : IO.FS.Handle
  /-- The read that has been begun. -/
  pending : IO.Ref (Option (Task (Except IO.Error ByteArray)))

namespace Device

/-- Opens a device. -/
def openAt (path : String) : IO Device := do
  return ⟨← IO.FS.Handle.mk path .read, ← IO.FS.Handle.mk path .append, ← IO.mkRef none⟩

/-- Waits for a task up to a time. -/
partial def await {α : Type} (task : Task α) (deadline : Nat) : IO (Option α) := do
  if ← IO.hasFinished task then return some task.get
  if deadline ≤ (← now) then return none
  IO.sleep 1
  await task deadline

/-- Reads a byte, if one comes before a time. -/
def readByte (d : Device) (deadline : Nat) : IO (Option Arrival) := do
  let task ←
    match ← d.pending.get with
    | some task => pure task
    | none => IO.asTask (d.input.read 1) Task.Priority.dedicated
  match ← await task deadline with
  | none =>
    d.pending.set (some task)
    return none
  | some result =>
    d.pending.set none
    match result with
    | .ok bytes => return some (if bytes.isEmpty then .ended else .bytes bytes.toList)
    | .error e => return some (.failed (.line (toString e)))

/-- Reads until a prompt has come, nothing more can come, or it is time. -/
partial def readAnswer (d : Device) (deadline : Nat) (done : List Arrival) : IO (List Arrival) := do
  match ← d.readByte deadline with
  | none => return done.reverse
  | some (.bytes chunk) =>
    if chunk.contains prompt then return (Arrival.bytes chunk :: done).reverse
    else d.readAnswer deadline (.bytes chunk :: done)
  | some arrival => return (arrival :: done).reverse

/-- The milliseconds after which nothing more is waiting. -/
def quiet : Nat := 20

/-- Drops what is waiting. -/
partial def drain (d : Device) : IO Unit := do
  match ← d.readByte ((← now) + quiet) with
  | some (.bytes _) => d.drain
  | _ => return ()

/-- The longest pause, in milliseconds. -/
def longestSleep : Nat := twoTo 32 - 1

/-- Carries out a request. -/
def perform (d : Device) : LineRequest → IO LineReply
  | .write bytes => do
    try
      d.output.write ⟨bytes.toArray⟩
      d.output.flush
      return .written (.ok ())
    catch e => return .written (.error (.line (toString e)))
  | .read timeout => do
    return .arrived (← d.readAnswer ((← now) + timeout) [])
  | .discard => do
    d.drain
    return .done
  | .pause ms => do
    IO.sleep (UInt32.ofNat (min ms longestSleep))
    return .done

end Device

/-- Repeats a run over a transcript until it asks for nothing more. -/
partial def converse {α : Type} (device : Option Device) (run : Transcript → α × Option Transcript)
    (startedAt : Nat) (known : List (LineReply × Nat)) : IO α := do
  let (result, after) := run (.start known startedAt)
  match device, after.bind (·.wanted) with
  | some d, some request =>
    let reply ← d.perform request
    converse device run startedAt (known ++ [(reply, ← now)])
  | _, _ => return result

/-- A line over a transcript. -/
abbrev Line := SerialLine Transcript

/-- The transcript of a session. -/
def transcriptOf (s : Session Line) : Transcript := s.channel.port

/-- A session that goes on from a transcript. -/
def resume (s : Session Line) (t : Transcript) : Session Line :=
  { s with channel := { s.channel with port := t } }

/-- Prints how the program ends. -/
def conclude (f : Finish) : IO UInt32 := do
  (← IO.getStdout).putStr f.output
  (← IO.getStderr).putStr f.complaint
  return f.code.toUInt32

/-- Shows snapshots until polling fails. -/
partial def watch (w : Transcript → Workplace Line) (device : Option Device) (first : Bool)
    (poller : Live.Poller) (s : Session Line) : IO UInt32 := do
  let (result, poller, s) ← converse device
    (fun t =>
      let (result, poller, s) := poller.round first (resume s t)
      ((result, poller, s), some (transcriptOf s)))
    (← now) []
  match result with
  | .error e => conclude (.ofOutcome (Outcome.fail (.during .poll e) (some s.close)))
  | .ok snapshot =>
    (← IO.getStdout).putStr ((w (transcriptOf s)).snapshot snapshot)
    (← IO.getStdout).flush
    watch w device false poller s

/-- Connects a session and shows snapshots. -/
def view (w : Transcript → Workplace Line) (settings : Settings) (device : Option Device) :
    IO UInt32 := do
  let startedAt ← now
  let connection ← converse device
    (fun t =>
      let c := Session.connect settings.session ((w t).openChannel settings.session)
      (c, c.session?.map transcriptOf))
    startedAt []
  match connection with
  | .ready s => watch w device true ((w (transcriptOf s)).poller false) s
  | .unopened e =>
    conclude (.ofOutcome (Outcome.fail (.connecting settings.session.device e) (none : Option (Session Line))))
  | .failed e s =>
    conclude (.ofOutcome (Outcome.fail (.connecting settings.session.device e) (some s)))

/-- The rounds that a live view of a single sweep needs. -/
def rounds : Nat := 2

/-- Runs the command of a plan. -/
def execute (plan : Program.Plan) : IO UInt32 := do
  let files ← survey plan.paths
  let path := plan.settings.session.device
  let device ←
    match lineFault? files path with
    | none => pure (some (← Device.openAt path))
    | some _ => pure none
  let entropy := (← IO.getRandomBytes 8).toUInt64LE!
  let workplace := fun t => plan.workplace files entropy (SerialLine.openLine files t)
  match plan.command with
  | .live false => view workplace plan.settings device
  | command =>
    let outcome ← converse device
      (fun t =>
        let outcome := (workplace t).run rounds command
        (outcome, (outcome.bind (·.session)).map transcriptOf))
      (← now) []
    match outcome with
    | some o => conclude (.ofOutcome o)
    | none => return 1

end ScanTool.Main

/-- The program. -/
def main (arguments : List String) : IO UInt32 := do
  let environment ← ScanTool.Main.environment
  let files ← ScanTool.Main.survey (ScanTool.Program.settingsPaths environment arguments)
  match ScanTool.Program.plan files environment arguments with
  | .error finish => ScanTool.Main.conclude finish
  | .ok plan => ScanTool.Main.execute plan
