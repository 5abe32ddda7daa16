import ScanTool.Command.Run
import ScanTool.CommandLine.Invocation

/-!
# The program

From the arguments to what is printed. The arguments are read first, then the settings, and then the
command runs. The program ends with 0 if all went well, with 1 if the settings cannot be loaded or the
command fails, and with 2 if the arguments cannot be understood.
-/

namespace ScanTool

open CommandLine (Ending Invocation Level Switch)

/-- The wording of what is wrong with the settings. -/
def SettingsError.message : SettingsError → String
  | unusable path => "cannot use configuration file " ++ path
  | malformed path => "cannot read configuration file " ++ path
  | wrongType name => "wrong type of value for " ++ name
  | wrongShape name => "no valid value for " ++ name
  | absent name => "missing value for " ++ name

/-- How the program ends. -/
structure Finish where
  /-- The code that it ends with. -/
  code : UInt8
  /-- What it prints. -/
  output : String
  /-- What it says about a failure. -/
  complaint : String
  deriving DecidableEq, Repr, Inhabited

namespace Finish

/-- What is said about a failure and what lies beneath it. -/
def complain (message : String) : Option String → String
  | none => "Error: " ++ message ++ "\n"
  | some cause => "Error: " ++ message ++ "\n\nCaused by:\n    " ++ cause ++ "\n"

/-- The end without a failure. -/
def success (output : String) : Finish := ⟨0, output, ""⟩

/-- The end with settings that cannot be loaded. -/
def ofSettingsError (e : SettingsError) : Finish :=
  ⟨1, "", complain "failed to load configuration" (some e.message)⟩

/-- The end after a command. -/
def ofOutcome {σ : Type} (o : Outcome σ) : Finish :=
  match o.failure with
  | none => success o.output
  | some e => ⟨1, o.output, complain e.message (e.cause?.map Cause.message)⟩

/-- A line about the use of the program at a level. -/
def usage (l : Level) : String :=
  let options := l.switches.map fun s =>
    " [--" ++ s.word ++ (if s.hasValue then " <" ++ s.word.toUpper ++ ">" else "") ++ "]"
  let words := l.below.map (·.1)
  "Usage: " ++ l.name ++ String.join options
    ++ (if words.isEmpty then "" else " " ++ String.intercalate "|" words)
    ++ (if l.namesBrand then " <BRAND>" else "") ++ "\n"

/-- The end without a command. -/
def ofEnding : Ending → Finish
  | .help l => success (usage l)
  | .version l => success l.versionLine
  | .misuse => ⟨2, "", "error: cannot understand the arguments\n" ++ usage .program⟩

end Finish

namespace Program

/-- What is to be done: a command, the settings for it, and whether reports are for programs. -/
structure Plan where
  /-- The command. -/
  command : Command
  /-- The settings. -/
  settings : Settings
  /-- Whether reports are for programs. -/
  asJson : Bool

/-- The settings with another device, if one is given. -/
def withDevice (s : Settings) : Option String → Settings
  | none => s
  | some device => { s with session := { s.session with device := device } }

/-- What the arguments, files and environment variables ask to be done. -/
def plan (files : Files) (environment : List (String × String)) (arguments : List String) :
    Except Finish Plan :=
  match CommandLine.read arguments environment with
  | .error e => .error (.ofEnding e)
  | .ok i =>
    match Settings.load files i.config environment with
    | .error e => .error (.ofSettingsError e)
    | .ok settings => .ok ⟨i.command, withDevice settings i.device, i.json⟩

/-- The paths at which a settings file is looked for. -/
def settingsPaths (environment : List (String × String)) (arguments : List String) : List String :=
  match CommandLine.read arguments environment with
  | .error _ => []
  | .ok i =>
    let path := i.config.getD SettingsLayer.usualName
    path :: (SettingsLayer.candidates path).map (·.1)

/-- The paths of the files that the command of a plan looks at. -/
def Plan.paths (p : Plan) : List String :=
  let s := p.settings
  let tables :=
    match p.command with
    | .readBrand brand _ => [Files.join s.brandDir (BrandKey.ofName brand).fileName]
    | _ => []
  [s.session.device, s.brandDir] ++ s.genericFile.toList ++ tables

/-- Where the command of a plan works. -/
def Plan.workplace {σ : Type} (p : Plan) (files : Files) (entropy : UInt64)
    (openChannel : SessionSettings → Except AdapterError σ) : Workplace σ :=
  ⟨files, p.settings, p.asJson, entropy, openChannel⟩

end Program

end ScanTool
