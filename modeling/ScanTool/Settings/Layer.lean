import ScanTool.Brand.Resolver
import ScanTool.Files.Basic
import ScanTool.Json.Reader
import ScanTool.Settings.Path
import ScanTool.Toml.Document

/-!
# Where settings come from

There are three layers: what is built in, a file in TOML or JSON, and environment variables. The file
can be left out if its path has not been given; then nothing stops it from being ignored but a
content that cannot be read.
-/

namespace ScanTool

open ScanTool.Text

/-- Why there are no settings. -/
inductive SettingsError where
  /-- The file cannot be used: it is missing, is not text, or is of no known kind. -/
  | unusable (path : String)
  /-- The file does not hold what its kind says. -/
  | malformed (path : String)
  /-- A setting has a value of the wrong type. -/
  | wrongType (name : String)
  /-- A setting is none of the choices, or a group of settings is no group. -/
  | wrongShape (name : String)
  /-- A setting is left out that cannot be. -/
  | absent (name : String)
  deriving DecidableEq, Repr, Inhabited

/-- The kinds of settings files. -/
inductive SettingsFormat where
  /-- TOML. -/
  | toml
  /-- JSON. -/
  | json
  deriving DecidableEq, Repr, Inhabited

namespace SettingsFormat

/-- All kinds, in the order in which files of them are looked for. -/
def all : List SettingsFormat := [toml, json]

/-- The ending of the names of files of a kind. -/
def ending : SettingsFormat → String
  | toml => "toml"
  | json => "json"

/-- The kind of an ending, which must be in lower case. -/
def ofEnding? (ending : String) : Option SettingsFormat := all.find? (·.ending == ending)

/-- The members that a file of a kind describes. -/
def read? (format : SettingsFormat) (text : String) : Option (List (String × Json)) :=
  let v := match format with
    | toml => Toml.read? text
    | json => (Json.read? text).map Json.canonical
  match v with
  | some (.object members) => some members
  | _ => none

end SettingsFormat

namespace SettingsLayer

/-- The settings that are built in. There are no requests of brands among them. -/
def builtIn : Json :=
  let s := SessionSettings.standard
  .object [
    ("adapter", .object [
      ("device", .text s.device), ("baud_rate", .int s.baudRate),
      ("protocol", .text s.protocol.name), ("init_policy", .text s.policy.name),
      ("init_delay_ms", .int s.setupDelay), ("settle_delay_ms", .int s.settleDelay),
      ("read_timeout_ms", .int s.readTimeout)]),
    ("tables", .object [
      ("brand_dir", .text ResolverSettings.standardDir), ("generic_file", .null)]),
    ("poll_interval_ms", .null)]

/-- The name of the settings file where none is given; its ending is looked for. -/
def usualName : String := "obd-diag"

/-- A reversed path without the separators and single dots at its end. -/
def dropSeparators : List Char → List Char
  | '/' :: rest => dropSeparators rest
  | '.' :: '/' :: rest => dropSeparators rest
  | cs => cs

/-- The last component of a path, reversed, and what comes before it, reversed. Separators and single
dots at the end do not count. -/
def lastComponent (path : String) : List Char × List Char :=
  let cs := dropSeparators path.toList.reverse
  (cs.takeWhile (· != '/'), cs.dropWhile (· != '/'))

/-- The ending of a name, given reversed: what follows its last dot, unless that is its first
character. -/
def ending (reversed : List Char) : Option String :=
  match reversed.dropWhile (· != '.') with
  | _ :: _ :: _ => some (String.ofList (reversed.takeWhile (· != '.')).reverse)
  | _ => none

/-- Whether a path leads to a file of bytes. -/
def isFile (files : Files) (path : String) : Bool :=
  match files path with
  | .ok (.text _) => true
  | .ok .binary => true
  | _ => false

/-- The paths with an ending added, and the kinds they stand for. -/
def candidates (path : String) : List (String × SettingsFormat) :=
  let (name, before) := lastComponent path
  if name.isEmpty || name = ['.'] || name = ['.', '.'] then []
  else SettingsFormat.all.map fun format =>
    (String.ofList (name ++ before).reverse ++ "." ++ format.ending, format)

/-- The settings file that a path stands for, and its kind. A path that leads to a file stands for
that file, and the file must be of a known kind; any other path stands for a file with an ending
added. -/
def locate? (files : Files) (path : String) : Option (String × SettingsFormat) :=
  if isFile files path then
    ((ending (lastComponent path).1).bind SettingsFormat.ofEnding?).map (path, ·)
  else (candidates path).find? fun c => isFile files c.1

/-- The members of the settings file that a path stands for. -/
def ofPath (files : Files) (path : String) : Except SettingsError (List (String × Json)) :=
  match locate? files path with
  | none => .error (.unusable path)
  | some (path, format) =>
    match files.read path with
    | .error _ => .error (.unusable path)
    | .ok text =>
      match format.read? text with
      | none => .error (.malformed path)
      | some members => .ok members

/-- The members of the settings file. Where no path is given, the file need not be there. -/
def ofFile (files : Files) : Option String → Except SettingsError (List (String × Json))
  | some path => ofPath files path
  | none =>
    match ofPath files usualName with
    | .error (.unusable _) => .ok []
    | r => r

/-- How the names of environment variables with settings begin, in lower case. -/
def variableStart : List Char := "obd_diag__".toList

/-- A name with dots for pairs of underscores. -/
def dotted : List Char → List Char
  | '_' :: '_' :: rest => '.' :: dotted rest
  | c :: rest => c :: dotted rest
  | [] => []

/-- The setting that an environment variable stands for. -/
def ofVariable? (name value : String) : Option (String × Json) :=
  let name := (lowercase name).toList
  if variableStart.isPrefixOf name then
    some (String.ofList (dotted (name.drop variableStart.length)), .text value)
  else none

/-- The settings in environment variables. -/
def ofEnvironment (environment : List (String × String)) : List (String × Json) :=
  environment.filterMap fun v => ofVariable? v.1 v.2

/-- All layers, one laid over the other. -/
def stack (files : Files) (path : Option String) (environment : List (String × String)) :
    Except SettingsError Json :=
  (ofFile files path).map fun members =>
    (builtIn.layPaths members).layPaths (ofEnvironment environment)

end SettingsLayer

end ScanTool
