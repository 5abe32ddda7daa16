import ScanTool.CommandLine.Level

/-!
# Reading the arguments

Arguments are read from left to right. A switch is written with two dashes and its name, or with one
dash and its letter, several letters in one argument; its value follows in the same argument, after an
equals sign or without one, or is the next argument. A switch can be given once at each level. After
two dashes alone nothing is a switch any more. Asking for help or the version ends the reading, and so
does the first mistake.

A value that is the next argument is only taken to the switch when something else is read at its
level, so a mistake in it can come to light after what a further level holds.
-/

namespace ScanTool.CommandLine

/-- What the arguments ask for in place of a command, or that they are no use. -/
inductive Ending where
  /-- Help on a level. -/
  | help (level : Level)
  /-- The version, at a level. -/
  | version (level : Level)
  /-- The arguments cannot be understood. -/
  | misuse
  deriving DecidableEq, Repr, Inhabited

/-- The version of the program. -/
def version : String := "0.1.0"

/-- The line that gives the version. -/
def Level.versionLine (l : Level) : String := l.name ++ " " ++ version ++ "\n"

/-- What has been given at a level. -/
structure Frame where
  /-- The level. -/
  level : Level
  /-- The switches that are set, with their values. -/
  given : List (Switch × String)
  /-- The switch whose value is the next argument, with that value once it has been read. -/
  latest : Option (Switch × Option String)
  /-- The brand that is named. -/
  brand : Option String
  deriving Repr, Inhabited

namespace Frame

/-- The beginning of a level. -/
def start (level : Level) : Frame := ⟨level, [], none, none⟩

/-- Whether a switch is set. -/
def isSet (f : Frame) (s : Switch) : Bool := (f.given.lookup s).isSome

/-- Sets a switch, unless it is set already. The path of the settings file cannot be empty. -/
def record (s : Switch) (value : String) (f : Frame) : Except Ending Frame :=
  if f.isSet s || (s == .config && value.isEmpty) then .error .misuse
  else .ok { f with given := (s, value) :: f.given }

/-- Takes the value that was the next argument to its switch. It must have come. -/
def settle (f : Frame) : Except Ending Frame :=
  match f.latest with
  | none => .ok f
  | some (s, some value) => record s value { f with latest := none }
  | some (_, none) => .error .misuse

/-- Whether the next argument is the value of a switch. -/
def awaitsValue (f : Frame) : Bool :=
  match f.latest with
  | some (_, none) => true
  | _ => false

/-- Meets a switch that is complete. -/
def meet (s : Switch) (value : String) (f : Frame) : Except Ending Frame := do
  let f ← f.settle
  match s with
  | .help => throw (.help f.level)
  | .version => throw (.version f.level)
  | s => f.record s value

/-- Meets a switch that takes a value, which may be in the same argument. -/
def meetValue (s : Switch) (attached : Option String) (f : Frame) : Except Ending Frame :=
  match attached with
  | some value => f.meet s value
  | none => do
    let f ← f.settle
    return { f with latest := some (s, none) }

/-- Reads a switch written with its name, without the dashes. -/
def readWord (cs : List Char) (f : Frame) : Except Ending Frame :=
  let word := String.ofList (cs.takeWhile (· != '='))
  let attached := match cs.dropWhile (· != '=') with
    | _ :: value => some (String.ofList value)
    | [] => none
  match f.level.switches.find? (·.word == word) with
  | none => .error .misuse
  | some s =>
    if s.hasValue then f.meetValue s attached
    else if attached.isSome then .error .misuse
    else f.meet s ""

/-- Reads switches written with their letters, without the dash. -/
def readLetters : List Char → Frame → Except Ending Frame
  | [], f => .ok f
  | c :: rest, f =>
    match f.level.switches.find? (·.letter? == some c) with
    | none => .error .misuse
    | some s =>
      if s.hasValue then
        match rest with
        | [] => f.meetValue s none
        | '=' :: value => f.meetValue s (some (String.ofList value))
        | value => f.meetValue s (some (String.ofList value))
      else (f.meet s "").bind (readLetters rest)

/-- Reads an argument that is not a switch. -/
def readPlain (argument : String) (f : Frame) : Except Ending Frame :=
  if f.level.namesBrand && f.brand.isNone then .ok { f with brand := some argument }
  else .error .misuse

/-- Reads an argument that names no further level. -/
def readArgument (argument : String) (f : Frame) : Except Ending Frame :=
  match argument.toList, f.latest with
  | '-' :: '-' :: rest, _ => f.readWord rest
  | '-' :: c :: rest, _ => f.readLetters (c :: rest)
  | _, some (s, none) => .ok { f with latest := some (s, some argument) }
  | _, _ => f.readPlain argument

/-- The further level that an argument names, unless it is the value of a switch. -/
def further (f : Frame) (argument : String) : Option Level :=
  if f.awaitsValue then none else f.level.below.lookup argument

/-- Whether an argument is the word for help, which stands where further levels can be named. -/
def asksHelp (f : Frame) (argument : String) : Bool :=
  argument == "help" && !f.awaitsValue && !f.level.below.isEmpty

end Frame

/-- The level that words lead to from a level; a word for help leads nowhere further. -/
def helpLevel : Level → List String → Except Ending Level
  | l, [] => .ok l
  | l, word :: rest =>
    match l.below.lookup word with
    | some next => helpLevel next rest
    | none => if word = "help" ∧ !l.below.isEmpty ∧ rest.isEmpty then .ok l else .error .misuse

/-- Reads arguments at a level, below the levels in `above`: what has been given at all levels, the
last one first. -/
def readArguments (plain : Bool) (f : Frame) (above : List Frame) :
    List String → Except Ending (List Frame)
  | [] => .ok (f :: above)
  | argument :: rest =>
    if plain then (f.readPlain argument).bind fun f => readArguments true f above rest
    else
      match f.further argument with
      | some next => readArguments false (.start next) (f :: above) rest
      | none =>
        if f.asksHelp argument then (helpLevel f.level rest).bind fun l => .error (.help l)
        else if argument = "--" then readArguments true f above rest
        else (f.readArgument argument).bind fun f => readArguments false f above rest

/-- A command and the switches that hold for all commands. -/
structure Invocation where
  /-- The command. -/
  command : Command
  /-- The path of the settings file, if it is given. -/
  config : Option String
  /-- The device in place of the one in the settings, if it is given. -/
  device : Option String
  /-- Whether reports are for programs. -/
  json : Bool
  /-- Whether there is more to read while the program works. -/
  verbose : Bool
  deriving DecidableEq, Repr, Inhabited

/-- The environment variable that gives the path of the settings file where no switch does. -/
def configVariable : String := "OBD_DIAG_CONFIG"

/-- The path of the settings file: the value of the switch, or else of the environment variable, which
cannot be empty. -/
def configPath (given : Option String) (environment : List (String × String)) :
    Except Ending (Option String) :=
  match given with
  | some path => .ok (some path)
  | none =>
    match environment.lookup configVariable with
    | some "" => .error .misuse
    | path => .ok path

/-- The command that arguments name, with the switches that hold for all commands. -/
def read (arguments : List String) (environment : List (String × String)) :
    Except Ending Invocation := do
  let frames ← readArguments false (.start .program) [] arguments
  let frames ← frames.mapM Frame.settle
  match frames.head?, frames.getLast? with
  | some last, some first =>
    match last.level.command? last.isSet last.brand with
    | none => throw .misuse
    | some command =>
      let config ← configPath (first.given.lookup .config) environment
      return ⟨command, config, first.given.lookup .device, frames.any (·.isSet .json),
        first.isSet .verbose⟩
  | _, _ => throw .misuse

end ScanTool.CommandLine
