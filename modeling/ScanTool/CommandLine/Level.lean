import ScanTool.Command.Basic

/-!
# The command line

The arguments name a command step by step: `brand`, then `read`, then a brand. Each step is a level
with switches of its own, and a switch is given at the level to which it belongs. All levels have the
switch for reports for programs, the one for help and the one for the version.
-/

namespace ScanTool.CommandLine

/-- The switches. -/
inductive Switch where
  /-- The settings file. -/
  | config
  /-- The device of the adapter, in place of the one in the settings. -/
  | device
  /-- Reports for programs. -/
  | json
  /-- More to read while the program works. -/
  | verbose
  /-- A single sweep. -/
  | once
  /-- Simulation. -/
  | simulate
  /-- Help. -/
  | help
  /-- The version. -/
  | version
  deriving DecidableEq, Repr, Inhabited

namespace Switch

/-- The name of a switch after two dashes. -/
def word : Switch → String
  | config => "config"
  | device => "device"
  | json => "json"
  | verbose => "verbose"
  | once => "once"
  | simulate => "simulate"
  | help => "help"
  | version => "version"

/-- The letter of a switch after one dash, if it has one. -/
def letter? : Switch → Option Char
  | config => some 'c'
  | device => some 'd'
  | verbose => some 'v'
  | help => some 'h'
  | version => some 'V'
  | json => none
  | once => none
  | simulate => none

/-- Whether a value follows a switch. -/
def hasValue : Switch → Bool
  | config => true
  | device => true
  | _ => false

end Switch

/-- The levels. -/
inductive Level where
  /-- The program. -/
  | program
  /-- The live view. -/
  | live
  /-- The supported parameters. -/
  | pids
  /-- The stored codes. -/
  | codes
  /-- Showing them. -/
  | readCodes
  /-- Erasing them. -/
  | clearCodes
  /-- The codes of brands. -/
  | brand
  /-- The brands with tables. -/
  | listBrands
  /-- Showing the codes of a brand. -/
  | readBrand
  /-- Erasing the codes of a brand. -/
  | clearBrand
  deriving DecidableEq, Repr, Inhabited

namespace Level

/-- The name of the program at a level. -/
def name : Level → String
  | program => "obd-diag"
  | live => "obd-diag-live"
  | pids => "obd-diag-pids"
  | codes => "obd-diag-dtc"
  | readCodes => "obd-diag-dtc-read"
  | clearCodes => "obd-diag-dtc-clear"
  | brand => "obd-diag-brand"
  | listBrands => "obd-diag-brand-list"
  | readBrand => "obd-diag-brand-read"
  | clearBrand => "obd-diag-brand-clear"

/-- The words that lead to further levels. -/
def below : Level → List (String × Level)
  | program => [("live", live), ("pids", pids), ("dtc", codes), ("brand", brand)]
  | codes => [("read", readCodes), ("clear", clearCodes)]
  | brand => [("list", listBrands), ("read", readBrand), ("clear", clearBrand)]
  | _ => []

/-- The switches of a level. -/
def switches (l : Level) : List Switch :=
  let own : List Switch :=
    match l with
    | program => [.config, .device, .verbose]
    | live => [.once]
    | readBrand => [.simulate]
    | clearBrand => [.simulate]
    | _ => []
  own ++ [.json, .help, .version]

/-- Whether a brand is named at a level. -/
def namesBrand : Level → Bool
  | readBrand => true
  | clearBrand => true
  | _ => false

/-- The command of a level, given which of its switches are set and the brand that is named. There is
none where a further word or a brand is missing. -/
def command? (l : Level) (isSet : Switch → Bool) (brandName : Option String) : Option Command :=
  match l, brandName with
  | live, _ => some (.live (isSet .once))
  | pids, _ => some .pids
  | readCodes, _ => some .readCodes
  | clearCodes, _ => some .clearCodes
  | listBrands, _ => some .listBrands
  | readBrand, some name => some (.readBrand name (isSet .simulate))
  | clearBrand, some name => some (.clearBrand name (isSet .simulate))
  | _, _ => none

end Level

end ScanTool.CommandLine
