/-!
# Bus protocols

The adapter speaks nine numbered protocols with the vehicle, and number zero lets it search. Settings
name them in lower case.
-/

namespace ScanTool

/-- The protocols between adapter and vehicle. -/
inductive BusProtocol where
  /-- The adapter searches. -/
  | auto
  /-- J1850 with pulse width modulation. -/
  | j1850Pwm
  /-- J1850 with variable pulse width. -/
  | j1850Vpw
  /-- ISO 9141-2. -/
  | iso9141
  /-- ISO 14230-4, slow initialisation. -/
  | kwpSlow
  /-- ISO 14230-4, fast initialisation. -/
  | kwpFast
  /-- ISO 15765-4, short identifiers, 500 kbit/s. -/
  | canShort500
  /-- ISO 15765-4, long identifiers, 500 kbit/s. -/
  | canLong500
  /-- ISO 15765-4, short identifiers, 250 kbit/s. -/
  | canShort250
  /-- ISO 15765-4, long identifiers, 250 kbit/s. -/
  | canLong250
  deriving DecidableEq, Repr, Inhabited

namespace BusProtocol

/-- All protocols, by number. -/
def all : List BusProtocol :=
  [auto, j1850Pwm, j1850Vpw, iso9141, kwpSlow, kwpFast, canShort500, canLong500, canShort250,
    canLong250]

/-- The adapter's number of a protocol. -/
def number : BusProtocol → Nat
  | auto => 0
  | j1850Pwm => 1
  | j1850Vpw => 2
  | iso9141 => 3
  | kwpSlow => 4
  | kwpFast => 5
  | canShort500 => 6
  | canLong500 => 7
  | canShort250 => 8
  | canLong250 => 9

/-- The name of a protocol in settings. -/
def name : BusProtocol → String
  | auto => "auto"
  | j1850Pwm => "j1850_pwm"
  | j1850Vpw => "j1850_vpw"
  | iso9141 => "iso9141_2"
  | kwpSlow => "iso14230_4_kwp"
  | kwpFast => "iso14230_4_kwp_fast"
  | canShort500 => "iso15765_4_can11bit500"
  | canLong500 => "iso15765_4_can29bit500"
  | canShort250 => "iso15765_4_can11bit250"
  | canLong250 => "iso15765_4_can29bit250"

/-- The protocol of a name. -/
def ofName? (name : String) : Option BusProtocol := all.find? (·.name == name)

/-- The command that selects a protocol. -/
def command (p : BusProtocol) : String := "ATSP" ++ toString p.number

end BusProtocol

end ScanTool
