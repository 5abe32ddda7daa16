import ScanTool.Adapter.Frame
import ScanTool.Live.Formula

/-!
# Live parameters

The parameters that can be read while the engine runs, each with its number, its name, its unit and
the formula of its value. The request for a parameter is `01` and the number in two digits, and the
data of the answer stands behind the echo `41` and the number.
-/

namespace ScanTool.Live

open ScanTool.Text

/-- The number of a parameter. -/
abbrev Pid := UInt8

/-- A parameter that can be decoded. -/
structure Parameter where
  /-- Its number. -/
  pid : Pid
  /-- Its name for people. -/
  label : String
  /-- The unit of its value. -/
  unit : String
  /-- How its value is computed. -/
  formula : Formula

/-- The parameters that can be decoded, in the order in which they are shown. -/
def catalog : List Parameter := [
  ⟨0x0C, "RPM", "rpm", .ofWord fun a b => Float.ofNat (engineSpeed a b)⟩,
  ⟨0x0D, "Vehicle Speed", "km/h", .ofByte fun a => Float.ofNat (vehicleSpeed a)⟩,
  ⟨0x05, "Coolant Temp", "°C", .ofByte fun a => Float.ofInt (temperature a)⟩,
  ⟨0x11, "Throttle Position", "%", .ofByte percent⟩,
  ⟨0x0F, "Intake Temp", "°C", .ofByte fun a => Float.ofInt (temperature a)⟩,
  ⟨0x10, "MAF Rate", "g/s", .ofWord airFlow⟩,
  ⟨0x0A, "Fuel Pressure", "kPa", .ofByte fun a => Float.ofNat (fuelPressure a)⟩,
  ⟨0x14, "O2 Sensor (Bank 1)", "V", .ofByte oxygenVoltage⟩,
  ⟨0x04, "Engine Load", "%", .ofByte percent⟩,
  ⟨0x06, "Short Fuel Trim (Bank 1)", "%", .ofByte fuelTrim⟩,
  ⟨0x07, "Long Fuel Trim (Bank 1)", "%", .ofByte fuelTrim⟩,
  ⟨0x0B, "Intake Manifold Pressure", "kPa", .ofByte fun a => Float.ofNat a.toNat⟩]

/-- The parameter of a number, if it can be decoded. -/
def parameter? (pid : Pid) : Option Parameter := catalog.find? (·.pid == pid)

/-- The request for the parameter of a number. -/
def request (pid : Pid) : String := String.ofList ('0' :: '1' :: hexPair pid)

/-- The echo that stands before the data of the parameter of a number. -/
def echo (pid : Pid) : List Char := '4' :: '1' :: hexPair pid

/-- A decoded value. -/
structure Reading where
  /-- The number of the parameter. -/
  pid : Pid
  /-- Its name. -/
  label : String
  /-- Its unit. -/
  unit : String
  /-- The value. -/
  value : Float
  /-- The data bytes from which it was computed. -/
  bytes : List UInt8
  deriving Inhabited

/-- The reading of some data bytes. -/
def Parameter.reading? (p : Parameter) (bytes : List UInt8) : Option Reading :=
  (p.formula.value? bytes).map fun value => ⟨p.pid, p.label, p.unit, value, bytes⟩

/-- The reading in an answer, if the echo and enough data bytes stand in one of its lines. -/
def Parameter.decode? (p : Parameter) (answer : String) : Option Reading :=
  (Frame.bytesAfter? (echo p.pid) p.formula.byteCount answer.toList).bind p.reading?

/-- The reading of the parameter of a number in an answer. -/
def decode? (pid : Pid) (answer : String) : Option Reading :=
  (parameter? pid).bind (·.decode? answer)

end ScanTool.Live
