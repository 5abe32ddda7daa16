/-!
# Formulas of live values

A live value is computed from one or two data bytes, called A and B. Quantities that are whole by
their definition are integers here; the others are doubles, computed in the order in which the
formulas are written.
-/

namespace ScanTool.Live

/-- Engine speed: a quarter of the word A B, rounded down, in revolutions per minute. -/
def engineSpeed (a b : UInt8) : Nat := (256 * a.toNat + b.toNat) / 4

/-- Vehicle speed: A kilometres per hour. -/
def vehicleSpeed (a : UInt8) : Nat := a.toNat

/-- Temperature: A less forty degrees. -/
def temperature (a : UInt8) : Int := (a.toNat : Int) - 40

/-- Share of the full range: A of 255, in percent. -/
def percent (a : UInt8) : Float := Float.ofNat a.toNat * 100.0 / 255.0

/-- Air flow: the word A B in hundredths of a gram per second. -/
def airFlow (a b : UInt8) : Float := (Float.ofNat a.toNat * 256.0 + Float.ofNat b.toNat) / 100.0

/-- Fuel pressure: three times A kilopascals. -/
def fuelPressure (a : UInt8) : Nat := 3 * a.toNat

/-- Voltage of an oxygen sensor: A two-hundredths of a volt. -/
def oxygenVoltage (a : UInt8) : Float := Float.ofNat a.toNat / 200.0

/-- Fuel trim: the distance of A from 128, in percent of 128. -/
def fuelTrim (a : UInt8) : Float := (Float.ofNat a.toNat - 128.0) * 100.0 / 128.0

/-- How a value is computed from the data bytes. -/
inductive Formula where
  /-- From one byte. -/
  | ofByte (value : UInt8 → Float)
  /-- From two bytes. -/
  | ofWord (value : UInt8 → UInt8 → Float)

/-- The number of data bytes that a formula consumes. -/
def Formula.byteCount : Formula → Nat
  | .ofByte _ => 1
  | .ofWord _ => 2

/-- The value for some data bytes, if they are as many as the formula consumes. -/
def Formula.value? : Formula → List UInt8 → Option Float
  | .ofByte value, [a] => some (value a)
  | .ofWord value, [a, b] => some (value a b)
  | _, _ => none

end ScanTool.Live
