import ScanTool.Trouble.Table

/-!
# Codes that all manufacturers share

The built-in descriptions of the most common standard codes.
-/

namespace ScanTool.Trouble

/-- The built-in codes and their descriptions. -/
def standardCodes : List (String × String) := [
    ("P0100", "Mass or Volume Air Flow Circuit Malfunction"),
    ("P0101", "Mass or Volume Air Flow Circuit Range/Performance Problem"),
    ("P0102", "Mass or Volume Air Flow Circuit Low Input"),
    ("P0103", "Mass or Volume Air Flow Circuit High Input"),
    ("P0110", "Intake Air Temperature Circuit Malfunction"),
    ("P0115", "Engine Coolant Temperature Circuit Malfunction"),
    ("P0117", "Engine Coolant Temperature Circuit Low Input"),
    ("P0118", "Engine Coolant Temperature Circuit High Input"),
    ("P0120", "Throttle Position Sensor/Switch A Circuit Malfunction"),
    ("P0121", "Throttle Position Sensor/Switch A Circuit Range/Performance Problem"),
    ("P0128", "Coolant Thermostat (Coolant Temperature Below Thermostat Regulating Temperature)"),
    ("P0130", "O2 Sensor Circuit Malfunction (Bank 1 Sensor 1)"),
    ("P0133", "O2 Sensor Circuit Slow Response (Bank 1 Sensor 1)"),
    ("P0135", "O2 Sensor Heater Circuit Malfunction (Bank 1 Sensor 1)"),
    ("P0171", "System Too Lean (Bank 1)"),
    ("P0172", "System Too Rich (Bank 1)"),
    ("P0174", "System Too Lean (Bank 2)"),
    ("P0175", "System Too Rich (Bank 2)"),
    ("P0190", "Fuel Rail Pressure Sensor Circuit Malfunction"),
    ("P0300", "Random/Multiple Cylinder Misfire Detected"),
    ("P0301", "Cylinder 1 Misfire Detected"),
    ("P0302", "Cylinder 2 Misfire Detected"),
    ("P0303", "Cylinder 3 Misfire Detected"),
    ("P0304", "Cylinder 4 Misfire Detected"),
    ("P0305", "Cylinder 5 Misfire Detected"),
    ("P0306", "Cylinder 6 Misfire Detected"),
    ("P0325", "Knock Sensor 1 Circuit Malfunction (Bank 1 or Single Sensor)"),
    ("P0335", "Crankshaft Position Sensor A Circuit Malfunction"),
    ("P0340", "Camshaft Position Sensor Circuit Malfunction"),
    ("P0401", "Exhaust Gas Recirculation Flow Insufficient Detected"),
    ("P0420", "Catalyst System Efficiency Below Threshold (Bank 1)"),
    ("P0430", "Catalyst System Efficiency Below Threshold (Bank 2)"),
    ("P0440", "Evaporative Emission Control System Malfunction"),
    ("P0442", "Evaporative Emission Control System Leak Detected (small leak)"),
    ("P0455", "Evaporative Emission Control System Leak Detected (gross leak)"),
    ("P0500", "Vehicle Speed Sensor Malfunction"),
    ("P0505", "Idle Control System Malfunction"),
    ("P0562", "System Voltage Low"),
    ("P0563", "System Voltage High"),
    ("P0600", "Serial Communication Link Malfunction"),
    ("P0700", "Transmission Control System Malfunction"),
    ("C0035", "Left Front Wheel Speed Circuit Malfunction"),
    ("C0040", "Right Front Wheel Speed Circuit Malfunction"),
    ("B0001", "Driver Frontal Stage 1 Deployment Control"),
    ("U0100", "Lost Communication With ECM/PCM A"),
    ("U0121", "Lost Communication With Anti-Lock Brake System (ABS) Control Module")]

/-- The table of the built-in codes. -/
def CodeTable.standard : CodeTable := .ofList standardCodes

end ScanTool.Trouble
