import HomeCatalog.Catalog.Basic

/-!
# The specification's table of characteristics

The accessory protocol specifies for each service which characteristics it requires and which
it allows.  The table is used when no metadata document says so.  Services are found by their
exact display names.
-/

namespace HomeCatalog.Reconciliation

/-- The optional characteristics of every sensor. -/
def sensorStatus : List String :=
  ["Name", "StatusActive", "StatusFault", "StatusTampered", "StatusLowBattery"]

/-- The characteristics of everything that moves between two positions. -/
def positions : List String :=
  ["CurrentPosition", "TargetPosition", "PositionState"]

/-- Services with their required and their optional characteristics. -/
def specification : List (String × List String × List String) :=
  [ ("Lightbulb", ["PowerState"], ["Brightness", "Hue", "Saturation", "ColorTemperature",
      "Name"]),
    ("Switch", ["PowerState"], ["Name"]),
    ("Outlet", ["PowerState", "OutletInUse"], ["Name"]),
    ("Thermostat", ["CurrentHeatingCooling", "TargetHeatingCooling", "CurrentTemperature",
      "TargetTemperature", "TemperatureUnits"], ["CurrentRelativeHumidity",
      "TargetRelativeHumidity", "CoolingThreshold", "HeatingThreshold", "Name"]),
    ("LockMechanism", ["CurrentLockMechanismState", "TargetLockMechanismState"], ["Name"]),
    ("GarageDoorOpener", ["CurrentDoorState", "TargetDoorState", "ObstructionDetected"], ["Name",
      "LockCurrentState", "LockTargetState"]),
    ("Fan", ["Active"], ["CurrentFanState", "TargetFanState", "RotationDirection",
      "RotationSpeed", "SwingMode", "LockPhysicalControls", "Name"]),
    ("TemperatureSensor", ["CurrentTemperature"], sensorStatus),
    ("MotionSensor", ["MotionDetected"], sensorStatus),
    ("ContactSensor", ["ContactState"], sensorStatus),
    ("SmokeSensor", ["SmokeDetected"], sensorStatus),
    ("LeakSensor", ["LeakDetected"], sensorStatus),
    ("HumiditySensor", ["CurrentRelativeHumidity"], sensorStatus),
    ("AirQualitySensor", ["AirQuality"], ["OzoneDensity", "NitrogenDioxideDensity",
      "SulphurDioxideDensity", "PM2_5Density", "PM10Density", "VolatileOrganicCompoundDensity",
      "AirParticulateDensity", "AirParticulateSize", "CarbonMonoxideLevel", "CarbonDioxideLevel"]
      ++ sensorStatus),
    ("Battery", ["BatteryLevel", "ChargingState", "StatusLowBattery"], ["Name"]),
    ("Window", positions, ["HoldPosition", "ObstructionDetected", "Name"]),
    ("WindowCovering", positions, ["HoldPosition", "CurrentHorizontalTilt",
      "TargetHorizontalTilt", "CurrentVerticalTilt", "TargetVerticalTilt", "ObstructionDetected",
      "Name"]),
    ("Door", positions, ["HoldPosition", "ObstructionDetected", "Name"]),
    ("Doorbell", ["InputEvent"], ["Brightness", "Volume", "Name"]),
    ("SecuritySystem", ["CurrentSecuritySystemState", "TargetSecuritySystemState"],
      ["SecuritySystemAlarmType", "StatusFault", "StatusTampered", "Name"]),
    ("CarbonMonoxideSensor", ["CarbonMonoxideDetected"], ["CarbonMonoxideLevel",
      "CarbonMonoxidePeakLevel", "BatteryLevel"] ++ sensorStatus),
    ("CarbonDioxideSensor", ["CarbonDioxideDetected"], ["CarbonDioxideLevel",
      "CarbonDioxidePeakLevel"] ++ sensorStatus),
    ("OccupancySensor", ["OccupancyDetected"], sensorStatus),
    ("LightSensor", ["CurrentLightLevel"], sensorStatus),
    ("StatelessProgrammableSwitch", ["InputEvent"], ["Name"]),
    ("StatefulProgrammableSwitch", ["InputEvent", "OutputState"], ["Name"]),
    ("Microphone", ["Mute"], ["Volume", "Name"]),
    ("Speaker", ["Mute"], ["Volume", "Active", "VolumeControlType", "VolumeSelector", "Name"]),
    ("HeaterCooler", ["Active", "CurrentHeaterCoolerState", "TargetHeaterCoolerState",
      "CurrentTemperature"], ["LockPhysicalControls", "SwingMode", "CoolingThreshold",
      "HeatingThreshold", "TemperatureUnits", "RotationSpeed", "Name"]),
    ("HumidifierDehumidifier", ["Active", "CurrentHumidifierDehumidifierState",
      "TargetHumidifierDehumidifierState", "CurrentRelativeHumidity"], ["LockPhysicalControls",
      "SwingMode", "WaterLevel", "HumidifierThreshold", "DehumidifierThreshold", "RotationSpeed",
      "Name"]),
    ("Slats", ["SlatType", "CurrentSlatState"], ["CurrentTilt", "TargetTilt", "SwingMode",
      "Name"]),
    ("FilterMaintenance", ["FilterChangeIndication"], ["FilterLifeLevel",
      "FilterResetChangeIndication", "Name"]),
    ("AirPurifier", ["Active", "CurrentAirPurifierState", "TargetAirPurifierState"],
      ["LockPhysicalControls", "SwingMode", "RotationSpeed", "Name"]),
    ("Valve", ["Active", "InUse", "ValveType"], ["SetDuration", "RemainingDuration",
      "IsConfigured", "Name"]),
    ("IrrigationSystem", ["Active", "ProgramMode", "InUse"], ["RemainingDuration", "StatusFault",
      "Name"]),
    ("Faucet", ["Active"], ["StatusFault", "Name"]) ]

/-- The required and the optional characteristics of a service that the specification knows. -/
def specified? (service : String) : Option (List String × List String) :=
  specification.lookup service

end HomeCatalog.Reconciliation
