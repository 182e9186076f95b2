import Airfi.OrderedDict
import Airfi.Platforms.Number

/-!
# Register descriptors

The descriptors of the other five platforms, the state that each entity shows
of the published data, and the writes that the commands of the writable ones
ask their coordinator for.
-/

namespace Airfi

/-- `self.coordinator.data[register_type]`. -/
def AirfiData.table (self : AirfiData) : RegisterTable → RegisterMap
  | .input => self.input
  | .holding => self.holding

/-! ## Sensors -/

/-- `AirfiSensorRegister`, with the fields of its base. -/
structure AirfiSensorRegister where
  address : Nat
  key : String
  registerType : RegisterTable
  scale : ℚ
  signed : Bool
  isVersion : Bool

namespace AirfiSensorRegister

/-- A sensor with the defaults. -/
def plain (address : Nat) (key : String) : AirfiSensorRegister :=
  { address, key, registerType := .input, scale := 1, signed := false
    isVersion := false }

/-- Tenths of a degree. -/
def temperature (address : Nat) (key : String) : AirfiSensorRegister :=
  { plain address key with scale := 0.1, signed := true }

def version (address : Nat) (key : String) : AirfiSensorRegister :=
  { plain address key with isVersion := true }

end AirfiSensorRegister

/-- `SENSOR_REGISTERS`. -/
def sensorRegisters : List AirfiSensorRegister :=
  [ .version 1 "hardware_version",
    .version 2 "software_version",
    .plain 3 "modbus_register_version",
    .temperature 4 "outdoor_air_temperature",
    .temperature 5 "supply_air_temperature",
    .temperature 6 "exhaust_air_temperature",
    .temperature 7 "waste_air_temperature",
    .temperature 8 "supply_air_apartment_temperature",
    .temperature 9 "freeze_protection_temperature",
    .plain 11 "exhaust_fan_speed",
    .plain 12 "supply_fan_speed",
    .plain 21 "supply_fan_rpm",
    .plain 22 "exhaust_fan_rpm",
    .plain 24 "fan_speed_output",
    .plain 23 "humidity",
    .plain 25 "force_control_state",
    .plain 27 "direct_control_percentage",
    .temperature 28 "temperature_setpoint_readback",
    .plain 29 "aux3_setpoint_readback",
    .plain 30 "aux4_setpoint_readback",
    .plain 31 "filter_change_interval_readback",
    .plain 13 "aux3_mode",
    .plain 14 "aux4_mode",
    .plain 33 "aux3_read_value",
    .plain 34 "aux4_read_value",
    .plain 38 "aux2_state",
    .plain 45 "intake_pressure",
    .plain 46 "exhaust_pressure",
    .plain 40 "range_hood_compensation",
    .plain 41 "s1_read_value",
    .temperature 42 "room_sensor",
    .plain 43 "post_heat_valve",
    .plain 50 "co2",
    .plain 51 "cp_supply_measured_pressure",
    .plain 52 "cp_exhaust_measured_pressure",
    .plain 48 "outlet_valve_control_status" ]

/-- `format_version`. -/
def formatVersion (raw : Nat) : String :=
  Nat.repr (raw / 100) ++ "." ++ Nat.repr (raw / 10 % 10) ++ "." ++
    Nat.repr (raw % 10)

/-- What a sensor shows. -/
inductive SensorValue where
  | number (value : ℚ)
  | text (version : String)
  deriving DecidableEq

namespace AirfiSensorRegister

variable (self : AirfiSensorRegister)

/-- What `AirfiSensor.native_value` shows of a raw value. -/
def shown (raw : Nat) : SensorValue :=
  if self.isVersion then .text (formatVersion raw)
  else .number (scaledValue raw self.scale self.signed)

/-- `AirfiSensor.native_value`. -/
def nativeValue (data : AirfiData) : Option SensorValue :=
  (data.table self.registerType self.address).map self.shown

end AirfiSensorRegister

/-! ## Binary sensors -/

/-- `AirfiBinarySensorRegister`, with the fields of its base. -/
structure AirfiBinarySensorRegister where
  address : Nat
  key : String
  registerType : RegisterTable
  bit : Option Nat
  inverted : Bool

namespace AirfiBinarySensorRegister

/-- A binary sensor with the defaults. -/
def plain (address : Nat) (key : String) : AirfiBinarySensorRegister :=
  { address, key, registerType := .input, bit := none, inverted := false }

/-- One bit of the error bitmask. -/
def errorBit (n : Nat) : AirfiBinarySensorRegister :=
  { plain 32 s!"error_e{n}" with bit := some n }

variable (self : AirfiBinarySensorRegister)

/-- What `AirfiBinarySensor.is_on` makes of a raw value. -/
def onFor (raw : Nat) : Bool :=
  let value :=
    match self.bit with
    | some n => decide (raw &&& (1 <<< n) ≠ 0)
    | none => decide (raw ≠ 0)
  if self.inverted then !value else value

/-- `AirfiBinarySensor.is_on`. -/
def isOn (data : AirfiData) : Option Bool :=
  (data.table self.registerType self.address).map self.onFor

end AirfiBinarySensorRegister

/-- `BINARY_SENSOR_REGISTERS`. -/
def binarySensorRegisters : List AirfiBinarySensorRegister :=
  [ .plain 15 "fireplace_active",
    { AirfiBinarySensorRegister.plain 16 "home_away_state" with
      inverted := true },
    .plain 17 "emergency_stop",
    .plain 18 "freeze_alarm",
    .plain 19 "machine_fault",
    .plain 26 "direct_control_active",
    .plain 35 "constant_pressure_supply_alarm",
    .plain 36 "constant_pressure_exhaust_alarm",
    { AirfiBinarySensorRegister.plain 34 "filter_change_due" with
      registerType := .holding },
    .plain 37 "filter_guard_alarm",
    .plain 39 "fire_alarm",
    .plain 44 "defrost_active",
    .plain 47 "aux1_status",
    .plain 49 "bypass_active" ] ++
  (List.range 9).map .errorBit

/-! ## Selects -/

/-- `AirfiSelectRegister`, with the fields of its base. -/
structure AirfiSelectRegister where
  address : Nat
  key : String
  /-- `(raw_value, option_key)` pairs. -/
  options : List (Nat × String)

def speed : AirfiSelectRegister :=
  { address := 1, key := "speed"
    options := [(0, "off"), (1, "speed_1"), (2, "speed_2"),
      (3, "speed_3"), (4, "speed_4"), (5, "speed_5")] }

/-- `SELECT_REGISTERS`. -/
def selectRegisters : List AirfiSelectRegister :=
  [ speed,
    { address := 2, key := "force_control"
      options := [(0, "disabled"), (1, "emergency_stop"), (2, "away")] },
    { address := 8, key := "filter_change_interval"
      options := [(1, "1_per_year"), (2, "2_per_year"), (3, "3_per_year"),
        (4, "4_per_year"), (5, "5_per_year"), (6, "6_per_year")] },
    { address := 9, key := "bypass_mode"
      options := [(0, "off"), (1, "on_speeds_1_2"), (2, "on_speeds_1_5")] },
    { address := 12, key := "home_away"
      options := [(0, "home"), (1, "away")] },
    { address := 24, key := "filter_guard_state"
      options := [(0, "off"), (1, "on"), (2, "calibrate")] },
    { address := 56, key := "rh_sensor_mode"
      options := [(0, "switch"), (1, "transmitter"), (2, "disabled")] },
    { address := 64, key := "boost_block"
      options := [(0, "off"), (1, "humidity"), (2, "co2"),
        (3, "humidity_co2"), (4, "all")] } ]

namespace AirfiSelectRegister

variable (self : AirfiSelectRegister)

/-- `dict(description.options)`. -/
def rawToOption : OrderedDict Nat String :=
  OrderedDict.ofLast self.options

/-- `{opt: raw for raw, opt in description.options}`. -/
def optionToRaw : OrderedDict String Nat :=
  OrderedDict.ofLast (self.options.map Prod.swap)

/-- `AirfiSelect.current_option`. -/
def currentOption (holding : RegisterMap) : Option String :=
  (holding self.address).bind self.rawToOption.get?

end AirfiSelectRegister

/-! ## Switches and buttons -/

/-- `AirfiSwitchRegister`, with the fields of its base. -/
structure AirfiSwitchRegister where
  address : Nat
  key : String

def directControlEnabled : AirfiSwitchRegister :=
  ⟨3, "direct_control_enabled"⟩

/-- `SWITCH_REGISTERS`. -/
def switchRegisters : List AirfiSwitchRegister :=
  [ directControlEnabled, ⟨27, "emergency_stop_resume"⟩,
    ⟨33, "buzzer_mute"⟩, ⟨45, "separate_supply_fan_values"⟩,
    ⟨51, "enhanced_cooling_allowed"⟩, ⟨55, "outdoor_valve_manual"⟩,
    ⟨57, "sauna_mode"⟩, ⟨58, "fireplace_mode"⟩,
    ⟨59, "heat_exchanger_disable"⟩, ⟨61, "internal_co2_enabled"⟩,
    ⟨65, "aux1_control"⟩ ]

/-- `AirfiSwitch.is_on`. -/
def AirfiSwitchRegister.isOn (self : AirfiSwitchRegister)
    (holding : RegisterMap) : Option Bool :=
  (holding self.address).map fun raw => decide (raw ≠ 0)

/-- `AirfiButtonRegister`, with the fields of its base. -/
structure AirfiButtonRegister where
  address : Nat
  key : String
  pressValue : Nat

/-- `BUTTON_REGISTERS`. -/
def buttonRegisters : List AirfiButtonRegister :=
  [ ⟨34, "filter_reminder_reset", 0⟩ ]

end Airfi
