import Airfi.Modbus.Client
import Airfi.Rounding

/-!
# Number registers

The descriptors of the writable numeric registers, the raw value that a set
point is written as and the value that a raw one is displayed as.  Floats
stand for the decimals they are printed as.
-/

namespace Airfi

open Rounding

/-- `AirfiNumberRegister`, with the fields of its base. -/
structure AirfiNumberRegister where
  address : Nat
  key : String
  minValue : ℚ
  maxValue : ℚ
  scale : ℚ

/-- A register with the default scale. -/
def AirfiNumberRegister.plain (address : Nat) (key : String)
    (minValue maxValue : ℚ) : AirfiNumberRegister :=
  { address, key, minValue, maxValue, scale := 1 }

def temperatureSetpoint : AirfiNumberRegister :=
  { address := 5, key := "temperature_setpoint"
    minValue := 17.0, maxValue := 26.0, scale := 0.1 }

/-- `NUMBER_REGISTERS`. -/
def numberRegisters : List AirfiNumberRegister :=
  [ temperatureSetpoint,
    { address := 52, key := "away_temperature_setpoint"
      minValue := 5.0, maxValue := 26.0, scale := 0.1 },
    .plain 4 "direct_control_percentage" 0 100,
    .plain 10 "supply_fan_direct_control" 0 100,
    .plain 11 "exhaust_fan_direct_control" 0 100,
    .plain 62 "boost_time" 0 120,
    .plain 63 "boost_speed_addition" 0 100,
    .plain 6 "aux3_setpoint" 0 2000,
    .plain 7 "aux4_setpoint" 0 100,
    .plain 13 "cp_supply_speed1_setpoint" 0 999,
    .plain 14 "cp_supply_speed2_setpoint" 0 999,
    .plain 15 "cp_supply_speed3_setpoint" 0 999,
    .plain 16 "cp_supply_speed4_setpoint" 0 999,
    .plain 17 "cp_supply_speed5_setpoint" 0 999,
    .plain 18 "cp_exhaust_speed1_setpoint" 0 999,
    .plain 19 "cp_exhaust_speed2_setpoint" 0 999,
    .plain 20 "cp_exhaust_speed3_setpoint" 0 999,
    .plain 21 "cp_exhaust_speed4_setpoint" 0 999,
    .plain 22 "cp_exhaust_speed5_setpoint" 0 999,
    .plain 23 "cp_deviation_setpoint" 5 300,
    .plain 25 "filter_guard_supply_ref" 5 999,
    .plain 26 "filter_guard_exhaust_ref" 5 999,
    .plain 28 "transmitter_coefficient" 0 999,
    .plain 29 "transmitter_deviation" 0 999,
    .plain 30 "fire_hazard_supply_temp_limit" 0 99,
    .plain 31 "fire_hazard_exhaust_temp_limit" 0 99,
    .plain 32 "post_ventilation_time" 0 10,
    .plain 35 "supply_fan_speed1_pct" 25 100,
    .plain 36 "supply_fan_speed2_pct" 25 100,
    .plain 37 "supply_fan_speed3_pct" 25 100,
    .plain 38 "supply_fan_speed4_pct" 25 100,
    .plain 39 "supply_fan_speed5_pct" 25 100,
    .plain 40 "exhaust_fan_speed1_pct" 25 100,
    .plain 41 "exhaust_fan_speed2_pct" 25 100,
    .plain 42 "exhaust_fan_speed3_pct" 25 100,
    .plain 43 "exhaust_fan_speed4_pct" 25 100,
    .plain 44 "exhaust_fan_speed5_pct" 25 100,
    .plain 46 "supply_fan_correction" 1 199,
    .plain 47 "bypass_set_temperature" 15 30,
    .plain 48 "bypass_lower_limit" 1 30,
    .plain 49 "bypass_delay" 5 30,
    .plain 50 "supply_air_minimum_temperature" 10 25,
    .plain 53 "cooling_temp_limit" 10 99,
    .plain 54 "pre_heating_temp_limit" 2 99,
    .plain 60 "co2_setpoint" 0 10000,
    .plain 66 "modbus_rh_sensor" 0 100,
    .plain 67 "modbus_co2_sensor" 0 10000,
    .plain 68 "modbus_temperature_sensor" 0 65535 ]

/-- `_to_raw`. -/
def toRaw (value scale : ℚ) : Int :=
  halfUp (value / scale)

/-- `scaled_value`. -/
def scaledValue (raw : Int) (scale : ℚ) (signed : Bool) : ℚ :=
  let raw := if signed && 0x7FFF < raw then raw - 0x10000 else raw
  if scale = 1 then raw else toPlaces 2 (raw * scale)

namespace AirfiNumberRegister

variable (self : AirfiNumberRegister)

/-- `AirfiNumber.native_value`, from the holding registers of the
coordinator. -/
def nativeValue (holding : RegisterMap) : Option ℚ :=
  (holding self.address).map fun raw => scaledValue raw self.scale false

/-- What `async_set_native_value` writes to the register. -/
def rawWritten (value : ℚ) : Int :=
  let raw := toRaw value self.scale
  max (toRaw self.minValue self.scale)
    (min (toRaw self.maxValue self.scale) raw)

/-- A scale with at most two decimals, of which the bounds are multiples that
fit a register. -/
@[mk_iff]
structure Admissible (register : AirfiNumberRegister) : Prop where
  scale_pos : 0 < register.scale
  scale_decimals : (register.scale * 100).den = 1
  min_multiple : (register.minValue / register.scale).den = 1
  max_multiple : (register.maxValue / register.scale).den = 1
  ordered : register.minValue ≤ register.maxValue
  min_fits : 0 ≤ register.minValue / register.scale
  max_fits : register.maxValue / register.scale ≤ 65535

instance (register : AirfiNumberRegister) :
    Decidable register.Admissible :=
  decidable_of_iff _ (admissible_iff register).symm

end AirfiNumberRegister

theorem numberRegisters_admissible :
    ∀ register ∈ numberRegisters, register.Admissible := by
  decide +kernel

/-- The value inside the bounds that is closest to `value`. -/
def clamp (low high value : ℚ) : ℚ := max low (min high value)

namespace AirfiNumberRegister

section Admissible

variable {register : AirfiNumberRegister}

theorem exists_integer {x : ℚ} (integer : x.den = 1) :
    ∃ n : Int, x = n :=
  ⟨x.num, (Rat.coe_int_num_of_den_eq_one integer).symm⟩

/-- The bounds in raw values. -/
theorem Admissible.exists_bounds (admissible : register.Admissible) :
    ∃ low high : Int,
      register.minValue / register.scale = low ∧
        register.maxValue / register.scale = high ∧
        0 ≤ low ∧ low ≤ high ∧ high ≤ 65535 := by
  obtain ⟨low, lowEq⟩ := exists_integer admissible.min_multiple
  obtain ⟨high, highEq⟩ := exists_integer admissible.max_multiple
  have lowFits := admissible.min_fits
  have ordered := div_le_div_of_nonneg_right admissible.ordered
    admissible.scale_pos.le
  have highFits := admissible.max_fits
  rw [lowEq] at lowFits ordered
  rw [highEq] at ordered highFits
  exact ⟨low, high, lowEq, highEq, by exact_mod_cast lowFits,
    by exact_mod_cast ordered, by exact_mod_cast highFits⟩

theorem toRaw_of_integer {value scale : ℚ} {raw : Int}
    (quotient : value / scale = raw) : toRaw value scale = raw := by
  rw [toRaw, quotient, halfUp_intCast]

theorem Admissible.clamp_div (admissible : register.Admissible) (value : ℚ) :
    clamp register.minValue register.maxValue value / register.scale =
      max (register.minValue / register.scale)
        (min (register.maxValue / register.scale) (value / register.scale)) := by
  have nonneg := admissible.scale_pos.le
  rw [clamp, min_div_div_right nonneg, max_div_div_right nonneg]

theorem Admissible.clamp_div_nonneg (admissible : register.Admissible)
    (value : ℚ) :
    0 ≤ clamp register.minValue register.maxValue value / register.scale := by
  rw [admissible.clamp_div]
  exact admissible.min_fits.trans (le_max_left _ _)

/-- Clamping the raw value is rounding the clamped one. -/
theorem Admissible.rawWritten_eq (admissible : register.Admissible)
    (value : ℚ) :
    register.rawWritten value =
      round (clamp register.minValue register.maxValue value / register.scale) := by
  rw [← halfUp_of_nonneg (admissible.clamp_div_nonneg value),
    admissible.clamp_div, halfUp_monotone.map_max, halfUp_monotone.map_min]
  rfl

theorem Admissible.rawWritten_monotone
    (admissible : register.Admissible) :
    Monotone register.rawWritten := by
  intro first second le
  have divided : first / register.scale ≤ second / register.scale :=
    div_le_div_of_nonneg_right le admissible.scale_pos.le
  exact max_le_max le_rfl
    (min_le_min le_rfl (halfUp_monotone divided))

theorem Admissible.rawWritten_mem (admissible : register.Admissible)
    (value : ℚ) :
    register.minValue / register.scale ≤ register.rawWritten value ∧
      (register.rawWritten value : ℚ) ≤
        register.maxValue / register.scale := by
  obtain ⟨low, high, lowEq, highEq, -, ordered, -⟩ :=
    admissible.exists_bounds
  rw [rawWritten, toRaw_of_integer lowEq, toRaw_of_integer highEq, lowEq,
    highEq]
  constructor
  · exact_mod_cast le_max_left _ _
  · exact_mod_cast max_le ordered (min_le_left _ _)

theorem Admissible.rawWritten_fits (admissible : register.Admissible)
    (value : ℚ) :
    0 ≤ register.rawWritten value ∧ register.rawWritten value ≤ 65535 := by
  obtain ⟨low, high⟩ := admissible.rawWritten_mem value
  exact ⟨by exact_mod_cast admissible.min_fits.trans low,
    by exact_mod_cast high.trans admissible.max_fits⟩

/-- A raw value is displayed with all its decimals. -/
theorem Admissible.scaledValue_eq (admissible : register.Admissible)
    (raw : Int) :
    scaledValue raw register.scale false = raw * register.scale := by
  obtain ⟨hundredths, decimals⟩ := exists_integer admissible.scale_decimals
  by_cases plain : register.scale = 1
  · simp [scaledValue, plain]
  · have integer : raw * register.scale * 10 ^ 2 =
        ((raw * hundredths : Int) : ℚ) := by
      rw [Int.cast_mul, ← decimals]
      ring
    simp only [scaledValue, Bool.false_and, if_neg plain]
    exact toPlaces_of_integer integer

theorem Admissible.scaledValue_near (admissible : register.Admissible)
    (value : ℚ) :
    |scaledValue (register.rawWritten value) register.scale false -
        clamp register.minValue register.maxValue value| ≤
      register.scale / 2 := by
  have positive := admissible.scale_pos
  have near := abs_sub_round
    (clamp register.minValue register.maxValue value / register.scale)
  have difference :
      register.rawWritten value * register.scale -
          clamp register.minValue register.maxValue value =
        (register.rawWritten value -
          clamp register.minValue register.maxValue value /
            register.scale) * register.scale := by
    rw [sub_mul, div_mul_cancel₀ _ positive.ne']
  rw [admissible.scaledValue_eq, difference, abs_mul, abs_of_pos positive,
    admissible.rawWritten_eq, abs_sub_comm]
  calc
    _ ≤ 1 / 2 * register.scale :=
      mul_le_mul_of_nonneg_right near positive.le
    _ = register.scale / 2 := by ring

/-- A displayed value is written as the raw value it is displayed for. -/
theorem Admissible.rawWritten_scaledValue
    (admissible : register.Admissible) {raw : Int}
    (low : register.minValue / register.scale ≤ raw)
    (high : raw ≤ register.maxValue / register.scale) :
    register.rawWritten (scaledValue raw register.scale false) =
      raw := by
  rw [admissible.rawWritten_eq, admissible.clamp_div,
    admissible.scaledValue_eq,
    mul_div_cancel_right₀ _ admissible.scale_pos.ne', min_eq_right high,
    max_eq_right low, round_intCast]

end Admissible

/-- Set points are written as the nearest admissible raw value and read back
as they were written. -/
structure WritesNearest (register : AirfiNumberRegister) : Prop where
  inside : ∀ value,
    register.minValue / register.scale ≤ register.rawWritten value ∧
      register.rawWritten value ≤ register.maxValue / register.scale
  nearest : ∀ value, register.rawWritten value =
    round (clamp register.minValue register.maxValue value / register.scale)
  monotone : Monotone register.rawWritten
  displayed : ∀ value,
    |scaledValue (register.rawWritten value) register.scale false -
        clamp register.minValue register.maxValue value| ≤ register.scale / 2
  stable : ∀ raw : Int, register.minValue / register.scale ≤ raw →
    raw ≤ register.maxValue / register.scale →
      register.rawWritten (scaledValue raw register.scale false) = raw

theorem writesNearest_of_admissible (register : AirfiNumberRegister)
    (admissible : register.Admissible) : register.WritesNearest where
  inside := admissible.rawWritten_mem
  nearest := admissible.rawWritten_eq
  monotone := admissible.rawWritten_monotone
  displayed := admissible.scaledValue_near
  stable := fun _ low high => admissible.rawWritten_scaledValue low high

theorem temperatureSetpoint_writesNearest :
    temperatureSetpoint.WritesNearest :=
  writesNearest_of_admissible temperatureSetpoint (by decide +kernel)

/-- The decimal arithmetic of `_to_raw` is there for this value. -/
example : temperatureSetpoint.rawWritten 21.15 = 212 := by decide +kernel

end AirfiNumberRegister

end Airfi
