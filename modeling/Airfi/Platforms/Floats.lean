import Airfi.Entries.Identity
import Airfi.Platforms.DecimalContext
import Airfi.Platforms.Descriptors
import Airfi.Printing

/-!
# Displays and set points in floats

The arithmetic of the sensors and number entities as it runs, on binary64
numbers that are printed and read back.  The decimals in the descriptors are
those of the literals of the source.
-/

namespace Airfi

open Rounding Binary64

/-- `scaled_value`, of a scale that is a float. -/
def scaledFloat (raw : Int) (scale : ℚ) (signed : Bool) : ℚ :=
  let raw := if signed && 0x7FFF < raw then raw - 0x10000 else raw
  if scale = 1 then raw
  else nearest (toPlaces 2 (nearest
    (nearest raw * scale)))

/-- A decimal of a few digits, two of them after the point. -/
@[mk_iff]
structure Hundredths (x : ℚ) : Prop where
  decimals : (x * 100).den = 1
  small : |x| ≤ 65535

instance (x : ℚ) : Decidable (Hundredths x) :=
  decidable_of_iff _ (hundredths_iff x).symm

namespace Hundredths

variable {x : ℚ}

theorem exists_integer (hundredths : Hundredths x) :
    ∃ n : Int, x = n / 100 ∧ |n| ≤ 6553500 := by
  obtain ⟨n, same⟩ := AirfiNumberRegister.exists_integer hundredths.decimals
  have size : ((|n| : ℤ) : ℚ) ≤ (6553500 : ℤ) := by
    have small := hundredths.small
    rw [Int.cast_abs, ← same, abs_mul]
    norm_num
    linarith
  exact ⟨n, by rw [← same]; ring, by exact_mod_cast size⟩

theorem hasDigits (hundredths : Hundredths x) : HasDigits 15 x := by
  obtain ⟨n, rfl, small⟩ := hundredths.exists_integer
  refine ⟨n, -2, small.trans_lt (by norm_num), ?_⟩
  norm_num [div_eq_mul_inv]

theorem normal (hundredths : Hundredths x) (nonzero : x ≠ 0) :
    2 ^ (-1021 : ℤ) ≤ |x| := by
  obtain ⟨n, rfl, -⟩ := hundredths.exists_integer
  have filled : n ≠ 0 := by
    rintro rfl
    exact nonzero (by norm_num)
  have one : (1 : ℚ) ≤ |(n : ℚ)| := by
    exact_mod_cast Int.one_le_abs filled
  calc
    (2 : ℚ) ^ (-1021 : ℤ) ≤ 2 ^ (-7 : ℤ) :=
      zpow_le_zpow_right₀ (by norm_num) (by norm_num)
    _ ≤ 1 / 100 := by norm_num
    _ ≤ |(n / 100 : ℚ)| := by
      rw [abs_div, abs_of_pos (by norm_num : (0 : ℚ) < 100)]
      exact div_le_div_of_nonneg_right one (by norm_num)

/-- Hundredths are printed as they are written. -/
@[simp] theorem str_eq (hundredths : Hundredths x) : str (nearest x) = x :=
  str_nearest hundredths.hasDigits hundredths.normal

theorem nearest_inj {y : ℚ} (first : Hundredths x) (second : Hundredths y) :
    nearest x = nearest y ↔ x = y := by
  refine ⟨?_, congrArg _⟩
  intro same
  rw [← first.str_eq, same, second.str_eq]

end Hundredths

/-- The number in a 16-bit register. -/
def registerValue (raw : Nat) (signed : Bool) : Int :=
  if signed then (BitVec.ofNat 16 raw).toInt else raw

/-- A scale that keeps 16-bit numbers apart and among the hundredths. -/
@[mk_iff]
structure DisplayScale (scale : ℚ) : Prop where
  hundredths : Hundredths scale
  nonzero : scale ≠ 0
  le_one : |scale| ≤ 1

instance (scale : ℚ) : Decidable (DisplayScale scale) :=
  decidable_of_iff _ (displayScale_iff scale).symm

theorem registerValue_eq {raw : Nat} (fits : raw < 65536) (signed : Bool) :
    registerValue raw signed =
      if signed && (0x7FFF : Int) < raw then (raw : Int) - 0x10000
      else raw := by
  cases signed with
  | false => rfl
  | true =>
      simp only [registerValue, if_true, BitVec.toInt_eq_toNat_cond,
        BitVec.toNat_ofNat, Nat.mod_eq_of_lt fits, Bool.true_and,
        decide_eq_true_eq]
      split <;> split <;> omega

theorem registerValue_le {raw : Nat} (fits : raw < 65536) (signed : Bool) :
    |registerValue raw signed| ≤ 65535 := by
  rw [registerValue_eq fits]
  split
  case isTrue negative =>
    obtain ⟨-, above⟩ := Bool.and_eq_true_iff.mp negative
    have above' := of_decide_eq_true above
    rw [abs_le]
    omega
  case isFalse =>
    rw [abs_le]
    omega

/-- A register shows another number for every raw value. -/
theorem registerValue_inj {first second : Nat} (firstFits : first < 65536)
    (secondFits : second < 65536) (signed : Bool)
    (same : registerValue first signed = registerValue second signed) :
    first = second := by
  rw [registerValue_eq firstFits, registerValue_eq secondFits] at same
  cases signed <;> grind

namespace DisplayScale

variable {scale : ℚ} {raw : Nat} {signed : Bool}

theorem product (display : DisplayScale scale) {n : Int}
    (small : |n| ≤ 65535) : Hundredths (n * scale) := by
  obtain ⟨k, same⟩ :=
    AirfiNumberRegister.exists_integer display.hundredths.decimals
  constructor
  · rw [mul_assoc, same, ← Int.cast_mul, Rat.den_intCast]
  · have size : |(n : ℚ)| ≤ 65535 := by exact_mod_cast small
    rw [abs_mul]
    calc
      _ ≤ 65535 * 1 :=
        mul_le_mul size display.le_one (abs_nonneg _) (by norm_num)
      _ = 65535 := mul_one _

/-- Two roundings stay with the hundredth they start from. -/
theorem product_error (display : DisplayScale scale) {n : Int}
    (small : |n| ≤ 65535) :
    |nearest (n * nearest scale) - n * scale| < 1 / 1000 := by
  have size : |(n : ℚ)| ≤ 65535 := by exact_mod_cast small
  have least : (2 : ℚ) ^ (-1075 : ℤ) ≤ 1 / 2 ^ 53 := by
    calc
      (2 : ℚ) ^ (-1075 : ℤ) ≤ 2 ^ (-53 : ℤ) :=
        zpow_le_zpow_right₀ (by norm_num) (by norm_num)
      _ = 1 / 2 ^ 53 := by norm_num
  have outer := nearest_error (n * nearest scale)
  have inner : |n * nearest scale - n * scale| ≤ 65535 * (2 / 2 ^ 53) := by
    rw [← mul_sub, abs_mul]
    apply mul_le_mul size _ (abs_nonneg _) (by norm_num)
    have first := nearest_error scale
    have one := display.le_one
    generalize (2 : ℚ) ^ (-1075 : ℤ) = unit at first least
    norm_num at first least ⊢
    linarith
  have bound : |n * nearest scale| ≤ 65536 := by
    have product := (display.product small).small
    have triangle := abs_sub_abs_le_abs_sub (n * nearest scale) (n * scale)
    norm_num at inner
    linarith
  have triangle := abs_sub_le (nearest (n * nearest scale))
    (n * nearest scale) (n * scale)
  generalize (2 : ℚ) ^ (-1075 : ℤ) = unit at outer least
  generalize |n * nearest scale| = product at outer bound
  norm_num at outer inner least ⊢
  linarith

/-- The float displayed is the one of the decimal. -/
theorem scaledFloat_eq (display : DisplayScale scale) (fits : raw < 65536) :
    scaledFloat raw (nearest scale) signed =
      nearest (registerValue raw signed * scale) := by
  have small := registerValue_le fits signed
  have exact := nearest_intCast (small.trans_lt (by norm_num))
  have one : nearest (1 : ℚ) = 1 := by
    exact_mod_cast nearest_intCast (by norm_num : |(1 : ℤ)| < 2 ^ 53)
  have plain : nearest scale = 1 ↔ scale = 1 := by
    conv_lhs => rw [← one]
    exact display.hundredths.nearest_inj (by decide +kernel)
  rw [scaledFloat, ← registerValue_eq fits, exact]
  by_cases unscaled : scale = 1
  · rw [if_pos (plain.mpr unscaled), unscaled, mul_one, exact]
  · rw [if_neg (mt plain.mp unscaled)]
    congr 1
    obtain ⟨k, same, -⟩ := (display.product small).exists_integer
    have near := display.product_error small
    rw [same] at near ⊢
    rw [toPlaces, halfEven_of_near (n := k)]
    · norm_num
    · rw [abs_lt] at near ⊢
      constructor <;> linarith

theorem str_scaledFloat (display : DisplayScale scale) (fits : raw < 65536) :
    str (scaledFloat raw (nearest scale) signed) =
      registerValue raw signed * scale := by
  rw [display.scaledFloat_eq fits]
  exact (display.product (registerValue_le fits signed)).str_eq

theorem scaledFloat_inj (display : DisplayScale scale) {first second : Nat}
    (firstFits : first < 65536) (secondFits : second < 65536)
    (same : scaledFloat first (nearest scale) signed =
      scaledFloat second (nearest scale) signed) : first = second := by
  have shown := congrArg str same
  rw [display.str_scaledFloat firstFits, display.str_scaledFloat secondFits]
    at shown
  apply registerValue_inj firstFits secondFits signed
  exact_mod_cast mul_right_cancel₀ display.nonzero shown

end DisplayScale

/-! ## Sensors -/

namespace AirfiSensorRegister

variable (self : AirfiSensorRegister)

/-- What `AirfiSensor.native_value` shows of a raw value, in floats. -/
def shownFloat (raw : Nat) : SensorValue :=
  if self.isVersion then .text (formatVersion raw)
  else .number (scaledFloat raw (nearest self.scale) self.signed)

/-- `AirfiSensor.native_value`, in floats. -/
def nativeFloat (data : AirfiData) : Option SensorValue :=
  (data.table self.registerType self.address).map self.shownFloat

end AirfiSensorRegister

/-- The last two parts of a version are single digits. -/
theorem formatVersion_injective : Function.Injective formatVersion := by
  intro first second same
  have digit : ∀ n < 10, (Nat.repr n).toList.length = 1 := by decide
  have minor := digit (first / 10 % 10) (Nat.mod_lt _ (by norm_num))
  have minor' := digit (second / 10 % 10) (Nat.mod_lt _ (by norm_num))
  have patch := digit (first % 10) (Nat.mod_lt _ (by norm_num))
  have patch' := digit (second % 10) (Nat.mod_lt _ (by norm_num))
  have lists := congrArg String.toList same
  simp only [formatVersion, String.toList_append] at lists
  obtain ⟨lists, sameC⟩ := List.append_inj' lists (by rw [patch, patch'])
  obtain ⟨lists, -⟩ := List.append_inj' lists rfl
  obtain ⟨lists, sameB⟩ := List.append_inj' lists (by rw [minor, minor'])
  obtain ⟨sameA, -⟩ := List.append_inj' lists rfl
  have major := serialId_injective (String.toList_injective sameA)
  have middle := serialId_injective (String.toList_injective sameB)
  have last := serialId_injective (String.toList_injective sameC)
  omega

/-- A sensor shows the number in its register, digit by digit, and another
state for every raw value. -/
structure AirfiSensorRegister.ShowsExactly (register : AirfiSensorRegister) :
    Prop where
  digits : register.isVersion = false → ∀ raw < 65536, ∃ float,
    register.shownFloat raw = .number float ∧
      str float = registerValue raw register.signed * register.scale
  distinct : ∀ first < 65536, ∀ second < 65536,
    register.shownFloat first = register.shownFloat second → first = second

theorem sensorRegisters_display :
    ∀ register ∈ sensorRegisters, DisplayScale register.scale := by
  decide +kernel

theorem sensors_exact :
    ∀ register ∈ sensorRegisters, register.ShowsExactly := by
  intro register listed
  have display := sensorRegisters_display register listed
  constructor
  · intro number raw fits
    refine ⟨scaledFloat raw (nearest register.scale) register.signed, ?_, ?_⟩
    · rw [AirfiSensorRegister.shownFloat, number]
      rfl
    · exact display.str_scaledFloat fits
  · intro first firstFits second secondFits same
    rw [AirfiSensorRegister.shownFloat, AirfiSensorRegister.shownFloat]
      at same
    cases version : register.isVersion with
    | true =>
        simp only [version, if_true, SensorValue.text.injEq] at same
        exact formatVersion_injective same
    | false =>
        simp only [version, Bool.false_eq_true, if_false,
          SensorValue.number.injEq] at same
        exact display.scaledFloat_inj firstFits secondFits same

theorem sensors_exact_outdoor :
    ∃ float,
      (AirfiSensorRegister.temperature 4 "outdoor_air_temperature").shownFloat
        65501 = .number float ∧ str float = -3.5 := by
  have exact := sensors_exact
    (.temperature 4 "outdoor_air_temperature") (by simp [sensorRegisters])
  obtain ⟨float, shown, digits⟩ := exact.digits rfl 65501 (by decide)
  refine ⟨float, shown, digits.trans ?_⟩
  decide +kernel

/-! ## Set points -/

/-- `_to_raw`, of floats. -/
def toRawFloat (value scale : ℚ) : Int :=
  toRawInContext (str value) (str scale)

namespace AirfiNumberRegister

variable (self : AirfiNumberRegister)

/-- `AirfiNumber.native_value`, in floats. -/
def nativeFloat (holding : RegisterMap) : Option ℚ :=
  (holding self.address).map fun raw =>
    scaledFloat raw (nearest self.scale) false

/-- What `async_set_native_value` writes to the register, in floats. -/
def rawWrittenFloat (value : ℚ) : Int :=
  let scale := nearest self.scale
  let raw := toRawFloat value scale
  max (toRawFloat (nearest self.minValue) scale)
    (min (toRawFloat (nearest self.maxValue) scale) raw)

variable {self}

theorem Admissible.bounds_hundredths (admissible : self.Admissible)
    (display : DisplayScale self.scale) :
    Hundredths self.minValue ∧ Hundredths self.maxValue := by
  obtain ⟨low, high, lowEq, highEq, lowFits, ordered, highFits⟩ :=
    admissible.exists_bounds
  rw [div_eq_iff display.nonzero] at lowEq highEq
  rw [lowEq, highEq]
  exact ⟨display.product (abs_le.mpr (by omega)),
    display.product (abs_le.mpr (by omega))⟩

/-- Floats are written as the decimals they are printed as. -/
theorem Admissible.rawWrittenFloat_eq (admissible : self.Admissible)
    (display : DisplayScale self.scale) {value : ℚ}
    (isFloat : IsFloat value) :
    self.rawWrittenFloat value = self.rawWritten (str value) := by
  obtain ⟨low, high⟩ := admissible.bounds_hundredths display
  have printedScale : IsPrinted self.scale :=
    display.hundredths.hasDigits.mono (by norm_num)
  have printedValue : IsPrinted (str value) :=
    (prints_str isFloat).hasDigits isFloat
  rw [rawWrittenFloat, ← rawWrittenInContext_eq admissible printedScale
    printedValue, rawWrittenInContext]
  simp only [toRawFloat, display.hundredths.str_eq, low.str_eq, high.str_eq]

end AirfiNumberRegister

theorem numberRegisters_display :
    ∀ register ∈ numberRegisters, DisplayScale register.scale := by
  decide +kernel

section Listed

variable {register : AirfiNumberRegister}

theorem rawWrittenFloat_eq (listed : register ∈ numberRegisters) {value : ℚ}
    (isFloat : IsFloat value) :
    register.rawWrittenFloat value = register.rawWritten (str value) :=
  (numberRegisters_admissible register listed).rawWrittenFloat_eq
    (numberRegisters_display register listed) isFloat

/-- A raw value that was written is shown digit by digit, within half a step
of what was entered, and entering what is shown writes it again. -/
theorem scaledFloat_of_written (listed : register ∈ numberRegisters)
    {value : ℚ} (isFloat : IsFloat value) {raw : Nat}
    (written : register.rawWrittenFloat value = raw) :
    let shown := scaledFloat raw (nearest register.scale) false
    str shown = raw * register.scale ∧
      |str shown - clamp register.minValue register.maxValue (str value)| ≤
        register.scale / 2 ∧
      register.rawWrittenFloat shown = raw := by
  have admissible := numberRegisters_admissible register listed
  have display := numberRegisters_display register listed
  rw [rawWrittenFloat_eq listed isFloat] at written
  have fits := (admissible.rawWritten_fits (str value)).2
  obtain ⟨above, below⟩ := admissible.rawWritten_mem (str value)
  have near := admissible.scaledValue_near (str value)
  have stable := admissible.rawWritten_scaledValue above below
  rw [written] at fits near stable
  rw [admissible.scaledValue_eq] at near stable
  have rawFits : raw < 65536 := by omega
  have shownFloat : IsFloat (scaledFloat raw (nearest register.scale)
      false) := by
    rw [display.scaledFloat_eq rawFits]
    exact isFloat_nearest _
  have digits := @DisplayScale.str_scaledFloat _ _ false display rawFits
  refine ⟨digits, ?_, ?_⟩
  · rw [digits]
    exact near
  · rw [rawWrittenFloat_eq listed shownFloat, digits]
    exact stable

end Listed

end Airfi
