import Airfi.Platforms.Number

/-!
# The decimal context

The division of `_to_raw` keeps 28 significant digits.  A printed float has
at most 17, so that no quotient of two of them is rounded across a half, and
the raw value written is the one of exact division.
-/

namespace Airfi

open Rounding

/-- A decimal with at most 17 significant digits, as floats are printed. -/
def IsPrinted (x : ℚ) : Prop :=
  ∃ digits exponent : ℤ, |digits| < 10 ^ 17 ∧ x = digits * 10 ^ exponent

/-- `_to_raw` with the division of the default context. -/
def toRawInContext (value scale : ℚ) : Int :=
  halfUp (toSignificant 28 (value / scale))

def AirfiNumberRegister.rawWrittenInContext (register : AirfiNumberRegister)
    (value : ℚ) : Int :=
  max (toRawInContext register.minValue register.scale)
    (min (toRawInContext register.maxValue register.scale)
      (toRawInContext value register.scale))

/-- A fraction that is no half is as far from it as its denominator says. -/
theorem half_gap {numerator denominator half : ℤ} (positive : 0 < denominator)
    (apart : (numerator / denominator : ℚ) ≠ half / 2) :
    1 / (2 * denominator : ℚ) ≤
      |(numerator / denominator : ℚ) - half / 2| := by
  have positive' : (0 : ℚ) < denominator := by exact_mod_cast positive
  have difference : (numerator / denominator : ℚ) - half / 2 =
      ((2 * numerator - half * denominator : ℤ) : ℚ) /
        (2 * denominator) := by
    push_cast
    field_simp
  have nonzero : 2 * numerator - half * denominator ≠ 0 := by
    intro zero
    rw [zero, Int.cast_zero, zero_div, sub_eq_zero] at difference
    exact apart difference
  have one : (1 : ℚ) ≤
      |((2 * numerator - half * denominator : ℤ) : ℚ)| := by
    exact_mod_cast Int.one_le_abs nonzero
  rw [difference, abs_div,
    abs_of_pos (by positivity : (0 : ℚ) < 2 * denominator)]
  exact div_le_div_of_nonneg_right one (by positivity)

/-- The digits of a positive printed float are a positive integer. -/
theorem IsPrinted.exists_digits {x : ℚ} (printed : IsPrinted x)
    (positive : 0 < x) :
    ∃ digits exponent : ℤ, 0 < digits ∧ (digits : ℚ) < 10 ^ 17 ∧
      x = digits * 10 ^ exponent := by
  obtain ⟨digits, exponent, short, rfl⟩ := printed
  have power : (0 : ℚ) < 10 ^ exponent := zpow_pos (by norm_num) _
  have digitsPositive : 0 < digits := by
    exact_mod_cast (pos_iff_pos_of_mul_pos positive).mpr power
  rw [abs_of_pos digitsPositive] at short
  exact ⟨digits, exponent, digitsPositive, by exact_mod_cast short, rfl⟩

/-- A quotient of printed floats that is no half is well away from it. -/
theorem printed_gap {value scale : ℚ} (printedValue : IsPrinted value)
    (printedScale : IsPrinted scale) (valuePositive : 0 < value)
    (scalePositive : 0 < scale) {half : ℤ}
    (apart : value / scale ≠ half / 2) :
    min 1 (value / scale) / (2 * 10 ^ 17) < |value / scale - half / 2| := by
  obtain ⟨n, e, nPositive, nShort, rfl⟩ :=
    printedValue.exists_digits valuePositive
  obtain ⟨m, f, mPositive, mShort, rfl⟩ :=
    printedScale.exists_digits scalePositive
  have nPositive' : (0 : ℚ) < n := by exact_mod_cast nPositive
  have mPositive' : (0 : ℚ) < m := by exact_mod_cast mPositive
  have ten : (10 : ℚ) ≠ 0 := by norm_num
  rcases le_total f e with larger | smaller
  · obtain ⟨rest, rfl⟩ := Int.le.dest larger
    have quotient : (n * 10 ^ (f + rest) / (m * 10 ^ f) : ℚ) =
        ((n * 10 ^ rest : ℤ) : ℚ) / m := by
      rw [zpow_add₀ ten, zpow_natCast]
      push_cast
      field_simp
    rw [quotient] at apart ⊢
    calc
      _ ≤ 1 / (2 * 10 ^ 17 : ℚ) :=
        div_le_div_of_nonneg_right (min_le_left _ _) (by positivity)
      _ < 1 / (2 * m : ℚ) :=
        one_div_lt_one_div_of_lt (by positivity) (by linarith)
      _ ≤ _ := half_gap mPositive apart
  · obtain ⟨rest, rfl⟩ := Int.le.dest smaller
    have quotient : (n * 10 ^ e / (m * 10 ^ (e + rest)) : ℚ) =
        (n : ℚ) / ((m * 10 ^ rest : ℤ) : ℚ) := by
      rw [zpow_add₀ ten, zpow_natCast]
      push_cast
      field_simp
    rw [quotient] at apart ⊢
    have denominator : 0 < m * 10 ^ rest := by positivity
    have denominator' : (0 : ℚ) < ((m * 10 ^ rest : ℤ) : ℚ) := by
      exact_mod_cast denominator
    calc
      _ ≤ (n : ℚ) / ((m * 10 ^ rest : ℤ) : ℚ) / (2 * 10 ^ 17) :=
        div_le_div_of_nonneg_right (min_le_right _ _) (by positivity)
      _ = n / 10 ^ 17 * (1 / (2 * ((m * 10 ^ rest : ℤ) : ℚ))) := by
        field_simp
      _ < 1 * (1 / (2 * ((m * 10 ^ rest : ℤ) : ℚ))) := by
        apply mul_lt_mul_of_pos_right _ (by positivity)
        rwa [div_lt_one (by positivity)]
      _ = 1 / (2 * ((m * 10 ^ rest : ℤ) : ℚ)) := one_mul _
      _ ≤ _ := half_gap denominator apart

/-- The context rounds to the same side of every half. -/
theorem toSignificant_error {x : ℚ} (positive : 0 < x) (small : x ≤ 10 ^ 9) :
    |toSignificant 28 x - x| < min 1 x / (2 * 10 ^ 17) := by
  have near := toSignificant_near 28 positive.ne'
  have precision : (10 : ℚ) ^ (1 - (28 : ℕ) : ℤ) = 1 / 10 ^ 27 := by
    norm_num
  rw [abs_of_pos positive, precision] at near
  refine near.trans_lt ?_
  rcases min_cases 1 x with ⟨same, le⟩ | ⟨same, lt⟩
  · rw [same]
    linarith
  · rw [same]
    linarith

/-- A rounding that keeps halves and the side of every half keeps the nearest
integer. -/
theorem round_eq_of_sides {x rounded error : ℚ}
    (near : |rounded - x| < error)
    (kept : ∀ half : ℤ, x = half / 2 → rounded = half / 2)
    (gap : ∀ half : ℤ, x ≠ half / 2 → error < |x - half / 2|) :
    round rounded = round x := by
  obtain ⟨low, high⟩ := (@round_eq_iff _ _ _ _ _ x (round x)).mp rfl
  obtain ⟨below, above⟩ := abs_lt.mp near
  rw [round_eq_iff]
  constructor
  · by_cases same : x = ((2 * round x - 1 : ℤ) : ℚ) / 2
    · rw [kept _ same]
      push_cast
      linarith
    · have apart := gap _ same
      push_cast at apart
      rw [abs_of_nonneg (by linarith)] at apart
      linarith
  · have different : x ≠ ((2 * round x + 1 : ℤ) : ℚ) / 2 := by
      push_cast
      intro same
      linarith
    have apart := gap _ different
    push_cast at apart
    rw [abs_of_nonpos (by linarith)] at apart
    linarith

/-- Up to 10⁹ the context changes no raw value. -/
theorem toRawInContext_eq {value scale : ℚ} (printedValue : IsPrinted value)
    (printedScale : IsPrinted scale) (valuePositive : 0 < value)
    (scalePositive : 0 < scale) (small : value / scale ≤ 10 ^ 9) :
    toRawInContext value scale = toRaw value scale := by
  have positive : 0 < value / scale := div_pos valuePositive scalePositive
  have error := toSignificant_error positive small
  have nonneg : 0 ≤ toSignificant 28 (value / scale) := by
    have low := (abs_lt.mp error).1
    have bound := min_le_right 1 (value / scale)
    linarith
  rw [toRawInContext, toRaw, halfUp_of_nonneg nonneg,
    halfUp_of_nonneg positive.le]
  apply round_eq_of_sides error
  · intro half same
    rw [same] at positive small ⊢
    apply toSignificant_half
    rw [abs_of_pos positive]
    exact small.trans_lt (by norm_num)
  · intro half apart
    exact printed_gap printedValue printedScale valuePositive scalePositive
      apart

/-- The context keeps every raw value that fits a register. -/
theorem toRawInContext_of_integer {value scale : ℚ} {raw : Int}
    (quotient : value / scale = raw) (low : 0 ≤ raw) (high : raw ≤ 65535) :
    toRawInContext value scale = raw := by
  have low' : (0 : ℚ) ≤ raw := by exact_mod_cast low
  have high' : (raw : ℚ) ≤ 65535 := by exact_mod_cast high
  have half : (raw : ℚ) = ((2 * raw : ℤ) : ℚ) / 2 := by
    push_cast
    ring
  have kept : toSignificant 28 (raw : ℚ) = raw := by
    rw [half]
    apply toSignificant_half
    rw [← half, abs_of_nonneg low']
    exact high'.trans_lt (by norm_num)
  rw [toRawInContext, quotient, kept, halfUp_intCast]

/-- Outside the raw values of a register the context keeps the side. -/
theorem toSignificant_side {x : ℚ} (nonzero : x ≠ 0) :
    |toSignificant 28 x - x| < |x| / 2 := by
  have near := toSignificant_near 28 nonzero
  have precision : (10 : ℚ) ^ (1 - (28 : ℕ) : ℤ) = 1 / 10 ^ 27 := by
    norm_num
  rw [precision] at near
  have positive := abs_pos.mpr nonzero
  linarith

theorem halfUp_nonpos {x : ℚ} (nonpos : x ≤ 0) : halfUp x ≤ 0 := by
  have bound := halfUp_monotone nonpos
  rwa [← Int.cast_zero, halfUp_intCast] at bound

/-- What is not positive is written as the lower bound. -/
theorem toRawInContext_nonpos {value scale : ℚ} (nonpos : value ≤ 0)
    (positive : 0 < scale) :
    toRaw value scale ≤ 0 ∧ toRawInContext value scale ≤ 0 := by
  have quotient : value / scale ≤ 0 :=
    div_nonpos_of_nonpos_of_nonneg nonpos positive.le
  refine ⟨halfUp_nonpos quotient, halfUp_nonpos ?_⟩
  by_cases zero : value / scale = 0
  · rw [zero, toSignificant, zero_div]
    simp [halfEven]
  · have near := (abs_lt.mp (toSignificant_side zero)).2
    rw [abs_of_nonpos quotient] at near
    linarith

/-- What is far above every register is written as the upper bound. -/
theorem le_toRawInContext {value scale : ℚ}
    (large : 10 ^ 9 < value / scale) :
    65535 ≤ toRaw value scale ∧ 65535 ≤ toRawInContext value scale := by
  have positive : 0 < value / scale := lt_trans (by norm_num) large
  have near := (abs_lt.mp (toSignificant_side positive.ne')).1
  rw [abs_of_pos positive] at near
  have bound : ∀ x : ℚ, 65535 ≤ x → 65535 ≤ halfUp x := by
    intro x le
    have raised := halfUp_monotone le
    rwa [← Int.cast_ofNat, halfUp_intCast] at raised
  exact ⟨bound _ (by linarith), bound _ (by linarith)⟩

/-- The raw value of a printed float is the one of exact arithmetic. -/
theorem AirfiNumberRegister.rawWrittenInContext_eq
    {register : AirfiNumberRegister} (admissible : register.Admissible)
    (printedScale : IsPrinted register.scale) {value : ℚ}
    (printedValue : IsPrinted value) :
    register.rawWrittenInContext value = register.rawWritten value := by
  have scalePositive := admissible.scale_pos
  obtain ⟨low, high, lowEq, highEq, lowFits, ordered, highFits⟩ :=
    admissible.exists_bounds
  rw [rawWrittenInContext, rawWritten,
    toRawInContext_of_integer lowEq lowFits (ordered.trans highFits),
    toRawInContext_of_integer highEq (lowFits.trans ordered) highFits,
    toRaw_of_integer lowEq, toRaw_of_integer highEq]
  rcases le_or_gt value 0 with nonpos | positive
  · obtain ⟨exact, context⟩ := toRawInContext_nonpos nonpos scalePositive
    omega
  · rcases le_or_gt (value / register.scale) (10 ^ 9) with small | large
    · rw [toRawInContext_eq printedValue printedScale positive scalePositive
        small]
    · obtain ⟨exact, context⟩ := le_toRawInContext large
      omega

end Airfi
