import Mathlib.Algebra.Order.Round
import Mathlib.Data.Int.Log
import Mathlib.Tactic

/-!
# Rounding

The roundings of Python's `decimal` module and of its `round` on exact
numbers: to the nearest integer with ties away from zero, with ties to the
even neighbour, and the latter at a decimal place.
-/

namespace Rounding

section Rounding

variable {α : Type*} [Field α] [LinearOrder α] [IsStrictOrderedRing α]
  [FloorRing α]

/-- `ROUND_HALF_UP`: ties go away from zero. -/
def halfUp (x : α) : ℤ :=
  if 0 ≤ x then ⌊x + 1 / 2⌋ else ⌈x - 1 / 2⌉

/-- Ties go to the even neighbour. -/
def halfEven (x : α) : ℤ :=
  if Int.fract x < 1 / 2 then ⌊x⌋
  else if 1 / 2 < Int.fract x then ⌊x⌋ + 1
  else if Even ⌊x⌋ then ⌊x⌋
  else ⌊x⌋ + 1

/-- `round(x, places)`. -/
def toPlaces (places : ℕ) (x : α) : α :=
  halfEven (x * 10 ^ places) / 10 ^ places

theorem halfUp_of_nonneg {x : α} (nonneg : 0 ≤ x) : halfUp x = round x := by
  rw [halfUp, if_pos nonneg, round_eq]

@[simp] theorem halfUp_intCast (n : ℤ) : halfUp (n : α) = n := by
  rw [halfUp]
  split
  case isTrue =>
    rw [Int.floor_intCast_add]
    norm_num
  case isFalse =>
    rw [sub_eq_add_neg, Int.ceil_intCast_add]
    norm_num

theorem halfUp_monotone : Monotone (halfUp : α → ℤ) := by
  intro x y le
  by_cases low : 0 ≤ x
  · have high : 0 ≤ y := low.trans le
    rw [halfUp, halfUp, if_pos low, if_pos high]
    exact Int.floor_mono (add_le_add_left le _)
  · by_cases high : 0 ≤ y
    · have below : x - 1 / 2 ≤ ((0 : ℤ) : α) := by
        rw [Int.cast_zero, sub_nonpos]
        exact (not_le.mp low).le.trans (by positivity)
      have above : 0 ≤ y + 1 / 2 := by positivity
      rw [halfUp, halfUp, if_neg low, if_pos high]
      exact (Int.ceil_le.mpr below).trans (Int.floor_nonneg.mpr above)
    · rw [halfUp, halfUp, if_neg low, if_neg high]
      exact Int.ceil_mono (sub_le_sub_right le _)

@[simp] theorem halfEven_intCast (n : ℤ) : halfEven (n : α) = n := by
  rw [halfEven, Int.fract_intCast, Int.floor_intCast]
  exact if_pos (by norm_num)

/-- A number with so few decimals is not rounded. -/
theorem toPlaces_of_integer {places : ℕ} {x : α} {n : ℤ}
    (integer : x * 10 ^ places = n) : toPlaces places x = x := by
  have positive : (10 : α) ^ places ≠ 0 := by positivity
  rw [toPlaces, integer, halfEven_intCast, ← integer]
  exact mul_div_cancel_right₀ x positive

theorem halfEven_near (x : α) : |halfEven x - x| ≤ 1 / 2 := by
  have low := Int.fract_nonneg x
  have high := (Int.fract_lt_one x).le
  have parts := Int.floor_add_fract x
  rw [abs_le, halfEven]
  split
  case isTrue below => constructor <;> linarith
  case isFalse notBelow =>
    split
    case isTrue above =>
      rw [Int.cast_add, Int.cast_one]
      constructor <;> linarith
    case isFalse notAbove =>
      split
      case isTrue even => constructor <;> linarith
      case isFalse odd =>
        rw [Int.cast_add, Int.cast_one]
        constructor <;> linarith

theorem halfEven_monotone : Monotone (halfEven : α → ℤ) := by
  intro x y le
  by_contra reversed
  have step : halfEven y + 1 ≤ halfEven x := by omega
  have step' : (halfEven y : α) + 1 ≤ halfEven x := by exact_mod_cast step
  obtain ⟨-, above⟩ := abs_le.mp (halfEven_near x)
  obtain ⟨below, -⟩ := abs_le.mp (halfEven_near y)
  have same : x = y := le_antisymm le (by linarith)
  rw [same] at step
  omega

theorem halfEven_of_near {x : α} {n : ℤ} (near : |x - n| < 1 / 2) :
    halfEven x = n := by
  have rounded := halfEven_near x
  have close := abs_sub_le (halfEven x : α) x n
  have less : |((halfEven x - n : ℤ) : α)| < 1 := by
    push_cast
    linarith
  have zero : halfEven x - n = 0 := by
    rw [← Int.abs_lt_one_iff]
    exact_mod_cast less
  omega

theorem halfEven_neg (x : α) : halfEven (-x) = -halfEven x := by
  by_cases integer : Int.fract x = 0
  · have same : x = ⌊x⌋ := by
      rw [← sub_eq_zero]
      exact integer
    rw [same, ← Int.cast_neg, halfEven_intCast, halfEven_intCast]
  · have floor : ⌊-x⌋ = -⌊x⌋ - 1 := by
      have ceil := (Int.ceil_eq_floor_add_one_iff_notMem x).mpr
        (by
          rintro ⟨n, rfl⟩
          exact integer (Int.fract_intCast n))
      rw [Int.floor_neg, ceil]
      ring
    have parity : Even (-⌊x⌋ - 1) ↔ ¬Even ⌊x⌋ := by
      rw [Int.even_sub_one, even_neg]
    rw [halfEven, halfEven, Int.fract_neg integer, floor]
    simp only [parity]
    split_ifs <;> first | omega | (exfalso; linarith)

/-! ## Significant digits -/

/-- The place of the last of so many significant digits. -/
def lastPlace (digits : ℕ) (x : α) : α :=
  (10 : α) ^ (Int.log 10 |x| + 1 - digits)

/-- What a decimal context of that precision makes of a number. -/
def toSignificant (digits : ℕ) (x : α) : α :=
  halfEven (x / lastPlace digits x) * lastPlace digits x

theorem lastPlace_pos (digits : ℕ) (x : α) : 0 < lastPlace digits x :=
  zpow_pos (by norm_num) _

theorem toSignificant_near (digits : ℕ) {x : α} (nonzero : x ≠ 0) :
    |toSignificant digits x - x| ≤ |x| * 10 ^ (1 - digits : ℤ) / 2 := by
  have positive := lastPlace_pos digits x
  have near := halfEven_near (x / lastPlace digits x)
  have difference : toSignificant digits x - x =
      (halfEven (x / lastPlace digits x) - x / lastPlace digits x) *
        lastPlace digits x := by
    rw [sub_mul, div_mul_cancel₀ _ positive.ne', toSignificant]
  have place : lastPlace digits x ≤ |x| * 10 ^ (1 - digits : ℤ) := by
    have leading : (10 : α) ^ Int.log 10 |x| ≤ |x| := by
      exact_mod_cast Int.zpow_log_le_self (by norm_num : 1 < 10)
        (abs_pos.mpr nonzero)
    rw [lastPlace, add_sub_assoc, zpow_add₀ (by norm_num)]
    exact mul_le_mul_of_nonneg_right leading (zpow_pos (by norm_num) _).le
  rw [difference, abs_mul, abs_of_pos positive]
  calc
    _ ≤ 1 / 2 * lastPlace digits x :=
      mul_le_mul_of_nonneg_right near positive.le
    _ ≤ 1 / 2 * (|x| * 10 ^ (1 - digits : ℤ)) :=
      mul_le_mul_of_nonneg_left place (by norm_num)
    _ = |x| * 10 ^ (1 - digits : ℤ) / 2 := by ring

/-- Halves with fewer digits are kept. -/
theorem toSignificant_half {digits : ℕ} {n : ℤ}
    (small : |(n / 2 : α)| < 10 ^ (digits - 1 : ℤ)) :
    toSignificant digits (n / 2 : α) = n / 2 := by
  by_cases zero : (n / 2 : α) = 0
  · rw [zero, toSignificant, zero_div]
    simp [halfEven]
  · have short : Int.log 10 |(n / 2 : α)| < digits - 1 := by
      apply (Int.lt_zpow_iff_log_lt (by norm_num : 1 < 10)
        (abs_pos.mpr zero)).mp
      exact_mod_cast small
    obtain ⟨rest, restEq⟩ := Int.le.dest (Int.add_one_le_of_lt short)
    have place : lastPlace digits (n / 2 : α) = (10 ^ (rest + 1))⁻¹ := by
      rw [lastPlace, ← zpow_natCast, ← zpow_neg]
      congr 1
      push_cast
      omega
    have integer : (n / 2 : α) / lastPlace digits (n / 2 : α) =
        ((n * 5 * 10 ^ rest : ℤ) : α) := by
      rw [place, div_inv_eq_mul, pow_succ]
      push_cast
      ring
    rw [toSignificant, integer, halfEven_intCast, ← integer]
    exact div_mul_cancel₀ _ (lastPlace_pos digits _).ne'

end Rounding

end Rounding
