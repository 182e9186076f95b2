import Airfi.Rounding

/-!
# Binary64 numbers

Rounding to 53 significant bits, ties to even, above the least subnormal.
There is no overflow.
-/

namespace Binary64

open Rounding

/-- The place of the last bit: 53 significant ones, but no subnormal place. -/
def lastBit (x : ℚ) : ℚ := 2 ^ max (Int.log 2 |x| - 52) (-1074)

/-- What arithmetic makes of an exact result, and reading of a decimal. -/
def nearest (x : ℚ) : ℚ := halfEven (x / lastBit x) * lastBit x

/-- A finite number of the format. -/
def IsFloat (x : ℚ) : Prop := nearest x = x

theorem lastBit_pos (x : ℚ) : 0 < lastBit x :=
  zpow_pos (by norm_num) _

theorem lastBit_le {x : ℚ} (nonzero : x ≠ 0) :
    lastBit x ≤ |x| / 2 ^ 52 + 2 ^ (-1074 : ℤ) := by
  have leading : (2 : ℚ) ^ (Int.log 2 |x| - 52) ≤ |x| / 2 ^ 52 := by
    rw [zpow_sub₀ (by norm_num)]
    apply div_le_div_of_nonneg_right _ (by norm_num)
    exact_mod_cast Int.zpow_log_le_self (by norm_num : 1 < 2)
      (abs_pos.mpr nonzero)
  have least : (0 : ℚ) < 2 ^ (-1074 : ℤ) := zpow_pos (by norm_num) _
  have nonneg : 0 ≤ |x| / 2 ^ 52 := by positivity
  rcases max_cases (Int.log 2 |x| - 52) (-1074) with ⟨same, -⟩ | ⟨same, -⟩
  · rw [lastBit, same]
    linarith
  · rw [lastBit, same]
    linarith

@[simp] theorem nearest_zero : nearest 0 = 0 := by
  simp [nearest, halfEven]

theorem nearest_error (x : ℚ) :
    |nearest x - x| ≤ |x| / 2 ^ 53 + 2 ^ (-1075 : ℤ) := by
  by_cases zero : x = 0
  · rw [zero, nearest_zero, sub_zero, abs_zero, zero_div, zero_add]
    exact (zpow_pos (by norm_num) _).le
  · have positive := lastBit_pos x
    have difference : nearest x - x =
        (halfEven (x / lastBit x) - x / lastBit x) * lastBit x := by
      rw [sub_mul, div_mul_cancel₀ _ positive.ne', nearest]
    have least : (2 : ℚ) ^ (-1074 : ℤ) = 2 ^ (-1075 : ℤ) * 2 := by
      rw [← zpow_add_one₀ (by norm_num)]
      norm_num
    rw [difference, abs_mul, abs_of_pos positive]
    calc
      _ ≤ 1 / 2 * lastBit x :=
        mul_le_mul_of_nonneg_right (halfEven_near _) positive.le
      _ ≤ 1 / 2 * (|x| / 2 ^ 52 + 2 ^ (-1074 : ℤ)) :=
        mul_le_mul_of_nonneg_left (lastBit_le zero) (by norm_num)
      _ = |x| / 2 ^ 53 + 2 ^ (-1075 : ℤ) := by
        rw [least]
        ring

/-- What is nearer to a multiple of its last bit than half of it reads as
that. -/
theorem nearest_of_near {x y : ℚ} {n : ℤ} (multiple : x = n * lastBit y)
    (near : |y - x| < lastBit y / 2) : nearest y = x := by
  have positive := lastBit_pos y
  have scaled : |y / lastBit y - n| < 1 / 2 := by
    have difference : y / lastBit y - n = (y - x) / lastBit y := by
      rw [sub_div, multiple, mul_div_cancel_right₀ _ positive.ne']
    rw [difference, abs_div, abs_of_pos positive, div_lt_iff₀ positive]
    linarith
  rw [nearest, halfEven_of_near scaled, multiple]

/-- Integers of 53 bits at any place are in the format. -/
theorem isFloat_of_lt {n exponent : ℤ} (small : |n| < 2 ^ 53)
    (least : -1074 ≤ exponent) : IsFloat (n * 2 ^ exponent) := by
  have power : (0 : ℚ) < 2 ^ exponent := zpow_pos (by norm_num) _
  by_cases zero : n = 0
  · rw [zero, Int.cast_zero, zero_mul]
    exact nearest_zero
  have nonzero : (n * 2 ^ exponent : ℚ) ≠ 0 :=
    mul_ne_zero (Int.cast_ne_zero.mpr zero) power.ne'
  have order : Int.log 2 |(n * 2 ^ exponent : ℚ)| < 53 + exponent := by
    apply (Int.lt_zpow_iff_log_lt (by norm_num : 1 < 2)
      (abs_pos.mpr nonzero)).mp
    have size : |(n : ℚ)| < 2 ^ 53 := by exact_mod_cast small
    rw [abs_mul, abs_of_pos power, Nat.cast_ofNat, zpow_add₀ (by norm_num)]
    exact mul_lt_mul_of_pos_right size power
  obtain ⟨rest, restEq⟩ := Int.le.dest
    (show max (Int.log 2 |(n * 2 ^ exponent : ℚ)| - 52) (-1074) ≤ exponent
      by omega)
  apply nearest_of_near (n := n * 2 ^ rest)
  · have place : (2 : ℚ) ^ exponent =
        ((2 ^ rest : ℤ) : ℚ) * lastBit (n * 2 ^ exponent) := by
      rw [lastBit, mul_comm, Int.cast_pow, Int.cast_ofNat, ← zpow_natCast,
        ← zpow_add₀ (by norm_num), restEq]
    rw [Int.cast_mul, mul_assoc, ← place]
  · rw [sub_self, abs_zero]
    exact half_pos (lastBit_pos _)

theorem isFloat_of_le {n exponent : ℤ} (small : |n| ≤ 2 ^ 53)
    (least : -1074 ≤ exponent) : IsFloat (n * 2 ^ exponent) := by
  rcases small.lt_or_eq with short | full
  · exact isFloat_of_lt short least
  · have power : (n * 2 ^ exponent : ℚ) = n.sign * 2 ^ (53 + exponent) := by
      conv_lhs => rw [← Int.sign_mul_abs n, full]
      rw [zpow_add₀ (by norm_num)]
      push_cast
      ring
    have filled : n ≠ 0 := by
      rintro rfl
      norm_num at full
    rw [power]
    apply isFloat_of_lt _ (by omega)
    rw [Int.abs_sign_of_ne_zero filled]
    norm_num

theorem nearest_intCast {n : ℤ} (small : |n| < 2 ^ 53) :
    nearest (n : ℚ) = n := by
  have integer := isFloat_of_lt small (by norm_num : -1074 ≤ (0 : ℤ))
  rwa [zpow_zero, mul_one] at integer

theorem le_lastBit (x : ℚ) : 2 ^ (Int.log 2 |x| + 1) ≤ lastBit x * 2 ^ 53 := by
  have place : (2 : ℚ) ^ (Int.log 2 |x| + 1) =
      2 ^ (Int.log 2 |x| - 52) * 2 ^ 53 := by
    rw [← zpow_natCast, ← zpow_add₀ (by norm_num)]
    congr 1
    push_cast
    omega
  rw [place, lastBit]
  exact mul_le_mul_of_nonneg_right
    (zpow_le_zpow_right₀ (by norm_num) (le_max_left _ _)) (by norm_num)

/-- Rounding gives numbers of the format. -/
theorem isFloat_nearest (x : ℚ) : IsFloat (nearest x) := by
  apply isFloat_of_le _ (le_max_right _ _)
  have place := lastBit_pos x
  have below : |x / lastBit x| ≤ 2 ^ 53 := by
    rw [abs_div, abs_of_pos place, div_le_iff₀ place, mul_comm]
    have above : |x| < (2 : ℚ) ^ (Int.log 2 |x| + 1) := by
      exact_mod_cast Int.lt_zpow_succ_log_self (by norm_num : 1 < 2) |x|
    exact above.le.trans (le_lastBit x)
  obtain ⟨low, high⟩ := abs_le.mp below
  have lower := halfEven_monotone low
  have upper := halfEven_monotone high
  have bound : ((2 ^ 53 : ℤ) : ℚ) = 2 ^ 53 := by norm_num
  rw [← bound, ← Int.cast_neg, halfEven_intCast] at lower
  rw [← bound, halfEven_intCast] at upper
  exact abs_le.mpr ⟨lower, upper⟩

theorem IsFloat.exists_multiple {x : ℚ} (isFloat : IsFloat x) :
    ∃ n : ℤ, x = n * lastBit x :=
  ⟨_, isFloat.symm⟩

/-- Numbers end a last bit below the next power of two. -/
theorem IsFloat.add_lastBit_le {x : ℚ} (isFloat : IsFloat x)
    (nonzero : x ≠ 0) : |x| + lastBit x ≤ 2 ^ (Int.log 2 |x| + 1) := by
  obtain ⟨n, same⟩ := isFloat.exists_multiple
  have positive := lastBit_pos x
  have size : |x| = |n| * lastBit x := by
    conv_lhs => rw [same, abs_mul, abs_of_pos positive]
    push_cast
    rfl
  have least : lastBit x ≤ |x| := by
    have filled : n ≠ 0 := by
      rintro rfl
      exact nonzero (by simpa using same)
    have one : (1 : ℚ) ≤ |n| := by exact_mod_cast Int.one_le_abs filled
    rw [size]
    exact le_mul_of_one_le_left positive.le one
  have order : max (Int.log 2 |x| - 52) (-1074) ≤ Int.log 2 |x| := by
    apply (Int.zpow_le_iff_le_log (by norm_num : 1 < 2)
      (abs_pos.mpr nonzero)).mp
    exact_mod_cast least
  obtain ⟨rest, restEq⟩ := Int.le.dest order
  have power : (2 : ℚ) ^ (Int.log 2 |x| + 1) =
      ((2 ^ (rest + 1) : ℤ) : ℚ) * lastBit x := by
    rw [← restEq, lastBit, add_assoc, zpow_add₀ (by norm_num), mul_comm]
    push_cast
    rfl
  have above : |x| < (2 : ℚ) ^ (Int.log 2 |x| + 1) := by
    exact_mod_cast Int.lt_zpow_succ_log_self (by norm_num : 1 < 2) |x|
  rw [power, size] at above ⊢
  have less : |n| < 2 ^ (rest + 1) := by
    exact_mod_cast lt_of_mul_lt_mul_right above positive.le
  have step : ((|n| : ℤ) : ℚ) + 1 ≤ ((2 ^ (rest + 1) : ℤ) : ℚ) := by
    exact_mod_cast less
  rw [← add_one_mul]
  exact mul_le_mul_of_nonneg_right step positive.le

/-! ## Monotonicity -/

@[simp] theorem lastBit_neg (x : ℚ) : lastBit (-x) = lastBit x := by
  rw [lastBit, lastBit, abs_neg]

@[simp] theorem nearest_neg (x : ℚ) : nearest (-x) = -nearest x := by
  rw [nearest, nearest, lastBit_neg, neg_div, halfEven_neg, Int.cast_neg,
    neg_mul]

theorem nearest_le_multiple {x : ℚ} {n : ℤ} (le : x ≤ n * lastBit x) :
    nearest x ≤ n * lastBit x := by
  have positive := lastBit_pos x
  have rounded := halfEven_monotone ((div_le_iff₀ positive).mpr le)
  rw [halfEven_intCast] at rounded
  exact mul_le_mul_of_nonneg_right (by exact_mod_cast rounded) positive.le

theorem multiple_le_nearest {x : ℚ} {n : ℤ} (le : n * lastBit x ≤ x) :
    n * lastBit x ≤ nearest x := by
  have positive := lastBit_pos x
  have rounded := halfEven_monotone ((le_div_iff₀ positive).mpr le)
  rw [halfEven_intCast] at rounded
  exact mul_le_mul_of_nonneg_right (by exact_mod_cast rounded) positive.le

theorem nearest_nonneg {x : ℚ} (nonneg : 0 ≤ x) : 0 ≤ nearest x := by
  have zero : ((0 : ℤ) : ℚ) * lastBit x ≤ x := by simpa using nonneg
  simpa using multiple_le_nearest zero

theorem exists_lastBit_eq {x y : ℚ} (order : Int.log 2 |x| ≤ Int.log 2 |y|) :
    ∃ rest : ℕ, lastBit y = ((2 ^ rest : ℤ) : ℚ) * lastBit x := by
  obtain ⟨rest, same⟩ := Int.le.dest
    (max_le_max_right (-1074) (sub_le_sub_right order 52))
  refine ⟨rest, ?_⟩
  rw [lastBit, lastBit, ← same, zpow_add₀ (by norm_num), mul_comm]
  push_cast
  rfl

/-- A power of two lies between numbers with other last bits. -/
theorem nearest_le_of_pos {x y : ℚ} (positive : 0 < x) (le : x ≤ y) :
    nearest x ≤ nearest y := by
  have yPositive := positive.trans_le le
  have order : Int.log 2 |x| ≤ Int.log 2 |y| := by
    rw [abs_of_pos positive, abs_of_pos yPositive]
    exact Int.log_mono_right positive le
  obtain ⟨rest, finer⟩ := exists_lastBit_eq order
  by_cases same : lastBit y = lastBit x
  · have bit := lastBit_pos x
    rw [nearest, nearest, same]
    apply mul_le_mul_of_nonneg_right _ bit.le
    exact_mod_cast halfEven_monotone (div_le_div_of_nonneg_right le bit.le)
  · have different : Int.log 2 |x| < Int.log 2 |y| := by
      apply order.lt_of_ne
      intro equal
      exact same (by rw [lastBit, lastBit, equal])
    have normal : max (Int.log 2 |y| - 52) (-1074) = Int.log 2 |y| - 52 := by
      apply max_eq_left
      by_contra subnormal
      apply same
      rw [lastBit, lastBit]
      congr 1
      omega
    have power : (2 : ℚ) ^ Int.log 2 |y| = ((2 ^ 52 : ℤ) : ℚ) * lastBit y := by
      rw [lastBit, normal, zpow_sub₀ (by norm_num), Int.cast_pow]
      norm_num
      ring
    have below : x ≤ (2 : ℚ) ^ Int.log 2 |y| := by
      rw [← abs_of_pos positive]
      exact_mod_cast ((Int.lt_zpow_iff_log_lt (by norm_num : 1 < 2)
        (abs_pos.mpr positive.ne')).mpr different).le
    have above : (2 : ℚ) ^ Int.log 2 |y| ≤ y := by
      conv_rhs => rw [← abs_of_pos yPositive]
      exact_mod_cast Int.zpow_log_le_self (by norm_num : 1 < 2)
        (abs_pos.mpr yPositive.ne')
    have power' : (2 : ℚ) ^ Int.log 2 |y| =
        ((2 ^ 52 * 2 ^ rest : ℤ) : ℚ) * lastBit x := by
      rw [power, finer, Int.cast_mul, mul_assoc]
    calc
      nearest x ≤ (2 : ℚ) ^ Int.log 2 |y| := by
        rw [power'] at below ⊢
        exact nearest_le_multiple below
      _ ≤ nearest y := by
        rw [power] at above ⊢
        exact multiple_le_nearest above

theorem nearest_monotone : Monotone nearest := by
  intro x y le
  rcases lt_trichotomy x 0 with negative | rfl | positive
  · rcases lt_or_ge y 0 with yNegative | yNonneg
    · have mirrored := nearest_le_of_pos (neg_pos.mpr yNegative)
        (neg_le_neg le)
      rwa [nearest_neg, nearest_neg, neg_le_neg_iff] at mirrored
    · have nonneg := nearest_nonneg (neg_pos.mpr negative).le
      rw [nearest_neg, neg_nonneg] at nonneg
      exact nonneg.trans (nearest_nonneg yNonneg)
  · rw [nearest_zero]
    exact nearest_nonneg le
  · exact nearest_le_of_pos positive le

end Binary64
