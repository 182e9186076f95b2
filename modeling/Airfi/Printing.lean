import Airfi.Binary64

/-!
# How binary64 numbers are printed

The decimals of fewest digits that read back as a number.  A decimal of 15
digits is what its nearest number is printed as, and 17 digits are enough for
every number.
-/

namespace Binary64

open Rounding

/-! ## Decimals -/

/-- A decimal with at most so many significant digits. -/
def HasDigits (count : ℕ) (x : ℚ) : Prop :=
  ∃ digits exponent : ℤ, |digits| < 10 ^ count ∧ x = digits * 10 ^ exponent

theorem HasDigits.mono {count larger : ℕ} {x : ℚ} (le : count ≤ larger)
    (has : HasDigits count x) : HasDigits larger x := by
  obtain ⟨digits, exponent, short, same⟩ := has
  exact ⟨digits, exponent,
    short.trans_le (pow_le_pow_right₀ (by norm_num) le), same⟩

theorem HasDigits.neg {count : ℕ} {x : ℚ} (has : HasDigits count x) :
    HasDigits count (-x) := by
  obtain ⟨digits, exponent, short, rfl⟩ := has
  refine ⟨-digits, exponent, by rwa [abs_neg], ?_⟩
  push_cast
  ring

/-- From a smaller number on, decimals are multiples of its last place. -/
theorem HasDigits.exists_multiple {count : ℕ} {x y : ℚ}
    (has : HasDigits count y) (positive : 0 < x) (le : x ≤ y) :
    ∃ n : ℤ, y = n * 10 ^ (Int.log 10 x + 1 - count) := by
  obtain ⟨digits, exponent, short, rfl⟩ := has
  have power : (0 : ℚ) < 10 ^ exponent := zpow_pos (by norm_num) _
  have below : (digits * 10 ^ exponent : ℚ) < 10 ^ (count + exponent) := by
    rw [zpow_add₀ (by norm_num), zpow_natCast]
    apply mul_lt_mul_of_pos_right _ power
    exact_mod_cast (le_abs_self digits).trans_lt short
  have order : Int.log 10 x < count + exponent := by
    apply (Int.lt_zpow_iff_log_lt (by norm_num : 1 < 10) positive).mp
    exact_mod_cast le.trans_lt below
  obtain ⟨rest, same⟩ := Int.le.dest
    (show Int.log 10 x + 1 - count ≤ exponent by omega)
  refine ⟨digits * 10 ^ rest, ?_⟩
  rw [← same, zpow_add₀ (by norm_num), zpow_natCast]
  push_cast
  ring

/-- Two positive decimals of 15 digits are further apart than rounding
errors. -/
theorem digits_gap_of_pos {x y : ℚ} (hasFirst : HasDigits 15 x)
    (hasSecond : HasDigits 15 y) (positive : 0 < x) (lt : x < y) :
    (x + y) / 2 ^ 52 < y - x := by
  obtain ⟨m, xEq⟩ := hasFirst.exists_multiple positive le_rfl
  obtain ⟨n, yEq⟩ := hasSecond.exists_multiple positive lt.le
  have place : (0 : ℚ) < 10 ^ (Int.log 10 x + 1 - (15 : ℕ)) :=
    zpow_pos (by norm_num) _
  have leading : x < 10 ^ (Int.log 10 x + 1 - (15 : ℕ)) * 10 ^ 15 := by
    have above : x < (10 : ℚ) ^ (Int.log 10 x + 1) := by
      exact_mod_cast Int.lt_zpow_succ_log_self (by norm_num : 1 < 10) x
    rw [zpow_sub₀ (by norm_num), zpow_natCast,
      div_mul_cancel₀ _ (by norm_num)]
    exact above
  generalize (10 : ℚ) ^ (Int.log 10 x + 1 - (15 : ℕ)) = unit at *
  have apart : m + 1 ≤ n := by
    have less : (m : ℚ) < n := by
      rw [xEq, yEq] at lt
      exact lt_of_mul_lt_mul_right lt place.le
    exact_mod_cast less
  have gap : unit ≤ y - x := by
    have apart' : (m : ℚ) + 1 ≤ n := by exact_mod_cast apart
    have scaled := mul_le_mul_of_nonneg_right apart' place.le
    linarith
  rw [div_lt_iff₀ (by norm_num)]
  norm_num at leading ⊢
  linarith

theorem digits_gap_of_lt {x y : ℚ} (hasFirst : HasDigits 15 x)
    (hasSecond : HasDigits 15 y) (lt : x < y) :
    (|x| + |y|) / 2 ^ 52 < y - x := by
  rcases lt_or_ge 0 x with positive | xNonpos
  · rw [abs_of_pos positive, abs_of_pos (positive.trans lt)]
    exact digits_gap_of_pos hasFirst hasSecond positive lt
  · rw [abs_of_nonpos xNonpos]
    rcases lt_or_ge y 0 with negative | yNonneg
    · have gap := digits_gap_of_pos hasSecond.neg hasFirst.neg
        (neg_pos.mpr negative) (neg_lt_neg lt)
      rw [abs_of_neg negative]
      linarith
    · rw [abs_of_nonneg yNonneg, div_lt_iff₀ (by norm_num)]
      norm_num
      linarith

theorem digits_gap {x y : ℚ} (hasFirst : HasDigits 15 x)
    (hasSecond : HasDigits 15 y) (different : x ≠ y) :
    (|x| + |y|) / 2 ^ 52 < |x - y| := by
  rcases lt_or_gt_of_ne different with lt | gt
  · rw [abs_sub_comm, abs_of_pos (sub_pos.mpr lt)]
    exact digits_gap_of_lt hasFirst hasSecond lt
  · rw [abs_of_pos (sub_pos.mpr gt), add_comm]
    exact digits_gap_of_lt hasSecond hasFirst gt

/-- The nearest numbers of decimals of 15 digits differ, but for the
subnormal ones. -/
theorem nearest_injective {x y : ℚ} (hasFirst : HasDigits 15 x)
    (hasSecond : HasDigits 15 y) (normal : 2 ^ (-1021 : ℤ) ≤ |x|)
    (same : nearest x = nearest y) : x = y := by
  by_contra different
  have gap := digits_gap hasFirst hasSecond different
  have first := nearest_error x
  have second := nearest_error y
  rw [same, abs_sub_comm] at first
  have close := abs_sub_le x (nearest y) y
  have least : (2 : ℚ) ^ (-1021 : ℤ) = 2 ^ (-1075 : ℤ) * 2 ^ 54 := by
    rw [← zpow_natCast, ← zpow_add₀ (by norm_num)]
    norm_num
  have other := abs_nonneg y
  rw [div_lt_iff₀ (by norm_num)] at gap
  rw [least] at normal
  generalize (2 : ℚ) ^ (-1075 : ℤ) = unit at *
  norm_num at gap first second normal
  linarith

/-! ## Printing -/

/-- What `str` makes of a number: a decimal of fewest digits that reads back.
Which one is left open where there are several. -/
structure Prints (x decimal : ℚ) : Prop where
  reads : nearest decimal = x
  shortest : ∀ count other, HasDigits count other → nearest other = x →
    HasDigits count decimal

theorem hasDigits_zero (count : ℕ) : HasDigits count 0 :=
  ⟨0, 0, by simp, by simp⟩

theorem prints_zero_iff {decimal : ℚ} : Prints 0 decimal ↔ decimal = 0 := by
  constructor
  · intro prints
    obtain ⟨digits, exponent, short, same⟩ :=
      prints.shortest 0 0 (hasDigits_zero 0) nearest_zero
    have zero : digits = 0 := Int.abs_lt_one_iff.mp (by simpa using short)
    rw [same, zero, Int.cast_zero, zero_mul]
  · rintro rfl
    exact ⟨nearest_zero, fun count _ _ _ => hasDigits_zero count⟩

/-- A decimal of 15 digits is what its number is printed as. -/
theorem prints_nearest_iff {decimal printed : ℚ}
    (hasDigits : HasDigits 15 decimal)
    (normal : decimal ≠ 0 → 2 ^ (-1021 : ℤ) ≤ |decimal|) :
    Prints (nearest decimal) printed ↔ printed = decimal := by
  by_cases zero : decimal = 0
  · rw [zero, nearest_zero]
    exact prints_zero_iff
  constructor
  · intro prints
    exact (nearest_injective hasDigits
      (prints.shortest 15 decimal hasDigits rfl) (normal zero)
      prints.reads.symm).symm
  · rintro rfl
    refine ⟨rfl, ?_⟩
    intro count other hasOther reads
    rcases Nat.le_total count 15 with few | many
    · rwa [nearest_injective hasDigits (hasOther.mono few) (normal zero)
        reads.symm]
    · exact hasDigits.mono many

/-! ## Seventeen digits -/

theorem abs_div_lastPlace_lt (count : ℕ) (x : ℚ) :
    |x / lastPlace count x| < 10 ^ count := by
  have place := lastPlace_pos count x
  have above : |x| < (10 : ℚ) ^ (Int.log 10 |x| + 1) := by
    exact_mod_cast Int.lt_zpow_succ_log_self (by norm_num : 1 < 10) |x|
  rw [abs_div, abs_of_pos place, div_lt_iff₀ place, lastPlace,
    ← zpow_natCast, ← zpow_add₀ (by norm_num)]
  simpa using above

/-- One followed by zeros has a single digit. -/
theorem hasDigits_of_abs_le {count : ℕ} (positive : 0 < count) {n : ℤ}
    (bounded : |n| ≤ 10 ^ count) (exponent : ℤ) :
    HasDigits count (n * 10 ^ exponent) := by
  rcases bounded.lt_or_eq with short | full
  · exact ⟨n, exponent, short, rfl⟩
  · have filled : n ≠ 0 := by
      rintro rfl
      rw [abs_zero] at full
      exact (pow_pos (by norm_num : (0 : ℤ) < 10) count).ne full
    refine ⟨n.sign, count + exponent, ?_, ?_⟩
    · rw [Int.abs_sign_of_ne_zero filled]
      exact one_lt_pow₀ (by norm_num) positive.ne'
    · conv_lhs => rw [← Int.sign_mul_abs n, full]
      rw [zpow_add₀ (by norm_num), zpow_natCast]
      push_cast
      ring

theorem toSignificant_hasDigits {count : ℕ} (positive : 0 < count) (x : ℚ) :
    HasDigits count (toSignificant count x) := by
  apply hasDigits_of_abs_le positive
  have below := abs_div_lastPlace_lt count x
  have near := halfEven_near (x / lastPlace count x)
  have sum := abs_sub_abs_le_abs_sub
    (halfEven (x / lastPlace count x) : ℚ) (x / lastPlace count x)
  have less : ((|halfEven (x / lastPlace count x)| : ℤ) : ℚ) <
      ((10 ^ count + 1 : ℤ) : ℚ) := by
    push_cast
    linarith
  exact Int.lt_add_one_iff.mp (by exact_mod_cast less)

theorem toSignificant_close {x : ℚ} (nonzero : x ≠ 0) :
    |toSignificant 17 x - x| ≤ |x| / (2 * 10 ^ 16) := by
  have near := toSignificant_near 17 nonzero
  have precision : (10 : ℚ) ^ (1 - (17 : ℕ) : ℤ) = 1 / 10 ^ 16 := by
    norm_num
  rw [precision] at near
  linarith

/-- Rounding to 17 digits does not reach the next power of two. -/
theorem log_toSignificant_le {x : ℚ} (isFloat : IsFloat x)
    (nonzero : x ≠ 0) :
    Int.log 2 |toSignificant 17 x| ≤ Int.log 2 |x| := by
  have near := toSignificant_close nonzero
  have room := isFloat.add_lastBit_le nonzero
  have place := le_lastBit x
  have larger := abs_sub_abs_le_abs_sub (toSignificant 17 x) x
  have xPositive := abs_pos.mpr nonzero
  have below : |toSignificant 17 x| < (2 : ℚ) ^ (Int.log 2 |x| + 1) := by
    rw [le_div_iff₀ (by norm_num)] at near
    norm_num at near place
    linarith
  by_cases zero : toSignificant 17 x = 0
  · rw [zero, sub_eq_neg_add, add_zero, abs_neg, le_div_iff₀ (by norm_num)]
      at near
    norm_num at near
    linarith
  · apply Int.lt_add_one_iff.mp
    apply (Int.lt_zpow_iff_log_lt (by norm_num : 1 < 2)
      (abs_pos.mpr zero)).mp
    exact_mod_cast below

/-- Seventeen digits read back. -/
theorem nearest_toSignificant {x : ℚ} (isFloat : IsFloat x) :
    nearest (toSignificant 17 x) = x := by
  by_cases zero : x = 0
  · rw [zero, toSignificant, zero_div]
    simp [halfEven]
  have near := toSignificant_close zero
  have xPositive := abs_pos.mpr zero
  obtain ⟨n, same⟩ := isFloat.exists_multiple
  obtain ⟨rest, finer⟩ :=
    exists_lastBit_eq (log_toSignificant_le isFloat zero)
  apply nearest_of_near (n := n * 2 ^ rest)
  · conv_lhs => rw [same, finer]
    push_cast
    ring
  · have place := le_lastBit (toSignificant 17 x)
    have smaller := abs_sub_abs_le_abs_sub x (toSignificant 17 x)
    have above : |toSignificant 17 x| <
        (2 : ℚ) ^ (Int.log 2 |toSignificant 17 x| + 1) := by
      exact_mod_cast Int.lt_zpow_succ_log_self (by norm_num : 1 < 2)
        |toSignificant 17 x|
    rw [abs_sub_comm] at smaller
    rw [le_div_iff₀ (by norm_num)] at near
    norm_num at near place
    linarith

/-- What a number is printed as has at most 17 digits. -/
theorem Prints.hasDigits {x decimal : ℚ} (prints : Prints x decimal)
    (isFloat : IsFloat x) : HasDigits 17 decimal :=
  prints.shortest 17 _ (toSignificant_hasDigits (by norm_num) x)
    (nearest_toSignificant isFloat)

/-! ## The printed decimal -/

/-- The decimals of so many digits around a number, a nearest one first. -/
def candidates (x : ℚ) (count : ℕ) : List ℚ :=
  let place := lastPlace count x
  [toSignificant count x, ⌊x / place⌋ * place, ⌈x / place⌉ * place]

/-- `str`, of a float. -/
def str (x : ℚ) : ℚ :=
  ((List.range' 1 17).findSome? fun count =>
    (candidates x count).find? (nearest · = x)).getD x

theorem candidates_hasDigits {count : ℕ} (positive : 0 < count) {x decimal : ℚ}
    (member : decimal ∈ candidates x count) : HasDigits count decimal := by
  obtain ⟨low, high⟩ := abs_lt.mp (abs_div_lastPlace_lt count x)
  simp only [candidates, List.mem_cons, List.not_mem_nil, or_false] at member
  rcases member with rfl | rfl | rfl
  · exact toSignificant_hasDigits positive x
  · apply hasDigits_of_abs_le positive
    rw [abs_le]
    constructor
    · exact Int.le_floor.mpr (by push_cast; exact low.le)
    · exact_mod_cast (Int.floor_le (x / lastPlace count x)).trans high.le
  · apply hasDigits_of_abs_le positive
    rw [abs_le]
    constructor
    · exact_mod_cast low.le.trans (Int.le_ceil (x / lastPlace count x))
    · exact Int.ceil_le.mpr (by push_cast; exact high.le)

/-- Between a decimal and a greater number lies a multiple of the last place
of the latter. -/
theorem HasDigits.exists_between {count : ℕ} (positive : 0 < count)
    {x other : ℚ} (has : HasDigits count other) (le : other ≤ x) :
    ∃ n : ℤ, other ≤ n * lastPlace count x ∧ n * lastPlace count x ≤ x := by
  rcases lt_trichotomy x 0 with negative | rfl | xPositive
  · obtain ⟨n, same⟩ := has.neg.exists_multiple (neg_pos.mpr negative)
      (neg_le_neg le)
    have multiple : other = ((-n : ℤ) : ℚ) * lastPlace count x := by
      rw [lastPlace, abs_of_neg negative]
      push_cast
      linarith
    exact ⟨-n, multiple.le, multiple.symm.le.trans le⟩
  · exact ⟨0, by simpa using le, by simp⟩
  · have leading : (10 : ℚ) ^ Int.log 10 x ≤ x := by
      exact_mod_cast Int.zpow_log_le_self (by norm_num : 1 < 10) xPositive
    rcases le_total other ((10 : ℚ) ^ Int.log 10 x) with small | large
    · have power : ((10 ^ (count - 1) : ℤ) : ℚ) * lastPlace count x =
          (10 : ℚ) ^ Int.log 10 x := by
        rw [lastPlace, abs_of_pos xPositive, Int.cast_pow, Int.cast_ofNat,
          ← zpow_natCast, ← zpow_add₀ (by norm_num)]
        congr 1
        omega
      exact ⟨10 ^ (count - 1), power ▸ small, power ▸ leading⟩
    · obtain ⟨n, same⟩ := has.exists_multiple
        (zpow_pos (by norm_num : (0 : ℚ) < 10) _) large
      have log : Int.log 10 ((10 : ℚ) ^ Int.log 10 x) = Int.log 10 x := by
        exact_mod_cast Int.log_zpow (R := ℚ) (by norm_num : 1 < 10) _
      rw [log] at same
      have multiple : other = n * lastPlace count x := by
        rw [lastPlace, abs_of_pos xPositive]
        exact same
      exact ⟨n, multiple.le, multiple.symm.le.trans le⟩

/-- Where a decimal reads back, one next to the number does. -/
theorem exists_candidate {count : ℕ} (positive : 0 < count) {x other : ℚ}
    (isFloat : IsFloat x) (has : HasDigits count other)
    (reads : nearest other = x) :
    ∃ decimal ∈ candidates x count, nearest decimal = x := by
  have place := lastPlace_pos count x
  rcases le_total other x with le | le
  · obtain ⟨n, above, below⟩ := has.exists_between positive le
    have floor : n ≤ ⌊x / lastPlace count x⌋ :=
      Int.le_floor.mpr ((le_div_iff₀ place).mpr below)
    refine ⟨⌊x / lastPlace count x⌋ * lastPlace count x,
      by simp [candidates], le_antisymm ?_ ?_⟩
    · conv_rhs => rw [← isFloat]
      exact nearest_monotone ((le_div_iff₀ place).mp (Int.floor_le _))
    · conv_lhs => rw [← reads]
      apply nearest_monotone
      exact above.trans (mul_le_mul_of_nonneg_right
        (by exact_mod_cast floor) place.le)
  · obtain ⟨n, above, below⟩ := has.neg.exists_between positive
      (neg_le_neg le)
    have same : lastPlace count (-x) = lastPlace count x := by
      rw [lastPlace, lastPlace, abs_neg]
    rw [same] at above below
    have ceil : ⌈x / lastPlace count x⌉ ≤ -n := by
      apply Int.ceil_le.mpr
      rw [div_le_iff₀ place]
      push_cast
      linarith
    refine ⟨⌈x / lastPlace count x⌉ * lastPlace count x,
      by simp [candidates], le_antisymm ?_ ?_⟩
    · conv_rhs => rw [← reads]
      apply nearest_monotone
      have bound : (⌈x / lastPlace count x⌉ : ℚ) ≤ ((-n : ℤ) : ℚ) := by
        exact_mod_cast ceil
      have scaled := mul_le_mul_of_nonneg_right bound place.le
      push_cast at scaled
      linarith
    · conv_lhs => rw [← isFloat]
      exact nearest_monotone ((div_le_iff₀ place).mp (Int.le_ceil _))

theorem find_candidate_ne_none {count : ℕ} (positive : 0 < count)
    {x other : ℚ} (isFloat : IsFloat x) (has : HasDigits count other)
    (reads : nearest other = x) :
    (candidates x count).find? (nearest · = x) ≠ none := by
  obtain ⟨decimal, member, same⟩ :=
    exists_candidate positive isFloat has reads
  intro none
  exact List.find?_eq_none.mp none decimal member (decide_eq_true same)

theorem str_zero : str 0 = 0 := by
  decide +kernel

/-- The decimal of the first count with one that reads back. -/
theorem str_spec {x : ℚ} (isFloat : IsFloat x) :
    ∃ shorter count longer, List.range' 1 17 = shorter ++ count :: longer ∧
      (candidates x count).find? (nearest · = x) = some (str x) ∧
        ∀ earlier ∈ shorter,
          (candidates x earlier).find? (nearest · = x) = none := by
  cases found : (List.range' 1 17).findSome? fun count =>
      (candidates x count).find? (nearest · = x) with
  | none =>
      have last := List.findSome?_eq_none_iff.mp found 17 (by decide)
      exact absurd last (find_candidate_ne_none (by norm_num) isFloat
        (toSignificant_hasDigits (by norm_num) x)
        (nearest_toSignificant isFloat))
  | some decimal =>
      have same : str x = decimal := by
        rw [str, found, Option.getD_some]
      rw [same]
      exact List.findSome?_eq_some_iff.mp found

theorem prints_str {x : ℚ} (isFloat : IsFloat x) : Prints x (str x) := by
  by_cases zero : x = 0
  · rw [zero, str_zero]
    exact prints_zero_iff.mpr rfl
  obtain ⟨shorter, count, longer, split, found, none⟩ := str_spec isFloat
  have member : count ∈ List.range' 1 17 := by simp [split]
  have bounds := List.mem_range'_1.mp member
  have sorted : (List.range' 1 17).Pairwise (· < ·) :=
    List.pairwise_lt_range'
  rw [split, List.pairwise_append] at sorted
  have reads : nearest (str x) = x := by
    simpa using List.find?_some found
  refine ⟨reads, ?_⟩
  intro fewer other has otherReads
  apply (candidates_hasDigits bounds.1 (List.mem_of_find?_eq_some found)).mono
  by_contra less
  rcases Nat.eq_zero_or_pos fewer with rfl | positive
  · obtain ⟨digits, exponent, short, same⟩ := has
    have empty : digits = 0 := Int.abs_lt_one_iff.mp (by simpa using short)
    rw [same, empty, Int.cast_zero, zero_mul, nearest_zero] at otherReads
    exact zero otherReads.symm
  · have listed : fewer ∈ List.range' 1 17 :=
      List.mem_range'_1.mpr (by omega)
    rw [split, List.mem_append, List.mem_cons] at listed
    rcases listed with earlier | rfl | later
    · exact find_candidate_ne_none positive isFloat has otherReads
        (none fewer earlier)
    · exact less le_rfl
    · have after := (List.pairwise_cons.mp sorted.2.1).1 fewer later
      exact less after.le

/-- What a decimal of 15 digits is read and printed as. -/
theorem str_nearest {decimal : ℚ} (hasDigits : HasDigits 15 decimal)
    (normal : decimal ≠ 0 → 2 ^ (-1021 : ℤ) ≤ |decimal|) :
    str (nearest decimal) = decimal :=
  (prints_nearest_iff hasDigits normal).mp (prints_str (isFloat_nearest decimal))

example : str (nearest 21.15) = 21.15 := by decide +kernel

end Binary64
