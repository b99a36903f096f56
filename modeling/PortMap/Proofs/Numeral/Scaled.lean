import PortMap.Numeral.Power
import PortMap.Proofs.Numeral.Rounding

/-!
# The values between two roundings

The rational value of a `Scaled` pair, and how far each rounded operation is off. The exact operations are
exact; a rounding to 53 bits moves a value by at most `2 ^ (-53)` of its size (`abs_round_sub_le`), and
near a power of two it finds that power (`value_round_of_near`).
-/

namespace PortMap.Binary64.Scaled

/-- The number that a pair stands for. -/
def value (x : Scaled) : ℚ := x.m * 2 ^ x.e

variable (x y z : Scaled) {k n : ℤ}

deriving instance DecidableEq for Scaled

/-! ### The exact operations -/

@[simp]
theorem value_ofInt (n : ℤ) : (ofInt n).value = n := by
  simp [ofInt, value]

@[simp]
theorem value_neg : x.neg.value = -x.value := by
  simp [neg, value]

@[simp]
theorem value_mul : (x.mul y).value = x.value * y.value := by
  simp only [mul, value, Int.cast_mul, zpow_add₀ (two_ne_zero' ℚ)]
  ring

@[simp]
theorem value_add : (x.add y).value = x.value + y.value := by
  have moved (m e : ℤ) (f : ℤ) (h : f ≤ e) : (m * 2 ^ (e - f).toNat : ℚ) * 2 ^ f = m * 2 ^ e := by
    rw [zpow_toNat (by omega), mul_assoc, ← zpow_add₀ two_ne_zero, sub_add_cancel]
  simp only [add, value, Int.cast_add, Int.cast_mul, Int.cast_pow, Int.cast_ofNat, add_mul]
  rw [moved _ _ _ (min_le_left ..), moved _ _ _ (min_le_right ..)]

variable {x} in
theorem m_pos (h : 0 < x.value) : 0 < x.m := by
  have scale : (0 : ℚ) < 2 ^ x.e := by positivity
  exact_mod_cast pos_of_mul_pos_left h scale.le

theorem abs_value : |x.value| = x.m.natAbs * 2 ^ x.e := by
  rw [value, abs_mul, abs_of_pos (by positivity : (0 : ℚ) < 2 ^ x.e), Nat.cast_natAbs, Int.cast_abs]

theorem below_iff : x.below k = true ↔ |x.value| < 2 ^ k := by
  rw [below, abs_value]
  by_cases zero : x.m = 0
  · simp only [zero, decide_true, Bool.true_or, true_iff, Int.natAbs_zero, Nat.cast_zero, zero_mul]
    positivity
  · have pos : x.m.natAbs ≠ 0 := Int.natAbs_ne_zero.mpr zero
    simp only [zero, decide_false, Bool.false_or, decide_eq_true_eq]
    constructor
    · intro h
      exact (lt_zpow_leading _ _).trans_le (zpow_le_zpow_right₀ one_le_two (by omega))
    · intro h
      exact (zpow_lt_zpow_iff_right₀ one_lt_two).mp ((zpow_leading_le pos _).trans_lt h)

/-! ### The error of a rounding -/

theorem abs_roundShift_sub_le (n : ℤ) (k : Nat) : |(roundShift n k - n / 2 ^ k : ℚ)| ≤ 1 / 2 := by
  have bound := abs_roundHalfEven_sub_le n.natAbs (Nat.two_pow_pos k)
  rw [Nat.cast_pow, Nat.cast_ofNat] at bound
  simp only [roundShift]
  split
  case isTrue negative =>
    have size : (n : ℚ) = -n.natAbs := by exact_mod_cast (by omega : n = -(n.natAbs : ℤ))
    rwa [size, Int.cast_neg, Int.cast_natCast, neg_div, sub_neg_eq_add, neg_add_eq_sub, abs_sub_comm]
  case isFalse nonneg =>
    have size : (n : ℚ) = n.natAbs := by
      rw [← Int.cast_natCast, Int.natAbs_of_nonneg (not_lt.mp nonneg)]
    rwa [size, Int.cast_natCast]

theorem roundShift_zero (n : ℤ) : roundShift n 0 = n := by
  have near := abs_roundShift_sub_le n 0
  rw [pow_zero, div_one] at near
  have : |roundShift n 0 - n| < 1 := by exact_mod_cast near.trans_lt one_half_lt_one
  exact sub_eq_zero.mp (Int.abs_lt_one_iff.mp this)

/-- A rounding is off by half a unit of the last place that it keeps. -/
theorem abs_round_sub_le_unit : |x.round.value - x.value| ≤ 2 ^ x.round.e / 2 := by
  have scale : (0 : ℚ) < 2 ^ x.round.e := by positivity
  have moved : x.value = x.m / 2 ^ (x.m.natAbs.log2 - 52) * 2 ^ x.round.e := by
    rw [round, value, zpow_add₀ two_ne_zero, zpow_natCast]
    field_simp
  have bound := abs_roundShift_sub_le x.m (x.m.natAbs.log2 - 52)
  calc |x.round.value - x.value|
    _ = |(roundShift x.m (x.m.natAbs.log2 - 52) - x.m / 2 ^ (x.m.natAbs.log2 - 52) : ℚ)| *
        2 ^ x.round.e := by rw [moved, value, ← sub_mul, abs_mul, abs_of_pos scale]; rfl
    _ ≤ 1 / 2 * 2 ^ x.round.e := by gcongr
    _ = 2 ^ x.round.e / 2 := by ring

/-- A number that has no more than 53 bits is its own rounding. -/
theorem round_of_short (short : x.m.natAbs.log2 ≤ 52) : x.round = x := by
  simp [round, Nat.sub_eq_zero_of_le short, roundShift_zero]

/-- **A rounding moves a number by a tiny part of its size.** -/
theorem abs_round_sub_le : |x.round.value - x.value| ≤ |x.value| / 2 ^ 53 := by
  rcases Nat.lt_or_ge 52 x.m.natAbs.log2 with long | short
  · have pos : x.m.natAbs ≠ 0 := by
      intro zero
      rw [zero, Nat.log2_zero] at long
      omega
    have place : ((x.m.natAbs.log2 - 52 : Nat) : ℤ) = x.m.natAbs.log2 - 52 := by omega
    calc |x.round.value - x.value|
      _ ≤ 2 ^ (x.e + (x.m.natAbs.log2 - 52 : Nat)) / 2 := x.abs_round_sub_le_unit
      _ = 2 ^ (x.m.natAbs.log2 + x.e) / 2 ^ 53 := by
        rw [place, show x.e + (x.m.natAbs.log2 - 52) = x.m.natAbs.log2 + x.e - 52 by ring,
          zpow_sub₀ two_ne_zero]
        norm_num
        ring
      _ ≤ |x.value| / 2 ^ 53 := by
        rw [abs_value]
        gcongr
        exact zpow_leading_le pos _
  · rw [round_of_short x short, sub_self, abs_zero]
    positivity

theorem abs_round_le : |x.round.value| ≤ 2 * |x.value| := by
  have near := x.abs_round_sub_le
  have size := abs_nonneg x.value
  have := abs_sub_abs_le_abs_sub x.round.value x.value
  linarith

/-- **Near a power of two the rounding is that power.** -/
theorem value_round_of_near (near : |x.value - 2 ^ n| ≤ 2 ^ (n - 60)) : x.round.value = 2 ^ n := by
  have tiny : (2 : ℚ) ^ (n - 60) = 2 ^ n / 2 ^ 60 := by rw [zpow_sub₀ two_ne_zero]; norm_cast
  have power : (0 : ℚ) < 2 ^ n := by positivity
  rw [tiny] at near
  obtain ⟨low, high⟩ := abs_le.mp near
  -- The leading bit stands at `n` or just below it, so what is kept are multiples of `2 ^ (n - 53)`.
  have pos : x.m.natAbs ≠ 0 := by
    intro zero
    have : x.value = 0 := by rw [← abs_eq_zero, abs_value, zero, Nat.cast_zero, zero_mul]
    linarith
  have size : |x.value| = x.value := abs_of_pos (by linarith)
  have atLeast : n - 1 < x.m.natAbs.log2 + x.e + 1 := by
    refine (zpow_lt_zpow_iff_right₀ one_lt_two).mp (lt_of_lt_of_le ?_ (lt_zpow_leading _ _).le)
    rw [← abs_value, size, zpow_sub_one₀ two_ne_zero]
    linarith
  have atMost : x.m.natAbs.log2 + x.e < n + 1 := by
    refine (zpow_lt_zpow_iff_right₀ one_lt_two).mp ((zpow_leading_le pos x.e).trans_lt ?_)
    rw [← abs_value, size, zpow_add_one₀ two_ne_zero]
    linarith
  have place : x.round.e = x.e + (x.m.natAbs.log2 - 52 : Nat) := rfl
  obtain ⟨j, hj⟩ : ∃ j : ℕ, n = x.round.e + j := ⟨(n - x.round.e).toNat, by omega⟩
  have few : (2 : ℚ) ^ j ≤ 2 ^ 53 := pow_le_pow_right₀ one_le_two (by omega)
  have unit : (0 : ℚ) < 2 ^ x.round.e := by positivity
  have target : (2 : ℚ) ^ n = 2 ^ j * 2 ^ x.round.e := by
    rw [hj, zpow_add₀ two_ne_zero, zpow_natCast, mul_comm]
  have off : |(x.round.m - 2 ^ j : ℚ)| * 2 ^ x.round.e < 1 * 2 ^ x.round.e :=
    calc |(x.round.m - 2 ^ j : ℚ)| * 2 ^ x.round.e
      _ = |x.round.value - 2 ^ n| := by rw [target, value, ← sub_mul, abs_mul, abs_of_pos unit]
      _ ≤ |x.round.value - x.value| + |x.value - 2 ^ n| := abs_sub_le ..
      _ ≤ 2 ^ x.round.e / 2 + 2 ^ j * 2 ^ x.round.e / 2 ^ 60 :=
        add_le_add x.abs_round_sub_le_unit (target ▸ abs_le.mpr ⟨low, high⟩)
      _ < 1 * 2 ^ x.round.e := by nlinarith
  have whole : x.round.m = 2 ^ j := by
    have : |x.round.m - 2 ^ j| < 1 := by exact_mod_cast lt_of_mul_lt_mul_right off unit.le
    exact sub_eq_zero.mp (Int.abs_lt_one_iff.mp this)
  rw [value, whole, target, Int.cast_pow, Int.cast_ofNat]

/-! ### The rounded operations -/

theorem abs_product_sub_le :
    |(x.product y).value - x.value * y.value| ≤ |x.value * y.value| / 2 ^ 53 := by
  rw [← value_mul]
  exact (x.mul y).abs_round_sub_le

theorem abs_productSum_sub_le :
    |(x.productSum y z).value - (x.value * y.value + z.value)| ≤
      |x.value * y.value + z.value| / 2 ^ 53 := by
  rw [← value_mul, ← value_add]
  exact ((x.mul y).add z).abs_round_sub_le

variable {x y z} in
/-- The error of a rounded sum of a product, from a bound of its size. -/
theorem abs_productSum_sub_le_of {t : ℚ} (size : |x.value * y.value + z.value| ≤ t) :
    |(x.productSum y z).value - (x.value * y.value + z.value)| ≤ t / 2 ^ 53 :=
  (abs_productSum_sub_le x y z).trans (div_le_div_of_nonneg_right size (by positivity))

theorem abs_sum_le : |(x.sum y).value| ≤ 2 * (|x.value| + |y.value|) := by
  have size := (x.add y).abs_round_le
  rw [value_add] at size
  exact size.trans (by gcongr; exact abs_add_le ..)

theorem abs_product_le : |(x.product y).value| ≤ 2 * (|x.value| * |y.value|) := by
  have size := (x.mul y).abs_round_le
  rwa [value_mul, abs_mul] at size

theorem abs_productSum_le : |(x.productSum y z).value| ≤ 2 * (|x.value| * |y.value| + |z.value|) := by
  have size := ((x.mul y).add z).abs_round_le
  rw [value_add, value_mul] at size
  exact size.trans (by gcongr; exact (abs_add_le ..).trans_eq (by rw [abs_mul]))

theorem abs_nearestInt_sub_le : |(x.nearestInt - x.value : ℚ)| ≤ 1 / 2 := by
  rw [nearestInt, value]
  split
  case isTrue nonneg =>
    rw [Int.cast_mul, Int.cast_pow, Int.cast_ofNat, zpow_toNat nonneg, sub_self, abs_zero]
    norm_num
  case isFalse negative =>
    have bound := abs_roundShift_sub_le x.m (-x.e).toNat
    rwa [zpow_toNat (by omega), zpow_neg, div_inv_eq_mul] at bound

end PortMap.Binary64.Scaled
