import PortMap.Proofs.Numeral.Power

/-!
# Powers of two

The powers of two are worked out as all powers are, by a logarithm and an exponential of which every step is
rounded. This module follows the roundings through, and finds the powers of two exact.

* The logarithm of two is `leading + trailing`, which is off by `2 ^ (-93)` from the number `reduction`
  that the exponential takes for it; times a whole number `n`, it is off by little more (`logPower_near`).
* The exponential of nearly `n * reduction` finds the count `128 * n` of steps (`nearestInt_count`); what is
  left is so small (`abs_remainder_le`) that the polynomial adds nothing to `2 ^ n` (`exponential_of_near`).

## What is proved

* `pow_two_of_lt` — **the power of two with a whole exponent below 1024 is exact**.
* `pow_two_of_ge`, `pow_two_of_large` — there is none with an exponent of 1024 or more.
-/

namespace PortMap.Binary64

open Scaled

/-! ### The logarithm -/

/-- The logarithm of two, rounded. -/
def leading : ℚ := 6243314768165359 / 2 ^ 53

/-- What is left of the logarithm of two. -/
def trailing : ℚ := 3674676356912 / 2 ^ 97

/-- The number that the exponential takes for the logarithm of two: 128 times the sum of two constants. -/
def reduction : ℚ := 128 * (0x162e42fefa0000 / 2 ^ 60 + 0x1cf79abc9e3b3a / 2 ^ 99)

theorem logarithm_two :
    logarithm (2 ^ 52) (-51) = (⟨6243314768165359, -53⟩, ⟨3674676356912, -97⟩) := by
  decide +kernel

theorem stepPower_zero : stepPower 0 = (⟨2 ^ 52, -52⟩, ⟨0, -200⟩) := by
  decide +kernel

/-! ### The exponential -/

variable {x tail r y : Scaled} {n : ℕ}

/-- The number of steps in the argument of the exponential. -/
theorem nearestInt_count (few : n ≤ 2048) (near : |x.value - n * reduction| ≤ n / 2 ^ 51) :
    (x.mul ⟨0x171547652b82fe, -45⟩).nearestInt = 128 * n := by
  have hn : (n : ℚ) ≤ 2048 := by exact_mod_cast few
  have hn0 : (0 : ℚ) ≤ n := Nat.cast_nonneg n
  obtain ⟨low, high⟩ := abs_le.mp near
  have rounded := (x.mul ⟨0x171547652b82fe, -45⟩).abs_nearestInt_sub_le
  have value : (x.mul ⟨0x171547652b82fe, -45⟩).value = x.value * (0x171547652b82fe / 2 ^ 45) := by
    rw [value_mul]
    norm_num [Scaled.value]
  have product : |x.value * (0x171547652b82fe / 2 ^ 45) - 128 * n| ≤ 1 / 4 := by
    unfold reduction at low high
    rw [abs_le]
    constructor <;> linarith
  rw [value] at rounded
  have close : |((x.mul ⟨0x171547652b82fe, -45⟩).nearestInt - 128 * n : ℚ)| < 1 :=
    calc |((x.mul ⟨0x171547652b82fe, -45⟩).nearestInt - 128 * n : ℚ)|
      _ ≤ 1 / 2 + 1 / 4 := (abs_sub_le ..).trans (add_le_add rounded product)
      _ < 1 := by norm_num
  have : |(x.mul ⟨0x171547652b82fe, -45⟩).nearestInt - 128 * (n : ℤ)| < 1 := by exact_mod_cast close
  exact sub_eq_zero.mp (Int.abs_lt_one_iff.mp this)

/-- What is left of the argument of the exponential without its steps. -/
def remainder (count : ℤ) (x tail : Scaled) : Scaled :=
  let k := Scaled.ofInt count
  (k.productSum ⟨-0x1cf79abc9e3b3a, -99⟩ (k.productSum ⟨-0x162e42fefa0000, -60⟩ x)).sum tail

theorem abs_remainder_le (few : n ≤ 2048) (near : |x.value - n * reduction| ≤ n / 2 ^ 51)
    (whole : |x.value + tail.value - n * reduction| ≤ n / 2 ^ 85) :
    |(remainder (128 * n) x tail).value| ≤ 1 / 2 ^ 66 := by
  have hn : (n : ℚ) ≤ 2048 := by exact_mod_cast few
  have hn0 : (0 : ℚ) ≤ n := Nat.cast_nonneg n
  have high : (Scaled.mk (-0x162e42fefa0000) (-60)).value = -(0x162e42fefa0000 / 2 ^ 60) := by
    norm_num [Scaled.value]
  have low : (Scaled.mk (-0x1cf79abc9e3b3a) (-99)).value = -(0x1cf79abc9e3b3a / 2 ^ 99) := by
    norm_num [Scaled.value]
  have count : (Scaled.ofInt (128 * n)).value = 128 * (n : ℚ) := by simp
  unfold reduction at near whole
  obtain ⟨near₁, near₂⟩ := abs_le.mp near
  obtain ⟨whole₁, whole₂⟩ := abs_le.mp whole
  simp only [remainder]
  generalize Scaled.ofInt (128 * n) = k at count ⊢
  generalize Scaled.mk (-0x162e42fefa0000) (-60) = c at high ⊢
  generalize Scaled.mk (-0x1cf79abc9e3b3a) (-99) = d at low ⊢
  -- The first constant, then the second one, then the tail: each rounding is off by a part of its result.
  have size₁ : |k.value * c.value + x.value| ≤ n / 2 ^ 38 := by
    rw [count, high, abs_le]
    constructor <;> linarith
  have first := abs_productSum_sub_le_of size₁
  generalize k.productSum c x = a at first ⊢
  rw [count, high] at first
  obtain ⟨first₁, first₂⟩ := abs_le.mp first
  have size₂ : |k.value * d.value + a.value| ≤ n / 2 ^ 50 := by
    rw [count, low, abs_le]
    constructor <;> linarith
  have second := abs_productSum_sub_le_of size₂
  generalize k.productSum d a = b at second ⊢
  rw [count, low] at second
  obtain ⟨second₁, second₂⟩ := abs_le.mp second
  have size₃ : |b.value + tail.value| ≤ 1 / 2 ^ 67 := by
    rw [abs_le]
    constructor <;> linarith
  have third := (b.add tail).abs_round_le
  rw [value_add] at third
  exact third.trans (by linarith)

/-- The part by which an exponential grows over that of its steps. -/
def growthPart (r growth : Scaled) : Scaled :=
  let square := r.product r
  let inner := r.productSum ⟨0x1555555555543c, -55⟩ ⟨0x1ffffffffffdbd, -54⟩
  let outer := r.productSum ⟨0x11111167a4d017, -59⟩ ⟨0x155555cf172b91, -57⟩
  outer.productSum (square.product square) (inner.productSum square (r.sum growth))

theorem abs_productSum_le_four {a b : Scaled} (hr : |r.value| ≤ 1) (ha : |a.value| ≤ 1)
    (hb : |b.value| ≤ 1) : |(r.productSum a b).value| ≤ 4 :=
  calc |(r.productSum a b).value|
    _ ≤ 2 * (|r.value| * |a.value| + |b.value|) := abs_productSum_le ..
    _ ≤ 2 * (1 * 1 + 1) := by gcongr
    _ = 4 := by norm_num

theorem abs_growthPart_le (small : |r.value| ≤ 1 / 2 ^ 66) :
    |(growthPart r ⟨0, -200⟩).value| ≤ 1 / 2 ^ 60 := by
  have atMostOne : |r.value| ≤ 1 := small.trans (by norm_num)
  simp only [growthPart]
  have inner : |(r.productSum ⟨0x1555555555543c, -55⟩ ⟨0x1ffffffffffdbd, -54⟩).value| ≤ 4 :=
    abs_productSum_le_four atMostOne (by norm_num [Scaled.value, abs_of_pos])
      (by norm_num [Scaled.value, abs_of_pos])
  have outer : |(r.productSum ⟨0x11111167a4d017, -59⟩ ⟨0x155555cf172b91, -57⟩).value| ≤ 4 :=
    abs_productSum_le_four atMostOne (by norm_num [Scaled.value, abs_of_pos])
      (by norm_num [Scaled.value, abs_of_pos])
  have square : |(r.product r).value| ≤ 1 / 2 ^ 131 :=
    calc |(r.product r).value|
      _ ≤ 2 * (|r.value| * |r.value|) := abs_product_le ..
      _ ≤ 2 * (1 / 2 ^ 66 * (1 / 2 ^ 66)) := by gcongr
      _ = 1 / 2 ^ 131 := by norm_num
  have first : |(r.sum ⟨0, -200⟩).value| ≤ 1 / 2 ^ 65 :=
    calc |(r.sum ⟨0, -200⟩).value|
      _ ≤ 2 * (|r.value| + |(Scaled.mk 0 (-200)).value|) := abs_sum_le ..
      _ ≤ 2 * (1 / 2 ^ 66 + 0) := by gcongr; simp [Scaled.value]
      _ = 1 / 2 ^ 65 := by norm_num
  generalize r.productSum ⟨0x1555555555543c, -55⟩ ⟨0x1ffffffffffdbd, -54⟩ = a at inner ⊢
  generalize r.productSum ⟨0x11111167a4d017, -59⟩ ⟨0x155555cf172b91, -57⟩ = b at outer ⊢
  generalize r.product r = s at square ⊢
  generalize r.sum ⟨0, -200⟩ = t at first ⊢
  have second : |(a.productSum s t).value| ≤ 1 / 2 ^ 63 :=
    calc |(a.productSum s t).value|
      _ ≤ 2 * (|a.value| * |s.value| + |t.value|) := abs_productSum_le ..
      _ ≤ 2 * (4 * (1 / 2 ^ 131) + 1 / 2 ^ 65) := by gcongr
      _ ≤ 1 / 2 ^ 63 := by norm_num
  have fourth : |(s.product s).value| ≤ 1 / 2 ^ 131 :=
    calc |(s.product s).value|
      _ ≤ 2 * (|s.value| * |s.value|) := abs_product_le ..
      _ ≤ 2 * (1 / 2 ^ 131 * (1 / 2 ^ 131)) := by gcongr
      _ ≤ 1 / 2 ^ 131 := by norm_num
  calc |(b.productSum (s.product s) (a.productSum s t)).value|
    _ ≤ 2 * (|b.value| * |(s.product s).value| + |(a.productSum s t).value|) := abs_productSum_le ..
    _ ≤ 2 * (4 * (1 / 2 ^ 131) + 1 / 2 ^ 63) := by gcongr
    _ ≤ 1 / 2 ^ 60 := by norm_num

/-- **The exponential of nearly `n` times the logarithm of two is `2 ^ n`.** -/
theorem exponential_of_near (one_le : 1 ≤ n) (few : n ≤ 2048)
    (near : |x.value - n * reduction| ≤ n / 2 ^ 51)
    (whole : |x.value + tail.value - n * reduction| ≤ n / 2 ^ 85) (within : x.below 10 = true) :
    ∃ z : Scaled, exponential x tail = .exactly z ∧ z.value = 2 ^ n := by
  have notTiny : x.below (-54) = false := by
    rw [← Bool.not_eq_true, below_iff, not_lt]
    have hn : (1 : ℚ) ≤ n := by exact_mod_cast one_le
    have low := (abs_le.mp near).1
    unfold reduction at low
    refine le_trans ?_ (le_abs_self _)
    norm_num
    linarith
  have count := nearestInt_count few near
  have step : (128 * n : ℤ) % 128 = 0 := Int.mul_emod_right ..
  have power : (128 * n : ℤ) / 128 = n := Int.mul_ediv_cancel_left _ (by norm_num)
  have positive : decide ((0 : ℤ) < 128 * n) = true := decide_eq_true (by omega)
  refine ⟨(Scaled.mk (2 ^ 52) (-52 + n)).productSum (growthPart (remainder (128 * n) x tail) ⟨0, -200⟩)
    ⟨2 ^ 52, -52 + n⟩, ?_, ?_⟩
  · simp only [exponential, notTiny, within, count, step, power, positive, stepPower_zero, Bool.or_true,
      Bool.not_true, Bool.false_eq_true, if_false, if_true]
    rfl
  · have scale : (Scaled.mk (2 ^ 52) (-52 + n)).value = 2 ^ (n : ℤ) := by
      rw [Scaled.value, zpow_add₀ two_ne_zero, ← mul_assoc]
      norm_num
    have small := abs_growthPart_le (abs_remainder_le few near whole)
    generalize growthPart (remainder (128 * n) x tail) ⟨0, -200⟩ = g at small ⊢
    generalize Scaled.mk (2 ^ 52) (-52 + n) = power at scale ⊢
    have close : |((power.mul g).add power).value - 2 ^ (n : ℤ)| ≤ 2 ^ ((n : ℤ) - 60) := by
      have size : (0 : ℚ) < 2 ^ (n : ℤ) := by positivity
      rw [value_add, value_mul, scale, add_sub_cancel_right, abs_mul, abs_of_pos size,
        zpow_sub₀ two_ne_zero, div_eq_mul_one_div]
      gcongr
      exact small
    rw [productSum, value_round_of_near _ close, zpow_natCast]

/-- The exponential of 1024 or more is larger than every number. -/
theorem exponential_of_large (large : 1024 ≤ x.value) (tail : Scaled) : exponential x tail = .tooLarge := by
  have size : |x.value| = x.value := abs_of_nonneg (by linarith)
  have notTiny : x.below (-54) = false := by
    rw [← Bool.not_eq_true, below_iff, not_lt, size]
    exact le_trans (by norm_num) large
  have notWithin : x.below 10 = false := by
    rw [← Bool.not_eq_true, below_iff, not_lt, size]
    exact le_trans (by norm_num) large
  have pos : 0 < x.m := m_pos (by linarith)
  simp [exponential, notTiny, notWithin, pos]

/-! ### Powers with a whole exponent -/

/-- The exponent times the logarithm of two, in two parts. -/
def logPower (y : Scaled) : Scaled × Scaled :=
  let product := y.product ⟨6243314768165359, -53⟩
  (product, y.productSum ⟨3674676356912, -97⟩ (y.productSum ⟨6243314768165359, -53⟩ product.neg))

theorem value_leading : (Scaled.mk 6243314768165359 (-53)).value = leading := by
  norm_num [Scaled.value, leading]

theorem value_trailing : (Scaled.mk 3674676356912 (-97)).value = trailing := by
  norm_num [Scaled.value, trailing]

theorem abs_product_leading_sub_le (pos : 0 ≤ y.value) :
    |(logPower y).1.value - y.value * leading| ≤ y.value / 2 ^ 53 := by
  have near := abs_product_sub_le y ⟨6243314768165359, -53⟩
  rw [value_leading] at near
  refine near.trans ?_
  have size : y.value * leading ≤ y.value * 1 := by
    gcongr
    norm_num [leading]
  rw [abs_of_nonneg (mul_nonneg pos (by norm_num [leading]))]
  exact div_le_div_of_nonneg_right (size.trans_eq (mul_one _)) (by positivity)

theorem logPower_near (hy : y.value = n) :
    |(logPower y).1.value - n * reduction| ≤ n / 2 ^ 51 ∧
      |(logPower y).1.value + (logPower y).2.value - n * reduction| ≤ n / 2 ^ 85 := by
  have hn : (0 : ℚ) ≤ n := Nat.cast_nonneg n
  have hH := value_leading
  have hL := value_trailing
  have first := abs_product_leading_sub_le (y := y) (hy ▸ hn)
  unfold leading at first hH
  unfold trailing at hL
  unfold reduction
  simp only [logPower] at first ⊢
  generalize Scaled.mk 6243314768165359 (-53) = H at hH first ⊢
  generalize Scaled.mk 3674676356912 (-97) = L at hL ⊢
  generalize y.product H = p at first ⊢
  rw [hy] at first
  obtain ⟨first₁, first₂⟩ := abs_le.mp first
  -- what the product lacks is found again, and the rest of the logarithm is added
  have size₁ : |y.value * H.value + p.neg.value| ≤ n / 2 ^ 53 := by
    rw [hy, hH, value_neg, abs_le]
    constructor <;> linarith
  have second := abs_productSum_sub_le_of size₁
  generalize y.productSum H p.neg = q at second ⊢
  rw [hy, hH, value_neg] at second
  obtain ⟨second₁, second₂⟩ := abs_le.mp second
  have size₂ : |y.value * L.value + q.value| ≤ n / 2 ^ 51 := by
    rw [hy, hL, abs_le]
    constructor <;> linarith
  have third := abs_productSum_sub_le_of size₂
  generalize y.productSum L q = t at third ⊢
  rw [hy, hL] at third
  obtain ⟨third₁, third₂⟩ := abs_le.mp third
  constructor <;> rw [abs_le] <;> constructor <;> linarith

/-- How a power of two is put together. -/
theorem powPositive_two (one_le : 1 ≤ y.value) :
    powPositive false (2 ^ 52) (-51) y =
      if y.below 63 then
        match exponential (logPower y).1 (logPower y).2 with
        | .tooLarge => none
        | .exactly z =>
          if (ofScaled false z.m.natAbs z.e).isFinite then some (ofScaled false z.m.natAbs z.e) else none
      else none := by
  have notTiny : y.below (-65) = false := by
    rw [← Bool.not_eq_true, below_iff, not_lt]
    exact (le_trans (by norm_num) one_le).trans (le_abs_self _)
  have bits : normalized (2 ^ 52) (-51) = (2 ^ 52, -51) := by decide
  have pos : 0 < y.m := m_pos (by linarith)
  simp only [powPositive, bits, notTiny, logarithm_two, pos]
  cases y.below 63 <;> rfl

theorem powPositive_two_of_large (large : 1024 ≤ (logPower y).1.value) (one_le : 1 ≤ y.value) :
    powPositive false (2 ^ 52) (-51) y = none := by
  rw [powPositive_two one_le, exponential_of_large large, ite_self]

/-- The power of two with a number as its exponent. -/
theorem exists_powPositive_two {x : Binary64} {q : ℚ} (hx : x.rational? = some q) (pos : 0 < q) :
    ∃ y : Scaled, y.value = q ∧ two.pow x = powPositive false (2 ^ 52) (-51) y := by
  obtain ⟨m, e, canonical, y, form, -, value, power⟩ :=
    pow_eq_powPositive rational?_two two_pos (by norm_num) hx pos.ne'
  obtain ⟨-, rfl, rfl⟩ := (finite.injEq ..).mp form
  exact ⟨y, value, power⟩

variable {k : Binary64}

/-- **The power of two is exact**, as long as there is one. -/
theorem pow_two_of_lt (hk : k.rational? = some (n : ℚ)) (few : n < 1024) :
    ∃ z, two.pow k = some z ∧ z.rational? = some (2 ^ n) := by
  rcases Nat.eq_zero_or_pos n with rfl | pos
  · exact ⟨one, pow_zero_exponent two (by exact_mod_cast hk), by rw [rational?_one, pow_zero]⟩
  obtain ⟨y, value, power⟩ := exists_powPositive_two hk (by exact_mod_cast pos)
  have one_le : (1 : ℚ) ≤ n := by exact_mod_cast pos
  have atMost : (n : ℚ) ≤ 1023 := by exact_mod_cast Nat.le_of_lt_succ few
  obtain ⟨near, whole⟩ := logPower_near value
  have within : (logPower y).1.below 10 = true := by
    obtain ⟨low, high⟩ := abs_le.mp near
    unfold reduction at low high
    rw [below_iff, abs_lt]
    constructor <;> norm_num <;> linarith
  have within' : y.below 63 = true := by
    rw [below_iff, value, abs_of_nonneg (by linarith)]
    exact atMost.trans_lt (by norm_num)
  obtain ⟨z, result, exact⟩ := exponential_of_near pos (by omega) near whole within
  have canonical : Canonical (2 ^ 52) (n - 52) := ⟨by decide, by omega, by omega, .inl le_rfl⟩
  have same : (z.m.natAbs * 2 ^ z.e : ℚ) = (2 ^ 52 : ℕ) * 2 ^ ((n : ℤ) - 52) := by
    rw [← abs_value, exact, abs_of_pos (by positivity), zpow_sub₀ two_ne_zero, zpow_natCast]
    norm_num
    ring
  have rounded := ofScaled_of_canonical false canonical (by decide) same
  refine ⟨.finite false (2 ^ 52) (n - 52) canonical, ?_, ?_⟩
  · rw [power, powPositive_two (value ▸ one_le), if_pos within', result]
    simp only [rounded]
    rfl
  · rw [rational?, ← same, ← abs_value, exact, abs_of_pos (by positivity)]
    rfl

/-- There is no power of two with an exponent of 2048 or more. -/
theorem pow_two_of_large {q : ℚ} (hk : k.rational? = some q) (large : 2048 ≤ q) : two.pow k = none := by
  obtain ⟨y, value, power⟩ := exists_powPositive_two hk (by linarith)
  have low := (abs_le.mp (abs_product_leading_sub_le (y := y) (by linarith))).1
  unfold leading at low
  rw [power, powPositive_two_of_large (by linarith) (by linarith)]

/-- There is no power of two from the exponent 1024 on. -/
theorem pow_two_of_ge (hk : k.rational? = some (n : ℚ)) (large : 1024 ≤ n) : two.pow k = none := by
  have atLeast : (1024 : ℚ) ≤ n := by exact_mod_cast large
  rcases Nat.lt_or_ge 2048 n with beyond | few
  · exact pow_two_of_large hk (by exact_mod_cast beyond.le)
  obtain ⟨y, value, power⟩ := exists_powPositive_two hk (by linarith)
  rcases le_or_gt 1024 (logPower y).1.value with beyond | within
  · rw [power, powPositive_two_of_large beyond (by linarith)]
  obtain ⟨near, whole⟩ := logPower_near value
  have within' : (logPower y).1.below 10 = true := by
    have low := (abs_le.mp near).1
    unfold reduction at low
    rw [below_iff, abs_lt]
    constructor <;> norm_num <;> linarith
  obtain ⟨z, result, exact⟩ := exponential_of_near (by omega) few near whole within'
  have high : (2 : ℚ) ^ (1024 : ℤ) ≤ z.m.natAbs * 2 ^ z.e := by
    rw [← abs_value, exact, abs_of_pos (by positivity), ← zpow_natCast]
    exact zpow_le_zpow_right₀ one_le_two (by omega)
  rw [power, powPositive_two (by linarith), result]
  simp only [ofScaled_of_ge false high, isFinite, Bool.false_eq_true, if_false, ite_self]

end PortMap.Binary64
