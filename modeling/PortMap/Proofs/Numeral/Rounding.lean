import Mathlib.Algebra.Order.Archimedean.Basic
import PortMap.Proofs.Numeral.Rational

/-!
# Rounding to the format

What `ofRatio` and `ofScaled` make of a positive rational number. Everything follows from two facts: where
the leading bit of a quotient stands (`quotientExponent_eq`), and that rounding to a whole number is off by
one half at most (`abs_roundHalfEven_sub_le`).

## What is proved

* `rational?_ofScaled` — **what the format holds is kept**: a number of at most 53 bits above the least
  exponent and below `2 ^ 1024` is its own rounding; so are whole numbers of 53 bits (`rational?_ofInt`)
  and products with a power of two (`rational?_mul_two_pow`).
* `ofScaled_of_ge` — from `2 ^ 1024` on the rounding is an infinity.
* `ofScaled_near` — a rounding is off by half a unit of the last place at most.
* `ofScaled_ge` — a rounding is not below the power of two that the number has reached.
* `ofRatio_congr` — a rounding depends on the value of the quotient alone.
* `eq_of_rational?` — a positive number is kept in one form only.
-/

namespace PortMap.Binary64

/-! ### Leading bits -/

theorem zpow_log2_le {n : Nat} (pos : n ≠ 0) : (2 : ℚ) ^ (n.log2 : ℤ) ≤ n := by
  rw [zpow_natCast]
  exact_mod_cast Nat.log2_self_le pos

theorem lt_zpow_log2 (n : Nat) : (n : ℚ) < 2 ^ ((n.log2 : ℤ) + 1) := by
  rw [← Nat.cast_succ, zpow_natCast]
  exact_mod_cast Nat.lt_log2_self (n := n)

/-- The leading bit of a scaled number bounds it from below. -/
theorem zpow_leading_le {m : Nat} (pos : m ≠ 0) (e : ℤ) : (2 : ℚ) ^ ((m.log2 : ℤ) + e) ≤ m * 2 ^ e := by
  rw [zpow_add₀ two_ne_zero]
  gcongr
  exact zpow_log2_le pos

/-- The leading bit of a scaled number bounds it from above. -/
theorem lt_zpow_leading (m : Nat) (e : ℤ) : (m * 2 ^ e : ℚ) < 2 ^ ((m.log2 : ℤ) + e + 1) := by
  rw [add_right_comm, zpow_add₀ two_ne_zero]
  gcongr
  exact lt_zpow_log2 m

theorem ne_zero_of_zpow_le {m : Nat} {e l : ℤ} (reached : (2 : ℚ) ^ l ≤ m * 2 ^ e) : m ≠ 0 := by
  rintro rfl
  rw [Nat.cast_zero, zero_mul] at reached
  exact absurd reached (not_le.mpr (by positivity))

theorem zpow_toNat {e : ℤ} (nonneg : 0 ≤ e) : (2 : ℚ) ^ e.toNat = 2 ^ e := by
  rw [← zpow_natCast, Int.toNat_of_nonneg nonneg]

/-- The lengths of its two parts leave two places for the leading bit of a quotient. -/
theorem quotient_between {n d : Nat} (hn : n ≠ 0) (hd : d ≠ 0) :
    (2 : ℚ) ^ ((n.log2 : ℤ) - d.log2 - 1) < n / d ∧ (n / d : ℚ) < 2 ^ ((n.log2 : ℤ) - d.log2 + 1) := by
  have hd' : (0 : ℚ) < d := by exact_mod_cast Nat.pos_of_ne_zero hd
  constructor
  · calc (2 : ℚ) ^ ((n.log2 : ℤ) - d.log2 - 1)
      _ = 2 ^ (n.log2 : ℤ) / 2 ^ ((d.log2 : ℤ) + 1) := by rw [← zpow_sub₀ two_ne_zero]; congr 1; omega
      _ < 2 ^ (n.log2 : ℤ) / d := by gcongr; exact lt_zpow_log2 d
      _ ≤ n / d := by gcongr; exact zpow_log2_le hn
  · calc (n / d : ℚ)
      _ < 2 ^ ((n.log2 : ℤ) + 1) / d := by gcongr; exact lt_zpow_log2 n
      _ ≤ 2 ^ ((n.log2 : ℤ) + 1) / 2 ^ (d.log2 : ℤ) := by gcongr; exact zpow_log2_le hd
      _ = 2 ^ ((n.log2 : ℤ) - d.log2 + 1) := by rw [← zpow_sub₀ two_ne_zero]; congr 1; omega

/-- The comparison of whole numbers that tells which of the two places it is. -/
theorem full_iff (n : Nat) {d : Nat} (hd : d ≠ 0) (e : ℤ) :
    (if 0 ≤ e then d * 2 ^ (52 + e.toNat) ≤ n else d * 2 ^ 52 ≤ n * 2 ^ (-e).toNat) ↔
      (2 : ℚ) ^ (e + 52) ≤ n / d := by
  have hd' : (0 : ℚ) < d := by exact_mod_cast Nat.pos_of_ne_zero hd
  have power : (2 : ℚ) ^ (e + 52) * d = d * 2 ^ 52 * 2 ^ e := by
    rw [zpow_add₀ two_ne_zero, zpow_ofNat]
    ring
  rw [le_div_iff₀ hd', power]
  split
  · have shifted : ((d * 2 ^ (52 + e.toNat) : Nat) : ℚ) = d * 2 ^ 52 * 2 ^ e := by
      rw [Nat.cast_mul, Nat.cast_pow, Nat.cast_ofNat, pow_add, zpow_toNat ‹_›, mul_assoc]
    rw [← @Nat.cast_le ℚ, shifted]
  · have shifted : ((n * 2 ^ (-e).toNat : Nat) : ℚ) = n * (2 ^ e)⁻¹ := by
      rw [Nat.cast_mul, Nat.cast_pow, Nat.cast_ofNat, zpow_toNat (by omega), zpow_neg]
    rw [← @Nat.cast_le ℚ, shifted, le_mul_inv_iff₀ (by positivity), Nat.cast_mul, Nat.cast_pow,
      Nat.cast_ofNat]

/-- The exponent of a quotient between two neighbouring powers of two. -/
theorem quotientExponent_eq {n d : Nat} {l : ℤ} (hn : n ≠ 0) (hd : d ≠ 0)
    (low : (2 : ℚ) ^ l ≤ n / d) (high : (n / d : ℚ) < 2 ^ (l + 1)) :
    quotientExponent n d = max (-1074) (l - 52) := by
  obtain ⟨below, above⟩ := quotient_between hn hd
  simp only [quotientExponent, full_iff n hd]
  congr 1
  split
  case isTrue reached =>
    have := (zpow_lt_zpow_iff_right₀ one_lt_two).mp (low.trans_lt above)
    have := (zpow_lt_zpow_iff_right₀ one_lt_two).mp (reached.trans_lt high)
    omega
  case isFalse missed =>
    have := (zpow_lt_zpow_iff_right₀ one_lt_two).mp (low.trans_lt (not_le.mp missed))
    have := (zpow_lt_zpow_iff_right₀ one_lt_two).mp (below.trans high)
    omega

/-! ### The error of one rounding -/

theorem abs_roundHalfEven_sub_le (n : Nat) {d : Nat} (pos : 0 < d) :
    |(roundHalfEven n d - n / d : ℚ)| ≤ 1 / 2 := by
  have hd : (0 : ℚ) < d := by exact_mod_cast pos
  have parts : (n / d : ℚ) = (n / d : Nat) + (n % d : Nat) / d := by
    rw [div_eq_iff hd.ne', add_mul, div_mul_cancel₀ _ hd.ne', mul_comm]
    exact_mod_cast (Nat.div_add_mod n d).symm
  have least : (0 : ℚ) ≤ (n % d : Nat) / d := div_nonneg (Nat.cast_nonneg _) hd.le
  have most : ((n % d : Nat) : ℚ) / d ≤ 1 := by
    rw [div_le_one₀ hd]
    exact_mod_cast (Nat.mod_lt n pos).le
  have down (h : 2 * (n % d) ≤ d) : |((n / d : Nat) - n / d : ℚ)| ≤ 1 / 2 := by
    have : ((n % d : Nat) : ℚ) / d ≤ 1 / 2 := by
      rw [div_le_div_iff₀ hd two_pos]
      exact_mod_cast (by omega : n % d * 2 ≤ 1 * d)
    rw [parts, abs_le]
    constructor <;> linarith
  have up (h : d ≤ 2 * (n % d)) : |((n / d + 1 : Nat) - n / d : ℚ)| ≤ 1 / 2 := by
    have : (1 / 2 : ℚ) ≤ (n % d : Nat) / d := by
      rw [div_le_div_iff₀ two_pos hd]
      exact_mod_cast (by omega : 1 * d ≤ n % d * 2)
    rw [parts, abs_le, Nat.cast_succ]
    constructor <;> linarith
  simp only [roundHalfEven]
  split
  · exact down (by omega)
  split
  · exact up (by omega)
  split
  · exact down (by omega)
  · exact up (by omega)

theorem roundHalfEven_mul_right (n d : Nat) {k : Nat} (pos : 0 < k) :
    roundHalfEven (n * k) (d * k) = roundHalfEven n d := by
  have below : 2 * (n % d * k) < d * k ↔ 2 * (n % d) < d := by
    rw [← Nat.mul_assoc, Nat.mul_lt_mul_right pos]
  have above : d * k < 2 * (n % d * k) ↔ d < 2 * (n % d) := by
    rw [← Nat.mul_assoc, Nat.mul_lt_mul_right pos]
  simp only [roundHalfEven, Nat.mul_div_mul_right _ _ pos, Nat.mul_mod_mul_right, below, above]

theorem roundHalfEven_congr {n d n' d' : Nat} (hd : 0 < d) (hd' : 0 < d') (same : n * d' = n' * d) :
    roundHalfEven n d = roundHalfEven n' d' :=
  calc roundHalfEven n d
    _ = roundHalfEven (n * d') (d * d') := (roundHalfEven_mul_right n d hd').symm
    _ = roundHalfEven (n' * d) (d' * d) := by rw [same, Nat.mul_comm d d']
    _ = roundHalfEven n' d' := roundHalfEven_mul_right n' d' hd

/-- The significand that belongs to an exponent is off by one half at most. -/
theorem abs_significand_sub_le (n : Nat) {d : Nat} (pos : 0 < d) (e : ℤ) :
    |((if 0 ≤ e then roundHalfEven n (d * 2 ^ e.toNat) else roundHalfEven (n * 2 ^ (-e).toNat) d : Nat) -
      n / d / 2 ^ e : ℚ)| ≤ 1 / 2 := by
  split
  · have bound := abs_roundHalfEven_sub_le n (d := d * 2 ^ e.toNat) (Nat.mul_pos pos (Nat.two_pow_pos _))
    rwa [Nat.cast_mul, Nat.cast_pow, Nat.cast_ofNat, zpow_toNat ‹_›, ← div_div] at bound
  · have bound := abs_roundHalfEven_sub_le (n * 2 ^ (-e).toNat) pos
    rwa [Nat.cast_mul, Nat.cast_pow, Nat.cast_ofNat, zpow_toNat (by omega), zpow_neg, ← div_eq_mul_inv,
      div_right_comm] at bound

/-- A whole number that is off by less than one is none other. -/
theorem natCast_eq_of_abs_sub_lt {m n : ℕ} (h : |(m - n : ℚ)| < 1) : m = n := by
  have : |(m - n : ℤ)| < 1 := by exact_mod_cast h
  rw [Int.abs_lt_one_iff] at this
  omega

/-! ### Quotients -/

variable {n d m M : Nat} {e E l : ℤ}

/-- Where the leading bit of a number of the format stands. -/
theorem exponent_of_canonical (h : Canonical M E) (pos : M ≠ 0) :
    max (-1074) ((M.log2 : ℤ) + E - 52) = E := by
  obtain ⟨most, least, -, full | rfl⟩ := h
  · have := (Nat.log2_lt pos).mpr most
    have := (Nat.le_log2 pos).mpr full
    omega
  · have := (Nat.log2_lt pos).mpr most
    omega

/-- **A number of the format is its own rounding.** -/
theorem ofRatio_of_canonical (negative : Bool) (h : Canonical M E) (pos : M ≠ 0) (hd : d ≠ 0)
    (value : (n / d : ℚ) = M * 2 ^ E) : ofRatio negative n d = .finite negative M E h := by
  have scale : (0 : ℚ) < 2 ^ E := by positivity
  have hM : (0 : ℚ) < M := by exact_mod_cast Nat.pos_of_ne_zero pos
  have hn : n ≠ 0 := by
    rintro rfl
    have : (0 : ℚ) < M * 2 ^ E := by positivity
    rw [← value] at this
    simp at this
  have exponent : quotientExponent n d = E := by
    rw [quotientExponent_eq hn hd (l := M.log2 + E), exponent_of_canonical h pos]
    · exact value ▸ zpow_leading_le pos E
    · exact value ▸ lt_zpow_leading M E
  have significand := abs_significand_sub_le n (Nat.pos_of_ne_zero hd) E
  rw [value, mul_div_cancel_right₀ _ scale.ne'] at significand
  have whole := natCast_eq_of_abs_sub_lt (significand.trans_lt (by norm_num))
  simp only [ofRatio, if_neg hn, exponent]
  rw [whole, if_neg h.1.ne, orInfinite, dif_pos h]

/-- **A rounding depends on the value of the quotient alone.** -/
theorem ofRatio_congr (negative : Bool) {n d n' d' : Nat} (hd : d ≠ 0) (hd' : d' ≠ 0)
    (same : (n / d : ℚ) = n' / d') : ofRatio negative n d = ofRatio negative n' d' := by
  have cross : n * d' = n' * d := by
    rw [div_eq_div_iff (by exact_mod_cast hd) (by exact_mod_cast hd')] at same
    exact_mod_cast same
  have pos := Nat.pos_of_ne_zero hd
  have pos' := Nat.pos_of_ne_zero hd'
  by_cases zero : n = 0
  · have zero' : n' = 0 := by
      rw [zero, Nat.zero_mul] at cross
      exact (Nat.mul_eq_zero.mp cross.symm).resolve_right hd
    rw [zero, zero']
    rfl
  · have nonzero' : n' ≠ 0 := by
      rintro rfl
      rw [Nat.zero_mul] at cross
      exact (Nat.mul_eq_zero.mp cross).elim zero hd'
    have positive : (0 : ℚ) < n / d := by positivity
    obtain ⟨l, low, high⟩ := exists_mem_Ico_zpow positive one_lt_two
    simp only [ofRatio, if_neg zero, if_neg nonzero', quotientExponent_eq zero hd low high,
      quotientExponent_eq nonzero' hd' (same ▸ low) (same ▸ high)]
    generalize max (-1074) (l - 52) = e
    have up : roundHalfEven n (d * 2 ^ e.toNat) = roundHalfEven n' (d' * 2 ^ e.toNat) :=
      roundHalfEven_congr (Nat.mul_pos pos (Nat.two_pow_pos _)) (Nat.mul_pos pos' (Nat.two_pow_pos _))
        (by rw [← Nat.mul_assoc, ← Nat.mul_assoc, cross])
    have down : roundHalfEven (n * 2 ^ (-e).toNat) d = roundHalfEven (n' * 2 ^ (-e).toNat) d' :=
      roundHalfEven_congr pos pos' (by rw [Nat.mul_right_comm, cross, Nat.mul_right_comm])
    rw [up, down]
theorem orInfinite_of_not (negative : Bool) (h : ¬ Canonical m e) :
    orInfinite negative m e = .infinite negative :=
  dif_neg h

/-- With all bits in use, a number has reached the power of two of its leading bit. -/
theorem orInfinite_ge (negative : Bool) (full : 2 ^ 52 ≤ m) (hl : l ≤ e + 52) :
    orInfinite negative m e = .infinite negative ∨
      ∃ M E h, orInfinite negative m e = .finite negative M E h ∧ (2 : ℚ) ^ l ≤ M * 2 ^ E := by
  by_cases h : Canonical m e
  · refine .inr ⟨m, e, h, dif_pos h, ?_⟩
    have leading : ((2 : ℚ) ^ 52) ≤ m := by exact_mod_cast full
    calc (2 : ℚ) ^ l
      _ ≤ 2 ^ (52 + e) := zpow_le_zpow_right₀ one_le_two (by omega)
      _ = 2 ^ 52 * 2 ^ e := by rw [zpow_add₀ two_ne_zero, zpow_ofNat]
      _ ≤ m * 2 ^ e := by gcongr
  · exact .inl (orInfinite_of_not negative h)

/-- Above the format the rounding is an infinity. -/
theorem ofRatio_of_ge (negative : Bool) (hd : d ≠ 0) (high : (2 : ℚ) ^ (1024 : ℤ) ≤ n / d) :
    ofRatio negative n d = .infinite negative := by
  have value_pos : (0 : ℚ) < n / d := lt_of_lt_of_le (by positivity) high
  have hn : n ≠ 0 := by
    rintro rfl
    simp at value_pos
  obtain ⟨l, low, next⟩ := exists_mem_Ico_zpow value_pos one_lt_two
  have large : 1024 < l + 1 := (zpow_lt_zpow_iff_right₀ one_lt_two).mp (high.trans_lt next)
  simp only [ofRatio, if_neg hn, quotientExponent_eq hn hd low next]
  rw [orInfinite_of_not _ fun h => by have := h.2.2.1; omega,
    orInfinite_of_not _ fun h => by have := h.2.2.1; omega, ite_self]

/-- A rounding does not fall below the power of two that the number has reached. -/
theorem ofRatio_ge (negative : Bool) (hd : d ≠ 0) (normal : -1022 ≤ l) (low : (2 : ℚ) ^ l ≤ n / d) :
    ofRatio negative n d = .infinite negative ∨
      ∃ M E h, ofRatio negative n d = .finite negative M E h ∧ (2 : ℚ) ^ l ≤ M * 2 ^ E := by
  have value_pos : (0 : ℚ) < n / d := lt_of_lt_of_le (by positivity) low
  have hn : n ≠ 0 := by
    rintro rfl
    simp at value_pos
  obtain ⟨k, below, above⟩ := exists_mem_Ico_zpow value_pos one_lt_two
  have reached : l < k + 1 := (zpow_lt_zpow_iff_right₀ one_lt_two).mp (low.trans_lt above)
  have grown : (2 : ℚ) ^ l ≤ 2 ^ k := zpow_le_zpow_right₀ one_le_two (by omega)
  have exponent : max (-1074) (k - 52) = k - 52 := max_eq_right (by omega)
  have significand := abs_significand_sub_le n (Nat.pos_of_ne_zero hd) (k - 52)
  simp only [ofRatio, if_neg hn, quotientExponent_eq hn hd below above, exponent]
  generalize (if 0 ≤ k - 52 then _ else _ : Nat) = q at significand ⊢
  have full : 2 ^ 52 ≤ q := by
    have scaled : (2 : ℚ) ^ 52 ≤ n / d / 2 ^ (k - 52) := by
      rw [le_div_iff₀ (by positivity), ← zpow_ofNat, ← zpow_add₀ two_ne_zero, add_sub_cancel]
      exact below
    have near := (abs_le.mp significand).1
    have : (2 ^ 52 : ℚ) < q + 1 := by linarith
    exact Nat.lt_succ_iff.mp (by exact_mod_cast this)
  split
  · exact orInfinite_ge negative le_rfl (by omega)
  · exact orInfinite_ge negative full (by omega)

/-- **A rounding is off by half a unit of the last place at most**, where the number is below the power of two
after the leading bit. -/
theorem ofRatio_near (negative : Bool) (hd : d ≠ 0) (normal : -1022 ≤ l) (within : l < 1023)
    (small : (n / d : ℚ) < 2 ^ (l + 1)) :
    ∃ M E h, ofRatio negative n d = .finite negative M E h ∧ |(M * 2 ^ E - n / d : ℚ)| ≤ 2 ^ (l - 53) := by
  by_cases hn : n = 0
  · subst hn
    refine ⟨0, -1074, by decide, rfl, ?_⟩
    rw [Nat.cast_zero, zero_mul, zero_div, sub_self, abs_zero]
    positivity
  have value_pos : (0 : ℚ) < n / d := by positivity
  obtain ⟨k, low, high⟩ := exists_mem_Ico_zpow value_pos one_lt_two
  have place : k < l + 1 := (zpow_lt_zpow_iff_right₀ one_lt_two).mp (low.trans_lt small)
  simp only [ofRatio, if_neg hn, quotientExponent_eq hn hd low high]
  obtain ⟨e, he⟩ : ∃ e, e = max (-1074) (k - 52) := ⟨_, rfl⟩
  rw [← he]
  have scale : (0 : ℚ) < 2 ^ e := by positivity
  have significand := abs_significand_sub_le n (Nat.pos_of_ne_zero hd) e
  generalize (if 0 ≤ e then _ else _ : Nat) = q at significand ⊢
  have near := abs_le.mp significand
  have error : |(q * 2 ^ e - n / d : ℚ)| ≤ 2 ^ (l - 53) :=
    calc |(q * 2 ^ e - n / d : ℚ)|
      _ = |(q - n / d / 2 ^ e : ℚ)| * 2 ^ e := by
        rw [← abs_of_pos scale, ← abs_mul, abs_of_pos scale, sub_mul, div_mul_cancel₀ _ scale.ne']
      _ ≤ 1 / 2 * 2 ^ e := by gcongr
      _ = 2 ^ (e - 1) := by rw [zpow_sub_one₀ two_ne_zero, mul_comm, one_div]
      _ ≤ 2 ^ (l - 53) := zpow_le_zpow_right₀ one_le_two (by omega)
  have most : q ≤ 2 ^ 53 := by
    have scaled : (n / d / 2 ^ e : ℚ) < 2 ^ 53 := by
      rw [div_lt_iff₀ scale, ← zpow_ofNat, ← zpow_add₀ two_ne_zero]
      exact high.trans_le (zpow_le_zpow_right₀ one_le_two (by omega))
    have : (q : ℚ) < 2 ^ 53 + 1 := by linarith
    exact Nat.lt_succ_iff.mp (by exact_mod_cast this)
  have full : 2 ^ 52 ≤ q ∨ e = -1074 := by
    rcases max_choice (-1074) (k - 52) with least | normal <;> rw [← he] at *
    · exact .inr least
    · have scaled : (2 : ℚ) ^ 52 ≤ n / d / 2 ^ e := by
        rw [le_div_iff₀ scale, ← zpow_ofNat, ← zpow_add₀ two_ne_zero, normal, add_sub_cancel]
        exact low
      have : (2 ^ 52 : ℚ) < q + 1 := by linarith
      exact .inl (Nat.lt_succ_iff.mp (by exact_mod_cast this))
  split
  case isTrue carried =>
    have canonical : Canonical (2 ^ 52) (e + 1) := ⟨by norm_num, by omega, by omega, .inl le_rfl⟩
    refine ⟨_, _, canonical, dif_pos canonical, ?_⟩
    have value : (((2 ^ 52 : Nat) : ℚ) * 2 ^ (e + 1)) = q * 2 ^ e := by
      rw [carried, zpow_add_one₀ two_ne_zero]
      push_cast
      ring
    rwa [value]
  case isFalse kept =>
    have canonical : Canonical q e := ⟨lt_of_le_of_ne most kept, by omega, by omega, full⟩
    exact ⟨q, e, canonical, dif_pos canonical, error⟩

/-! ### Scaled whole numbers -/

/-- A number within the bounds that `ofScaled` looks at is rounded as a quotient. -/
theorem ofScaled_eq_ofRatio (negative : Bool) (pos : m ≠ 0) (low : (2 : ℚ) ^ (-1200 : ℤ) ≤ m * 2 ^ e)
    (high : (m * 2 ^ e : ℚ) < 2 ^ (1101 : ℤ)) :
    ∃ n d : Nat, d ≠ 0 ∧ (n / d : ℚ) = m * 2 ^ e ∧ ofScaled negative m e = ofRatio negative n d := by
  have := (zpow_lt_zpow_iff_right₀ one_lt_two).mp ((zpow_leading_le pos e).trans_lt high)
  have := (zpow_lt_zpow_iff_right₀ one_lt_two).mp (low.trans_lt (lt_zpow_leading m e))
  rw [ofScaled, if_neg pos, if_neg (by omega), if_neg (by omega)]
  split
  · refine ⟨_, 1, one_ne_zero, ?_, rfl⟩
    rw [Nat.cast_mul, Nat.cast_pow, Nat.cast_ofNat, zpow_toNat ‹_›, Nat.cast_one, div_one]
  · refine ⟨m, _, (Nat.two_pow_pos _).ne', ?_, rfl⟩
    rw [Nat.cast_pow, Nat.cast_ofNat, zpow_toNat (by omega), zpow_neg, div_inv_eq_mul]

/-- A number beyond the bounds that `ofScaled` looks at is rounded to an infinity. -/
theorem ofScaled_of_large (negative : Bool) (high : (2 : ℚ) ^ (1101 : ℤ) ≤ m * 2 ^ e) :
    ofScaled negative m e = .infinite negative := by
  have := (zpow_lt_zpow_iff_right₀ one_lt_two).mp (high.trans_lt (lt_zpow_leading m e))
  rw [ofScaled, if_neg (ne_zero_of_zpow_le high), if_pos (by omega)]

/-- **A number of the format is its own rounding**, however it is scaled. -/
theorem ofScaled_of_canonical (negative : Bool) (h : Canonical M E) (pos : M ≠ 0)
    (value : (m * 2 ^ e : ℚ) = M * 2 ^ E) : ofScaled negative m e = .finite negative M E h := by
  have hM : (0 : ℚ) < M := by exact_mod_cast Nat.pos_of_ne_zero pos
  have low : (2 : ℚ) ^ (-1200 : ℤ) ≤ m * 2 ^ e := by
    have := h.2.1
    rw [value]
    exact (zpow_le_zpow_right₀ one_le_two (by omega)).trans (zpow_leading_le pos E)
  have high : (m * 2 ^ e : ℚ) < 2 ^ (1101 : ℤ) := by
    have := h.2.2.1
    have := (Nat.log2_lt pos).mpr h.1
    rw [value]
    exact (lt_zpow_leading M E).trans_le (zpow_le_zpow_right₀ one_le_two (by omega))
  obtain ⟨n, d, hd, quotient, rounded⟩ := ofScaled_eq_ofRatio negative (ne_zero_of_zpow_le low) low high
  rw [rounded, ofRatio_of_canonical negative h pos hd (quotient.trans value)]

/-- Above the format the rounding is an infinity, however the number is scaled. -/
theorem ofScaled_of_ge (negative : Bool) (high : (2 : ℚ) ^ (1024 : ℤ) ≤ m * 2 ^ e) :
    ofScaled negative m e = .infinite negative := by
  rcases le_or_gt ((2 : ℚ) ^ (1101 : ℤ)) (m * 2 ^ e) with large | within
  · exact ofScaled_of_large negative large
  have low : (2 : ℚ) ^ (-1200 : ℤ) ≤ m * 2 ^ e := (zpow_le_zpow_right₀ one_le_two (by norm_num)).trans high
  obtain ⟨n, d, hd, quotient, rounded⟩ := ofScaled_eq_ofRatio negative (ne_zero_of_zpow_le low) low within
  rw [rounded, ofRatio_of_ge negative hd (quotient ▸ high)]

/-- A rounding does not fall below the power of two that the number has reached. -/
theorem ofScaled_ge (negative : Bool) (normal : -1022 ≤ l) (reached : (2 : ℚ) ^ l ≤ m * 2 ^ e) :
    ofScaled negative m e = .infinite negative ∨
      ∃ M E h, ofScaled negative m e = .finite negative M E h ∧ (2 : ℚ) ^ l ≤ M * 2 ^ E := by
  rcases le_or_gt ((2 : ℚ) ^ (1101 : ℤ)) (m * 2 ^ e) with large | within
  · exact .inl (ofScaled_of_large negative large)
  have low : (2 : ℚ) ^ (-1200 : ℤ) ≤ m * 2 ^ e := (zpow_le_zpow_right₀ one_le_two (by omega)).trans reached
  obtain ⟨n, d, hd, quotient, rounded⟩ := ofScaled_eq_ofRatio negative (ne_zero_of_zpow_le low) low within
  rw [rounded]
  exact ofRatio_ge negative hd normal (quotient ▸ reached)

/-- **A rounding is off by half a unit of the last place at most**, however the number is scaled. -/
theorem ofScaled_near (negative : Bool) (normal : -1022 ≤ l) (within : l < 1023)
    (small : (m * 2 ^ e : ℚ) < 2 ^ (l + 1)) :
    ∃ M E h, ofScaled negative m e = .finite negative M E h ∧ |(M * 2 ^ E - m * 2 ^ e : ℚ)| ≤ 2 ^ (l - 53) := by
  have nonneg : (0 : ℚ) ≤ m * 2 ^ e := by positivity
  have high : (m * 2 ^ e : ℚ) < 2 ^ (1101 : ℤ) :=
    small.trans_le (zpow_le_zpow_right₀ one_le_two (by omega))
  rcases lt_or_ge (m * 2 ^ e : ℚ) (2 ^ (-1200 : ℤ)) with tiny | low
  · have vanishes : ofScaled negative m e = zero negative := by
      by_cases pos : m = 0
      · rw [ofScaled, if_pos pos]
      · have := (zpow_lt_zpow_iff_right₀ one_lt_two).mp ((zpow_leading_le pos e).trans_lt tiny)
        rw [ofScaled, if_neg pos, if_neg (by omega), if_pos (by omega)]
    refine ⟨0, -1074, by decide, vanishes, ?_⟩
    rw [Nat.cast_zero, zero_mul, zero_sub, abs_neg, abs_of_nonneg nonneg]
    exact tiny.le.trans (zpow_le_zpow_right₀ one_le_two (by omega))
  · obtain ⟨n, d, hd, quotient, rounded⟩ := ofScaled_eq_ofRatio negative (ne_zero_of_zpow_le low) low high
    rw [rounded, ← quotient]
    exact ofRatio_near negative hd normal within (quotient ▸ small)

/-! ### Signs -/

theorem orInfinite_form (s : Bool) (m : ℕ) (e : ℤ) :
    orInfinite s m e = .infinite s ∨ ∃ M E h, orInfinite s m e = .finite s M E h := by
  by_cases h : Canonical m e
  · exact .inr ⟨m, e, h, dif_pos h⟩
  · exact .inl (orInfinite_of_not s h)

theorem ofRatio_form (s : Bool) (n d : ℕ) :
    ofRatio s n d = .infinite s ∨ ∃ M E h, ofRatio s n d = .finite s M E h := by
  simp only [ofRatio]
  repeat' split
  all_goals first | exact orInfinite_form .. | exact .inr ⟨0, -1074, by decide, rfl⟩

/-- A rounding keeps the sign. -/
theorem ofScaled_form (s : Bool) (m : ℕ) (e : ℤ) :
    ofScaled s m e = .infinite s ∨ ∃ M E h, ofScaled s m e = .finite s M E h := by
  unfold ofScaled
  repeat' split
  all_goals first | exact ofRatio_form .. | exact .inl rfl | exact .inr ⟨0, -1074, by decide, rfl⟩

/-! ### What the format holds -/

/-- What has at most 53 bits above the least exponent has a kept form, if it is not too large. -/
theorem exists_canonical (pos : m ≠ 0) (bits : m < 2 ^ 53) (least : -1074 ≤ e)
    (small : (m * 2 ^ e : ℚ) < 2 ^ (1024 : ℤ)) :
    ∃ M E, Canonical M E ∧ M ≠ 0 ∧ (m * 2 ^ e : ℚ) = M * 2 ^ E := by
  have leading := (zpow_lt_zpow_iff_right₀ one_lt_two).mp ((zpow_leading_le pos e).trans_lt small)
  have length : m.log2 ≤ 52 := Nat.lt_succ_iff.mp ((Nat.log2_lt pos).mpr bits)
  obtain ⟨k, hk⟩ : ∃ k : Nat, k = min (52 - m.log2) (e + 1074).toNat := ⟨_, rfl⟩
  have most : m * 2 ^ k < 2 ^ 53 :=
    calc m * 2 ^ k
      _ < 2 ^ (m.log2 + 1) * 2 ^ k := Nat.mul_lt_mul_of_pos_right Nat.lt_log2_self (Nat.two_pow_pos _)
      _ = 2 ^ (m.log2 + 1 + k) := (Nat.pow_add ..).symm
      _ ≤ 2 ^ 53 := Nat.pow_le_pow_right (by decide) (by omega)
  have full : 2 ^ 52 ≤ m * 2 ^ k ∨ e - k = -1074 := by
    rcases Nat.lt_or_ge k (52 - m.log2) with cut | whole
    · exact .inr (by omega)
    · left
      calc 2 ^ 52
        _ ≤ 2 ^ (m.log2 + k) := Nat.pow_le_pow_right (by decide) (by omega)
        _ = 2 ^ m.log2 * 2 ^ k := Nat.pow_add ..
        _ ≤ m * 2 ^ k := Nat.mul_le_mul_right _ (Nat.log2_self_le pos)
  refine ⟨m * 2 ^ k, e - k, ⟨most, by omega, by omega, full⟩,
    Nat.mul_ne_zero pos (Nat.two_pow_pos k).ne', ?_⟩
  rw [Nat.cast_mul, Nat.cast_pow, Nat.cast_ofNat, zpow_sub₀ two_ne_zero, zpow_natCast]
  field_simp

/-- A positive number is a positive significand at an exponent. -/
theorem exists_finite {x : Binary64} {p : ℚ} (h : x.rational? = some p) (pos : 0 < p) :
    ∃ m e canonical, x = .finite false m e canonical ∧ m ≠ 0 ∧ p = m * 2 ^ e := by
  cases x with
  | nan | infinite => cases h
  | finite s m e canonical =>
    cases h
    cases s with
    | true =>
      have : (0 : ℚ) ≤ m * 2 ^ e := by positivity
      simp only [if_true] at pos
      linarith
    | false =>
      refine ⟨m, e, canonical, rfl, ?_, rfl⟩
      rintro rfl
      simp at pos

/-- A positive number is kept in one form only. -/
theorem eq_of_rational? {x y : Binary64} {p : ℚ} (hx : x.rational? = some p) (hy : y.rational? = some p)
    (pos : 0 < p) : x = y := by
  obtain ⟨m, e, h, rfl, hm, value⟩ := exists_finite hx pos
  obtain ⟨n, f, h', rfl, hn, value'⟩ := exists_finite hy pos
  rw [← ofScaled_of_canonical false h hm rfl, ofScaled_of_canonical false h' hn (value.symm.trans value')]

/-- **What the format holds is kept**: a number of at most 53 bits above the least exponent and below
`2 ^ 1024` is its own rounding, however it is scaled. -/
theorem rational?_ofScaled (negative : Bool) (bits : M < 2 ^ 53) (least : -1074 ≤ E)
    (small : (M * 2 ^ E : ℚ) < 2 ^ (1024 : ℤ)) (value : (m * 2 ^ e : ℚ) = M * 2 ^ E) :
    (ofScaled negative m e).rational? = some (if negative then -(m * 2 ^ e : ℚ) else m * 2 ^ e) := by
  by_cases pos : M = 0
  · have zero : m = 0 := by
      rw [pos, Nat.cast_zero, zero_mul, mul_eq_zero, or_iff_left (by positivity)] at value
      exact_mod_cast value
    simp [ofScaled, zero, Binary64.zero, rational?]
  · obtain ⟨N, F, canonical, hN, kept⟩ := exists_canonical pos bits least small
    rw [ofScaled_of_canonical negative canonical hN (value.trans kept), rational?, value.trans kept]

/-- **A whole number of at most 53 bits is a number of the format.** -/
theorem rational?_ofInt {n : Int} (small : n.natAbs < 2 ^ 53) :
    (ofInt n).rational? = some (n : ℚ) := by
  have bound : (n.natAbs * 2 ^ (0 : ℤ) : ℚ) < 2 ^ (1024 : ℤ) :=
    calc (n.natAbs * 2 ^ (0 : ℤ) : ℚ)
      _ < 2 ^ (53 : ℤ) := by rw [zpow_zero, mul_one]; exact_mod_cast small
      _ ≤ 2 ^ (1024 : ℤ) := zpow_le_zpow_right₀ one_le_two (by decide)
  rw [ofInt, rational?_ofScaled _ small (by decide) bound rfl, zpow_zero, mul_one, Nat.cast_natAbs]
  rcases lt_or_ge n 0 with negative | negative
  · simp [negative, abs_of_neg negative]
  · simp [not_lt.mpr negative, abs_of_nonneg negative]

theorem rational?_ofInt_natCast {n : Nat} (small : n < 2 ^ 53) : (ofInt n).rational? = some (n : ℚ) := by
  rw [rational?_ofInt (by rwa [Int.natAbs_natCast]), Int.cast_natCast]

theorem ofInt?_eq_some {n : Int} (small : n.natAbs < 2 ^ 53) : ofInt? n = some (ofInt n) :=
  if_pos (isFinite_iff.mpr ⟨_, rational?_ofInt small⟩)

theorem exists_rational?_of_ofInt? {n : ℤ} {x : Binary64} (h : ofInt? n = some x) :
    ∃ q, x.rational? = some q := by
  simp only [ofInt?] at h
  split at h
  · cases h
    exact isFinite_iff.mp ‹_›
  · cases h

theorem ofInt_natCast (n : ℕ) : ofInt n = ofScaled false n 0 := by
  rw [ofInt, decide_eq_false (not_lt.mpr (Int.natCast_nonneg n)), Int.natAbs_natCast]

/-- A whole number of `2 ^ l` or more is rounded to as much, if it is not too large. -/
theorem ofInt?_ge {n l : ℕ} {x : Binary64} (reached : 2 ^ l ≤ n) (h : ofInt? n = some x) :
    ∃ q, x.rational? = some q ∧ 2 ^ l ≤ q := by
  have low : (2 : ℚ) ^ (l : ℤ) ≤ n * 2 ^ (0 : ℤ) := by
    rw [zpow_natCast, zpow_zero, mul_one]
    exact_mod_cast reached
  rw [ofInt?, ofInt_natCast] at h
  rcases ofScaled_ge false (by omega) low with infinite | ⟨M, E, canonical, finite, high⟩
  · rw [infinite] at h
    cases h
  · rw [finite] at h
    cases h
    exact ⟨_, rfl, by simpa using high⟩

/-- A whole number of `2 ^ 1024` or more is too large for the format. -/
theorem ofInt?_eq_none {n l : ℕ} (beyond : 1024 ≤ l) (large : 2 ^ l ≤ n) : ofInt? n = none := by
  have high : (2 : ℚ) ^ (1024 : ℤ) ≤ n * 2 ^ (0 : ℤ) := by
    refine (zpow_le_zpow_right₀ one_le_two (by omega : (1024 : ℤ) ≤ l)).trans ?_
    rw [zpow_natCast, zpow_zero, mul_one]
    exact_mod_cast large
  rw [ofInt?, ofInt_natCast, ofScaled_of_ge false high]
  rfl

/-- A whole number below `2 ^ 1023`, of either sign, is not too large for the format. -/
theorem exists_ofInt? {n : ℤ} {l : ℕ} (few : l ≤ 1023) (small : n.natAbs < 2 ^ l) : ∃ x, ofInt? n = some x := by
  have below : (n.natAbs * 2 ^ (0 : ℤ) : ℚ) < 2 ^ ((1022 : ℤ) + 1) := by
    refine lt_of_lt_of_le ?_ (zpow_le_zpow_right₀ one_le_two (by omega : (l : ℤ) ≤ 1022 + 1))
    rw [zpow_natCast, zpow_zero, mul_one]
    exact_mod_cast small
  obtain ⟨M, E, h, rounded, -⟩ := ofScaled_near (decide (n < 0)) (by decide) (by decide) below
  exact ⟨_, by rw [ofInt?, ofInt, rounded]; rfl⟩

/-- Every finite number is below `2 ^ 1024`. -/
theorem rational?_lt {x : Binary64} {q : ℚ} (h : x.rational? = some q) : q < 2 ^ (1024 : ℤ) := by
  cases x with
  | nan | infinite => cases h
  | finite s m e canonical =>
    have nonneg : (0 : ℚ) ≤ m * 2 ^ e := by positivity
    have size : (m * 2 ^ e : ℚ) < 2 ^ (1024 : ℤ) :=
      calc (m * 2 ^ e : ℚ)
        _ < 2 ^ (53 : ℤ) * 2 ^ e := by
          gcongr
          exact_mod_cast canonical.1
        _ = 2 ^ (53 + e) := (zpow_add₀ two_ne_zero ..).symm
        _ ≤ 2 ^ (1024 : ℤ) := by
          have := canonical.2.2.1
          exact zpow_le_zpow_right₀ one_le_two (by omega)
    generalize (2 : ℚ) ^ (1024 : ℤ) = most at size ⊢
    cases h
    cases s <;> simp <;> linarith

/-! ### Products -/

variable {x y : Binary64} {p q : ℚ}

/-- A product of a positive number and one that is not below zero is not below zero. -/
theorem mul_form (hx : x.rational? = some p) (pos : 0 < p) (hy : y.rational? = some q) (nonneg : 0 ≤ q) :
    x.mul y = .infinite false ∨ ∃ r, (x.mul y).rational? = some r ∧ 0 ≤ r := by
  obtain ⟨m, e, canonical, rfl, -, -⟩ := exists_finite hx pos
  cases y with
  | nan | infinite => cases hy
  | finite s n f canonical' =>
    cases s with
    | false =>
      refine (ofScaled_form false (m * n) (e + f)).imp id ?_
      rintro ⟨M, E, h, form⟩
      refine ⟨_, by rw [mul, Bool.false_bne, form, rational?], ?_⟩
      simp only [Bool.false_eq_true, if_false]
      positivity
    | true =>
      obtain rfl : n = 0 := by
        have scale : (0 : ℚ) < 2 ^ f := by positivity
        cases hy
        simp only [if_true, Left.nonneg_neg_iff] at nonneg
        have : (n : ℚ) ≤ 0 := nonpos_of_mul_nonpos_left nonneg scale
        exact_mod_cast le_antisymm this (Nat.cast_nonneg n)
      exact .inr ⟨0, by simp [mul, ofScaled, zero, rational?], le_rfl⟩

/-- **A product with a power of two is exact**, if it is not too large. -/
theorem rational?_mul_two_pow {n : ℕ} (hx : x.rational? = some p) (pos : 0 < p)
    (hy : y.rational? = some (2 ^ n)) :
    (p * 2 ^ n < 2 ^ (1024 : ℤ) → (x.mul y).rational? = some (p * 2 ^ n)) ∧
      (2 ^ (1024 : ℤ) ≤ p * 2 ^ n → x.mul y = .infinite false) := by
  obtain ⟨m, e, canonical, rfl, -, rfl⟩ := exists_finite hx pos
  obtain ⟨m', e', canonical', rfl, -, power⟩ := exists_finite hy (by positivity)
  have product : ((m * m' : ℕ) * 2 ^ (e + e') : ℚ) = m * 2 ^ e * 2 ^ n := by
    rw [power, Nat.cast_mul, zpow_add₀ two_ne_zero]
    ring
  have shifted : (m * 2 ^ e * 2 ^ n : ℚ) = m * 2 ^ (e + n) := by
    rw [zpow_add₀ two_ne_zero, zpow_natCast, mul_assoc]
  constructor
  · intro small
    have least := canonical.2.1
    rw [mul, Bool.false_bne, rational?_ofScaled false canonical.1 (by omega) (shifted ▸ small)
      (product.trans shifted), product]
    rfl
  · intro large
    exact ofScaled_of_ge false (product ▸ large)

end PortMap.Binary64
