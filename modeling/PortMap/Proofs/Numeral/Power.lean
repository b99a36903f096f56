import PortMap.Proofs.Numeral.Scaled

/-!
# Powers of positive numbers

What `Binary64.pow` does with a positive base, whatever the steps of its logarithm and its exponential come
to. A power that there is, is a finite number and not below zero (`rational?_pow`); a base above one has no
power with an exponent of `2 ^ 63` or more (`pow_eq_none_of_ge`).
-/

namespace PortMap.Binary64

variable {x y : Binary64} {p q : ℚ} {m : ℕ} {e : ℤ}

theorem rational?_one : one.rational? = some 1 := by
  norm_num [one, rational?]

theorem rational?_two : two.rational? = some 2 := by
  norm_num [two, rational?]

/-! ### Exponents -/

/-- A finite number as an exponent. -/
theorem exists_scaled (h : y.rational? = some q) :
    ∃ s n f canonical, y = .finite s n f canonical ∧ (Scaled.mk (if s then -n else n) f).value = q := by
  cases y with
  | nan | infinite => cases h
  | finite s n f canonical =>
    refine ⟨s, n, f, canonical, rfl, ?_⟩
    cases h
    cases s <;> simp [Scaled.value]

/-- The power of a positive number other than one with an exponent other than zero. -/
theorem pow_eq_powPositive (hx : x.rational? = some p) (pos : 0 < p) (other : p ≠ 1)
    (hy : y.rational? = some q) (nonzero : q ≠ 0) :
    ∃ m e canonical, ∃ z : Scaled, x = .finite false m e canonical ∧ p = m * 2 ^ e ∧ z.value = q ∧
      x.pow y = powPositive false m e z := by
  obtain ⟨m, e, canonical, rfl, hm, value⟩ := exists_finite hx pos
  obtain ⟨s, n, f, canonical', rfl, exponent⟩ := exists_scaled hy
  have hn : n ≠ 0 := by
    rintro rfl
    apply nonzero
    rw [← exponent]
    cases s <;> simp [Scaled.value]
  have notOne : ¬ (m = 2 ^ 52 ∧ e = -52) := by
    rintro ⟨rfl, rfl⟩
    apply other
    rw [value]
    norm_num
  refine ⟨m, e, canonical, ⟨if s then -n else n, f⟩, rfl, value, exponent, ?_⟩
  simp only [pow, if_neg hn, isNegative, Bool.false_and, if_neg hm, if_neg notOne]

theorem pow_zero_exponent (x : Binary64) (hy : y.rational? = some 0) : x.pow y = some one := by
  obtain ⟨s, n, f, canonical, rfl, exponent⟩ := exists_scaled hy
  have hn : n = 0 := by
    rw [Scaled.value, mul_eq_zero, or_iff_left (by positivity)] at exponent
    cases s <;> simpa using exponent
  simp [pow, hn]

theorem one_pow (hy : y.rational? = some q) : one.pow y = some one := by
  obtain ⟨s, n, f, canonical, rfl, -⟩ := exists_scaled hy
  by_cases none : n = 0 <;> simp [one, pow, none, isNegative, withSign]

/-! ### Powers that there are -/

theorem rational?_powPositive {z : Binary64} {k : Scaled} (power : powPositive false m e k = some z) :
    ∃ r, z.rational? = some r ∧ 0 ≤ r := by
  simp only [powPositive] at power
  split at power
  · split at power
    · cases power
    · cases power
      exact ⟨0, by simp [zero, rational?], le_rfl⟩
  split at power
  · cases power
    exact ⟨1, rational?_one, zero_le_one⟩
  split at power
  · cases power
  split at power
  · rename_i answer _ finite
    cases power
    rcases ofScaled_form false answer.m.natAbs answer.e with infinite | ⟨M, E, h, form⟩
    · rw [infinite] at finite
      cases finite
    · rw [form]
      refine ⟨_, rfl, ?_⟩
      simp only [Bool.false_eq_true, if_false]
      positivity
  · cases power

/-- **A power of a positive number is a finite number and not below zero.** -/
theorem rational?_pow {z : Binary64} (hx : x.rational? = some p) (pos : 0 < p) (hy : y.rational? = some q)
    (power : x.pow y = some z) : ∃ r, z.rational? = some r ∧ 0 ≤ r := by
  by_cases none : q = 0
  · rw [pow_zero_exponent x (none ▸ hy)] at power
    cases power
    exact ⟨1, rational?_one, zero_le_one⟩
  by_cases same : p = 1
  · subst same
    rw [eq_of_rational? hx rational?_one one_pos, one_pow hy] at power
    cases power
    exact ⟨1, rational?_one, zero_le_one⟩
  obtain ⟨m, e, -, k, -, -, -, eq⟩ := pow_eq_powPositive hx pos same hy none
  exact rational?_powPositive (eq ▸ power)

/-! ### Powers that are too large -/

/-- A base above one has no power with so large an exponent. -/
theorem pow_eq_none_of_ge (hx : x.rational? = some p) (above : 1 < p) (hy : y.rational? = some q)
    (large : 2 ^ 63 ≤ q) : x.pow y = none := by
  have pos : (0 : ℚ) < q := lt_of_lt_of_le (by positivity) large
  obtain ⟨m, e, canonical, k, -, value, exponent, eq⟩ :=
    pow_eq_powPositive hx (one_pos.trans above) above.ne' hy pos.ne'
  have leading : 0 ≤ (m.log2 : ℤ) + e := by
    have : (2 : ℚ) ^ (0 : ℤ) < 2 ^ ((m.log2 : ℤ) + e + 1) := by
      rw [zpow_zero]
      exact (above.trans_eq value).trans (lt_zpow_leading m e)
    have := (zpow_lt_zpow_iff_right₀ one_lt_two).mp this
    omega
  have bits : m.log2 ≤ 52 := by
    have pos : m ≠ 0 := by
      rintro rfl
      rw [Nat.cast_zero, zero_mul] at value
      linarith
    exact Nat.lt_succ_iff.mp ((Nat.log2_lt pos).mpr canonical.1)
  have upwards : (decide (0 ≤ e - (52 - m.log2 : ℕ) + 52) == decide (0 < k.m)) = true := by
    have : 0 < k.m := Scaled.m_pos (exponent ▸ pos)
    simp only [this, decide_true, beq_true, decide_eq_true_eq]
    omega
  have notBelow : k.below 63 = false := by
    rw [← Bool.not_eq_true, Scaled.below_iff, not_lt, exponent, abs_of_pos pos]
    exact_mod_cast large
  rw [eq]
  simp only [powPositive, normalized, notBelow, Bool.not_false, if_true]
  exact if_pos upwards

end PortMap.Binary64
