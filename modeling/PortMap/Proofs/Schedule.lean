import PortMap.Proofs.Numeral.PowerOfTwo
import PortMap.Schedule

/-!
# The delays of a schedule

The delay after an attempt is worked out as a power, a product and the lesser of that and the ceiling, in this
order. For a schedule of positive numbers of the format (`Schedule.Positive`) the ceiling bounds every delay
that there is, but the power is worked out first, and it may be too large for the format.

## What is proved

* `Positive.delay_cases` — **a delay is a number between zero and the ceiling**, or the power has failed.
* `Positive.delay_of_wholeTooLarge`, `Positive.powerFault_of_growing` — from some attempt on the power fails,
  in every schedule.
* `Positive.delay_of_doubling`, `Positive.powerFault_of_doubling` — doubling, it fails from attempt 1024 on,
  and **every delay before is exact**.
-/

namespace PortMap

namespace Schedule

/-- The schedule is made of positive numbers of the format, which have these values. -/
structure Positive (s : Schedule) (start growth cap : ℚ) : Prop where
  /-- The first delay. -/
  first : ∃ x, s.first = .real x ∧ x.rational? = some start
  /-- The factor. -/
  factor : ∃ x, s.factor = .real x ∧ x.rational? = some growth
  /-- The ceiling. -/
  ceiling : ∃ x, s.ceiling = .real x ∧ x.rational? = some cap
  /-- The first delay is positive. -/
  start_pos : 0 < start
  /-- The factor is positive. -/
  growth_pos : 0 < growth
  /-- The ceiling is positive. -/
  cap_pos : 0 < cap

/-- The standing schedule. -/
theorem positive_standing : Positive {} (1 / 4) 2 64 where
  first := ⟨.quarter, rfl, by norm_num [Binary64.quarter, Binary64.rational?]⟩
  factor := ⟨.two, rfl, Binary64.rational?_two⟩
  ceiling := ⟨.sixtyFour, rfl, by norm_num [Binary64.sixtyFour, Binary64.rational?]⟩
  start_pos := by norm_num
  growth_pos := by norm_num
  cap_pos := by norm_num

/-! ### Powers of the factor -/

/-- Why the power of the factor before an attempt has no value. -/
def powerFault (s : Schedule) (attempt : ℤ) : Option Value.Fault :=
  match s.factor.power attempt.toNat with
  | .ok _ => none
  | .error e => some e

theorem delay_of_powerFault {s : Schedule} {n : ℤ} {e : Value.Fault} (h : s.powerFault n = some e) :
    s.delay n = .error e := by
  simp only [powerFault] at h
  split at h
  · cases h
  · rename_i e' failed
    cases h
    rw [delay, failed]

theorem power_real (x : Binary64) (n : ℕ) :
    (Value.real x).power n =
      match Binary64.ofInt? n with
      | none => .error (.number .wholeTooLarge)
      | some y =>
        match x.pow y with
        | some z => .ok (.real z)
        | none => .error (.number .powerTooLarge) := by
  simp only [Value.power, Value.number?, Number.pow, Number.exact]
  cases Binary64.ofInt? n with
  | none => rfl
  | some y =>
    cases h : x.pow y with
    | none => simp only [h]; rfl
    | some z => simp only [h]; rfl

variable {s : Schedule} {start growth cap : ℚ} {n : ℤ}

/-- The power of the factor is a finite number and not below zero, or there is none. -/
theorem Positive.power_cases (h : s.Positive start growth cap) (n : ℤ) :
    (∃ z r, s.factor.power n.toNat = .ok (.real z) ∧ z.rational? = some r ∧ 0 ≤ r) ∨
      ∃ cause, s.powerFault n = some (.number cause) := by
  obtain ⟨x, factor, hx⟩ := h.factor
  rw [powerFault, factor, power_real]
  cases whole : Binary64.ofInt? n.toNat with
  | none => exact .inr ⟨.wholeTooLarge, rfl⟩
  | some y =>
    obtain ⟨q, hy⟩ := Binary64.exists_rational?_of_ofInt? whole
    cases power : x.pow y with
    | none => exact .inr ⟨.powerTooLarge, by simp only [power]⟩
    | some z =>
      obtain ⟨r, hz, nonneg⟩ := Binary64.rational?_pow hx h.growth_pos hy power
      exact .inl ⟨z, r, by simp only [power], hz, nonneg⟩

/-! ### Delays -/

/-- The delay where the power has a value. -/
theorem delay_of_power {x z c : Binary64} (first : s.first = .real x) (ceiling : s.ceiling = .real c)
    (power : s.factor.power n.toNat = .ok (.real z)) :
    s.delay n = .ok (.real (if c.lt (x.mul z) then c else x.mul z)) := by
  have product : (Value.real x).times (.real z) = .ok (.real (x.mul z)) := rfl
  have less : Value.less (.real c) (.real (x.mul z)) = .ok (c.lt (x.mul z)) := by
    simp [Value.less, Value.number?, Number.lt, Number.exact]
  simp only [delay, power, first, ceiling, product, Except.bind, Value.lesser, less, Except.map]
  cases c.lt (x.mul z) <;> rfl

/-- **A delay is a number between zero and the ceiling**, or the power has failed. -/
theorem Positive.delay_cases (h : s.Positive start growth cap) (n : ℤ) :
    (∃ d q, s.delay n = .ok (.real d) ∧ d.rational? = some q ∧ 0 ≤ q ∧ q ≤ cap) ∨
      ∃ cause, s.powerFault n = some (.number cause) ∧ s.delay n = .error (.number cause) := by
  obtain ⟨x, first, hx⟩ := h.first
  obtain ⟨c, ceiling, hc⟩ := h.ceiling
  rcases h.power_cases n with ⟨z, r, power, hz, nonneg⟩ | ⟨cause, failed⟩
  · left
    rw [delay_of_power first ceiling power]
    rcases Binary64.mul_form hx h.start_pos hz nonneg with infinite | ⟨q, product, atLeast⟩
    · rw [infinite, Binary64.lt_infinite hc]
      exact ⟨c, cap, rfl, hc, h.cap_pos.le, le_rfl⟩
    · rcases lt_or_ge cap q with above | within
      · rw [(Binary64.lt_iff hc product).mpr above]
        exact ⟨c, cap, rfl, hc, h.cap_pos.le, le_rfl⟩
      · have notAbove : ¬ c.lt (x.mul z) = true := by
          rw [Binary64.lt_iff hc product]
          exact not_lt.mpr within
        rw [if_neg notAbove]
        exact ⟨_, q, rfl, product, atLeast, within⟩
  · exact .inr ⟨cause, failed, delay_of_powerFault failed⟩

/-- From the attempt `2 ^ 1024` on, no power has a value: the attempt itself is too large for the format. -/
theorem Positive.delay_of_wholeTooLarge (h : s.Positive start growth cap) {l : ℕ} (beyond : 1024 ≤ l)
    (large : 2 ^ l ≤ n) : s.delay n = .error (.number .wholeTooLarge) := by
  obtain ⟨x, factor, -⟩ := h.factor
  have whole : Binary64.ofInt? n.toNat = none := by
    refine Binary64.ofInt?_eq_none beyond ?_
    have : ((2 ^ l : ℕ) : ℤ) ≤ n := by exact_mod_cast large
    omega
  apply delay_of_powerFault
  rw [powerFault, factor, power_real, whole]

/-- A factor above one has no power from the attempt `2 ^ 63` on. -/
theorem Positive.powerFault_of_growing (h : s.Positive start growth cap) (growing : 1 < growth)
    (large : 2 ^ 63 ≤ n) : ∃ cause, s.powerFault n = some (.number cause) := by
  obtain ⟨x, factor, hx⟩ := h.factor
  rw [powerFault, factor, power_real]
  cases whole : Binary64.ofInt? n.toNat with
  | none => exact ⟨.wholeTooLarge, rfl⟩
  | some y =>
    obtain ⟨q, hy, atLeast⟩ := Binary64.ofInt?_ge (l := 63) (by omega) whole
    have power := Binary64.pow_eq_none_of_ge hx growing hy atLeast
    exact ⟨.powerTooLarge, by simp only [power]⟩

/-! ### Doubling -/

theorem Positive.factor_of_doubling (h : s.Positive start 2 cap) : s.factor = .real .two := by
  obtain ⟨x, factor, hx⟩ := h.factor
  rw [factor, Binary64.eq_of_rational? hx Binary64.rational?_two two_pos]

/-- The power of two before attempt 1024 is exact. -/
theorem power_two_of_few (few : n < 1024) :
    ∃ z, (Value.real .two).power n.toNat = .ok (.real z) ∧ z.rational? = some (2 ^ n.toNat) := by
  have whole : Binary64.ofInt? n.toNat = some (Binary64.ofInt n.toNat) := Binary64.ofInt?_eq_some (by omega)
  have hk : (Binary64.ofInt n.toNat).rational? = some (n.toNat : ℚ) :=
    Binary64.rational?_ofInt_natCast (by omega)
  obtain ⟨z, two, hz⟩ := Binary64.pow_two_of_lt hk (by omega)
  refine ⟨z, ?_, hz⟩
  rw [power_real, whole]
  simp only [two]

/-- **Doubling, a delay before attempt 1024 is exact.** -/
theorem Positive.delay_of_doubling (h : s.Positive start 2 cap) (few : n < 1024) :
    ∃ d, s.delay n = .ok (.real d) ∧ d.rational? = some (min (start * 2 ^ n.toNat) cap) := by
  obtain ⟨x, first, hx⟩ := h.first
  obtain ⟨c, ceiling, hc⟩ := h.ceiling
  obtain ⟨z, two, hz⟩ := power_two_of_few few
  have power : s.factor.power n.toNat = .ok (.real z) := h.factor_of_doubling ▸ two
  obtain ⟨exact, infinite⟩ := Binary64.rational?_mul_two_pow hx h.start_pos hz
  refine ⟨_, delay_of_power first ceiling power, ?_⟩
  rcases lt_or_ge (start * 2 ^ n.toNat) (2 ^ (1024 : ℤ)) with small | large
  · rcases lt_or_ge cap (start * 2 ^ n.toNat) with above | within
    · rw [if_pos ((Binary64.lt_iff hc (exact small)).mpr above), hc, min_eq_right above.le]
    · have notAbove : ¬ c.lt (x.mul z) = true := by
        rw [Binary64.lt_iff hc (exact small)]
        exact not_lt.mpr within
      rw [if_neg notAbove, exact small, min_eq_left within]
  · have above : cap ≤ start * 2 ^ n.toNat := (Binary64.rational?_lt hc).le.trans large
    rw [infinite large, if_pos (Binary64.lt_infinite hc), hc, min_eq_right above]

/-- **Doubling, there is no power from attempt 1024 on.** -/
theorem Positive.powerFault_of_doubling (h : s.Positive start 2 cap) (many : 1024 ≤ n) :
    ∃ cause, s.powerFault n = some (.number cause) ∧ (n < 2 ^ 53 → cause = .powerTooLarge) := by
  rw [powerFault, h.factor_of_doubling, power_real]
  rcases lt_or_ge n (2 ^ 53) with exact | rounded
  · have whole : Binary64.ofInt? n.toNat = some (Binary64.ofInt n.toNat) :=
      Binary64.ofInt?_eq_some (by omega)
    have hk : (Binary64.ofInt n.toNat).rational? = some (n.toNat : ℚ) :=
      Binary64.rational?_ofInt_natCast (by omega)
    have power := Binary64.pow_two_of_ge hk (by omega)
    refine ⟨.powerTooLarge, ?_, fun _ => rfl⟩
    rw [whole]
    simp only [power]
  · cases whole : Binary64.ofInt? n.toNat with
    | none => exact ⟨.wholeTooLarge, rfl, fun small => absurd small (not_lt.mpr rounded)⟩
    | some y =>
      obtain ⟨q, hy, atLeast⟩ := Binary64.ofInt?_ge (l := 53) (by omega) whole
      have power := Binary64.pow_two_of_large hy (le_trans (by norm_num) atLeast)
      exact ⟨.powerTooLarge, by simp only [power], fun _ => rfl⟩

end Schedule

end PortMap
