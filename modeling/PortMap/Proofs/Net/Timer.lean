import PortMap.Net.Timer
import PortMap.Proofs.Numeral.Rounding

/-!
# Which times can be waited for

Whoever waits, a rehearsal refuses no time. By a clock that runs, times from zero up to the most seconds that can
be counted can be slept for in a call, whether they are whole or real (`counted_whole`, `counted_real`). The event
loop takes every real number, whole numbers far beyond that, and whatever can be slept for in a call
(`sleepAside_of_sleep`). It takes times below zero as well, which a call refuses.
-/

namespace PortMap.Net.Timer

open Binary64

variable {timer : Timer} {belowZero : Fault} {x : Binary64} {q : ℚ} {n : ℤ} {d : Value}

/-! ### Counting in billionths of a second -/

theorem mostSeconds_cast : (mostSeconds : ℚ) = 9223372036 := by norm_num [mostSeconds]

/-- The billionths of a real number of seconds up to the most that can be counted are rounded by no more than
`2 ^ 9`. -/
theorem exists_mul_billion (h : x.rational? = some q) (most : |q| ≤ mostSeconds) :
    ∃ r, (x.mul billion).rational? = some r ∧ |r - q * 10 ^ 9| ≤ 2 ^ (9 : ℤ) := by
  cases x with
  | nan | infinite => cases h
  | finite s m e canonical =>
    have nonneg : (0 : ℚ) ≤ m * 2 ^ e := by positivity
    have size : (m * 2 ^ e : ℚ) ≤ mostSeconds := by
      cases h
      cases s <;> simpa [abs_of_nonneg nonneg] using most
    have value : ((m * (10 ^ 9 * 2 ^ 23) : Nat) * 2 ^ (e + -23) : ℚ) = m * 2 ^ e * 10 ^ 9 := by
      rw [zpow_add₀ two_ne_zero, zpow_neg]
      push_cast
      field_simp
      ring
    have small : ((m * (10 ^ 9 * 2 ^ 23) : Nat) * 2 ^ (e + -23) : ℚ) < 2 ^ ((62 : ℤ) + 1) := by
      rw [value]
      rw [mostSeconds_cast] at size
      norm_num
      linarith
    obtain ⟨M, E, kept, rounded, error⟩ := ofScaled_near (s != false) (by decide) (by decide) small
    rw [value] at error
    cases h
    cases s
    · exact ⟨_, congrArg rational? rounded, error⟩
    · refine ⟨-(M * 2 ^ E), congrArg rational? rounded, ?_⟩
      rw [if_pos rfl, neg_mul, sub_neg_eq_add, neg_add_eq_sub, abs_sub_comm]
      exact error

/-- They fit into 64 bits. -/
theorem countsReal_of_le (h : x.rational? = some q) (most : |q| ≤ mostSeconds) : countsReal x = true := by
  obtain ⟨r, product, error⟩ := exists_mul_billion h most
  rw [mostSeconds_cast] at most
  have near := abs_le.mp error
  have size := abs_le.mp most
  norm_num at near
  rw [countsReal, Bool.and_eq_true, bne_iff_ne, beq_iff_eq, ne_eq, compareInt_eq_lt_iff product,
    compareInt_eq_lt_iff product, not_lt]
  push_cast
  constructor <;> linarith

/-- A real number of seconds from zero up to the most can be counted. -/
theorem counted_real (h : x.rational? = some q) (nonneg : 0 ≤ q) (most : q ≤ mostSeconds) :
    counted belowZero (.real x) = .ok () := by
  have zero : (Binary64.zero false).rational? = some 0 := by simp [Binary64.zero, rational?]
  have notBelow : x.lt (Binary64.zero false) = false := by
    rw [← Bool.not_eq_true, lt_iff h zero]
    exact not_lt.mpr nonneg
  have counts : countsReal x = true := countsReal_of_le h (by rwa [abs_of_nonneg nonneg])
  simp [counted, Value.number?, Number.exact, isNaN_eq_false h, counts, notBelow]

/-- A whole number of seconds from zero up to the most can be counted. -/
theorem counted_whole (nonneg : 0 ≤ n) (most : n ≤ mostSeconds) : counted belowZero (.whole n) = .ok () := by
  have within : ¬ mostSeconds < n.natAbs := by omega
  simp [counted, Value.number?, Number.exact, within, nonneg]

/-- A whole number that can be counted is not above the most seconds, of either sign. -/
theorem natAbs_le_of_counted {x : Number} {n : ℤ} (number : d.number? = some x) (whole : x.exact = .inl n)
    (h : counted belowZero d = .ok ()) : n.natAbs ≤ mostSeconds := by
  by_contra beyond
  simp [counted, number, whole, not_le.mp beyond] at h

/-! ### The event loop -/

/-- The event loop sleeps for every real number of seconds. -/
theorem sleepAside_real (timer : Timer) (x : Binary64) : timer.sleepAside (.real x) = .ok () := by
  cases timer with
  | rehearsal => rfl
  | running => simp [sleepAside, Value.number?, Number.toReal]

/-- The event loop sleeps for a number of seconds that can be rounded to the format. -/
theorem sleepAside_of_toReal {x : Number} {y : Binary64} (number : d.number? = some x)
    (h : x.toReal = .ok y) : timer.sleepAside d = .ok () := by
  cases timer with
  | rehearsal => rfl
  | running => simp [sleepAside, number, h]

theorem sleepAside_whole (small : n.natAbs < 2 ^ 1023) : timer.sleepAside (.whole n) = .ok () := by
  obtain ⟨y, rounded⟩ := exists_ofInt? le_rfl small
  exact sleepAside_of_toReal (x := .whole n) rfl (by rw [Number.toReal, rounded])

/-- **What a call can sleep for, the event loop can**. -/
theorem sleepAside_of_sleep (h : timer.sleep d = .ok ()) : timer.sleepAside d = .ok () := by
  cases timer with
  | rehearsal => rfl
  | running =>
    cases number : d.number? with
    | none => simp [sleep, counted, number] at h
    | some x =>
      cases x with
      | flag b => exact sleepAside_of_toReal number rfl
      | real y => exact sleepAside_of_toReal number rfl
      | whole n =>
        have within : n.natAbs ≤ mostSeconds := natAbs_le_of_counted number rfl h
        have rounded := ofInt?_eq_some (within.trans_lt (by decide))
        exact sleepAside_of_toReal number (by rw [Number.toReal, rounded])

end PortMap.Net.Timer
