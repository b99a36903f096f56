import Mathlib.Algebra.Order.Field.Power
import Mathlib.Data.Rat.Cast.Order
import Mathlib.Tactic.Linarith
import Mathlib.Tactic.NormNum
import Mathlib.Tactic.Ring
import PortMap.Numeral.Binary64

/-!
# The values of binary numbers

A finite number of the format has a rational value, `Binary64.rational?`, and the comparisons compare these
values (`lt_iff`, `le_iff`). What lies between two finite numbers is finite (`exists_rational?`).
-/

namespace PortMap.Binary64

/-- The value of a finite number. -/
def rational? : Binary64 → Option ℚ
  | .finite s m e _ => some (if s then -(m * 2 ^ e) else m * 2 ^ e)
  | _ => none

variable {x y lo hi : Binary64} {p q : ℚ}

theorem isNaN_eq_false (h : x.rational? = some q) : x.isNaN = false := by
  cases x <;> first | rfl | cases h

/-- The units that a number counts are its value, counted in the least positive number. -/
theorem units_cast (h : x.rational? = some q) : (x.units : ℚ) = q * 2 ^ 1074 := by
  cases x with
  | nan | infinite => cases h
  | finite s m e canonical =>
    have shifted : (2 : ℚ) ^ (e + 1074).toNat = 2 ^ e * 2 ^ 1074 := by
      have exponent : ((e + 1074).toNat : ℤ) = e + (1074 : ℕ) := by
        have := canonical.2.1
        omega
      rw [← zpow_natCast, exponent, zpow_add₀ (by norm_num), zpow_natCast]
    have count : ((m * 2 ^ (e + 1074).toNat : Nat) : ℚ) = m * 2 ^ e * 2 ^ 1074 := by
      rw [Nat.cast_mul, Nat.cast_pow, Nat.cast_ofNat, shifted, mul_assoc]
    cases h
    cases s
    · exact (Int.cast_natCast _).trans count
    · rw [if_pos rfl, neg_mul, ← count]
      exact (Int.cast_neg _).trans (congrArg _ (Int.cast_natCast _))

theorem lt_iff (hx : x.rational? = some p) (hy : y.rational? = some q) : x.lt y = true ↔ p < q := by
  have scale : (0 : ℚ) < 2 ^ 1074 := by positivity
  rw [lt, isNaN_eq_false hx, isNaN_eq_false hy, Bool.not_false, Bool.true_and, Bool.true_and,
    decide_eq_true_eq, ← @Int.cast_lt ℚ, units_cast hx, units_cast hy, mul_lt_mul_iff_left₀ scale]

theorem le_iff (hx : x.rational? = some p) (hy : y.rational? = some q) : x.le y = true ↔ p ≤ q := by
  have scale : (0 : ℚ) < 2 ^ 1074 := by positivity
  rw [le, isNaN_eq_false hx, isNaN_eq_false hy, Bool.not_false, Bool.true_and, Bool.true_and,
    decide_eq_true_eq, ← @Int.cast_le ℚ, units_cast hx, units_cast hy, mul_le_mul_iff_left₀ scale]

/-- A finite number is compared with a whole number by its value. -/
theorem compareInt_eq_lt_iff (h : x.rational? = some q) (n : Int) : x.compareInt n = some .lt ↔ q < n := by
  have scale : (0 : ℚ) < 2 ^ 1074 := by positivity
  have compared : x.compareInt n = some (compare x.units (n * 2 ^ 1074)) := by
    cases x with
    | nan | infinite => cases h
    | finite => rfl
  rw [compared, Option.some.injEq, compare_lt_iff_lt, ← @Int.cast_lt ℚ, units_cast h, Int.cast_mul,
    Int.cast_pow, Int.cast_ofNat, mul_lt_mul_iff_left₀ scale]

/-- A finite number counts fewer units than an infinity. -/
theorem natAbs_units_lt (h : x.rational? = some q) : x.units.natAbs < 2 ^ 2100 := by
  cases x with
  | nan | infinite => cases h
  | finite s m e canonical =>
    obtain ⟨small, -, high, -⟩ := canonical
    obtain ⟨k, hk⟩ : ∃ k, (e + 1074).toNat = k := ⟨_, rfl⟩
    have count : m * 2 ^ (e + 1074).toNat < 2 ^ 2100 := by
      rw [hk]
      calc m * 2 ^ k
        _ < 2 ^ 53 * 2 ^ k := Nat.mul_lt_mul_of_pos_right small (Nat.two_pow_pos k)
        _ = 2 ^ (53 + k) := (Nat.pow_add 2 53 k).symm
        _ ≤ 2 ^ 2100 := Nat.pow_le_pow_right (by decide) (by omega)
    cases s
    · exact (Int.natAbs_natCast _).trans_lt count
    · exact ((Int.natAbs_neg _).trans (Int.natAbs_natCast _)).trans_lt count

theorem units_infinite (s : Bool) :
    (infinite s).units = if s then -((2 ^ 2100 : Nat) : Int) else ((2 ^ 2100 : Nat) : Int) := by
  have power (n : Nat) : ((2 ^ n : Nat) : Int) = 2 ^ n := by rw [Nat.cast_pow, Nat.cast_ofNat]
  simp only [power, units]

/-- Every finite number is below the infinity. -/
theorem lt_infinite (h : x.rational? = some q) : x.lt (.infinite false) = true := by
  have below := natAbs_units_lt h
  have less : x.units < (infinite false).units := by
    rw [units_infinite, if_neg Bool.false_ne_true]
    generalize 2 ^ 2100 = most at below
    omega
  rw [lt, isNaN_eq_false h, decide_eq_true less]
  rfl

theorem isFinite_iff : x.isFinite = true ↔ ∃ q, x.rational? = some q := by
  cases x <;> simp [isFinite, rational?]

/-- **What lies between two finite numbers is finite.** -/
theorem exists_rational? (hlo : lo.rational? = some p) (hhi : hi.rational? = some q)
    (low : x.lt lo = false) (high : x.le hi = true) : ∃ r, x.rational? = some r ∧ p ≤ r ∧ r ≤ q := by
  have finite : ∃ r, x.rational? = some r := by
    have lowUnits := natAbs_units_lt hlo
    have highUnits := natAbs_units_lt hhi
    cases x with
    | nan => cases high
    | finite => exact ⟨_, rfl⟩
    | infinite s =>
      rw [lt, isNaN_eq_false hlo] at low
      rw [le, isNaN_eq_false hhi] at high
      have below : ¬ (infinite s).units < lo.units := of_decide_eq_false low
      have above : (infinite s).units ≤ hi.units := of_decide_eq_true high
      rw [units_infinite] at below above
      generalize 2 ^ 2100 = most at lowUnits highUnits below above
      cases s
      · have : (most : Int) ≤ hi.units := above
        omega
      · have : ¬ -(most : Int) < lo.units := below
        omega
  obtain ⟨r, hr⟩ := finite
  refine ⟨r, hr, ?_, (le_iff hr hhi).mp high⟩
  rw [← not_lt, ← lt_iff hr hlo, low]
  exact Bool.false_ne_true

end PortMap.Binary64
