import Mathlib.Data.Bool.AllAny
import PortMap.Proofs.Numeral.Digits
import PortMap.Proofs.Numeral.Rounding

/-!
# Written real numbers are read back

A number of the format is written as a decimal with few digits, which is rounded to the format where it
is read. This module shows that the number which is read is the one that was written, for every finite
number.

## The argument

A decimal is rounded by its value alone (`Decimal.toBinary64_congr`), since its size, by which the roundings
far outside of the format are cut off, belongs to its value (`size_eq`). The decimal that is written rounds to
the number (`toBinary64_shortest`): that was tested for it, or it is the exact value. What is read back of its
written form, positional or scientific, is a decimal of the same value (`readDecimal?_renderDecimal`), for the
zeros that are left out or put in only move the point.

## What is proved

* `readReal?_renderChars` — **every finite number is read back from its written form**, in every style.
* `renderChars_form` — which characters the written form is made of.
* `readFloat?_renderChars`, `pointed_or_readInt?_eq_none` — as a setting it is read back in the same way; it
  is never taken for a whole number.
-/

namespace PortMap

open Text

namespace Decimal

/-! ### Values -/

/-- The value of a decimal. -/
def value (d : Decimal) : ℚ := d.digits * 10 ^ d.exponent

/-- The place of the first digit of a decimal, counted from the point. -/
def size (d : Decimal) : ℤ := d.exponent + (digitChars d.digits).length

variable {d d' : Decimal}

theorem digitChars_ne_nil (n : Nat) : digitChars n ≠ [] := Nat.toDigits_ne_nil

theorem lt_pow_length (n : Nat) : n < 10 ^ (digitChars n).length :=
  (Nat.length_toDigits_le_iff (by decide) (List.length_pos_of_ne_nil (digitChars_ne_nil n))).mp le_rfl

theorem pow_length_le {n : Nat} (pos : n ≠ 0) : 10 ^ ((digitChars n).length - 1) ≤ n := by
  by_cases one : (digitChars n).length - 1 = 0
  · rw [one]
    exact Nat.one_le_iff_ne_zero.mpr pos
  · by_contra short
    have shorter : (digitChars n).length ≤ (digitChars n).length - 1 :=
      (Nat.length_toDigits_le_iff (by decide) (Nat.pos_of_ne_zero one)).mpr (not_le.mp short)
    omega

theorem value_eq_zero_iff : d.value = 0 ↔ d.digits = 0 := by
  have scale : (10 : ℚ) ^ d.exponent ≠ 0 := by positivity
  rw [value, mul_eq_zero, or_iff_left scale, Nat.cast_eq_zero]

/-- The first digit of a decimal bounds its value. -/
theorem value_mem (pos : d.digits ≠ 0) :
    (10 : ℚ) ^ (d.size - 1) ≤ d.value ∧ d.value < 10 ^ d.size := by
  have scale : (0 : ℚ) < 10 ^ d.exponent := by positivity
  have length := List.length_pos_of_ne_nil (digitChars_ne_nil d.digits)
  have low : ((10 ^ ((digitChars d.digits).length - 1) : Nat) : ℚ) ≤ d.digits := by
    exact_mod_cast pow_length_le pos
  have high : (d.digits : ℚ) < (10 ^ (digitChars d.digits).length : Nat) := by
    exact_mod_cast lt_pow_length d.digits
  constructor
  · have split : (10 : ℚ) ^ (d.size - 1) =
        (10 ^ ((digitChars d.digits).length - 1) : Nat) * 10 ^ d.exponent := by
      rw [Nat.cast_pow, Nat.cast_ofNat, ← zpow_natCast, ← zpow_add₀ (by norm_num), size]
      congr 1
      omega
    rw [split, value]
    gcongr
  · have split : (10 : ℚ) ^ d.size = (10 ^ (digitChars d.digits).length : Nat) * 10 ^ d.exponent := by
      rw [Nat.cast_pow, Nat.cast_ofNat, ← zpow_natCast, ← zpow_add₀ (by norm_num), size, add_comm]
    rw [split, value]
    gcongr

/-- Decimals of the same value are of the same size. -/
theorem size_eq (pos : d.digits ≠ 0) (pos' : d'.digits ≠ 0) (same : d.value = d'.value) :
    d.size = d'.size := by
  obtain ⟨low, high⟩ := value_mem pos
  obtain ⟨low', high'⟩ := value_mem pos'
  have := (zpow_lt_zpow_iff_right₀ (by norm_num : (1 : ℚ) < 10)).mp (low.trans_lt (same ▸ high'))
  have := (zpow_lt_zpow_iff_right₀ (by norm_num : (1 : ℚ) < 10)).mp (low'.trans_lt (same ▸ high))
  omega

theorem toBinary64_of_large (negative : Bool) (pos : d.digits ≠ 0) (large : 400 < d.size) :
    d.toBinary64 negative = .infinite negative := by
  rw [size] at large
  simp only [toBinary64, if_neg pos, if_pos large]

theorem toBinary64_of_small (negative : Bool) (pos : d.digits ≠ 0) (small : d.size < -400) :
    d.toBinary64 negative = .zero negative := by
  rw [size] at small
  simp only [toBinary64, if_neg pos, if_neg (by omega : ¬ 400 < d.exponent + (digitChars d.digits).length),
    if_pos small]

/-- Between its bounds a decimal is rounded as a quotient. -/
theorem toBinary64_eq_ofRatio (negative : Bool) (pos : d.digits ≠ 0) (high : ¬ 400 < d.size)
    (low : ¬ d.size < -400) :
    ∃ n k : Nat, k ≠ 0 ∧ (n / k : ℚ) = d.value ∧ d.toBinary64 negative = .ofRatio negative n k := by
  rw [size] at high low
  simp only [toBinary64, if_neg pos, if_neg high, if_neg low]
  split
  · refine ⟨_, 1, one_ne_zero, ?_, rfl⟩
    rw [value, Nat.cast_mul, Nat.cast_pow, Nat.cast_ofNat, Nat.cast_one, div_one, ← zpow_natCast,
      Int.toNat_of_nonneg ‹_›]
  · refine ⟨_, _, (Nat.pow_pos (by decide)).ne', ?_, rfl⟩
    rw [value, Nat.cast_pow, Nat.cast_ofNat, ← zpow_natCast, Int.toNat_of_nonneg (by omega), zpow_neg,
      div_inv_eq_mul]

/-- **A decimal is rounded by its value.** -/
theorem toBinary64_congr (negative : Bool) (same : d.value = d'.value) :
    d.toBinary64 negative = d'.toBinary64 negative := by
  by_cases zero : d.digits = 0
  · have zero' : d'.digits = 0 := by rw [← value_eq_zero_iff, ← same, value_eq_zero_iff, zero]
    rw [toBinary64, toBinary64, if_pos zero, if_pos zero']
  have pos' : d'.digits ≠ 0 := by rwa [ne_eq, ← value_eq_zero_iff, ← same, value_eq_zero_iff]
  have sizes := size_eq zero pos' same
  by_cases large : 400 < d.size
  · rw [toBinary64_of_large negative zero large, toBinary64_of_large negative pos' (sizes ▸ large)]
  by_cases small : d.size < -400
  · rw [toBinary64_of_small negative zero small, toBinary64_of_small negative pos' (sizes ▸ small)]
  obtain ⟨n, k, hk, quotient, rounded⟩ := toBinary64_eq_ofRatio negative zero large small
  obtain ⟨n', k', hk', quotient', rounded'⟩ :=
    toBinary64_eq_ofRatio negative pos' (sizes ▸ large) (sizes ▸ small)
  rw [rounded, rounded', Binary64.ofRatio_congr negative hk hk' (by rw [quotient, quotient', same])]

end Decimal

namespace Binary64

/-! ### The decimal that is written -/

theorem value_exactDecimal (m : Nat) (e : ℤ) : (exactDecimal m e).value = m * 2 ^ e := by
  unfold exactDecimal
  split
  · rw [Decimal.value, Nat.cast_mul, Nat.cast_pow, Nat.cast_ofNat, zpow_toNat ‹_›, zpow_zero, mul_one]
  · have five : ((5 : ℚ) ^ (-e).toNat) = 5 ^ (-e) := by
      rw [← zpow_natCast, Int.toNat_of_nonneg (by omega)]
    rw [Decimal.value, Nat.cast_mul, Nat.cast_pow, Nat.cast_ofNat, five, mul_assoc,
      (by norm_num : (10 : ℚ) = 5 * 2), mul_zpow, ← mul_assoc (5 ^ (-e)), ← zpow_add₀ (by norm_num),
      neg_add_cancel, zpow_zero, one_mul]

/-- Far more than the largest numbers of the format is less than what is cut off. -/
theorem two_zpow_le : (2 : ℚ) ^ (1280 : ℤ) ≤ 10 ^ (400 : ℤ) :=
  calc (2 : ℚ) ^ (1280 : ℤ)
    _ = ((2 : ℚ) ^ (64 : ℤ)) ^ (20 : ℤ) := by rw [← zpow_mul]; rfl
    _ ≤ ((10 : ℚ) ^ (20 : ℤ)) ^ (20 : ℤ) :=
      zpow_le_zpow_left₀ (by norm_num) (by norm_num) (by norm_num)
    _ = 10 ^ (400 : ℤ) := by rw [← zpow_mul]; rfl

/-- The exact value of a number of the format rounds to it. -/
theorem toBinary64_exactDecimal (negative : Bool) {m : Nat} {e : ℤ} (canonical : Canonical m e)
    (pos : m ≠ 0) : (exactDecimal m e).toBinary64 negative = .finite negative m e canonical := by
  have exact_ := value_exactDecimal m e
  have high : (m * 2 ^ e : ℚ) < 10 ^ (400 : ℤ) := by
    have := canonical.2.2.1
    have := (Nat.log2_lt pos).mpr canonical.1
    exact (lt_zpow_leading m e).trans_le
      ((zpow_le_zpow_right₀ one_le_two (by omega)).trans two_zpow_le)
  have low : (10 : ℚ) ^ (-400 : ℤ) ≤ m * 2 ^ e := by
    have := canonical.2.1
    have least : (10 : ℚ) ^ (-400 : ℤ) ≤ 2 ^ (-1280 : ℤ) := by
      rw [zpow_neg, zpow_neg]
      exact inv_anti₀ (by positivity) two_zpow_le
    exact least.trans ((zpow_le_zpow_right₀ one_le_two (by omega)).trans (zpow_leading_le pos e))
  have digits : (exactDecimal m e).digits ≠ 0 := by
    rw [ne_eq, ← Decimal.value_eq_zero_iff, exact_]
    exact (lt_of_lt_of_le (by positivity) low).ne'
  obtain ⟨below, above⟩ := Decimal.value_mem digits
  rw [exact_] at below above
  have := (zpow_lt_zpow_iff_right₀ (by norm_num : (1 : ℚ) < 10)).mp (below.trans_lt high)
  have := (zpow_lt_zpow_iff_right₀ (by norm_num : (1 : ℚ) < 10)).mp (low.trans_lt above)
  obtain ⟨n, k, hk, quotient, rounded⟩ :=
    Decimal.toBinary64_eq_ofRatio negative digits (by omega) (by omega)
  rw [rounded, ofRatio_of_canonical negative canonical pos hk (quotient.trans exact_)]

/-- A decimal is taken only if it rounds to the number. -/
theorem toBinary64_nearestReadingBack {x : Binary64} {n d : Nat} {point : ℤ} {length : Nat} {c : Decimal}
    (h : nearestReadingBack x n d point length = some c) : c.toBinary64 x.isNegative = x := by
  have taken {low high : Decimal} {up : Bool} {reads : Decimal → Bool}
      (tested : ∀ c, reads c = true → c.toBinary64 x.isNegative = x)
      (h : (if reads low then if reads high && up then some high else some low
        else if reads high then some high else none) = some c) : c.toBinary64 x.isNegative = x := by
    split at h
    · split at h <;> cases h
      · exact tested _ (Bool.and_eq_true_iff.mp ‹_›).1
      · exact tested _ ‹_›
    · split at h <;> cases h
      exact tested _ ‹_›
  exact taken (fun c => of_decide_eq_true) h

theorem toBinary64_shortestFrom {x : Binary64} {n d : Nat} {point : ℤ} {more length : Nat} {c : Decimal}
    (h : shortestFrom x n d point more length = some c) : c.toBinary64 x.isNegative = x := by
  induction more generalizing length with
  | zero => cases h
  | succ more ih =>
    rw [shortestFrom] at h
    cases near : nearestReadingBack x n d point length with
    | none =>
      rw [near] at h
      exact ih h
    | some c' =>
      rw [near] at h
      cases h
      exact toBinary64_nearestReadingBack near

/-- **The decimal that is written of a number rounds to it.** -/
theorem toBinary64_shortest {x : Binary64} (finite : x.isFinite = true) :
    (shortest x).toBinary64 x.isNegative = x := by
  cases x with
  | nan | infinite => cases finite
  | finite s m e canonical =>
    rw [shortest]
    split
    · subst_vars
      obtain rfl : e = -1074 := canonical.2.2.2.resolve_left (by decide)
      rfl
    · dsimp only
      rcases found : shortestFrom (.finite s m e canonical) _ _ _ 17 1 with _ | c
      · exact toBinary64_exactDecimal s canonical ‹_›
      · exact toBinary64_shortestFrom found

end Binary64

/-! ### Digits -/

theorem plainNumber_append (a b : List Char) :
    plainNumber (a ++ b) = plainNumber a * 10 ^ b.length + plainNumber b := by
  have further (n : Nat) (b : List Char) :
      b.foldl (fun n c => 10 * n + (plainDigit? c).getD 0) n = n * 10 ^ b.length + plainNumber b := by
    induction b generalizing n with
    | nil => simp [plainNumber]
    | cons c b ih =>
      rw [plainNumber, List.foldl_cons, List.foldl_cons, ih, ih (10 * 0 + _), List.length_cons, pow_succ]
      ring
  rw [plainNumber, List.foldl_append]
  exact further _ b

theorem plainNumber_zeros (k : Nat) : plainNumber (Binary64.zeros k) = 0 := by
  induction k with
  | zero => rfl
  | succ k ih =>
    rw [Binary64.zeros, List.replicate_succ', plainNumber_append]
    rw [Binary64.zeros] at ih
    rw [ih]
    rfl

/-- What stands for a digit holds of the ten characters. -/
theorem forall_digitChar {P : Char → Prop} (h : ∀ n < 10, P (Nat.digitChar n)) {c : Char}
    (digit : isPlainDigit c = true) : P c := by
  obtain ⟨small, same⟩ := digitChar_of_isDigit (isDigit_of_isPlainDigit digit)
  exact same ▸ h _ small

/-- A digit has no other case, begins none of the words for numbers, and is no sign. -/
theorem digit_plain {c : Char} (digit : isPlainDigit c = true) :
    c.toLower = c ∧ (c ≠ 'i' ∧ c ≠ 'n') ∧ c ≠ '-' ∧ c ≠ '+' := by
  refine forall_digitChar (P := fun c => c.toLower = c ∧ (c ≠ 'i' ∧ c ≠ 'n') ∧ c ≠ '-' ∧ c ≠ '+') ?_ digit
  decide

/-- A numeral in plain characters is its own plain form. -/
theorem plainForm_of_plain {s : List Char}
    (plain : ∀ c ∈ s, c ≠ '_' ∧ ((digitValue? c).map Nat.digitChar).getD c = c) {after : Bool} :
    plainForm after s = some s := by
  induction s generalizing after with
  | nil => rfl
  | cons c s ih =>
    obtain ⟨notMark, same⟩ := plain c List.mem_cons_self
    have rest {after : Bool} : plainForm after s = some s :=
      ih fun x hx => plain x (List.mem_cons_of_mem c hx)
    rw [plainForm]
    · cases digit : digitValue? c with
      | none => simp only [if_neg notMark, rest, Option.map_some]
      | some d =>
        rw [digit] at same
        simp only [rest, Option.map_some]
        exact congrArg (some <| · :: s) same
    · rintro _ _ mark -
      exact notMark mark

/-- A foreign character spoils a whole numeral. -/
theorem digitsFrom_eq_none {digit : Char → Option Nat} {s : List Char} {c : Char} (hc : c ∈ s)
    (foreign : digit c = none) (notMark : c ≠ '_') {after : Bool} : digitsFrom digit after s = none := by
  fun_induction digitsFrom digit after s with
  | case1 => cases hc
  | case2 => cases hc
  | case3 rest ih => exact ih ((List.mem_cons.mp hc).resolve_left notMark)
  | case4 => rfl
  | case5 after first rest _ d digit_ ih =>
    rcases List.mem_cons.mp hc with rfl | hc
    · cases foreign.symm.trans digit_
    · rw [ih hc, Option.map_none]
  | case6 => rfl

theorem isPlainDigit_of_mem_zeros {k : Nat} {c : Char} (h : c ∈ Binary64.zeros k) :
    isPlainDigit c = true := by
  rw [List.eq_of_mem_replicate h]
  rfl

/-! ### Numerals -/

/-- An exponent, with its sign and some zeros in front. -/
def powerChars (e : ℤ) (k : Nat) : List Char :=
  'e' :: (if e < 0 then '-' else '+') :: (Binary64.zeros k ++ Decimal.digitChars e.natAbs)

/-- A written numeral, with the decimal that it stands for: it has digits before the point, and a point or an
exponent. -/
inductive IsNumeral : List Char → Decimal → Prop
  /-- Digits on both sides of a point. -/
  | pointed {a b : List Char} : a ≠ [] → (∀ c ∈ a ++ b, isPlainDigit c = true) →
      IsNumeral (a ++ '.' :: b) ⟨plainNumber (a ++ b), -b.length⟩
  /-- Digits with an exponent. -/
  | raised {a : List Char} (e : ℤ) (k : Nat) : a ≠ [] → (∀ c ∈ a, isPlainDigit c = true) →
      IsNumeral (a ++ powerChars e k) ⟨plainNumber a, e⟩
  /-- Digits on both sides of a point, with an exponent. -/
  | pointedRaised {a b : List Char} (e : ℤ) (k : Nat) : a ≠ [] →
      (∀ c ∈ a ++ b, isPlainDigit c = true) →
      IsNumeral (a ++ '.' :: (b ++ powerChars e k)) ⟨plainNumber (a ++ b), e - b.length⟩

/-- An exponent is read back. -/
theorem readExponent?_powerChars (e : ℤ) (k : Nat) : readExponent? (powerChars e k) = some e := by
  have digits : (Binary64.zeros k ++ Decimal.digitChars e.natAbs).all isPlainDigit = true := by
    rw [List.all_eq_true]
    intro c hc
    rcases List.mem_append.mp hc with hc | hc
    · exact isPlainDigit_of_mem_zeros hc
    · exact isPlainDigit_of_mem_digitChars hc
  have number : plainNumber (Binary64.zeros k ++ Decimal.digitChars e.natAbs) = e.natAbs := by
    rw [plainNumber_append, plainNumber_zeros, plainNumber_digitChars, Nat.zero_mul, Nat.zero_add]
  have some_ : (Binary64.zeros k ++ Decimal.digitChars e.natAbs).isEmpty = false := by
    simp [Decimal.digitChars_ne_nil]
  rw [powerChars, readExponent?, if_pos (.inl rfl)]
  split_ifs with negative <;>
    simp only [takeSign, some_, digits, number, Bool.not_true, Bool.or_self, Bool.false_eq_true, if_false,
      if_true, Option.some.injEq] <;>
    omega

/-- Where the digits end, the rest begins. -/
theorem span_digits {a t : List Char} (digits : ∀ c ∈ a, isPlainDigit c = true)
    (ends : ∀ c ∈ t.head?, isPlainDigit c = false) :
    (a ++ t).takeWhile isPlainDigit = a ∧ (a ++ t).dropWhile isPlainDigit = t := by
  rw [List.takeWhile_append_of_pos digits, List.dropWhile_append_of_pos digits]
  cases t with
  | nil => simp
  | cons c t =>
    have other := ends c rfl
    rw [List.takeWhile_cons_of_neg (by simp [other]), List.dropWhile_cons_of_neg (by simp [other]),
      List.append_nil]
    exact ⟨rfl, rfl⟩

namespace IsNumeral

variable {s : List Char} {d : Decimal}

/-- **A numeral is read as the decimal that it stands for.** -/
theorem read (h : IsNumeral s d) : readDecimal? s = some d := by
  have power (e : ℤ) (k : Nat) : ∀ c ∈ (powerChars e k).head?, isPlainDigit c = false := by
    rintro c ⟨⟩
    rfl
  have point (t : List Char) : ∀ c ∈ ('.' :: t).head?, isPlainDigit c = false := by
    rintro c ⟨⟩
    rfl
  cases h with
  | @pointed a b some_ digits =>
    rw [List.forall_mem_append] at digits
    obtain ⟨whole, rest⟩ := span_digits digits.1 (point b)
    obtain ⟨fraction, nothing⟩ := span_digits digits.2 (t := []) nofun
    rw [List.append_nil] at fraction nothing
    simp [readDecimal?, whole, rest, fraction, nothing, some_, readExponent?]
  | @raised a e k some_ digits =>
    obtain ⟨whole, rest⟩ := span_digits digits (power e k)
    have reads := readExponent?_powerChars e k
    obtain ⟨t, mark⟩ : ∃ t, powerChars e k = 'e' :: t := ⟨_, rfl⟩
    rw [mark] at whole rest reads ⊢
    simp [readDecimal?, whole, rest, some_, reads]
  | @pointedRaised a b e k some_ digits =>
    rw [List.forall_mem_append] at digits
    obtain ⟨whole, rest⟩ := span_digits digits.1 (point (b ++ powerChars e k))
    obtain ⟨fraction, left⟩ := span_digits digits.2 (power e k)
    simp [readDecimal?, whole, rest, fraction, left, some_, readExponent?_powerChars]

/-- A numeral begins with a digit. -/
theorem head (h : IsNumeral s d) : ∃ c t, s = c :: t ∧ isPlainDigit c = true := by
  have first {a t : List Char} (some_ : a ≠ []) (digits : ∀ c ∈ a, isPlainDigit c = true) :
      ∃ c u, a ++ t = c :: u ∧ isPlainDigit c = true := by
    cases a with
    | nil => exact absurd rfl some_
    | cons c a => exact ⟨c, a ++ t, rfl, digits c List.mem_cons_self⟩
  cases h with
  | pointed some_ digits => exact first some_ (List.forall_mem_append.mp digits).1
  | raised e k some_ digits => exact first some_ digits
  | pointedRaised e k some_ digits => exact first some_ (List.forall_mem_append.mp digits).1

/-- The sign in front of a numeral is taken off. -/
theorem takeSign (h : IsNumeral s d) (negative : Bool) :
    PortMap.takeSign ((if negative then ['-'] else []) ++ s) = (negative, s) := by
  obtain ⟨c, t, rfl, digit⟩ := h.head
  cases negative with
  | true => rfl
  | false => exact takeSign_of_head (digit_plain digit).2.2

/-- Besides digits there are only the marks of a point and of an exponent. -/
theorem mem (h : IsNumeral s d) {c : Char} (hc : c ∈ s) :
    isPlainDigit c = true ∨ c ∈ ['.', 'e', '-', '+'] := by
  have power {e : ℤ} {k : Nat} (hc : c ∈ powerChars e k) :
      isPlainDigit c = true ∨ c ∈ ['.', 'e', '-', '+'] := by
    simp only [powerChars, List.mem_cons, List.mem_append] at hc
    rcases hc with rfl | rfl | hc | hc
    · exact .inr (by decide)
    · right
      split <;> decide
    · exact .inl (isPlainDigit_of_mem_zeros hc)
    · exact .inl (isPlainDigit_of_mem_digitChars hc)
  cases h with
  | pointed some_ digits =>
    rcases List.mem_append.mp hc with hc | hc
    · exact .inl (digits c (List.mem_append_left _ hc))
    · rcases List.mem_cons.mp hc with rfl | hc
      · exact .inr (by decide)
      · exact .inl (digits c (List.mem_append_right _ hc))
  | raised e k some_ digits =>
    rcases List.mem_append.mp hc with hc | hc
    · exact .inl (digits c hc)
    · exact power hc
  | pointedRaised e k some_ digits =>
    rcases List.mem_append.mp hc with hc | hc
    · exact .inl (digits c (List.mem_append_left _ hc))
    · rcases List.mem_cons.mp hc with rfl | hc
      · exact .inr (by decide)
      · rcases List.mem_append.mp hc with hc | hc
        · exact .inl (digits c (List.mem_append_right _ hc))
        · exact power hc

/-- Without a point there is an exponent. -/
theorem marked (h : IsNumeral s d) : '.' ∈ s ∨ 'e' ∈ s := by
  cases h with
  | pointed | pointedRaised => exact .inl (by simp)
  | raised e k => exact .inr (by simp [powerChars])

end IsNumeral

/-! ### Written forms -/

namespace Binary64

variable {ds : List Char} {point : ℤ}

/-- Digits with the point put among them, or with zeros put between them and the point. -/
theorem isNumeral_positional (some_ : ds ≠ []) (digits : ∀ c ∈ ds, isPlainDigit c = true) :
    ∃ d, IsNumeral (positional ds point) d ∧ d.value = plainNumber ds * 10 ^ (point - ds.length) := by
  have withZeros {k : Nat} : ∀ c ∈ zeros k, isPlainDigit c = true := fun c => isPlainDigit_of_mem_zeros
  unfold positional
  split_ifs with before behind
  · refine ⟨_, .pointed (a := ['0']) (b := zeros (-point).toNat ++ ds) (by simp) ?_, ?_⟩
    · simp only [List.forall_mem_append]
      exact ⟨withZeros (k := 1), withZeros, digits⟩
    · have number : plainNumber (['0'] ++ (zeros (-point).toNat ++ ds)) = plainNumber ds := by
        rw [plainNumber_append, plainNumber_append, plainNumber_zeros]
        simp [plainNumber, plainDigit?]
      rw [Decimal.value, number]
      congr 2
      simp [zeros]
      omega
  · have shape : ds ++ zeros (point.toNat - ds.length) ++ ['.', '0'] =
        (ds ++ zeros (point.toNat - ds.length)) ++ '.' :: ['0'] := rfl
    rw [shape]
    refine ⟨_, .pointed (by simp [some_]) ?_, ?_⟩
    · simp only [List.forall_mem_append]
      exact ⟨⟨digits, withZeros⟩, withZeros (k := 1)⟩
    · have number : plainNumber (ds ++ zeros (point.toNat - ds.length) ++ ['0']) =
          plainNumber ds * 10 ^ (point.toNat - ds.length + 1) := by
        rw [plainNumber_append, plainNumber_append, plainNumber_zeros, zeros, List.length_replicate,
          pow_succ]
        simp [plainNumber, plainDigit?, mul_assoc]
      rw [Decimal.value, number, Nat.cast_mul, Nat.cast_pow, Nat.cast_ofNat, mul_assoc, ← zpow_natCast,
        ← zpow_add₀ (by norm_num)]
      congr 2
      simp
      omega
  · have shape : ds.take point.toNat ++ ['.'] ++ ds.drop point.toNat =
        ds.take point.toNat ++ '.' :: ds.drop point.toNat := by simp
    have whole := List.take_append_drop point.toNat ds
    rw [shape]
    refine ⟨_, .pointed ?_ (whole.symm ▸ digits), ?_⟩
    · rw [ne_eq, List.take_eq_nil_iff, not_or]
      exact ⟨by omega, some_⟩
    · rw [Decimal.value, whole]
      congr 2
      simp
      omega

/-- Digits with a point behind the first one, and an exponent. -/
theorem isNumeral_scientific (style : RealStyle) (some_ : ds ≠ [])
    (digits : ∀ c ∈ ds, isPlainDigit c = true) :
    ∃ d, IsNumeral (scientific style ds point) d ∧
      d.value = plainNumber ds * 10 ^ (point - ds.length) := by
  have first : ds.take 1 ≠ [] := by simp [some_]
  have whole := List.take_append_drop 1 ds
  obtain ⟨k, shape⟩ : ∃ k, scientific style ds point =
      ds.take 1 ++ (if 1 < ds.length then '.' :: ds.drop 1 else []) ++ powerChars (point - 1) k :=
    ⟨_, by simp only [scientific, powerChars, List.append_assoc, List.cons_append, List.nil_append]; rfl⟩
  rw [shape]
  split_ifs with several
  · rw [List.append_assoc, List.cons_append]
    refine ⟨_, .pointedRaised _ k first (whole.symm ▸ digits), ?_⟩
    rw [Decimal.value, whole]
    congr 2
    simp
    omega
  · have single : ds.length = 1 := by
      have := List.length_pos_of_ne_nil some_
      omega
    rw [List.append_nil, List.take_of_length_le single.le]
    refine ⟨_, .raised _ k some_ digits, ?_⟩
    rw [Decimal.value, single]
    rfl

/-- The digits of a decimal end in the zeros that are not significant. -/
theorem exists_significantChars {d : Decimal} (pos : d.digits ≠ 0) :
    ∃ k, Decimal.digitChars d.digits = significantChars d ++ zeros k ∧ significantChars d ≠ [] := by
  obtain ⟨k, tail⟩ : ∃ k, (Decimal.digitChars d.digits).reverse.takeWhile (· == '0') = zeros k := by
    refine ⟨_, List.eq_replicate_iff.mpr ⟨rfl, fun c hc => ?_⟩⟩
    simpa using List.mem_takeWhile_imp hc
  have parts : Decimal.digitChars d.digits =
      ((Decimal.digitChars d.digits).reverse.dropWhile (· == '0')).reverse ++ zeros k := by
    rw [← List.reverse_reverse (zeros k), ← List.reverse_append, zeros, List.reverse_replicate, ← zeros,
      ← tail, List.takeWhile_append_dropWhile, List.reverse_reverse]
  have some_ : ((Decimal.digitChars d.digits).reverse.dropWhile (· == '0')).reverse ≠ [] := by
    intro none_
    rw [none_, List.nil_append] at parts
    have number := plainNumber_digitChars d.digits
    rw [parts, plainNumber_zeros] at number
    exact pos number.symm
  have significant : significantChars d =
      ((Decimal.digitChars d.digits).reverse.dropWhile (· == '0')).reverse := by
    rw [significantChars]
    exact if_neg (by simpa using some_)
  exact ⟨k, significant ▸ parts, significant ▸ some_⟩

/-- **What is written of a decimal is a numeral of the same value.** -/
theorem isNumeral_renderDecimal (style : RealStyle) (d : Decimal) :
    ∃ d', IsNumeral (renderDecimal style d) d' ∧ d'.value = d.value := by
  by_cases zero : d.digits = 0
  · rw [renderDecimal]
    simp only [if_pos zero]
    refine ⟨_, .pointed (a := ['0']) (b := ['0']) (by simp) fun _ => isPlainDigit_of_mem_zeros (k := 2), ?_⟩
    rw [Decimal.value, Decimal.value, zero]
    simp [plainNumber, plainDigit?]
  · obtain ⟨k, parts, some_⟩ := exists_significantChars zero
    have digits : ∀ c ∈ significantChars d, isPlainDigit c = true := fun c hc =>
      isPlainDigit_of_mem_digitChars (parts ▸ List.mem_append_left _ hc)
    -- the zeros that are left out stand for the power of ten that is added
    have value : (plainNumber (significantChars d) : ℚ) *
        10 ^ ((Decimal.digitChars d.digits).length + d.exponent - (significantChars d).length : ℤ) =
        d.value := by
      have number := plainNumber_digitChars d.digits
      have length := congrArg List.length parts
      rw [parts, plainNumber_append, plainNumber_zeros, Nat.add_zero, zeros, List.length_replicate] at number
      rw [List.length_append, zeros, List.length_replicate] at length
      rw [Decimal.value, length, ← number, Nat.cast_mul, Nat.cast_pow, Nat.cast_ofNat, mul_assoc,
        ← zpow_natCast, ← zpow_add₀ (by norm_num)]
      congr 2
      push_cast
      ring
    rw [renderDecimal]
    simp only [if_neg zero, ← value]
    split
    · exact isNumeral_positional some_ digits
    · exact isNumeral_scientific style some_ digits

/-- What is written of a finite number is a numeral, with a minus sign where the number is negative. -/
theorem renderChars_form (style : RealStyle) {x : Binary64} (finite : x.isFinite = true) :
    ∃ s d, x.renderChars style = (if x.isNegative then ['-'] else []) ++ s ∧ IsNumeral s d ∧
      d.toBinary64 x.isNegative = x := by
  cases x with
  | nan | infinite => cases finite
  | finite negative m e canonical =>
    obtain ⟨d, numeral, value⟩ :=
      isNumeral_renderDecimal style (shortest (.finite negative m e canonical))
    refine ⟨_, d, rfl, numeral, ?_⟩
    rw [Decimal.toBinary64_congr _ value, toBinary64_shortest finite]

/-- What begins with a digit, behind its sign, is no word and is read as a decimal. -/
theorem readReal?_of_digit {s t : List Char} {c : Char} {negative : Bool}
    (sign : takeSign s = (negative, c :: t)) (digit : isPlainDigit c = true) :
    readReal? s = (readDecimal? (c :: t)).map (Decimal.toBinary64 negative) := by
  obtain ⟨lower, notWord, -⟩ := digit_plain digit
  have notInfinity : ¬ ((c :: t).map Char.toLower = "inf".toList ∨
      (c :: t).map Char.toLower = "infinity".toList) := by
    rintro (word | word) <;> exact notWord.1 (lower ▸ (List.cons.inj word).1)
  have notNaN : (c :: t).map Char.toLower ≠ "nan".toList := fun word =>
    notWord.2 (lower ▸ (List.cons.inj word).1)
  simp only [readReal?, sign, if_neg notInfinity, if_neg notNaN]

/-- **Every finite number is read back from its written form.** -/
theorem readReal?_renderChars (style : RealStyle) {x : Binary64} (finite : x.isFinite = true) :
    readReal? (x.renderChars style) = some x := by
  obtain ⟨s, d, form, numeral, rounds⟩ := renderChars_form style finite
  have signed : takeSign (x.renderChars style) = (x.isNegative, s) := form ▸ numeral.takeSign x.isNegative
  obtain ⟨c, t, rfl, digit⟩ := numeral.head
  rw [readReal?_of_digit signed digit, numeral.read, Option.map_some, rounds]

/-! ### Numerals of settings -/

/-- What stands in the written form of a number is neither blank nor an underscore, and plain. -/
theorem renderChars_plain {style : RealStyle} {x : Binary64} (finite : x.isFinite = true) {c : Char}
    (hc : c ∈ x.renderChars style) :
    separatesWords c = false ∧ c ≠ '_' ∧ ((digitValue? c).map Nat.digitChar).getD c = c := by
  obtain ⟨s, d, form, numeral, -⟩ := renderChars_form style finite
  have known : isPlainDigit c = true ∨ c ∈ ['.', 'e', '-', '+'] := by
    rw [form, List.mem_append] at hc
    rcases hc with hc | hc
    · split at hc
      · obtain rfl := List.mem_singleton.mp hc
        exact .inr (by decide)
      · cases hc
    · exact numeral.mem hc
  rcases known with digit | mark
  · exact forall_digitChar (P := fun c => separatesWords c = false ∧ c ≠ '_' ∧
      ((digitValue? c).map Nat.digitChar).getD c = c) (by decide) digit
  · have marks : ∀ c ∈ ['.', 'e', '-', '+'], separatesWords c = false ∧ c ≠ '_' ∧
        ((digitValue? c).map Nat.digitChar).getD c = c :=
      List.all_iff_forall_prop.mp (by decide)
    exact marks c mark

theorem trim_renderChars {style : RealStyle} {x : Binary64} (finite : x.isFinite = true) :
    trim (x.renderChars style) = x.renderChars style :=
  trim_of_unseparated fun _ hc => (renderChars_plain finite hc).1

/-- The written form of a number is read back as a setting. -/
theorem readFloat?_renderChars {style : RealStyle} {x : Binary64} (finite : x.isFinite = true) :
    readFloat? (x.renderChars style) = some x := by
  rw [readFloat?, trim_renderChars finite, plainForm_of_plain fun _ hc => (renderChars_plain finite hc).2]
  exact readReal?_renderChars style finite

/-- **The written form of a number has a point, or it is no whole numeral.** -/
theorem pointed_or_readInt?_eq_none {style : RealStyle} {x : Binary64} (finite : x.isFinite = true) :
    '.' ∈ x.renderChars style ∨ readInt? (x.renderChars style) = none := by
  obtain ⟨s, d, form, numeral, -⟩ := renderChars_form style finite
  rcases numeral.marked with point | exponent
  · exact .inl (form ▸ List.mem_append_right _ point)
  · refine .inr ?_
    have rest : takeSign (trim (x.renderChars style)) = (x.isNegative, s) := by
      rw [trim_renderChars finite, form]
      exact numeral.takeSign x.isNegative
    have foreign : digitValue? 'e' = none := by decide
    simp only [readInt?, rest, digitsFrom_eq_none exponent foreign (by decide)]

end Binary64

end PortMap
