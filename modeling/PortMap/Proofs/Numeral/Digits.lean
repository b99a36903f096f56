import Mathlib.Data.List.Basic
import PortMap.Numeral.Integer
import PortMap.Proofs.Text.Blank
import PortMap.Text.Quoted

/-!
# Numerals read back

A number that is written in digits is read as the same number: in base 10 by plain digits
(`plainNumber_digitChars`), with its sign (`readInt?_repr`), in base 16 by capital letters
(`readHex?_capitalHexText`). In base 10 there is no other way to write it without a zero in front
(`digitChars_plainNumber`).
-/

namespace PortMap

open Text

/-! ### Base 10 -/

theorem plainDigit?_of_isDigit {c : Char} (h : c.isDigit = true) :
    plainDigit? c = some (c.toNat - '0'.toNat) := by
  simp only [Char.isDigit, Bool.and_eq_true, decide_eq_true_eq] at h
  exact if_pos h

theorem separatesWords_of_isDigit {c : Char} (h : c.isDigit = true) : separatesWords c = false := by
  simp only [Char.isDigit, Bool.and_eq_true, decide_eq_true_eq, ge_iff_le, UInt32.le_iff_toNat_le] at h
  have bounds : 48 ≤ c.toNat ∧ c.toNat ≤ 57 := h
  refine Bool.eq_false_iff.mpr fun separates => ?_
  simp only [separatesWords, isBlank, Bool.or_eq_true, Bool.and_eq_true, decide_eq_true_eq,
    beq_iff_eq] at separates
  omega

theorem isDigit_of_mem_digitChars {n : Nat} {c : Char} (h : c ∈ Decimal.digitChars n) :
    c.isDigit = true :=
  Nat.isDigit_of_mem_toDigits (by decide) (by decide) h

theorem isPlainDigit_of_mem_digitChars {n : Nat} {c : Char} (h : c ∈ Decimal.digitChars n) :
    isPlainDigit c = true := by
  rw [isPlainDigit, plainDigit?_of_isDigit (isDigit_of_mem_digitChars h)]
  rfl

/-- The digits of a number are the number. -/
theorem plainNumber_digitChars (n : Nat) : plainNumber (Decimal.digitChars n) = n := by
  have same : plainNumber (Decimal.digitChars n) = Nat.ofDigitChars 10 (Decimal.digitChars n) 0 := by
    rw [plainNumber, Nat.ofDigitChars_eq_foldl]
    refine List.foldl_ext _ _ 0 fun m c hc => ?_
    rw [plainDigit?_of_isDigit (isDigit_of_mem_digitChars hc), Option.getD_some]
  rw [same, Decimal.digitChars, Nat.ofDigitChars_toDigits (by decide) (by decide)]

/-- Only zero is written with a zero in front. -/
theorem head?_digitChars {n : Nat} (h : n ≠ 0) : (Decimal.digitChars n).head? ≠ some '0' := by
  induction n using Nat.strongRecOn with
  | ind n ih =>
    -- the first digit is the one of the quotient, down to a number of one digit
    rw [Decimal.digitChars, Nat.toDigits_eq_if (by decide)]
    split
    · have digit : ∀ d < 10, d ≠ 0 → Nat.digitChar d ≠ '0' := by decide
      rw [List.head?_cons, ne_eq, Option.some.injEq]
      exact digit n ‹n < 10› h
    · rw [List.head?_append_of_ne_nil _ Nat.toDigits_ne_nil]
      exact ih (n / 10) (by omega) (by omega)

theorem isDigit_of_isPlainDigit {c : Char} (h : isPlainDigit c = true) : c.isDigit = true := by
  rw [isPlainDigit, plainDigit?] at h
  split at h
  · rw [Char.isDigit, Bool.and_eq_true, decide_eq_true_eq, decide_eq_true_eq]
    assumption
  · cases h

/-- A digit is written as the character that stands for it. -/
theorem digitChar_of_isDigit {c : Char} (h : c.isDigit = true) :
    c.toNat - '0'.toNat < 10 ∧ Nat.digitChar (c.toNat - '0'.toNat) = c := by
  simp only [Char.isDigit, Bool.and_eq_true, decide_eq_true_eq, ge_iff_le, UInt32.le_iff_toNat_le] at h
  have bounds : 48 ≤ c.toNat ∧ c.toNat ≤ 57 := h
  have zero : '0'.toNat = 48 := rfl
  have small : c.toNat - '0'.toNat < 10 := by omega
  refine ⟨small, Char.toNat_inj.mp ?_⟩
  rw [Nat.toNat_digitChar_of_lt_ten small]
  omega

/-- Digits behind a number other than zero are written behind it. -/
theorem digitChars_foldl {n : Nat} {ds : List Char} (pos : 0 < n) (digits : ∀ c ∈ ds, isPlainDigit c) :
    Decimal.digitChars (ds.foldl (fun n c => 10 * n + (plainDigit? c).getD 0) n) =
      Decimal.digitChars n ++ ds := by
  induction ds generalizing n with
  | nil => rw [List.foldl_nil, List.append_nil]
  | cons c ds ih =>
    have digit := isDigit_of_isPlainDigit (digits c List.mem_cons_self)
    obtain ⟨small, same⟩ := digitChar_of_isDigit digit
    have behind : Decimal.digitChars (10 * n + (c.toNat - '0'.toNat)) = Decimal.digitChars n ++ [c] := by
      rw [Decimal.digitChars, Decimal.digitChars, ← Nat.toDigits_append_toDigits (by decide) pos small,
        Nat.toDigits_of_lt_base small, same]
    rw [List.foldl_cons, plainDigit?_of_isDigit digit, Option.getD_some,
      ih (by omega) fun x hx => digits x (List.mem_cons_of_mem c hx), behind, List.append_assoc]
    rfl

/-- **Digits without a zero too many in front are the digits of their number.** -/
theorem digitChars_plainNumber {ds : List Char} (notEmpty : ds ≠ []) (digits : ∀ c ∈ ds, isPlainDigit c)
    (noLeadingZero : ds ≠ ['0'] → ds.head? ≠ some '0') : Decimal.digitChars (plainNumber ds) = ds := by
  cases ds with
  | nil => exact absurd rfl notEmpty
  | cons c ds =>
    have digit := isDigit_of_isPlainDigit (digits c List.mem_cons_self)
    obtain ⟨small, same⟩ := digitChar_of_isDigit digit
    have first : Decimal.digitChars (c.toNat - '0'.toNat) = [c] := by
      rw [Decimal.digitChars, Nat.toDigits_of_lt_base small, same]
    rw [plainNumber, List.foldl_cons, plainDigit?_of_isDigit digit, Option.getD_some, Nat.mul_zero,
      Nat.zero_add]
    by_cases zero : c = '0'
    · subst zero
      have alone : ds = [] := by
        by_contra more
        exact noLeadingZero (by simpa using more) rfl
      rw [alone]
      exact first
    · have pos : 0 < c.toNat - '0'.toNat := by
        refine Nat.pos_of_ne_zero fun none => zero ?_
        rw [← same, none]
        rfl
      rw [digitChars_foldl pos fun x hx => digits x (List.mem_cons_of_mem c hx), first]
      rfl

/-! ### Base 16 -/

/-- The character of a digit in base 16, with capital letters. -/
def capitalDigit (d : Nat) : Char := (Nat.digitChar d).toUpper

/-- A number in base 16 with at least `width` digits, in capital letters. -/
def capitalHexText (width n : Nat) : List Char := (hexText width n).map Char.toUpper

/-- What the reader of numerals has to know of a digit. -/
theorem capitalDigit_reads : ∀ d < 16, hexValue? (capitalDigit d) = some d ∧
    ((digitValue? (capitalDigit d)).map Nat.digitChar).getD (capitalDigit d) = capitalDigit d := by
  decide

/-- What stands around or between the digits of a numeral is no digit. -/
theorem capitalDigit_plain : ∀ d < 16, separatesWords (capitalDigit d) = false ∧
    (capitalDigit d ≠ '-' ∧ capitalDigit d ≠ '+') ∧ (capitalDigit d ≠ 'x' ∧ capitalDigit d ≠ 'X') ∧
    capitalDigit d ≠ '_' := by
  decide

theorem numberOf_append (base : Nat) (ds : List Nat) (d : Nat) :
    numberOf base (ds ++ [d]) = base * numberOf base ds + d := by
  rw [numberOf, List.foldl_append]
  rfl

theorem numberOf_zeros (base k : Nat) (ds : List Nat) :
    numberOf base (List.replicate k 0 ++ ds) = numberOf base ds := by
  induction k with
  | zero => rfl
  | succ k ih =>
    rw [← ih, List.replicate_succ, List.cons_append, numberOf, List.foldl_cons, Nat.mul_zero]
    rfl

/-- The digits of a number in any base. -/
theorem exists_toDigits_eq {base : Nat} (several : 1 < base) (n : Nat) : ∃ ds : List Nat, ds ≠ [] ∧
    (∀ d ∈ ds, d < base) ∧ Nat.toDigits base n = ds.map Nat.digitChar ∧ numberOf base ds = n := by
  induction n using Nat.strongRecOn with
  | ind n ih =>
    rw [Nat.toDigits_eq_if several]
    split
    · exact ⟨[n], List.cons_ne_nil _ _, by simpa using ‹n < base›, rfl, by simp [numberOf]⟩
    · have less : n / base < n := Nat.div_lt_self (by omega) several
      obtain ⟨ds, -, small, text, number⟩ := ih (n / base) less
      refine ⟨ds ++ [n % base], by simp, fun d hd => ?_, by rw [text, List.map_append]; rfl, ?_⟩
      · rcases List.mem_append.mp hd with hd | hd
        · exact small d hd
        · rw [List.mem_singleton.mp hd]
          exact Nat.mod_lt n (by omega)
      · rw [numberOf_append, number, Nat.div_add_mod]

/-- The digits of a numeral of at least `width` places. -/
theorem exists_capitalHexText_eq (width n : Nat) : ∃ ds : List Nat, ds ≠ [] ∧ (∀ d ∈ ds, d < 16) ∧
    capitalHexText width n = ds.map capitalDigit ∧ numberOf 16 ds = n := by
  obtain ⟨ds, notEmpty, small, text, number⟩ := exists_toDigits_eq (by decide : 1 < 16) n
  refine ⟨List.replicate (width - ds.length) 0 ++ ds, by simp [notEmpty], fun d hd => ?_, ?_, ?_⟩
  · rcases List.mem_append.mp hd with hd | hd
    · rw [List.eq_of_mem_replicate hd]
      decide
    · exact small d hd
  · simp only [capitalHexText, hexText, text, List.length_map, List.map_append, List.map_replicate,
      List.map_map]
    rfl
  · rw [numberOf_zeros, number]

/-- A numeral in base 16 is a word. -/
theorem isWord_capitalHexText (width n : Nat) : IsWord (capitalHexText width n) := by
  obtain ⟨ds, notEmpty, small, text, -⟩ := exists_capitalHexText_eq width n
  refine ⟨by simpa [text] using notEmpty, fun c hc => ?_⟩
  rw [text] at hc
  obtain ⟨d, hd, rfl⟩ := List.mem_map.mp hc
  exact (capitalDigit_plain d (small d hd)).1

theorem takeSign_of_head {c : Char} {t : List Char} (unsigned : c ≠ '-' ∧ c ≠ '+') :
    takeSign (c :: t) = (false, c :: t) := by
  unfold takeSign
  split
  · exact absurd (List.cons.inj ‹_›).1 unsigned.1
  · exact absurd (List.cons.inj ‹_›).1 unsigned.2
  · rfl

theorem takeSign_of_unsigned {s : List Char} (h : ∀ c ∈ s, c ≠ '-' ∧ c ≠ '+') :
    takeSign s = (false, s) := by
  unfold takeSign
  split
  · exact absurd rfl (h '-' List.mem_cons_self).1
  · exact absurd rfl (h '+' List.mem_cons_self).2
  · rfl

theorem dropHexMark_of_unmarked {s : List Char} (h : ∀ c ∈ s, c ≠ 'x' ∧ c ≠ 'X') :
    dropHexMark s = s := by
  have second {c x : Char} {rest : List Char} (hs : s = c :: x :: rest) : ¬ (x = 'x' ∨ x = 'X') := by
    subst hs
    have hx := h x (List.mem_cons_of_mem c List.mem_cons_self)
    exact not_or.mpr hx
  unfold dropHexMark
  split
  · exact if_neg (second rfl)
  · exact if_neg (second rfl)
  · rfl

/-- Digits without an underscore among them are read one by one. -/
theorem digitsFrom_map {digit : Char → Option Nat} {show_ : Nat → Char} {ds : List Nat}
    (h : ∀ d ∈ ds, digit (show_ d) = some d ∧ show_ d ≠ '_') {after : Bool}
    (hne : after = true ∨ ds ≠ []) : digitsFrom digit after (ds.map show_) = some ds := by
  induction ds generalizing after with
  | nil =>
    rw [List.map_nil, digitsFrom, if_pos (hne.resolve_right fun h => h rfl)]
  | cons d ds ih =>
    obtain ⟨reads, notMark⟩ := h d List.mem_cons_self
    rw [List.map_cons, digitsFrom, reads]
    · dsimp only
      rw [ih (fun x hx => h x (List.mem_cons_of_mem d hx)) (.inl rfl)]
      rfl
    · exact notMark

/-- What the reader of whole numbers has to know of a digit. -/
theorem digitChar_reads : ∀ d < 10, digitValue? (Nat.digitChar d) = some d ∧ Nat.digitChar d ≠ '_' ∧
    (Nat.digitChar d ≠ '-' ∧ Nat.digitChar d ≠ '+') ∧ separatesWords (Nat.digitChar d) = false := by
  decide

/-- A property of the minus sign holds of what stands before a number. -/
theorem forall_mem_sign {P : Char → Prop} (h : P '-') (negative : Bool) :
    ∀ c ∈ if negative then ['-'] else [], P c := by
  cases negative with
  | true => exact fun c hc => List.mem_singleton.mp hc ▸ h
  | false => exact fun c hc => absurd hc List.not_mem_nil

/-- A number that is written in base 10, with its sign, is read as this number if it is not too long. -/
theorem readInt?_signed (negative : Bool) (n : Nat) :
    readInt? ((if negative then ['-'] else []) ++ Decimal.digitChars n) =
      if maxDigits < (Decimal.digitChars n).length then none else some (signed negative n) := by
  obtain ⟨ds, notEmpty, small, text, number⟩ := exists_toDigits_eq (by decide : 1 < 10) n
  rw [Decimal.digitChars, text, List.length_map]
  have plain (P : Char → Prop) (h : ∀ d < 10, P (Nat.digitChar d)) : ∀ c ∈ ds.map Nat.digitChar, P c :=
    List.forall_mem_map.mpr fun d hd => h d (small d hd)
  have trimmed : trim ((if negative then ['-'] else []) ++ ds.map Nat.digitChar) =
      (if negative then ['-'] else []) ++ ds.map Nat.digitChar := by
    refine trim_of_unseparated (List.forall_mem_append.mpr
      ⟨forall_mem_sign (by decide) negative, plain _ fun d hd => (digitChar_reads d hd).2.2.2⟩)
  have sign : takeSign ((if negative then ['-'] else []) ++ ds.map Nat.digitChar) =
      (negative, ds.map Nat.digitChar) := by
    cases negative with
    | true => rfl
    | false => exact takeSign_of_unsigned (plain _ fun d hd => (digitChar_reads d hd).2.2.1)
  have read : digitsFrom digitValue? false (ds.map Nat.digitChar) = some ds :=
    digitsFrom_map (fun d hd => ⟨(digitChar_reads d (small d hd)).1, (digitChar_reads d (small d hd)).2.1⟩)
      (.inr notEmpty)
  simp only [readInt?, trimmed, sign, read, number]

/-- The written form of a whole number: its digits, behind a minus sign if it is negative. -/
theorem toList_repr (n : Int) :
    n.repr.toList = (if decide (n < 0) then ['-'] else []) ++ Decimal.digitChars n.natAbs := by
  cases n with
  | ofNat n => exact String.toList_ofList
  | negSucc n =>
    have minus : (Int.negSucc n).repr = "-" ++ (n + 1).repr := rfl
    have digits : (n + 1).repr.toList = Decimal.digitChars (n + 1) := String.toList_ofList
    rw [minus, String.toList_append, digits, decide_eq_true (Int.negSucc_lt_zero n)]
    rfl

/-- The written form of a whole number is read as this number, if it is not too long. -/
theorem readInt?_repr (n : Int) :
    readInt? n.repr.toList =
      if maxDigits < (Decimal.digitChars n.natAbs).length then none else some n := by
  have number : signed (decide (n < 0)) n.natAbs = n := by
    unfold signed
    split
    · rename_i negative
      have := of_decide_eq_true negative
      omega
    · rename_i nonneg
      rw [decide_eq_true_eq] at nonneg
      omega
  rw [toList_repr, readInt?_signed, number]

/-- Digits in capital letters are read as their number. -/
theorem readHex?_map_capitalDigit {ds : List Nat} (notEmpty : ds ≠ []) (small : ∀ d ∈ ds, d < 16) :
    readHex? (ds.map capitalDigit) = some (numberOf 16 ds : Int) := by
  have plain (P : Char → Prop) (h : ∀ d < 16, P (capitalDigit d)) : ∀ c ∈ ds.map capitalDigit, P c :=
    List.forall_mem_map.mpr fun d hd => h d (small d hd)
  have trimmed : trim (ds.map capitalDigit) = ds.map capitalDigit :=
    trim_of_unseparated (plain _ fun d hd => (capitalDigit_plain d hd).1)
  have unsigned : takeSign (ds.map capitalDigit) = (false, ds.map capitalDigit) :=
    takeSign_of_unsigned (plain _ fun d hd => (capitalDigit_plain d hd).2.1)
  have digits : withPlainDigits (ds.map capitalDigit) = ds.map capitalDigit := by
    rw [withPlainDigits, List.map_map]
    exact List.map_congr_left fun d hd => (capitalDigit_reads d (small d hd)).2
  have unmarked : dropHexMark (ds.map capitalDigit) = ds.map capitalDigit :=
    dropHexMark_of_unmarked (plain _ fun d hd => (capitalDigit_plain d hd).2.2.1)
  have read : digitsFrom hexValue? false (ds.map capitalDigit) = some ds :=
    digitsFrom_map (fun d hd => ⟨(capitalDigit_reads d (small d hd)).1,
      (capitalDigit_plain d (small d hd)).2.2.2⟩) (.inr notEmpty)
  simp only [readHex?, trimmed, unsigned, digits, unmarked, read]
  rfl

/-- A number that is written in base 16 is read as this number. -/
theorem readHex?_capitalHexText (width n : Nat) : readHex? (capitalHexText width n) = some (n : Int) := by
  obtain ⟨ds, notEmpty, small, text, number⟩ := exists_capitalHexText_eq width n
  rw [text, readHex?_map_capitalDigit notEmpty small, number]

end PortMap
