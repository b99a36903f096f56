import PortMap.Proofs.Numeral.Digits

/-!
# Numerals in base 16

What a numeral in base 16 is, apart from the reader of such numerals: a sign or none, the mark `0x` or none, and
digits in which single underscores may stand between two; an underscore may also stand after the mark
(`HexNumeral`). The decimal digits of every script count.

## What is proved

`readHex?_eq_some_iff` — **a text without blanks is read as a number exactly if it is a numeral of this number.**
-/

namespace PortMap

open Text

/-! ### The grammar -/

/-- Digits, and their values. Between two digits there may be an underscore. -/
inductive DigitRun : List Char → List Nat → Prop where
  /-- One digit. -/
  | one {c : Char} {d : Nat} : hexValue? c = some d → DigitRun [c] [d]
  /-- A digit before others. -/
  | cons {c : Char} {d : Nat} {s : List Char} {ds : List Nat} : hexValue? c = some d → DigitRun s ds →
      DigitRun (c :: s) (d :: ds)
  /-- A digit and an underscore before others. -/
  | spaced {c : Char} {d : Nat} {s : List Char} {ds : List Nat} : hexValue? c = some d → DigitRun s ds →
      DigitRun (c :: '_' :: s) (d :: ds)

/-- What may stand before the digits: a zero and an `x`, and an underscore after them. -/
inductive HexMark : List Char → Prop where
  /-- Nothing. -/
  | absent : HexMark []
  /-- The mark. -/
  | mark {z x : Char} : digitValue? z = some 0 → x = 'x' ∨ x = 'X' → HexMark [z, x]
  /-- The mark and an underscore. -/
  | spaced {z x : Char} : digitValue? z = some 0 → x = 'x' ∨ x = 'X' → HexMark [z, x, '_']

/-- A numeral in base 16, and its number. -/
inductive HexNumeral : List Char → Int → Prop where
  /-- Without a sign. -/
  | unsigned {mark s : List Char} {ds : List Nat} : HexMark mark → DigitRun s ds →
      HexNumeral (mark ++ s) (numberOf 16 ds)
  /-- With a plus sign. -/
  | positive {mark s : List Char} {ds : List Nat} : HexMark mark → DigitRun s ds →
      HexNumeral ('+' :: (mark ++ s)) (numberOf 16 ds)
  /-- With a minus sign. -/
  | negative {mark s : List Char} {ds : List Nat} : HexMark mark → DigitRun s ds →
      HexNumeral ('-' :: (mark ++ s)) (-(numberOf 16 ds : Int))

/-! ### Digits of every script -/

/-- The character with the plain digit in place of one of another script. -/
def plainChar (c : Char) : Char := ((digitValue? c).map Nat.digitChar).getD c

theorem digitValue?_lt {c : Char} {d : Nat} (h : digitValue? c = some d) : d < 10 := by
  rw [digitValue?] at h
  generalize digitZeros = zeros at h
  induction zeros with
  | nil => cases h
  | cons start rest ih =>
    rw [digitFrom] at h
    split at h
    · cases h
    split at h
    · cases h
      omega
    · exact ih h

/-- A letter is no decimal digit. -/
theorem digitValue?_of_letter {c : Char} (h : 'a' ≤ c ∧ c ≤ 'f' ∨ 'A' ≤ c ∧ c ≤ 'F') :
    digitValue? c = none := by
  have code : 65 ≤ c.toNat ∧ c.toNat ≤ 102 := by
    simp only [Char.le_def, UInt32.le_iff_toNat_le] at h
    have bounds : 97 ≤ c.toNat ∧ c.toNat ≤ 102 ∨ 65 ≤ c.toNat ∧ c.toNat ≤ 70 := h
    omega
  rw [digitValue?, digitZeros, digitFrom, digitFrom, if_neg (by omega), if_neg (by omega),
    if_pos (by omega)]

theorem hexValue?_of_digit {c : Char} {d : Nat} (h : digitValue? c = some d) : hexValue? c = some d := by
  have noLetter : ¬ ('a' ≤ c ∧ c ≤ 'f' ∨ 'A' ≤ c ∧ c ≤ 'F') := by
    intro letter
    rw [digitValue?_of_letter letter] at h
    cases h
  rw [not_or] at noLetter
  rw [hexValue?, if_neg noLetter.1, if_neg noLetter.2, h]

theorem plainChar_of_digit {c : Char} {d : Nat} (h : digitValue? c = some d) : plainChar c = Nat.digitChar d := by
  rw [plainChar, h]
  rfl

theorem plainChar_of_none {c : Char} (h : digitValue? c = none) : plainChar c = c := by
  rw [plainChar, h]
  rfl

/-- What is known of the plain digits. -/
theorem digitChar_plain : ∀ d < 10, hexValue? (Nat.digitChar d) = some d ∧
    (Nat.digitChar d = '0' → d = 0) ∧ Nat.digitChar d ∉ ['_', 'x', 'X'] := by
  decide

theorem hexValue?_plainChar (c : Char) : hexValue? (plainChar c) = hexValue? c := by
  cases digit : digitValue? c with
  | none => rw [plainChar_of_none digit]
  | some d =>
    rw [plainChar_of_digit digit, (digitChar_plain d (digitValue?_lt digit)).1, hexValue?_of_digit digit]

/-- An underscore or an `x` is what it is. -/
theorem plainChar_eq_iff {m : Char} (hm : m ∈ ['_', 'x', 'X']) (c : Char) : plainChar c = m ↔ c = m := by
  have noDigit : ∀ m ∈ ['_', 'x', 'X'], digitValue? m = none := by
    simp only [List.forall_mem_cons, List.not_mem_nil, IsEmpty.forall_iff, implies_true, and_true]
    decide
  constructor
  · rintro rfl
    cases digit : digitValue? c with
    | none => exact (plainChar_of_none digit).symm
    | some d =>
      rw [plainChar_of_digit digit] at hm
      exact absurd hm (digitChar_plain d (digitValue?_lt digit)).2.2
  · rintro rfl
    exact plainChar_of_none (noDigit c hm)

theorem plainChar_eq_zero_iff (c : Char) : plainChar c = '0' ↔ digitValue? c = some 0 := by
  constructor
  · intro zero
    cases digit : digitValue? c with
    | none =>
      rw [plainChar_of_none digit] at zero
      rw [zero] at digit
      revert digit
      decide
    | some d =>
      rw [plainChar_of_digit digit] at zero
      rw [(digitChar_plain d (digitValue?_lt digit)).2.1 zero]
  · intro digit
    rw [plainChar_of_digit digit]
    rfl

/-! ### Runs of digits -/

theorem digitsFrom_mark (after : Bool) (s : List Char) : digitsFrom hexValue? after ('_' :: s) =
    if after then digitsFrom hexValue? false s else none := by
  rw [digitsFrom]

theorem digitsFrom_cons {c : Char} (h : c ≠ '_') (after : Bool) (s : List Char) :
    digitsFrom hexValue? after (c :: s) =
      (hexValue? c).bind fun d => (digitsFrom hexValue? true s).map (d :: ·) := by
  rw [digitsFrom]
  · cases hexValue? c <;> rfl
  · exact h

/-- In plain digits or in those of another script, the values are the same. -/
theorem digitsFrom_plain (after : Bool) (s : List Char) :
    digitsFrom hexValue? after (s.map plainChar) = digitsFrom hexValue? after s := by
  induction s generalizing after with
  | nil => rfl
  | cons c s ih =>
    rw [List.map_cons]
    by_cases mark : c = '_'
    · rw [(plainChar_eq_iff (by decide) c).mpr mark, mark, digitsFrom_mark, digitsFrom_mark, ih]
    · have noMark : plainChar c ≠ '_' := mt (plainChar_eq_iff (by decide) c).mp mark
      rw [digitsFrom_cons noMark, digitsFrom_cons mark, hexValue?_plainChar, ih]

/-- A digit is no underscore, no `x` and no sign. -/
theorem ne_mark_of_digit {c : Char} {d : Nat} (h : hexValue? c = some d) :
    c ≠ '_' ∧ (c ≠ 'x' ∧ c ≠ 'X') ∧ c ≠ '-' ∧ c ≠ '+' := by
  have noDigit : ∀ m ∈ ['_', 'x', 'X', '-', '+'], hexValue? m = none := by
    simp only [List.forall_mem_cons, List.not_mem_nil, IsEmpty.forall_iff, implies_true, and_true]
    decide
  have noMark : c ∉ ['_', 'x', 'X', '-', '+'] := by
    intro mark
    rw [noDigit c mark] at h
    cases h
  simp only [List.mem_cons, List.not_mem_nil, or_false, not_or] at noMark
  obtain ⟨underscore, small, capital, minus, plus⟩ := noMark
  exact ⟨underscore, ⟨small, capital⟩, minus, plus⟩

/-- A run of digits is read, after another digit or not. -/
theorem digitsFrom_of_digitRun {s : List Char} {ds : List Nat} (h : DigitRun s ds) (after : Bool) :
    digitsFrom hexValue? after s = some ds := by
  induction h generalizing after with
  | one digit =>
    rw [digitsFrom_cons (ne_mark_of_digit digit).1, digit]
    rfl
  | cons digit _ ih =>
    rw [digitsFrom_cons (ne_mark_of_digit digit).1, digit, Option.bind_some, ih]
    rfl
  | spaced digit _ ih =>
    rw [digitsFrom_cons (ne_mark_of_digit digit).1, digit, Option.bind_some, digitsFrom_mark, if_pos rfl, ih]
    rfl

/-- What is read is a run of digits; after another digit it may also be nothing, or begin with an
underscore. -/
theorem digitRun_of_digitsFrom {s : List Char} {ds : List Nat} {after : Bool}
    (h : digitsFrom hexValue? after s = some ds) :
    DigitRun s ds ∨ after = true ∧ (s = [] ∧ ds = [] ∨ ∃ t, s = '_' :: t ∧ DigitRun t ds) := by
  induction s generalizing after ds with
  | nil =>
    cases after with
    | false => cases h
    | true => exact .inr ⟨rfl, .inl ⟨rfl, (Option.some.inj h).symm⟩⟩
  | cons c s ih =>
    by_cases mark : c = '_'
    · rw [mark, digitsFrom_mark] at h
      cases after with
      | false => cases h
      | true =>
        rcases ih h with run | ⟨no, -⟩
        · exact .inr ⟨rfl, .inr ⟨s, by rw [mark], run⟩⟩
        · cases no
    · rw [digitsFrom_cons mark, Option.bind_eq_some_iff] at h
      obtain ⟨d, digit, h⟩ := h
      obtain ⟨ds, read, rfl⟩ := Option.map_eq_some_iff.mp h
      left
      rcases ih read with run | ⟨-, ⟨rfl, rfl⟩ | ⟨t, rfl, run⟩⟩
      · exact .cons digit run
      · exact .one digit
      · exact .spaced digit run

theorem digitsFrom_eq_some_iff {s : List Char} {ds : List Nat} :
    digitsFrom hexValue? false s = some ds ↔ DigitRun s ds := by
  constructor
  · intro h
    rcases digitRun_of_digitsFrom h with run | ⟨no, -⟩
    · exact run
    · cases no
  · intro run
    exact digitsFrom_of_digitRun run false

/-- What a run of digits begins with. -/
theorem DigitRun.head {s : List Char} {ds : List Nat} (h : DigitRun s ds) :
    ∃ c t d, s = c :: t ∧ hexValue? c = some d := by
  cases h with
  | one digit | cons digit _ | spaced digit _ => exact ⟨_, _, _, rfl, digit⟩

theorem DigitRun.ne_x {s : List Char} {ds : List Nat} (h : DigitRun s ds) : ∀ c ∈ s, c ≠ 'x' ∧ c ≠ 'X' := by
  induction h with
  | one digit => simpa using (ne_mark_of_digit digit).2.1
  | cons digit _ ih => simpa using ⟨(ne_mark_of_digit digit).2.1, ih⟩
  | spaced digit _ ih => simpa using ⟨(ne_mark_of_digit digit).2.1, ih⟩

/-! ### The mark -/

theorem dropHexMark_spaced {x : Char} (letter : x = 'x' ∨ x = 'X') (s : List Char) :
    dropHexMark ('0' :: x :: '_' :: s) = s := by
  rw [dropHexMark, if_pos letter]

theorem dropHexMark_mark {x : Char} (letter : x = 'x' ∨ x = 'X') {s : List Char}
    (notSpaced : s.head? ≠ some '_') : dropHexMark ('0' :: x :: s) = s := by
  cases s with
  | nil => rw [dropHexMark, if_pos letter]; simp
  | cons c s =>
    rw [dropHexMark, if_pos letter]
    rintro t ⟨⟩
    exact notSpaced rfl

theorem dropHexMark_absent {z x : Char} (unmarked : ¬ (z = '0' ∧ (x = 'x' ∨ x = 'X'))) (s : List Char) :
    dropHexMark (z :: x :: s) = z :: x :: s := by
  unfold dropHexMark
  split
  · rename_i same
    cases same
    exact if_neg fun letter => unmarked ⟨rfl, letter⟩
  · rename_i same
    cases same
    exact if_neg fun letter => unmarked ⟨rfl, letter⟩
  · rfl

/-- What is read behind a mark. -/
theorem exists_dropHexMark (s : List Char) : ∃ mark t, HexMark mark ∧ s = mark ++ t ∧
    dropHexMark (s.map plainChar) = t.map plainChar := by
  rcases s with _ | ⟨z, _ | ⟨x, s⟩⟩
  · exact ⟨[], [], .absent, rfl, rfl⟩
  · exact ⟨[], [z], .absent, rfl, by simp [dropHexMark]⟩
  rw [List.map_cons, List.map_cons]
  by_cases isMark : plainChar z = '0' ∧ (plainChar x = 'x' ∨ plainChar x = 'X')
  · obtain ⟨zero, letter⟩ := isMark
    have zero' := (plainChar_eq_zero_iff z).mp zero
    have letter' : x = 'x' ∨ x = 'X' := by
      rwa [plainChar_eq_iff (by decide), plainChar_eq_iff (by decide)] at letter
    rw [zero]
    by_cases spaced : (s.map plainChar).head? = some '_'
    · obtain ⟨c, t, rfl⟩ : ∃ c t, s = c :: t := by
        cases s with
        | nil => cases spaced
        | cons c t => exact ⟨c, t, rfl⟩
      rw [List.map_cons, List.head?_cons, Option.some.injEq] at spaced
      rw [List.map_cons, spaced, dropHexMark_spaced letter]
      rw [plainChar_eq_iff (by decide)] at spaced
      exact ⟨[z, x, '_'], t, .spaced zero' letter', by rw [spaced]; rfl, rfl⟩
    · rw [dropHexMark_mark letter spaced]
      exact ⟨[z, x], s, .mark zero' letter', rfl, rfl⟩
  · rw [dropHexMark_absent isMark]
    exact ⟨[], z :: x :: s, .absent, rfl, rfl⟩

/-- Before a run of digits, a mark is what is dropped. -/
theorem dropHexMark_of_hexMark {mark t : List Char} {ds : List Nat} (hm : HexMark mark)
    (run : DigitRun t ds) : dropHexMark ((mark ++ t).map plainChar) = t.map plainChar := by
  have plainLetter {x : Char} (letter : x = 'x' ∨ x = 'X') : plainChar x = 'x' ∨ plainChar x = 'X' := by
    rwa [plainChar_eq_iff (by decide), plainChar_eq_iff (by decide)]
  cases hm with
  | absent =>
    refine dropHexMark_of_unmarked (List.forall_mem_map.mpr fun c hc => ?_)
    rw [ne_eq, ne_eq, plainChar_eq_iff (by decide), plainChar_eq_iff (by decide)]
    exact run.ne_x c hc
  | mark zero letter =>
    obtain ⟨c, t, d, rfl, digit⟩ := run.head
    have notSpaced : plainChar c ≠ '_' := mt (plainChar_eq_iff (by decide) c).mp (ne_mark_of_digit digit).1
    rw [List.map_append, List.map_cons, List.map_cons, (plainChar_eq_zero_iff _).mpr zero]
    exact dropHexMark_mark (plainLetter letter) (by simpa using notSpaced)
  | spaced zero letter =>
    rw [List.map_append, List.map_cons, List.map_cons, (plainChar_eq_zero_iff _).mpr zero, List.map_cons,
      (plainChar_eq_iff (by decide) '_').mpr rfl]
    exact dropHexMark_spaced (plainLetter letter) _

/-- What is read behind the sign. -/
theorem digitsFrom_dropHexMark_iff {s : List Char} {ds : List Nat} :
    digitsFrom hexValue? false (dropHexMark (withPlainDigits s)) = some ds ↔
      ∃ mark t, HexMark mark ∧ s = mark ++ t ∧ DigitRun t ds := by
  have plain : withPlainDigits s = s.map plainChar := rfl
  rw [plain]
  constructor
  · intro h
    obtain ⟨mark, t, hm, rfl, dropped⟩ := exists_dropHexMark s
    rw [dropped, digitsFrom_plain, digitsFrom_eq_some_iff] at h
    exact ⟨mark, t, hm, rfl, h⟩
  · rintro ⟨mark, t, hm, rfl, run⟩
    rw [dropHexMark_of_hexMark hm run, digitsFrom_plain, digitsFrom_eq_some_iff]
    exact run

/-! ### Numerals -/

/-- A numeral without a sign begins with a digit. -/
theorem takeSign_of_hexMark {mark t : List Char} {ds : List Nat} (hm : HexMark mark)
    (run : DigitRun t ds) : takeSign (mark ++ t) = (false, mark ++ t) := by
  cases hm with
  | absent =>
    obtain ⟨c, t, d, rfl, digit⟩ := run.head
    exact takeSign_of_head (ne_mark_of_digit digit).2.2
  | mark zero _ | spaced zero _ => exact takeSign_of_head (ne_mark_of_digit (hexValue?_of_digit zero)).2.2

/-- **A text without blanks is read as a number exactly if it is a numeral of this number.** -/
theorem readHex?_eq_some_iff {s : List Char} (h : ∀ c ∈ s, separatesWords c = false) {n : Int} :
    readHex? s = some n ↔ HexNumeral s n := by
  have reads_iff : readHex? s = some n ↔ ∃ ds, (∃ mark t, HexMark mark ∧ (takeSign s).2 = mark ++ t ∧
      DigitRun t ds) ∧ signed (takeSign s).1 (numberOf 16 ds) = n := by
    simp only [readHex?, trim_of_unseparated h, Option.map_eq_some_iff, digitsFrom_dropHexMark_iff]
  rw [reads_iff]
  constructor
  · rintro ⟨ds, ⟨mark, t, hm, same, run⟩, rfl⟩
    unfold takeSign at same ⊢
    split at same
    · dsimp only at same ⊢
      rw [same]
      exact .negative hm run
    · dsimp only at same ⊢
      rw [same]
      exact .positive hm run
    · dsimp only at same ⊢
      rw [same]
      exact .unsigned hm run
  · intro numeral
    cases numeral with
    | unsigned hm run =>
      rw [takeSign_of_hexMark hm run]
      exact ⟨_, ⟨_, _, hm, rfl, run⟩, rfl⟩
    | positive hm run => exact ⟨_, ⟨_, _, hm, rfl, run⟩, rfl⟩
    | negative hm run => exact ⟨_, ⟨_, _, hm, rfl, run⟩, rfl⟩

end PortMap
