import Mathlib.Data.List.DropRight
import Mathlib.Data.List.Infix
import PortMap.Proofs.Numeral.DecimalText
import PortMap.Settings.Reading

/-!
# Two ways of reading a numeral

A number in a text is read twice. The environment types the text by the readers of plain numerals (`readInt?`,
`readFloat?`); what they refuse stays text, and the readers of the settings (`readRealNumeral?`,
`readWholeNumeral`) then try their own rules on it. This module compares the two.

## The argument

A real numeral consists of a few characters (`mem_realChars_of_readReal?`), none of which the plain form of a
numeral changes, so a text without underscores is read by both readers alike. A whole numeral is what is left
of a text without the zeros in front and a fraction of zeros behind (`bareWhole?_eq`). With its sign in front
of everything the whole text is a real numeral; but a minus sign that zeros stand before is no sign to any
other reader.

## What is proved

* `readFloat?_of_readRealNumeral?` — without underscores, a real numeral of the settings is one of the
  environment.
* `exists_readFloat?_or` — without underscores, **a whole numeral of the settings is a real numeral of the
  environment, unless a minus sign follows a zero**; in that case the number is at most zero.
-/

namespace PortMap

open Text

/-! ### Characters -/

/-- A character is in one of the two cases of its small form. -/
theorem eq_or_eq_toUpper {c l : Char} (h : c.toLower = l) : c = l ∨ c = l.toUpper := by
  by_cases upper : 65 ≤ c.toNat ∧ c.toNat ≤ 90
  · have back : ∀ n < 91, 65 ≤ n → (Char.ofNat n).toLower.toUpper = Char.ofNat n := by decide
    have same := back c.toNat (by omega) upper.1
    rw [Char.ofNat_toNat, h] at same
    exact .inr same.symm
  · left
    have kept : c.toLower = c := dif_neg upper
    exact kept ▸ h

/-- The characters of real numerals. -/
def realChars : List Char := "0123456789.+-infatyeINFATYE".toList

/-- No character of a real numeral is a blank or an underscore, or has another plain form. -/
theorem realChars_plain : ∀ c ∈ realChars, isBlank c = false ∧ c ≠ '_' ∧
    ((digitValue? c).map Nat.digitChar).getD c = c :=
  List.all_iff_forall_prop.mp (by decide)

theorem mem_realChars_of_isPlainDigit {c : Char} (h : isPlainDigit c = true) : c ∈ realChars :=
  forall_digitChar (P := (· ∈ realChars)) (by decide) h

/-- The words of real numerals are written in these characters, in any case. -/
theorem mem_realChars_of_word {word s : List Char} (h : s.map Char.toLower = word)
    (letters : (word.all fun l => l ∈ realChars ∧ l.toUpper ∈ realChars) = true) : ∀ c ∈ s, c ∈ realChars := by
  intro c hc
  obtain ⟨small, large⟩ := List.all_iff_forall_prop.mp letters c.toLower (h ▸ List.mem_map_of_mem hc)
  rcases eq_or_eq_toUpper (c := c) rfl with same | same
  · exact same ▸ small
  · exact same ▸ large

/-- A property of signs and of what follows them holds of all. -/
theorem forall_mem_of_takeSign {P : Char → Prop} (signs : P '-' ∧ P '+') {s : List Char}
    (h : ∀ c ∈ (takeSign s).2, P c) : ∀ c ∈ s, P c := by
  unfold takeSign at h
  split at h
  · exact List.forall_mem_cons.mpr ⟨signs.1, h⟩
  · exact List.forall_mem_cons.mpr ⟨signs.2, h⟩
  · exact h

theorem mem_realChars_of_readExponent? {s : List Char} {e : Int} (h : readExponent? s = some e) :
    ∀ c ∈ s, c ∈ realChars := by
  cases s with
  | nil => nofun
  | cons mark rest =>
    rw [readExponent?] at h
    split at h
    · rename_i isMark
      refine List.forall_mem_cons.mpr ⟨?_, forall_mem_of_takeSign (by decide) fun c hc => ?_⟩
      · rcases isMark with rfl | rfl <;> decide
      · dsimp only at h
        split at h
        · cases h
        · rename_i digits
          rw [Bool.or_eq_true, not_or, Bool.not_eq_true', Bool.not_eq_false, List.all_eq_true] at digits
          exact mem_realChars_of_isPlainDigit (digits.2 c hc)
    · cases h

theorem mem_realChars_of_readDecimal? {s : List Char} {d : Decimal} (h : readDecimal? s = some d) :
    ∀ c ∈ s, c ∈ realChars := by
  have digits (t : List Char) : ∀ c ∈ t.takeWhile isPlainDigit, c ∈ realChars := fun c hc =>
    mem_realChars_of_isPlainDigit (List.mem_takeWhile_imp hc)
  have exponent {t : List Char} {k n : Nat} {empty : Bool}
      (h : (if empty then none else (readExponent? t).map fun e => Decimal.mk n (e - k)) = some d) :
      ∀ c ∈ t, c ∈ realChars := by
    split at h
    · cases h
    · obtain ⟨e, reads, -⟩ := Option.map_eq_some_iff.mp h
      exact mem_realChars_of_readExponent? reads
  rw [← List.takeWhile_append_dropWhile (p := isPlainDigit) (l := s)]
  refine List.forall_mem_append.mpr ⟨digits s, ?_⟩
  unfold readDecimal? at h
  dsimp only at h
  split at h
  · rename_i more rest
    rw [rest]
    refine List.forall_mem_cons.mpr ⟨by decide, ?_⟩
    rw [← List.takeWhile_append_dropWhile (p := isPlainDigit) (l := more)]
    exact List.forall_mem_append.mpr ⟨digits more, exponent h⟩
  · exact exponent h

/-- **A real numeral consists of its few characters.** -/
theorem mem_realChars_of_readReal? {s : List Char} {x : Binary64} (h : readReal? s = some x) :
    ∀ c ∈ s, c ∈ realChars := by
  refine forall_mem_of_takeSign (by decide) ?_
  unfold readReal? at h
  dsimp only at h
  split at h
  · rename_i word
    rcases word with word | word
    · exact mem_realChars_of_word word (by decide)
    · exact mem_realChars_of_word word (by decide)
  · split at h
    · rename_i word
      exact mem_realChars_of_word word (by decide)
    · obtain ⟨d, reads, -⟩ := Option.map_eq_some_iff.mp h
      exact mem_realChars_of_readDecimal? reads

/-- What is a real numeral without its blanks is one to the environment. -/
theorem readFloat?_of_readReal? {s : List Char} {x : Binary64} (h : readReal? (trim s) = some x) :
    readFloat? s = some x := by
  rw [readFloat?, plainForm_of_plain fun c hc => (realChars_plain c (mem_realChars_of_readReal? h c hc)).2]
  exact h

namespace Settings

/-! ### Real numerals -/

theorem dropUnderscores?_eq {s t : List Char} (noMark : '_' ∉ s) (h : dropUnderscores? s = some t) : t = s := by
  unfold dropUnderscores? at h
  split at h
  · cases h
  · split at h
    · cases h
    · rw [← Option.some.inj h, List.filter_eq_self]
      intro c hc
      rw [bne_iff_ne]
      rintro rfl
      exact noMark hc

/-- A text without blanks at its ends is trimmed. -/
theorem trim_of_not_blank {s : List Char} (h : ∀ c ∈ s, isBlank c = false) : trim s = s := by
  have untouched {t : List Char} (h : ∀ c ∈ t, isBlank c = false) : t.dropWhile isBlank = t :=
    List.dropWhile_eq_self_iff.mpr fun pos blank =>
      Bool.false_ne_true ((h _ (List.getElem_mem pos)).symm.trans blank)
  rw [trim, untouched h, untouched fun c hc => h c (List.mem_reverse.mp hc), List.reverse_reverse]

/-- **Without underscores, a real numeral of the settings is one of the environment.** -/
theorem readFloat?_of_readRealNumeral? {s : List Char} {x : Binary64} (noMark : '_' ∉ s)
    (h : readRealNumeral? s = some x) : readFloat? s = some x := by
  unfold readRealNumeral? at h
  split at h
  · rename_i y reads
    exact Option.some.inj h ▸ readFloat?_of_readReal? reads
  · obtain ⟨t, drops, reads⟩ := Option.bind_eq_some_iff.mp h
    rw [dropUnderscores?_eq noMark drops] at reads
    refine readFloat?_of_readReal? ?_
    rwa [trim_of_not_blank fun c hc => (realChars_plain c (mem_realChars_of_readReal? reads c hc)).1]

/-! ### Whole numerals -/

theorem trim_within (s : List Char) : trim s <:+: s :=
  (List.rdropWhile_prefix isBlank (s.dropWhile isBlank)).isInfix.trans (List.dropWhile_suffix isBlank).isInfix

theorem dropPlus_cases (s : List Char) :
    dropPlus s = s ∨ s = '+' :: dropPlus s ∧ (dropPlus s).head? ≠ some '-' := by
  unfold dropPlus
  split
  · exact .inl rfl
  · rename_i rest other
    refine .inr ⟨rfl, fun minus => ?_⟩
    obtain ⟨t, rfl⟩ := List.head?_eq_some_iff.mp minus
    exact other t rfl
  · exact .inl rfl

/-- What is left of a text without the zeros in front of it. -/
theorem afterZeros?_eq {s t : List Char} (noMark : '_' ∉ s) (h : afterZeros? '0' s = some t) :
    ∃ k, '0' :: s = Binary64.zeros k ++ t := by
  induction s with
  | nil =>
    rw [afterZeros?] at h
    exact ⟨0, (Option.some.inj h)⟩
  | cons c s ih =>
    rw [List.mem_cons, not_or] at noMark
    rw [afterZeros?] at h
    split at h
    · rename_i passed
      obtain rfl : c = '0' := passed.resolve_right (Ne.symm noMark.1)
      obtain ⟨k, same⟩ := ih noMark.2 h
      exact ⟨k + 1, congrArg ('0' :: ·) same⟩
    · split at h
      · exact ⟨1, congrArg ('0' :: ·) (Option.some.inj h)⟩
      · split at h
        · exact ⟨0, Option.some.inj h⟩
        · cases h

theorem dropZeros?_eq {s t : List Char} (noMark : '_' ∉ s) (h : dropZeros? s = some t) :
    ∃ k, s = Binary64.zeros k ++ t := by
  cases s with
  | nil => cases h
  | cons c s =>
    rw [List.mem_cons, not_or] at noMark
    rw [dropZeros?] at h
    split at h
    · rename_i zero
      subst zero
      exact afterZeros?_eq noMark.2 h
    · split at h
      · exact ⟨0, Option.some.inj h⟩
      · cases h

/-- A fraction of zeros, or nothing. -/
def IsZeroFraction (s : List Char) : Prop := s = [] ∨ ∃ k, s = '.' :: Binary64.zeros k

theorem dropZeroFraction_eq (s : List Char) : ∃ t, s = dropZeroFraction s ++ t ∧ IsZeroFraction t := by
  have zeros : s.reverse.takeWhile (· == '0') = Binary64.zeros (s.reverse.takeWhile (· == '0')).length :=
    List.eq_replicate_iff.mpr ⟨rfl, fun c hc => by simpa using List.mem_takeWhile_imp hc⟩
  have parts : s.reverse = Binary64.zeros (s.reverse.takeWhile (· == '0')).length
      ++ s.reverse.drop (s.reverse.takeWhile (· == '0')).length := by
    have whole := List.prefix_append_drop (List.takeWhile_prefix (l := s.reverse) (· == '0'))
    rwa [zeros, Binary64.zeros, List.length_replicate] at whole
  unfold dropZeroFraction
  generalize (s.reverse.takeWhile (· == '0')).length = k at parts ⊢
  dsimp only
  split
  · rename_i rest point
    split
    · exact ⟨[], (List.append_nil s).symm, .inl rfl⟩
    · refine ⟨'.' :: Binary64.zeros k, ?_, .inr ⟨k, rfl⟩⟩
      rw [point] at parts
      rw [← List.reverse_reverse s, parts]
      simp [Binary64.zeros]
  · exact ⟨[], (List.append_nil s).symm, .inl rfl⟩

/-- **The bare form of a whole numeral** stands between zeros and a fraction of zeros. -/
theorem bareWhole?_eq {s bare : List Char} (noMark : '_' ∉ s) (h : bareWhole? s = some bare) :
    ∃ k t, dropPlus (trim s) = Binary64.zeros k ++ bare ++ t ∧ IsZeroFraction t := by
  obtain ⟨r, zeros, marks⟩ := Option.bind_eq_some_iff.mp h
  have noMark' : '_' ∉ dropPlus (trim s) := fun mark => by
    refine noMark ((trim_within s).subset ?_)
    rcases dropPlus_cases (trim s) with same | ⟨plus, -⟩
    · exact same ▸ mark
    · exact plus ▸ List.mem_cons_of_mem _ mark
  obtain ⟨k, front⟩ := dropZeros?_eq noMark' zeros
  obtain ⟨t, back, fraction⟩ := dropZeroFraction_eq r
  have inside : '_' ∉ dropZeroFraction r := fun mark => by
    refine noMark' ?_
    rw [front, back]
    exact List.mem_append_right _ (List.mem_append_left _ mark)
  rw [← dropUnderscores?_eq inside marks] at back
  exact ⟨k, t, by rw [front, List.append_assoc, ← back], fraction⟩

/-- Digits before a fraction of zeros are a numeral. -/
theorem exists_readDecimal? {ds t : List Char} (some_ : ds ≠ []) (digits : ∀ c ∈ ds, isPlainDigit c = true)
    (fraction : IsZeroFraction t) : ∃ d, readDecimal? (ds ++ t) = some d := by
  rcases fraction with rfl | ⟨k, rfl⟩
  · obtain ⟨whole, rest⟩ := span_digits digits (t := []) nofun
    rw [List.append_nil] at whole rest
    exact ⟨_, by simp [readDecimal?, whole, rest, some_, readExponent?]; rfl⟩
  · refine ⟨_, (IsNumeral.pointed some_ fun c hc => ?_).read⟩
    rcases List.mem_append.mp hc with hc | hc
    · exact digits c hc
    · exact isPlainDigit_of_mem_zeros hc

theorem exists_readReal? {s ds t : List Char} {negative : Bool} (sign : takeSign s = (negative, ds ++ t))
    (some_ : ds ≠ []) (digits : ∀ c ∈ ds, isPlainDigit c = true) (fraction : IsZeroFraction t) :
    ∃ x, readReal? s = some x := by
  obtain ⟨d, reads⟩ := exists_readDecimal? some_ digits fraction
  obtain ⟨c, r, rfl⟩ := List.exists_cons_of_ne_nil some_
  have numeral := Binary64.readReal?_of_digit sign (digits c List.mem_cons_self)
  exact ⟨_, numeral.trans (congrArg _ reads)⟩

/-- A whole numeral has digits in its bare form, behind a minus sign if the number is negative. -/
theorem exists_bareWhole?_eq {s : List Char} {n : Int} (h : readWholeNumeral s = .ok n) :
    ∃ negative ds, bareWhole? s = some ((if negative then ['-'] else []) ++ ds) ∧ ds ≠ [] ∧
      (∀ c ∈ ds, isPlainDigit c = true) ∧ ds.length ≤ maxNumeralLength ∧
      n = signed negative (plainNumber ds) := by
  have digits {ds : List Char} (numeral : isWholeNumeral ds = true) :
      ds ≠ [] ∧ ∀ c ∈ ds, isPlainDigit c = true := by
    simp only [isWholeNumeral, Bool.and_eq_true, Bool.not_eq_true', List.isEmpty_eq_false_iff,
      List.all_eq_true] at numeral
    exact numeral.1
  unfold readWholeNumeral at h
  split at h
  · cases h
  · rename_i bare isBare
    split at h
    · cases h
    · rename_i short
      rw [not_lt] at short
      split at h
      · split at h
        · rename_i ds numeral
          exact ⟨true, ds, isBare, (digits numeral).1, (digits numeral).2,
            (Nat.le_succ _).trans short, (Except.ok.inj h).symm⟩
        · cases h
      · split at h
        · rename_i numeral
          exact ⟨false, bare, isBare, (digits numeral).1, (digits numeral).2, short, (Except.ok.inj h).symm⟩
        · cases h

/-- **A whole numeral without underscores is also a real numeral, unless a minus sign follows a zero.** In that
case the number is at most zero. -/
theorem exists_readFloat?_or {s : List Char} {n : Int} (noMark : '_' ∉ s) (h : readWholeNumeral s = .ok n) :
    (∃ x, readFloat? s = some x) ∨ ['0', '-'] <:+: s ∧ n ≤ 0 := by
  obtain ⟨negative, ds, isBare, some_, digits, -, rfl⟩ := exists_bareWhole?_eq h
  obtain ⟨k, t, parts, fraction⟩ := bareWhole?_eq noMark isBare
  have real (negative : Bool) {ds : List Char} (sign : takeSign (trim s) = (negative, ds ++ t))
      (some_ : ds ≠ []) (digits : ∀ c ∈ ds, isPlainDigit c = true) : ∃ x, readFloat? s = some x := by
    obtain ⟨x, reads⟩ := exists_readReal? sign some_ digits fraction
    exact ⟨x, readFloat?_of_readReal? reads⟩
  have inner : dropPlus (trim s) <:+: s := by
    refine List.IsInfix.trans ?_ (trim_within s)
    rcases dropPlus_cases (trim s) with same | ⟨plus, -⟩
    · rw [same]
    · exact ⟨['+'], [], by rw [List.append_nil]; exact plus.symm⟩
  cases negative with
  | true =>
    cases k with
    | zero =>
      -- the minus sign stands in front of all, so no plus sign was dropped
      rcases dropPlus_cases (trim s) with same | ⟨-, other⟩
      · exact .inl (real true (by rw [← same, parts]; rfl) some_ digits)
      · exact absurd (by rw [parts]; rfl) other
    | succ k =>
      refine .inr ⟨List.IsInfix.trans ⟨Binary64.zeros k, ds ++ t, ?_⟩ inner, by simp [signed]⟩
      rw [parts]
      simp [Binary64.zeros, List.replicate_succ']
  | false =>
    have numeral : ∀ c ∈ Binary64.zeros k ++ ds, isPlainDigit c = true := fun c hc =>
      (List.mem_append.mp hc).elim isPlainDigit_of_mem_zeros (digits c)
    have some' : Binary64.zeros k ++ ds ≠ [] := by simp [some_]
    have begins : takeSign (Binary64.zeros k ++ ds ++ t) = (false, Binary64.zeros k ++ ds ++ t) := by
      obtain ⟨c, r, front⟩ := List.exists_cons_of_ne_nil some'
      rw [front]
      exact takeSign_of_head (digit_plain (numeral c (front ▸ List.mem_cons_self))).2.2
    rw [if_neg Bool.false_ne_true, List.nil_append] at parts
    refine .inl (real false ?_ some' numeral)
    rcases dropPlus_cases (trim s) with same | ⟨plus, -⟩
    · rw [← same, parts, begins]
    · rw [plus, parts]
      rfl

end Settings

end PortMap
