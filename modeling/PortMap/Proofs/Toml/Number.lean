import PortMap.Proofs.Numeral.DecimalText
import PortMap.Toml.Entry
import PortMap.Toml.Writer

/-!
# Numbers written into documents

Whole numbers and finite real ones are read back from what a document shows of them.

## The argument

A number could be taken for a time of day, for a day, or for a numeral with its underscores or zeros in the
wrong places. It is no time for want of a colon (`clockNumbers?_eq_none`), and no day, as a dash in it comes
after a point or the letter of an exponent within the first four characters (`readDay?_eq_none`). That a real
number is written in this way, with its point among the first characters, without a zero too many and with a
digit at the end, is what `Tidy` says.

## What is proved

* `readValue_repr` — a whole number is read back.
* `readValue_renderChars` — **a finite real number is read back**, but for the sign of zero
  (`Binary64.unsignedZero`).
-/

namespace PortMap

open Text

namespace Binary64

/-! ### Signs -/

/-- The number, without a sign if it is zero. -/
def unsignedZero (x : Binary64) : Binary64 := if x.same (.zero false) then .zero false else x

theorem withSign_orInfinite (a b : Bool) (m : ℕ) (e : ℤ) :
    (orInfinite a m e).withSign b = orInfinite b m e := by
  unfold orInfinite
  split <;> rfl

theorem withSign_ofRatio (a b : Bool) (n d : ℕ) : (ofRatio a n d).withSign b = ofRatio b n d := by
  unfold ofRatio
  split
  · rfl
  · dsimp only
    split <;> split <;> exact withSign_orInfinite a b _ _

theorem withSign_toBinary64 (a b : Bool) (d : Decimal) : (d.toBinary64 a).withSign b = d.toBinary64 b := by
  unfold Decimal.toBinary64
  dsimp only
  repeat' split
  all_goals first | rfl | exact withSign_ofRatio a b _ _

theorem same_zero_iff {s : Bool} {m : ℕ} {e : ℤ} (h : Canonical m e) :
    (Binary64.finite s m e h).same (.zero false) = true ↔ m = 0 := by
  cases s <;> simp [same, isNaN, units, zero]

/-- A number without a minus sign is kept: the zero without one is the only such zero. -/
theorem unsignedZero_finite_false {m : ℕ} {e : ℤ} (h : Canonical m e) :
    (Binary64.finite false m e h).unsignedZero = .finite false m e h := by
  unfold unsignedZero
  split
  · rename_i zero
    obtain rfl := (same_zero_iff h).mp zero
    obtain rfl := h.2.2.2.resolve_left (by decide)
    rfl
  · rfl

theorem same_self {x : Binary64} (finite : x.isFinite = true) : x.same x = true := by
  cases x with
  | nan | infinite => cases finite
  | finite => simp [same, isNaN]

theorem same_unsignedZero {x : Binary64} (finite : x.isFinite = true) : x.same x.unsignedZero = true := by
  unfold unsignedZero
  split
  · assumption
  · exact same_self finite

end Binary64

namespace Toml

/-! ### No times -/

/-- A foreign character makes a text no whole number. -/
theorem readInt?_eq_none {s : List Char} {c : Char} (hc : c ∈ s) (solid : isBlank c = false)
    (foreign : digitValue? c = none) (noMark : c ≠ '_' ∧ c ≠ '-' ∧ c ≠ '+') : readInt? s = none := by
  have inside : c ∈ (takeSign (trim s)).2 := by
    have there := mem_trim hc solid
    unfold takeSign
    split
    · rename_i rest h
      rw [h] at there
      exact (List.mem_cons.mp there).resolve_left noMark.2.1
    · rename_i rest h
      rw [h] at there
      exact (List.mem_cons.mp there).resolve_left noMark.2.2
    · exact there
  simp only [readInt?, digitsFrom_eq_none inside foreign noMark.1]

/-- Without a colon there is no time of day. -/
theorem clockNumbers?_eq_none {s : List Char} (noColon : ':' ∉ s) : clockNumbers? s = none := by
  have rest {h : Nat} {t : List Char} (reads : twoDigits? s = some (h, t)) : afterColon? t = none := by
    unfold twoDigits? at reads
    split at reads
    · split at reads
      · cases reads
        unfold afterColon?
        split
        · exact absurd (by simp) noColon
        · rfl
      · cases reads
    · cases reads
  unfold clockNumbers?
  split
  · rfl
  · rename_i reads
    rw [rest reads]

/-- There is no day either, if a point or an exponent comes before every dash, and no point comes late. -/
theorem readDay?_eq_none {s : List Char} (noPoint : '.' ∉ s.drop 19)
    (early : '-' ∈ s.drop 1 → '.' ∈ s.take 4 ∨ 'e' ∈ s.take 4) : readDay? s = .ok none := by
  have tail : ∃ micro zone, readTail (s.drop 19) = .ok (micro, zone) := by
    unfold readTail
    split
    · exact ⟨_, _, rfl⟩
    · rename_i h
      exact absurd (h ▸ List.mem_cons_self) noPoint
    · exact ⟨_, _, rfl⟩
  obtain ⟨micro, zone, tail⟩ := tail
  unfold readDay?
  rw [tail]
  dsimp only
  split
  · rfl
  · rename_i dash
    rw [Bool.not_eq_true', Bool.not_eq_false, List.contains_iff_mem] at dash
    have noYear : numberAt? s 0 4 = none := by
      rcases early dash with point | exponent
      · exact readInt?_eq_none (c := '.') point rfl rfl (by decide)
      · exact readInt?_eq_none (c := 'e') exponent rfl rfl (by decide)
    rw [dayAt?, noYear]

/-- A text that begins like a number and is no time is read as a numeral. -/
theorem readValue_numeral {s : List Char} (head : ∃ c t, s = c :: t ∧ (isPlainDigit c = true ∨ c = '-'))
    (noColon : ':' ∉ s) (noPoint : '.' ∉ s.drop 19)
    (early : '-' ∈ s.drop 1 → '.' ∈ s.take 4 ∨ 'e' ∈ s.take 4) (fuel : Nat) (wellFormed : Bool) :
    readValue (fuel + 1) wellFormed s = readNumeral wellFormed s := by
  obtain ⟨c, t, rfl, begins⟩ := head
  have other : c ≠ 't' ∧ c ≠ 'f' ∧ c ≠ '"' ∧ c ≠ '\'' ∧ c ≠ '[' ∧ c ≠ '{' := by
    rcases begins with digit | rfl
    · exact forall_digitChar (P := fun c => c ≠ 't' ∧ c ≠ 'f' ∧ c ≠ '"' ∧ c ≠ '\'' ∧ c ≠ '[' ∧ c ≠ '{')
        (by decide) digit
    · decide
  have noFlag : c :: t ≠ "true".toList ∧ c :: t ≠ "false".toList :=
    ⟨fun h => other.1 (List.cons.inj h).1, fun h => other.2.1 (List.cons.inj h).1⟩
  obtain ⟨-, -, double, single, list, braces⟩ := other
  unfold readValue
  dsimp only
  rw [if_neg noFlag.1, if_neg noFlag.2, if_neg (not_or.mpr ⟨double, single⟩), if_neg list, if_neg braces,
    clockNumbers?_eq_none noColon, readDay?_eq_none noPoint early]

/-! ### Well-formed numerals -/

theorem neverMeet_of_notMem {a b : Char} {s : List Char} (h : a ∉ s ∨ b ∉ s) : neverMeet a b s = true := by
  induction s with
  | nil => rfl
  | cons x s ih =>
    have rest : a ∉ s ∨ b ∉ s :=
      h.imp (fun h' h'' => h' (List.mem_cons_of_mem x h'')) fun h' h'' => h' (List.mem_cons_of_mem x h'')
    cases s with
    | nil => rfl
    | cons y s =>
      have apart : (x == a && y == b) = false := by
        rw [Bool.and_eq_false_iff, beq_eq_false_iff_ne, beq_eq_false_iff_ne]
        rcases h with h | h
        · exact .inl fun same => h (same ▸ List.mem_cons_self)
        · exact .inr fun same => h (same ▸ List.mem_cons_of_mem x List.mem_cons_self)
      rw [neverMeet, apart, ih rest]
      rfl

/-- The digits of a number with its sign, as far as its form is looked at. -/
structure Signable (s : List Char) : Prop where
  /-- It begins with a digit. -/
  head : ∃ c t, s = c :: t ∧ isPlainDigit c = true
  /-- It has no blanks and no underscores. -/
  chars : ∀ c ∈ s, separatesWords c = false ∧ c ≠ '_'
  /-- A zero at its start is alone, or a point follows it. -/
  fits : ∀ c t, s = '0' :: c :: t → c = '.'

theorem Signable.zeroFits {s : List Char} (h : Signable s) {followers : List Char} (point : '.' ∈ followers) :
    zeroFits followers s = true := by
  unfold Toml.zeroFits
  split
  · rename_i c t
    rw [h.fits c t rfl, List.contains_iff_mem]
    exact point
  · rfl

theorem Signable.strip {s : List Char} (h : Signable s) (negative : Bool) :
    Text.strip ((if negative then ['-'] else []) ++ s) = (if negative then ['-'] else []) ++ s := by
  have solid : ∀ c ∈ (if negative then ['-'] else []) ++ s, separatesWords c = false := by
    exact List.forall_mem_append.mpr ⟨forall_mem_sign (P := (separatesWords · = false)) rfl negative, fun c hc => (h.chars c hc).1⟩
  exact Text.strip_eq_self (fun c hc => solid c (List.mem_of_head? hc)) fun c hc =>
    solid c (List.mem_of_getLast? hc)

/-- With a blank before it, and with its sign, it is well formed. -/
theorem Signable.isWellFormed {s : List Char} (h : Signable s) (negative : Bool) :
    isWellFormed (' ' :: ((if negative then ['-'] else []) ++ s)) = true := by
  obtain ⟨c, t, rfl, digit⟩ := h.head
  have noMark : '_' ∉ c :: t := fun mark => (h.chars _ mark).2 rfl
  have last (t' : List Char) : (t' ++ c :: t).getLast? ≠ some '_' := fun mark => by
    rw [List.getLast?_append_of_ne_nil _ (List.cons_ne_nil c t)] at mark
    exact noMark (List.mem_of_getLast? mark)
  have first : c ≠ '_' := (h.chars c List.mem_cons_self).2
  obtain ⟨noMinus, noPlus⟩ := (digit_plain digit).2.2
  unfold Toml.isWellFormed
  rw [strip_blank, h.strip]
  cases negative with
  | true =>
    have noMark' : '_' ∉ '-' :: c :: t := by simpa using noMark
    have ends : (('-' :: c :: t).getLast? != some '_') = true := bne_iff_ne.mpr (last ['-'])
    have leading : Toml.zeroFits ['.', 'o', 'b', 'x'] ('-' :: c :: t) = true := rfl
    simp only [if_true, List.singleton_append, ends, neverMeet_of_notMem (.inl noMark'),
      neverMeet_of_notMem (.inr noMark'), neverMeet_of_notMem (.inl noMark), leading,
      h.zeroFits (by decide : '.' ∈ ['.'])]
    rfl
  | false =>
    cases t with
    | nil => simpa using first
    | cons d t =>
      have ends : ((c :: d :: t).getLast? != some '_') = true := bne_iff_ne.mpr (last [])
      simp only [Bool.false_eq_true, if_false, List.nil_append, ends, neverMeet_of_notMem (.inl noMark),
        neverMeet_of_notMem (.inr noMark), h.zeroFits (by decide : '.' ∈ ['.', 'o', 'b', 'x']), noMinus, noPlus,
        or_self, bne_iff_ne.mpr first, Bool.and_self]

/-! ### Whole numbers -/

/-- The digits of a whole number may have a sign. -/
theorem signable_digitChars (n : ℕ) : Signable (Decimal.digitChars n) := by
  have digits : ∀ c ∈ Decimal.digitChars n, isPlainDigit c = true := fun c => isPlainDigit_of_mem_digitChars
  refine ⟨?_, fun c hc => ?_, fun c t leading => ?_⟩
  · obtain ⟨c, t, begins⟩ := List.exists_cons_of_ne_nil (Decimal.digitChars_ne_nil n)
    exact ⟨c, t, begins, digits c (begins ▸ List.mem_cons_self)⟩
  · exact forall_digitChar (P := fun c => separatesWords c = false ∧ c ≠ '_') (by decide) (digits c hc)
  · -- only zero begins with a zero, and it has one digit
    by_cases zero : n = 0
    · subst zero
      cases leading
    · refine absurd ?_ (head?_digitChars zero)
      rw [leading]
      rfl

/-- The digits of a number are read as it in base 10. -/
theorem readDigits?_digitChars {n : ℕ} (short : (Decimal.digitChars n).length ≤ maxDigits) :
    readDigits? 10 (Decimal.digitChars n) = some n := by
  obtain ⟨ds, notEmpty, small, text, number⟩ := exists_toDigits_eq (by decide : 1 < 10) n
  have reads : ∀ d < 10, digitBelow? 10 (Nat.digitChar d) = some d ∧ Nat.digitChar d ≠ '_' := by decide
  have read : digitsFrom (digitBelow? 10) false (Decimal.digitChars n) = some ds := by
    rw [Decimal.digitChars, text]
    exact digitsFrom_map (fun d hd => reads d (small d hd)) (.inr notEmpty)
  have length : ds.length = (Decimal.digitChars n).length := by
    rw [Decimal.digitChars, text, List.length_map]
  have noLeading : ¬ (ds.head? = some 0 ∧ (ds.any (· != 0)) = true) := by
    rintro ⟨zero, other⟩
    have front : (Decimal.digitChars n).head? = some '0' := by
      rw [Decimal.digitChars, text, List.head?_map, zero]
      rfl
    have none_ : n = 0 := by_contra fun pos => head?_digitChars pos front
    subst none_
    have single : ds.length = 1 := length
    obtain ⟨d, rfl⟩ := List.length_eq_one_iff.mp single
    cases zero
    cases other
  rw [readDigits?, read]
  dsimp only
  rw [if_neg, number]
  rintro ⟨-, long | leading⟩
  · exact not_lt.mpr short (length ▸ long)
  · exact noLeading leading

/-- The sign is taken off, nothing is left out, and the rest is no word. -/
theorem Signable.unsigned {s : List Char} (h : Signable s) (negative : Bool) :
    takeSign ((if negative then ['-'] else []) ++ s) = (negative, s) ∧ s.filter (· != '_') = s ∧
      ¬ (s.map Char.toLower = "inf".toList ∨ s.map Char.toLower = "nan".toList) := by
  obtain ⟨c, t, rfl, digit⟩ := h.head
  obtain ⟨lower, ⟨noI, noN⟩, noSign⟩ := digit_plain digit
  refine ⟨?_, List.filter_eq_self.mpr fun x hx => bne_iff_ne.mpr (h.chars x hx).2, ?_⟩
  · cases negative with
    | true => rfl
    | false => exact takeSign_of_head noSign
  · rintro (word | word)
    · exact noI (lower ▸ (List.cons.inj word).1)
    · exact noN (lower ▸ (List.cons.inj word).1)

theorem readNumeral_whole {s : List Char} {n : ℤ} (h : Signable s) (negative : Bool)
    (notReal : isRealNumeral s = false) (reads : readWhole? s = some n) :
    readNumeral true ((if negative then ['-'] else []) ++ s) = .ok (.whole (if negative then -n else n)) := by
  obtain ⟨sign, kept, noWord⟩ := h.unsigned negative
  rw [readNumeral]
  simp only [Bool.not_true, Bool.false_eq_true, if_false, sign, kept, notReal, if_neg noWord, reads]

theorem readNumeral_real {s : List Char} {x : Binary64} (h : Signable s) (negative : Bool)
    (real : isRealNumeral s = true) (reads : readUnsignedReal? s = some x) :
    readNumeral true ((if negative then ['-'] else []) ++ s) =
      .ok (.real (if negative then fromZero x else x)) := by
  obtain ⟨sign, kept, -⟩ := h.unsigned negative
  rw [readNumeral]
  simp only [Bool.not_true, Bool.false_eq_true, if_false, sign, kept, real, if_true, reads]

/-- The digits of a number are read as a whole numeral in base 10. -/
theorem readWhole?_digitChars {n : ℕ} (short : (Decimal.digitChars n).length ≤ maxDigits) :
    readWhole? (Decimal.digitChars n) = some (n : ℤ) := by
  have known {P : Char → Prop} (h : ∀ n < 10, P (Nat.digitChar n)) : ∀ c ∈ Decimal.digitChars n, P c :=
    fun c hc => forall_digitChar h (isPlainDigit_of_mem_digitChars hc)
  have trimmed : trim (Decimal.digitChars n) = Decimal.digitChars n :=
    trim_of_unseparated (known (by decide))
  have unsigned : takeSign (Decimal.digitChars n) = (false, Decimal.digitChars n) :=
    takeSign_of_unsigned (known (by decide))
  have plain : withPlainDigits (Decimal.digitChars n) = Decimal.digitChars n := by
    rw [withPlainDigits]
    refine (List.map_congr_left ?_).trans (List.map_id _)
    exact known (P := fun c => ((digitValue? c).map Nat.digitChar).getD c = c) (by decide)
  have base : splitBase (Decimal.digitChars n) = (10, Decimal.digitChars n) := by
    unfold splitBase
    split
    · rename_i c t front
      have point := (signable_digitChars n).fits c t front
      have digit : isPlainDigit c = true :=
        isPlainDigit_of_mem_digitChars (front ▸ List.mem_cons_of_mem _ List.mem_cons_self)
      rw [point] at digit
      cases digit
    · rfl
  simp only [readWhole?, trimmed, unsigned, plain, base, readDigits?_digitChars short, Option.map_some]
  rfl

/-- What begins with a digit begins with a digit or a sign if it has a sign. -/
theorem Signable.begins {s : List Char} (h : Signable s) (negative : Bool) :
    ∃ c t, (if negative then ['-'] else []) ++ s = c :: t ∧ (isPlainDigit c = true ∨ c = '-') := by
  obtain ⟨c, t, rfl, digit⟩ := h.head
  cases negative with
  | true => exact ⟨'-', c :: t, rfl, .inr rfl⟩
  | false => exact ⟨c, t, rfl, .inl digit⟩

/-- **A whole number is read back.** -/
theorem readValue_repr {n : ℤ} (short : (Decimal.digitChars n.natAbs).length ≤ maxDigits) (fuel : ℕ) :
    readValue (fuel + 1) (isWellFormed (' ' :: n.repr.toList)) n.repr.toList = .ok (.whole n) := by
  have form := signable_digitChars n.natAbs
  have foreign (c : Char) (h : isPlainDigit c = false) : c ∉ Decimal.digitChars n.natAbs := fun hc =>
    Bool.false_ne_true (h.symm.trans (isPlainDigit_of_mem_digitChars hc))
  have notReal : isRealNumeral (Decimal.digitChars n.natAbs) = false := by
    simp [isRealNumeral, foreign '.' rfl, foreign 'e' rfl, foreign 'E' rfl]
  have absent (c : Char) (h : '-' ≠ c) (h' : isPlainDigit c = false) :
      c ∉ (if decide (n < 0) then ['-'] else []) ++ Decimal.digitChars n.natAbs := fun hc =>
    (List.mem_append.mp hc).elim (fun sign => forall_mem_sign (P := (· ≠ c)) h _ c sign rfl) (foreign c h')
  have noDash : '-' ∉ ((if decide (n < 0) then ['-'] else []) ++ Decimal.digitChars n.natAbs).drop 1 := by
    intro dash
    refine foreign '-' rfl ?_
    cases h : decide (n < 0) with
    | true => simpa [h] using dash
    | false =>
      rw [h] at dash
      exact List.mem_of_mem_drop dash
  rw [toList_repr, form.isWellFormed, readValue_numeral (form.begins _) (absent ':' (by decide) rfl)
    (fun point => absent '.' (by decide) rfl (List.mem_of_mem_drop point)) (fun dash => absurd dash noDash),
    readNumeral_whole form _ notReal (readWhole?_digitChars short)]
  congr 2
  split
  · rename_i negative
    have := of_decide_eq_true negative
    omega
  · rename_i nonneg
    rw [decide_eq_true_eq] at nonneg
    omega

/-! ### Real numbers -/

/-- A real number as it is written: with its point or its exponent among the first characters, a zero at the
start only before a point, and a digit at the end. -/
inductive Tidy : List Char → Prop
  /-- Below one: a zero and digits behind a point. -/
  | fraction {b : List Char} : b ≠ [] → (∀ c ∈ b, isPlainDigit c = true) → Tidy ('0' :: '.' :: b)
  /-- Digits on both sides of a point, not too many before it. -/
  | pointed {a b : List Char} : a ≠ [] → a.head? ≠ some '0' → a.length ≤ 16 → b ≠ [] →
      (∀ c ∈ a ++ b, isPlainDigit c = true) → Tidy (a ++ '.' :: b)
  /-- One digit and an exponent. -/
  | raised {c : Char} (e : ℤ) (k : ℕ) : isPlainDigit c = true → c ≠ '0' → Tidy (c :: powerChars e k)
  /-- One digit, digits behind a point, and an exponent. -/
  | pointedRaised {c : Char} {b : List Char} (e : ℤ) (k : ℕ) : isPlainDigit c = true → c ≠ '0' → b ≠ [] →
      (∀ c ∈ b, isPlainDigit c = true) → Tidy (c :: '.' :: (b ++ powerChars e k))

/-- The first digit that is significant is no zero. -/
theorem head?_significantChars {d : Decimal} (pos : d.digits ≠ 0) :
    (Binary64.significantChars d).head? ≠ some '0' := by
  obtain ⟨k, parts, some_⟩ := Binary64.exists_significantChars pos
  have front := head?_digitChars pos
  rwa [parts, List.head?_append_of_ne_nil _ some_] at front

theorem tidy_positional {ds : List Char} {point : ℤ} (some_ : ds ≠ []) (first : ds.head? ≠ some '0')
    (digits : ∀ c ∈ ds, isPlainDigit c = true) (few : point ≤ 16) : Tidy (Binary64.positional ds point) := by
  unfold Binary64.positional
  split
  · refine .fraction (b := Binary64.zeros (-point).toNat ++ ds) (by simp [some_]) fun c hc => ?_
    exact (List.mem_append.mp hc).elim isPlainDigit_of_mem_zeros (digits c)
  · rename_i above
    split
    · rename_i behind
      refine .pointed (a := ds ++ Binary64.zeros (point.toNat - ds.length)) (b := ['0']) (by simp [some_]) ?_ ?_
        (by decide) fun c hc => ?_
      · rwa [List.head?_append_of_ne_nil _ some_]
      · rw [List.length_append, Binary64.zeros, List.length_replicate]
        omega
      · simp only [List.mem_append] at hc
        rcases hc with (hc | hc) | hc
        · exact digits c hc
        · exact isPlainDigit_of_mem_zeros hc
        · exact isPlainDigit_of_mem_zeros (k := 1) hc
    · rename_i within
      rw [List.append_assoc, List.singleton_append]
      have whole := List.take_append_drop point.toNat ds
      have taken : ds.take point.toNat ≠ [] := by
        rw [ne_eq, List.take_eq_nil_iff, not_or]
        exact ⟨by omega, some_⟩
      refine .pointed taken ?_ ?_ ?_ (whole.symm ▸ digits)
      · rw [← whole, List.head?_append_of_ne_nil _ taken] at first
        exact first
      · rw [List.length_take]
        omega
      · rw [ne_eq, List.drop_eq_nil_iff]
        omega

theorem tidy_scientific (style : Binary64.RealStyle) {ds : List Char} {point : ℤ} (some_ : ds ≠ [])
    (first : ds.head? ≠ some '0') (digits : ∀ c ∈ ds, isPlainDigit c = true) :
    Tidy (Binary64.scientific style ds point) := by
  obtain ⟨c, b, rfl⟩ := List.exists_cons_of_ne_nil some_
  have digit := digits c List.mem_cons_self
  have notZero : c ≠ '0' := by simpa using first
  obtain ⟨k, power⟩ : ∃ k, Binary64.scientific style (c :: b) point =
      c :: ((if 1 < (c :: b).length then '.' :: b else []) ++ powerChars (point - 1) k) :=
    ⟨_, by simp only [Binary64.scientific, powerChars, List.append_assoc, List.cons_append, List.nil_append]; rfl⟩
  rw [power]
  split
  · rename_i several
    refine .pointedRaised _ k digit notZero ?_ fun x hx => digits x (List.mem_cons_of_mem c hx)
    rintro rfl
    exact absurd several (by simp)
  · exact .raised _ k digit notZero

/-- **What is written of a decimal is tidy.** -/
theorem tidy_renderDecimal (style : Binary64.RealStyle) (d : Decimal) : Tidy (Binary64.renderDecimal style d) := by
  unfold Binary64.renderDecimal
  dsimp only
  split
  · exact .fraction (b := ['0']) (by decide) fun c => isPlainDigit_of_mem_zeros (k := 1)
  · rename_i pos
    obtain ⟨k, parts, some_⟩ := Binary64.exists_significantChars pos
    have digits : ∀ c ∈ Binary64.significantChars d, isPlainDigit c = true := fun c hc =>
      isPlainDigit_of_mem_digitChars (parts ▸ List.mem_append_left _ hc)
    split
    · rename_i range
      exact tidy_positional some_ (head?_significantChars pos) digits range.2
    · exact tidy_scientific style some_ (head?_significantChars pos) digits

namespace Tidy

variable {s : List Char}

/-- There is no point in an exponent. -/
theorem noPoint_powerChars (e : ℤ) (k : ℕ) : '.' ∉ powerChars e k := by
  simp only [powerChars, List.mem_cons, List.mem_append]
  rintro (h | h | h | h)
  · cases h
  · split at h <;> cases h
  · cases isPlainDigit_of_mem_zeros h
  · cases isPlainDigit_of_mem_digitChars h

/-- No point comes late. -/
theorem point (h : Tidy s) : '.' ∉ s.drop 18 := by
  have foreign {b : List Char} (digits : ∀ c ∈ b, isPlainDigit c = true) : '.' ∉ b := fun hc => by
    cases digits '.' hc
  cases h with
  | fraction some_ digits => exact fun hc => foreign digits (List.mem_of_mem_drop hc)
  | @pointed a b some_ first few some' digits =>
    obtain ⟨k, rest⟩ : ∃ k, 18 - a.length = k + 1 := ⟨17 - a.length, by omega⟩
    rw [List.drop_append, List.drop_eq_nil_of_le (by omega), rest]
    exact fun hc => foreign (List.forall_mem_append.mp digits).2 (List.mem_of_mem_drop hc)
  | raised e k digit notZero => exact fun hc => noPoint_powerChars e k (List.mem_of_mem_drop hc)
  | pointedRaised e k digit notZero some_ digits =>
    intro hc
    rcases List.mem_append.mp (List.mem_of_mem_drop hc) with hc | hc
    · exact foreign digits hc
    · exact noPoint_powerChars e k hc

/-- A dash comes after a point or the letter of an exponent. -/
theorem early (h : Tidy s) (dash : '-' ∈ s) : '.' ∈ s.take 2 ∨ 'e' ∈ s.take 2 := by
  cases h with
  | fraction | pointedRaised => exact .inl (by simp)
  | raised => exact .inr (by simp [powerChars])
  | @pointed a b _ _ _ _ digits =>
    have inside : '-' ∈ a ++ b := by simpa using dash
    cases digits '-' inside

/-- The last character is a digit. -/
theorem last (h : Tidy s) : ∃ c, s.getLast? = some c ∧ isPlainDigit c = true := by
  have ends {t b : List Char} (some_ : b ≠ []) (digits : ∀ c ∈ b, isPlainDigit c = true) :
      ∃ c, (t ++ b).getLast? = some c ∧ isPlainDigit c = true := by
    refine ⟨b.getLast some_, ?_, digits _ (List.getLast_mem some_)⟩
    rw [List.getLast?_append_of_ne_nil _ some_, List.getLast?_eq_some_getLast some_]
  have power {t : List Char} (e : ℤ) (k : ℕ) :
      ∃ c, (t ++ powerChars e k).getLast? = some c ∧ isPlainDigit c = true := by
    obtain ⟨u, form⟩ : ∃ u, powerChars e k = u ++ Decimal.digitChars e.natAbs :=
      ⟨'e' :: (if e < 0 then '-' else '+') :: Binary64.zeros k, rfl⟩
    rw [form, ← List.append_assoc]
    exact ends (Decimal.digitChars_ne_nil _) fun c => isPlainDigit_of_mem_digitChars
  cases h with
  | fraction some_ digits => exact ends (t := ['0', '.']) some_ digits
  | @pointed a b _ _ _ some_ digits =>
    have apart : a ++ '.' :: b = (a ++ ['.']) ++ b := by simp
    rw [apart]
    exact ends some_ (List.forall_mem_append.mp digits).2
  | @raised c e k => exact power (t := [c]) e k
  | @pointedRaised c b e k => exact power (t := c :: '.' :: b) e k

/-- A zero stands only before a point. -/
theorem fits (h : Tidy s) {c : Char} {t : List Char} (leading : s = '0' :: c :: t) : c = '.' := by
  cases h with
  | fraction => exact (List.cons.inj (List.cons.inj leading).2).1.symm
  | @pointed a b some_ first =>
    obtain ⟨x, a, rfl⟩ := List.exists_cons_of_ne_nil some_
    exact absurd (congrArg some (List.cons.inj leading).1) first
  | raised _ _ _ notZero => exact absurd (List.cons.inj leading).1 notZero
  | pointedRaised _ _ _ notZero => exact absurd (List.cons.inj leading).1 notZero

end Tidy

/-- What is written of a finite number is tidy, behind its sign. -/
theorem exists_tidy (style : Binary64.RealStyle) {x : Binary64} (finite : x.isFinite = true) :
    ∃ s d, x.renderChars style = (if x.isNegative then ['-'] else []) ++ s ∧ Tidy s ∧ IsNumeral s d ∧
      d.toBinary64 x.isNegative = x := by
  obtain ⟨s, d, form, numeral, rounds⟩ := Binary64.renderChars_form style finite
  have same : s = Binary64.renderDecimal style (Binary64.shortest x) := by
    cases x with
    | nan | infinite => cases finite
    | finite negative m e canonical => exact (List.append_cancel_left form).symm
  exact ⟨s, d, form, same ▸ tidy_renderDecimal style _, numeral, rounds⟩

/-- What is true of digits and of the marks in numerals is true of the characters of a numeral. -/
theorem forall_mem_numeral {s : List Char} {d : Decimal} (numeral : IsNumeral s d) {P : Char → Prop}
    (digits : ∀ n < 10, P (Nat.digitChar n)) (marks : P '.' ∧ P 'e' ∧ P '-' ∧ P '+') : ∀ c ∈ s, P c := by
  intro c hc
  rcases numeral.mem hc with digit | mark
  · exact forall_digitChar digits digit
  · simp only [List.mem_cons, List.not_mem_nil, or_false] at mark
    rcases mark with rfl | rfl | rfl | rfl
    · exact marks.1
    · exact marks.2.1
    · exact marks.2.2.1
    · exact marks.2.2.2

theorem Tidy.signable {s : List Char} (h : Tidy s) {d : Decimal} (numeral : IsNumeral s d) : Signable s :=
  ⟨numeral.head, forall_mem_numeral numeral (P := fun c => separatesWords c = false ∧ c ≠ '_') (by decide)
    (by decide), fun _ _ => h.fits⟩

theorem isRealNumeral_of_numeral {s : List Char} {d : Decimal} (numeral : IsNumeral s d) :
    isRealNumeral s = true := by
  have noMark : 'x' ∉ s := fun hc =>
    forall_mem_numeral numeral (P := (· ≠ 'x')) (by decide) (by decide) 'x' hc rfl
  rcases numeral.marked with point | exponent
  · simp [isRealNumeral, point]
  · simp [isRealNumeral, exponent, noMark]

/-- A tidy numeral is read without its sign. -/
theorem Tidy.readUnsignedReal? {s : List Char} (h : Tidy s) {d : Decimal} (numeral : IsNumeral s d) :
    Toml.readUnsignedReal? s = some (d.toBinary64 false) := by
  have known := forall_mem_numeral numeral
    (P := fun c => separatesWords c = false ∧ c ≠ '_' ∧ ((digitValue? c).map Nat.digitChar).getD c = c)
    (by decide) (by decide)
  have goesOn : s.dropWhile (· != '.') ≠ ['.'] := fun stops => by
    obtain ⟨c, ends, digit⟩ := h.last
    have last : s.getLast? = some '.' := by
      rw [← List.takeWhile_append_dropWhile (p := (· != '.')) (l := s), stops, List.getLast?_concat]
    cases ends.symm.trans last
    cases digit
  have unsigned : takeSign s = (false, s) := numeral.takeSign false
  obtain ⟨c, t, rfl, digit⟩ := numeral.head
  rw [Toml.readUnsignedReal?, if_neg goesOn, if_pos (by exact digit), readFloat?,
    trim_of_unseparated fun c hc => (known c hc).1, plainForm_of_plain fun c hc => (known c hc).2]
  exact (Binary64.readReal?_of_digit unsigned digit).trans (by rw [numeral.read]; rfl)

/-- The number that is read behind a minus sign is taken from zero. -/
theorem fromZero_toBinary64 {x : Binary64} (finite : x.isFinite = true) {d : Decimal} (rounds : d.toBinary64 x.isNegative = x) :
    (if x.isNegative then fromZero (d.toBinary64 false) else d.toBinary64 false) = x.unsignedZero := by
  have unsigned : d.toBinary64 false = x.withSign false := by
    rw [← rounds, Binary64.withSign_toBinary64]
  rw [unsigned]
  cases x with
  | nan | infinite => cases finite
  | finite negative m e canonical =>
    cases negative with
    | false => exact (Binary64.unsignedZero_finite_false canonical).symm
    | true =>
      have zero : (Binary64.finite false m e canonical).same (.zero false) =
          (Binary64.finite true m e canonical).same (.zero false) := by
        rw [Bool.eq_iff_iff, Binary64.same_zero_iff, Binary64.same_zero_iff]
      exact congrArg (if · = true then _ else _) zero

/-- **A finite real number is read back**, but for the sign of zero. -/
theorem readValue_renderChars (style : Binary64.RealStyle) {x : Binary64} (finite : x.isFinite = true)
    (fuel : ℕ) :
    readValue (fuel + 1) (isWellFormed (' ' :: x.renderChars style)) (x.renderChars style) =
      .ok (.real x.unsignedZero) := by
  obtain ⟨s, d, form, tidy, numeral, rounds⟩ := exists_tidy style finite
  have signable := tidy.signable numeral
  have noColon : ':' ∉ (if x.isNegative then ['-'] else []) ++ s := by
    exact fun hc => (List.mem_append.mp hc).elim
      (fun sign => forall_mem_sign (P := (· ≠ ':')) (by decide) x.isNegative ':' sign rfl)
      fun hc => forall_mem_numeral numeral (P := (· ≠ ':')) (by decide) (by decide) ':' hc rfl
  have noPoint : '.' ∉ ((if x.isNegative then ['-'] else []) ++ s).drop 19 := by
    split
    · exact tidy.point
    · intro late
      refine tidy.point (List.mem_of_mem_drop (i := 1) ?_)
      rwa [List.drop_drop]
  have shorter {c : Char} {i j : ℕ} (h : i ≤ j) (hc : c ∈ s.take i) : c ∈ s.take j :=
    (List.take_prefix_take_left h).subset hc
  have early : '-' ∈ ((if x.isNegative then ['-'] else []) ++ s).drop 1 →
      '.' ∈ ((if x.isNegative then ['-'] else []) ++ s).take 4 ∨
        'e' ∈ ((if x.isNegative then ['-'] else []) ++ s).take 4 := by
    split
    · intro dash
      exact (tidy.early dash).imp (fun h => List.mem_cons_of_mem _ (shorter (by decide) h)) fun h =>
        List.mem_cons_of_mem _ (shorter (by decide) h)
    · intro dash
      exact (tidy.early (List.mem_of_mem_drop dash)).imp (shorter (by decide)) (shorter (by decide))
  rw [form, signable.isWellFormed, readValue_numeral (signable.begins _) noColon noPoint early,
    readNumeral_real signable _ (isRealNumeral_of_numeral numeral) (tidy.readUnsignedReal? numeral),
    fromZero_toBinary64 finite rounds]

end Toml

end PortMap
