import PortMap.Proofs.Toml.Layout
import PortMap.Proofs.Toml.Number

/-!
# Values on a line

What a document shows of a plain value (a flag, a number, or a text that needs no escapes) is read back as the
value (`exists_literal`), behind the equals sign of a field.

## The argument

A text without backslashes and without double marks has nothing to escape: what is written of it is the text
between marks (`textLiteral_of_plain`), and the three passes in which escapes are replaced leave it as it is
(`readQuotation_of_plain`). Numbers are the matter of `Proofs.Toml.Number`.

## Honest scope

Escapes are written in the manner of a quoted text and rewritten for documents afterwards; this is not shown to
be undone. A text in which nothing comes before the only pair of a backslash and `x` cannot be written at all.
-/

namespace PortMap.Toml

open Text

/-! ### Texts without escapes -/

/-- A text that stands between double marks as it is. -/
def IsPlainText (s : List Char) : Prop := ∀ c ∈ s, isPrintable c = true ∧ c ≠ '"' ∧ c ≠ '\\'

instance (s : List Char) : Decidable (IsPlainText s) :=
  List.decidableBAll (fun c => isPrintable c = true ∧ c ≠ '"' ∧ c ≠ '\\') s

variable {s : List Char}

theorem quotedChar_of_plain {mark c : Char} (plain : isPrintable c = true) (noMark : c ≠ mark)
    (noSlash : c ≠ '\\') : quotedChar mark c = [c] := by
  have noBreak {b : Char} (hb : isPrintable b = false) : c ≠ b := fun h =>
    Bool.false_ne_true (hb.symm.trans (h ▸ plain))
  rw [quotedChar, if_neg (not_or.mpr ⟨noMark, noSlash⟩), if_neg (noBreak (by decide)),
    if_neg (noBreak (by decide)), if_neg (noBreak (by decide)), if_pos plain]

/-- There is nothing to escape. -/
theorem escapes_of_plain (plain : IsPlainText s) : escapes s = s := by
  have kept {f : Char → List Char} (h : ∀ c ∈ s, f c = [c]) : s.flatMap f = s := by
    rw [List.flatMap_congr h, List.flatMap_singleton']
  unfold escapes
  split
  · refine kept fun c hc => ?_
    obtain ⟨printable, noMark, noSlash⟩ := plain c hc
    exact quotedChar_of_plain printable noMark noSlash
  · refine kept fun c hc => ?_
    obtain ⟨printable, noMark, noSlash⟩ := plain c hc
    split
    · rfl
    · exact quotedChar_of_plain printable ‹_› noSlash

theorem splitMarks_of_noSlash (h : '\\' ∉ s) (piece : List Char) : splitMarks piece s = [piece.reverse ++ s] := by
  induction s generalizing piece with
  | nil => simp [splitMarks]
  | cons c s ih =>
    obtain ⟨other, rest⟩ := not_or.mp (mt List.mem_cons.mpr h)
    rw [splitMarks, ih rest, List.reverse_cons, List.append_assoc]
    · rfl
    · rintro _ slash -
      exact other slash.symm

/-- **A plain text is written between marks as it is.** -/
theorem textLiteral_of_plain {s : String} (plain : IsPlainText s.toList) :
    textLiteral s = .ok (String.ofList ('"' :: (s.toList ++ ['"']))) := by
  have noSlash : '\\' ∉ s.toList := fun slash => (plain _ slash).2.2 rfl
  rw [textLiteral, escapes_of_plain plain, splitMarks_of_noSlash noSlash]
  refine congrArg Except.ok (String.toList_injective ?_)
  simp

/-! ### Reading a text without escapes -/

theorem cutAtEscape_of_noSlash {letter : ℕ} {ns : List ℕ} (h : backslash ∉ ns) (piece : List ℕ) :
    cutAtEscape letter piece ns = [piece.reverse ++ ns] := by
  fun_induction cutAtEscape letter piece ns with
  | case1 => simp
  | case2 => simp
  | case3 piece n c rest escape => exact absurd (escape.1 ▸ List.mem_cons_self) h
  | case4 piece n c rest _ ih =>
    rw [ih (fun slash => h (List.mem_cons_of_mem n slash))]
    simp

theorem unescapePoints_of_noSlash {ns : List ℕ} (h : backslash ∉ ns) (letter : Char) (width : ℕ) :
    unescapePoints letter width ns = .ok ns := by
  rw [unescapePoints, cutAtEscape_of_noSlash h]
  simp [replacePoints, Except.map]

theorem unescape_of_noSlash {ns : List ℕ} (h : backslash ∉ ns) : unescape ns = .ok ns := by
  fun_induction unescape ns with
  | case1 | case2 => rfl
  | case3 | case4 | case5 | case6 => exact absurd List.mem_cons_self h
  | case7 n c rest _ ih =>
    rw [ih (fun slash => h (List.mem_cons_of_mem n slash))]
    rfl

theorem endsEarly_of_plain (plain : IsPlainText s) : endsEarly '"' ('"' :: (s ++ ['"'])) = false := by
  have noMark : '"' ∉ s := fun mark => (plain _ mark).2.1 rfl
  have pieces : splitAt '"' (s ++ ['"']) = [s, []] := splitAt_append noMark []
  rw [endsEarly, List.drop_succ_cons, List.drop_zero, pieces]
  cases h : s.reverse with
  | nil =>
    obtain rfl := List.reverse_eq_nil_iff.mp h
    rfl
  | cons c t =>
    have last : c ∈ s := List.mem_reverse.mp (h ▸ List.mem_cons_self)
    have noSlash : (c == '\\') = false := beq_eq_false_iff_ne.mpr (plain c last).2.2
    have some_ : s ≠ [] := fun none_ => by simp [none_] at h
    obtain ⟨a, u, rfl⟩ := List.exists_cons_of_ne_nil some_
    simp [goesOn, h, noSlash]

/-- What stands between two marks, if it does not begin with one. -/
theorem between_of_noMark {mark : ℕ} {ns : List ℕ} (h : mark ∉ ns) :
    between mark (mark :: (ns ++ [mark])) = ns := by
  cases ns with
  | nil => simp [between, inner]
  | cons n ns =>
    have other : n ≠ mark := fun same => h (same ▸ List.mem_cons_self)
    rw [List.cons_append, between, if_neg fun same => other same.1]
    have last : (n :: ns ++ [mark]).dropLast = n :: ns := List.dropLast_concat
    exact last

theorem ofPoints_points (s : List Char) : Value.ofPoints (points s) = .text (String.ofList s) := by
  have valid : (points s).all Nat.isValidChar = true := by
    rw [points, List.all_map, List.all_eq_true]
    exact fun c _ => decide_eq_true c.valid
  have same : (points s).map Char.ofNat = s := by
    rw [points, List.map_map]
    exact (List.map_congr_left fun c _ => Char.ofNat_toNat c).trans (List.map_id _)
  rw [Value.ofPoints, if_pos valid, same]

/-- **A plain text between marks is read as it is.** -/
theorem readQuotation_of_plain (plain : IsPlainText s) :
    readQuotation '"' ('"' :: (s ++ ['"'])) = .ok (.text (String.ofList s)) := by
  have foreign {c : Char} (hc : c ∉ s) : c.toNat ∉ points s := fun there => by
    obtain ⟨d, hd, same⟩ := List.mem_map.mp there
    exact hc (Char.toNat_inj.mp same ▸ hd)
  have noSlash : '\\' ∉ s := fun slash => (plain _ slash).2.2 rfl
  have noMark : '"' ∉ s := fun mark => (plain _ mark).2.1 rfl
  have inMarks : '\\' ∉ '"' :: (s ++ ['"']) := by simp [noSlash]
  have form : points ('"' :: (s ++ ['"'])) = '"'.toNat :: (points s ++ ['"'.toNat]) := by simp [points]
  have noEscape : backslash ∉ '"'.toNat :: (points s ++ ['"'.toNat]) := by
    rw [List.mem_cons, List.mem_append, List.mem_singleton]
    rintro (h | h | h)
    · exact absurd h (by decide)
    · exact foreign noSlash h
    · exact absurd h (by decide)
  rw [readQuotation, endsEarly_of_plain plain, splitAt_piece inMarks, form,
    unescapePoints_of_noSlash noEscape]
  simp only [Bool.false_eq_true, if_false, ne_eq, not_true_eq_false, List.drop_one, List.tail_cons, escapesAreKnown,
    Bool.not_true, Except.bind, unescapePoints_of_noSlash noEscape, unescape_of_noSlash noEscape, Except.map,
    between_of_noMark (foreign noMark), ofPoints_points]

/-! ### Values that are read back -/

/-- A value that stands on a line, with a text for it. -/
structure Literal (s : List Char) (v : Value) : Prop where
  /-- It ends where its line ends. -/
  standing : Standing s
  /-- It has no blanks at its ends. -/
  strip : strip s = s
  /-- It is read as the value, behind a blank. -/
  read : ∀ fuel, readValue (fuel + 1) (isWellFormed (' ' :: s)) s = .ok v

theorem Literal.ne_nil {v : Value} (h : Literal s v) : s ≠ [] := by
  rintro rfl
  cases h.read 0

/-- A value that ends where its line ends does not go on in the next line. -/
theorem goesBeyond_of_standing (h : Standing s) : goesBeyond s = .ok false := by
  rw [goesBeyond]
  split
  · rfl
  · rename_i long
    cases h with
    | plain foreign =>
      cases s with
      | nil => exact absurd (by decide) long
      | cons c s =>
        have other := foreign c List.mem_cons_self
        simp only [openers, List.mem_cons, List.not_mem_nil, or_false, not_or] at other
        simp [openText, isOpen, other, Except.bind]
    | @quoted s inside =>
      cases s with
      | nil => exact absurd (by decide) long
      | cons c s =>
        have other := (inside c List.mem_cons_self).2.1
        simp [openText, isOpen, other, Except.bind]

/-- A value that a document has room for on a line of its own, without escapes. -/
inductive IsPlain : Value → Prop
  /-- A flag. -/
  | flag (b : Bool) : IsPlain (.flag b)
  /-- A whole number without too many digits. -/
  | whole {n : ℤ} : (Decimal.digitChars n.natAbs).length ≤ maxDigits → IsPlain (.whole n)
  /-- A finite real number. -/
  | real {x : Binary64} : x.isFinite = true → IsPlain (.real x)
  /-- A plain text. -/
  | text {s : String} : IsPlainText s.toList → IsPlain (.text s)

/-- The value with the sign of a zero taken away. -/
def unsigned : Value → Value
  | .real x => .real x.unsignedZero
  | v => v

theorem literal_flag (b : Bool) : Literal (if b then "true" else "false").toList (.flag b) := by
  cases b with
  | true => exact ⟨.plain (List.all_iff_forall_prop.mp (by decide)), by decide, fun _ => rfl⟩
  | false => exact ⟨.plain (List.all_iff_forall_prop.mp (by decide)), by decide, fun _ => rfl⟩

theorem literal_whole {n : ℤ} (short : (Decimal.digitChars n.natAbs).length ≤ maxDigits) :
    Literal n.repr.toList (.whole n) := by
  refine ⟨.plain ?_, ?_, readValue_repr short⟩
  · rw [toList_repr, List.forall_mem_append]
    exact ⟨forall_mem_sign (by decide) _, fun c hc =>
      forall_digitChar (P := (· ∉ openers)) (by decide) (isPlainDigit_of_mem_digitChars hc)⟩
  · rw [toList_repr]
    exact (signable_digitChars n.natAbs).strip _

theorem literal_real (style : Binary64.RealStyle) {x : Binary64} (finite : x.isFinite = true) :
    Literal (x.renderChars style) (.real x.unsignedZero) := by
  refine ⟨.plain ?_, ?_, readValue_renderChars style finite⟩
  all_goals obtain ⟨s, d, form, tidy, numeral, -⟩ := exists_tidy style finite
  · rw [form, List.forall_mem_append]
    exact ⟨forall_mem_sign (by decide) _, forall_mem_numeral numeral (P := (· ∉ openers)) (by decide) (by decide)⟩
  · rw [form]
    exact (tidy.signable numeral).strip _

theorem literal_text (plain : IsPlainText s) : Literal ('"' :: (s ++ ['"'])) (.text (String.ofList s)) where
  standing := .quoted fun c hc => by
    obtain ⟨printable, others⟩ := plain c hc
    refine ⟨?_, others⟩
    rintro rfl
    exact absurd printable (by decide)
  strip := by
    refine strip_eq_self (fun c hc => ?_) fun c hc => ?_
    · cases hc
      decide
    · rw [← List.cons_append, List.getLast?_concat] at hc
      cases hc
      decide
  read fuel := by
    have noFlag : '"' :: (s ++ ['"']) ≠ "true".toList ∧ '"' :: (s ++ ['"']) ≠ "false".toList :=
      ⟨fun h => absurd (List.cons.inj h).1 (by decide), fun h => absurd (List.cons.inj h).1 (by decide)⟩
    unfold readValue
    dsimp only
    rw [if_neg noFlag.1, if_neg noFlag.2, if_pos (.inl rfl), readQuotation_of_plain plain]

/-- **What is written of a plain value is read back.** -/
theorem exists_literal {v : Value} (plain : IsPlain v) :
    ∃ s, valueLiteral v = .ok s ∧ Literal s.toList (unsigned v) := by
  cases plain with
  | flag b => exact ⟨_, rfl, literal_flag b⟩
  | whole short => exact ⟨_, rfl, literal_whole short⟩
  | @real x finite =>
    refine ⟨_, rfl, ?_⟩
    rw [Binary64.render, String.toList_ofList]
    exact literal_real realStyle finite
  | @text s plain =>
    refine ⟨_, textLiteral_of_plain plain, ?_⟩
    have literal := literal_text plain
    rw [String.ofList_toList] at literal
    rwa [String.toList_ofList]

end PortMap.Toml
