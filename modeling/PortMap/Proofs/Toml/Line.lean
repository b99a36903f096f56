import PortMap.Proofs.Settings.Overlay
import PortMap.Proofs.Toml.Literal
import PortMap.Toml.Header

/-!
# Single lines

The line of a field with a bare name puts the field at the end of a table (`readEntry_field`), and a header with
a bare name leads to a new table at the end of the outermost one (`readHeader_bare`, `openHeader_new`).

## The argument

A line is cut at its first equals sign outside of marks (`firstOutside_eq_one`), whatever stands in the value: a
blank comes after the sign, and a value that begins with one is not looked at again (`chooseCut_field`).
-/

namespace PortMap.Toml

open Text

/-! ### Cutting -/

section Cutting

variable {c : Char} {a rest piece : List Char}

theorem cutFrom_append (h : c ∉ a) (max : ℕ) :
    cutFrom [c] piece 0 max (a ++ rest) = cutFrom [c] (a.reverse ++ piece) 0 max rest := by
  induction a generalizing piece with
  | nil => rfl
  | cons x a ih =>
    obtain ⟨other, absent⟩ := not_or.mp (mt List.mem_cons.mpr h)
    rw [List.reverse_cons, List.append_assoc, List.singleton_append, ← ih absent]
    cases max <;> simp [cutFrom, other]

theorem cutFrom_mark (max : ℕ) :
    cutFrom [c] piece 0 (max + 1) (c :: rest) = piece.reverse :: cutFrom [c] [] 0 max rest := by
  simp [cutFrom]

theorem cutFrom_zero (separator : List Char) : cutFrom separator piece 0 0 rest = [piece.reverse ++ rest] := by
  induction rest generalizing piece with
  | nil => simp [cutFrom]
  | cons x rest ih => simp [cutFrom, ih]

/-- Cut once, a text falls into what is before the first mark and what is after it. -/
theorem cutAtMost_one (h : c ∉ a) : cutAtMost 1 [c] (a ++ c :: rest) = [a, rest] := by
  rw [cutAtMost, cutFrom_append h, cutFrom_mark, cutFrom_zero]
  simp

theorem contains_of_mem (h : c ∈ a) : contains [c] a = true := by
  obtain ⟨before, after, rfl, absent⟩ := List.eq_append_cons_of_mem h
  have some_ (piece s : List Char) (max : ℕ) : cutFrom [c] piece 0 max s ≠ [] := by
    induction s generalizing piece max with
    | nil => simp [cutFrom]
    | cons x s ih =>
      cases max with
      | zero => simp [cutFrom, ih]
      | succ max =>
        by_cases same : c = x
        · simp [cutFrom, same]
        · simp [cutFrom, same, ih]
  have length : (before ++ c :: after).length = (before.length + after.length) + 1 := by simp; omega
  rw [contains, countOf, cut, cutAtMost, length, cutFrom_append absent, cutFrom_mark]
  simpa using some_ [] after _

/-- A mark that is found before all others is the first one outside of them. -/
theorem firstOutside_eq_one {s : List Char} {more : List (List Char)} (h : cutAtMarks s = a :: more)
    (inside : c ∈ a) : firstOutside [c] s = 1 := by
  rw [firstOutside, h, countBefore, contains_of_mem inside]
  rfl

end Cutting

/-- A text without marks is one piece. -/
theorem cutAtMarks_of_noMarks {s : List Char} (double : '"' ∉ s) (single : '\'' ∉ s) : cutAtMarks s = [s] := by
  simp only [cutAtMarks, splitAt_piece double, splitAt_piece single]

/-- What comes before the first text in double marks is a piece. -/
theorem cutAtMarks_of_quoted {a s : List Char} (double : '"' ∉ a ∧ '"' ∉ s) (single : '\'' ∉ a) :
    cutAtMarks (a ++ '"' :: (s ++ ['"'])) = [a, s, []] := by
  have pieces : splitAt '"' (a ++ '"' :: (s ++ ['"'])) = [a, s, []] := by
    rw [splitAt_append double.1, splitAt_append double.2]
    rfl
  have none_ : a.contains '\'' = false := by simpa using single
  simp only [cutAtMarks, pieces, none_, Bool.false_eq_true, if_false, splitAt_piece single, List.nil_append,
    List.singleton_append]

/-! ### Fields -/

/-- The line of a field. -/
def fieldLine (name : String) (s : List Char) : List Char := name.toList ++ ' ' :: '=' :: ' ' :: s

variable {name : String} {s : List Char} {v : Value} {fields : Table}

/-- A bare name does not begin with a mark. -/
theorem IsBare.begins {a : List Char} (h : IsBare a) : ∃ c t, a = c :: t ∧ ¬ (c = '"' ∨ c = '\'') := by
  obtain ⟨c, t, rfl⟩ := List.exists_cons_of_ne_nil h.1
  refine ⟨c, t, rfl, ?_⟩
  rintro (rfl | rfl)
  · exact h.notMem rfl List.mem_cons_self
  · exact h.notMem rfl List.mem_cons_self

/-- A bare name has no blanks at its ends. -/
theorem IsBare.strip {a : List Char} (h : IsBare a) : Text.strip a = a :=
  strip_eq_self (fun c hc => (isNameChar_plain (h.2 c (List.mem_of_head? hc))).1) fun c hc =>
    (isNameChar_plain (h.2 c (List.mem_of_getLast? hc))).1

theorem firstOutside_fieldLine (bare : IsBare name.toList) (standing : Standing s) :
    firstOutside ['='] (fieldLine name s) = 1 := by
  have double := bare.notMem (c := '"') rfl
  have single := bare.notMem (c := '\'') rfl
  cases standing with
  | plain foreign =>
    have double' : '"' ∉ s := fun hc => foreign _ hc (by decide)
    have single' : '\'' ∉ s := fun hc => foreign _ hc (by decide)
    exact firstOutside_eq_one (cutAtMarks_of_noMarks (by simp [fieldLine, double, double'])
      (by simp [fieldLine, single, single'])) (by simp [fieldLine])
  | @quoted s inside =>
    have double' : '"' ∉ s := fun hc => (inside _ hc).2.1 rfl
    have line : fieldLine name ('"' :: (s ++ ['"'])) =
        (name.toList ++ [' ', '=', ' ']) ++ '"' :: (s ++ ['"']) := by simp [fieldLine]
    rw [line]
    exact firstOutside_eq_one (cutAtMarks_of_quoted ⟨by simp [double], double'⟩ (by simp [single])) (by simp)

/-- **The line of a field is cut at its first equals sign.** -/
theorem chooseCut_field (bare : IsBare name.toList) (standing : Standing s) :
    chooseCut (fieldLine name s) = .ok ⟨⟨name.toList ++ [' '], ' ' :: s⟩, isWellFormed (' ' :: s)⟩ := by
  have line : fieldLine name s = (name.toList ++ [' ']) ++ '=' :: ' ' :: s := by simp [fieldLine]
  have before : '=' ∉ name.toList ++ [' '] := by simp [bare.notMem (c := '=') rfl]
  have cut : cutAtEquals 1 (fieldLine name s) = ⟨name.toList ++ [' '], ' ' :: s⟩ := by
    rw [cutAtEquals, line, cutAtMost_one before]
    rfl
  rw [chooseCut, firstOutside_fieldLine bare standing, cut]
  rfl

theorem readName_bare (bare : IsBare name.toList) : readName (strip (name.toList ++ [' '])) = .ok ([], name) := by
  have noPoint : '.' ∉ name.toList := bare.notMem rfl
  rw [strip_append_blank, bare.strip, readName, if_neg (by simp [noPoint])]
  obtain ⟨c, a, chars, noMark⟩ := bare.begins
  rw [chars, unmarked, if_neg fun h => noMark h.1, ← chars]
  simp [Except.map]

/-- The line of a field has no blanks at its ends. -/
theorem strip_fieldLine (bare : IsBare name.toList) (literal : Literal s v) :
    strip (fieldLine name s) = fieldLine name s := by
  refine strip_eq_self (fun c hc => ?_) fun c hc => ?_
  · rw [fieldLine, List.head?_append_of_ne_nil _ bare.1] at hc
    exact (isNameChar_plain (bare.2 c (List.mem_of_head? hc))).1
  · have line : fieldLine name s = (name.toList ++ [' ', '=', ' ']) ++ s := by simp [fieldLine]
    rw [line, List.getLast?_append_of_ne_nil _ literal.ne_nil, ← literal.strip] at hc
    exact getLast?_strip s c hc

/-- **The line of a field puts the field at the end of a table.** -/
theorem readEntry_field (bare : IsBare name.toList) (new : name ∉ fields.names) (literal : Literal s v)
    (fuel : ℕ) :
    readEntry (fuel + 2) (fieldLine name s) (.table fields) = .ok (.table (fields ++ [(name, v)]), none) := by
  have absent : getField (.table fields) name = .ok none := congrArg Except.ok (Table.get?_eq_none_of_notMem new)
  have put : putField (.table fields) name v = .ok (.table (fields ++ [(name, v)])) := by
    rw [putField, Table.put_of_notMem new]
  rw [readEntry, chooseCut_field bare literal.standing]
  simp only [readName_bare bare, within, strip_blank, literal.strip, goesBeyond_of_standing literal.standing,
    literal.read, putNew, absent, put, Except.map]

/-! ### Headers -/

/-- The line of a header. -/
def headerLine (name : String) : List Char := '[' :: (name.toList ++ [']'])

/-- The line of a header has no blanks at its ends. -/
theorem strip_headerLine (name : String) : strip (headerLine name) = headerLine name := by
  refine strip_eq_self (fun c hc => ?_) fun c hc => ?_
  · cases hc
    decide
  · rw [headerLine, ← List.cons_append, List.getLast?_concat] at hc
    cases hc
    decide

theorem namesIn_bare (bare : IsBare name.toList) : namesIn none [name.toList] = .ok [name] := by
  obtain ⟨c, a, chars, noMark⟩ := bare.begins
  have all : (c :: a).all isNameChar = true := List.all_eq_true.mpr (chars ▸ bare.2)
  have trimmed : strip (c :: a) = c :: a := chars ▸ bare.strip
  rw [chars, namesIn, trimmed]
  dsimp only
  rw [if_neg noMark, if_pos all, namesIn, ← chars]
  simp [Except.map]

theorem readHeader_bare (bare : IsBare name.toList) :
    readHeader (name.toList ++ [']']) = .ok ⟨false, [name]⟩ := by
  have double := bare.notMem (c := '"') rfl
  have single := bare.notMem (c := '\'') rfl
  have closing := bare.notMem (c := ']') rfl
  have opening := bare.notMem (c := '[') rfl
  have first : firstOutside [']'] (name.toList ++ [']']) = 1 :=
    firstOutside_eq_one (cutAtMarks_of_noMarks (by simp [double]) (by simp [single])) (by simp)
  have inside : bracketed [']'] (name.toList ++ [']']) = .ok name.toList := by
    rw [bracketed, first, cutAtMost_one closing]
    rfl
  unfold readHeader
  split
  · rename_i none_
    simp at none_
  · rename_i rest front
    exfalso
    obtain ⟨c, a, chars⟩ := List.exists_cons_of_ne_nil bare.1
    rw [chars] at front opening
    exact opening ((List.cons.inj front).1 ▸ List.mem_cons_self)
  · rw [inside]
    dsimp only
    rw [splitAt_piece (bare.notMem (c := '.') rfl), namesIn_bare bare]
    rfl

/-- The field that was put last is found, and may be replaced. -/
theorem follow_last {α : Type} {t : Table} (new : name ∉ t.names) {v w : Value} {a : α}
    {f : Value → Except Fault (Value × α)} (does : f v = .ok (w, a)) :
    follow f [.field name] (.table (t ++ [(name, v)])) = .ok (.table (t ++ [(name, w)]), a) := by
  have found : getField (.table (t ++ [(name, v)])) name = .ok (some v) := by
    rw [← Table.put_of_notMem new]
    exact congrArg Except.ok ((Table.get?_put t name v name).trans (if_pos rfl))
  have replaced : putField (.table (t ++ [(name, v)])) name w = .ok (.table (t ++ [(name, w)])) := by
    rw [putField, ← Table.put_of_notMem new, Table.put_put, Table.put_of_notMem new]
  simp only [follow, found, Option.getD_some, does, replaced, Except.map]

/-- A new table is opened at the end of the outermost one. -/
theorem openHeader_new (bare : IsBare name.toList) {t : Table} (new : name ∉ t.names) :
    openHeader ⟨false, [name]⟩ [] (.table t) =
      .ok (.table (t ++ [(name, .table [])]), ⟨[.field name], []⟩) := by
  have some_ : name ≠ "" := by
    rintro rfl
    exact bare.1 rfl
  have absent : t.lookup name = none := Table.get?_eq_none_of_notMem new
  have step : openStep false true name [] (.table t) =
      .ok (.table (t ++ [(name, .table [])]), ⟨[.field name], []⟩) := by
    simp only [openStep, Value.table?, absent, putField, Table.put_of_notMem new]
    rfl
  rw [openHeader, openNames, if_neg some_, List.isEmpty_nil, step]
  dsimp only
  rw [follow_last new (a := ⟨[], []⟩) rfl]
  rfl

end PortMap.Toml
