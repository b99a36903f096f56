import Mathlib.Data.List.Basic
import PortMap.Proofs.Text.Blank
import PortMap.Toml.Header
import PortMap.Toml.Layout

/-!
# Documents whose layout stays as it is

A document in which each header and each field stands on a line of its own, without comments, and with values
that end where their line ends, is left as it is when it is laid out (`layOut_terminated`).

## The argument

Between lines, nothing is open: the state is `atStart`. A line takes this state to itself, with the line passed
(`passAll_line`). Within a field the state changes its kind three times: within the name, behind it, and behind
the equals sign, where a value may open a text and close it again.
-/

namespace PortMap.Toml

open Text

/-! ### Lines -/

/-- A name that stands without marks. -/
def IsBare (name : List Char) : Prop := name ≠ [] ∧ ∀ c ∈ name, isNameChar c = true

instance (name : List Char) : Decidable (IsBare name) :=
  @instDecidableAnd _ _ _ (List.decidableBAll (fun c => isNameChar c = true) name)

/-- The characters that open or close something, or end a line. -/
def openers : List Char := ['\n', '#', '[', ']', '\'', '"']

/-- A value that ends where its line ends. -/
inductive Standing : List Char → Prop
  /-- Nothing is opened in it. -/
  | plain {s : List Char} : (∀ c ∈ s, c ∉ openers) → Standing s
  /-- It is a text in double marks without escapes. -/
  | quoted {s : List Char} : (∀ c ∈ s, c ≠ '\n' ∧ c ≠ '"' ∧ c ≠ '\\') → Standing ('"' :: (s ++ ['"']))

/-- A line of a document. -/
inductive Line : List Char → Prop
  /-- An empty line. -/
  | empty : Line []
  /-- A header. -/
  | header {name : List Char} : IsBare name → Line ('[' :: (name ++ [']']))
  /-- A field. -/
  | field {name value : List Char} : IsBare name → Standing value → Line (name ++ ' ' :: '=' :: ' ' :: value)

theorem toNat_lt_of_isNameChar {c : Char} (h : isNameChar c = true) : c.toNat < 128 := by
  have below {high : Char} (bound : high.toNat < 128) (within : c.val ≤ high.val) : c.toNat < 128 :=
    (UInt32.le_iff_toNat_le.mp within).trans_lt bound
  have marks : '_'.toNat < 128 ∧ '-'.toNat < 128 := by decide
  rw [isNameChar, Bool.or_eq_true, Bool.or_eq_true, beq_iff_eq, beq_iff_eq] at h
  rcases h with (letter | rfl) | rfl
  · rcases Bool.or_eq_true_iff.mp letter with letter | digit
    · rcases Bool.or_eq_true_iff.mp letter with large | small
      · exact below (by decide : 'Z'.toNat < 128) (of_decide_eq_true large).2
      · exact below (by decide : 'z'.toNat < 128) (of_decide_eq_true (Bool.and_eq_true_iff.mp small).2)
    · exact below (by decide : '9'.toNat < 128) (of_decide_eq_true (Bool.and_eq_true_iff.mp digit).2)
  · exact marks.1
  · exact marks.2

/-- What is known of a character of a name. -/
theorem isNameChar_plain {c : Char} (h : isNameChar c = true) :
    separatesWords c = false ∧ (isAlphanumeric c || c = '_' || c = '-') ∧ c ∉ '.' :: '=' :: ' ' :: '\t' :: openers := by
  have known : ∀ n < 128, isNameChar (Char.ofNat n) = true →
      separatesWords (Char.ofNat n) = false ∧
      (isAlphanumeric (Char.ofNat n) || Char.ofNat n = '_' || Char.ofNat n = '-') ∧
      Char.ofNat n ∉ '.' :: '=' :: ' ' :: '\t' :: openers := by
    decide
  have there := known c.toNat (toNat_lt_of_isNameChar h)
  rw [Char.ofNat_toNat] at there
  exact there h

theorem IsBare.notMem {name : List Char} (h : IsBare name) {c : Char} (other : isNameChar c = false) : c ∉ name :=
  fun hc => Bool.false_ne_true (other.symm.trans (h.2 c hc))

theorem Standing.noBreak {s : List Char} (h : Standing s) : '\n' ∉ s := by
  cases h with
  | plain foreign => exact fun hc => foreign _ hc (by decide)
  | quoted inside =>
    have absent := fun hc => (inside '\n' hc).1 rfl
    simpa using absent

/-- There is no line break within a line. -/
theorem Line.noBreak {l : List Char} (h : Line l) : '\n' ∉ l := by
  cases h with
  | empty => exact List.not_mem_nil
  | header bare => simp [bare.notMem (c := '\n') rfl]
  | field bare standing => simp [bare.notMem (c := '\n') rfl, standing.noBreak]

namespace Layout

/-! ### States -/

/-- Between two lines. -/
def atStart (passed : List Char) : Layout := { passed := passed }

/-- Within a line, outside of names and texts. -/
def inLine (passed : List Char) : Layout := { passed := passed, lineStart := false }

/-- Within a name. -/
def inBare (passed : List Char) : Layout := { passed := passed, lineStart := false, name := .within }

/-- Behind a name. -/
def behindName (passed : List Char) : Layout := { passed := passed, lineStart := false, name := .after }

/-- Within a text. -/
def inText (passed : List Char) : Layout := { passed := passed, lineStart := false, mark := some '"' }

/-- Within a header. -/
def inHeader (passed : List Char) : Layout := { passed := passed, lineStart := false, header := true }

variable {c : Char} {p s rest : List Char}

/-! ### Steps -/

theorem step_inLine (h : c ∉ openers) : (inLine p).step c rest = .ok (inLine (c :: p)) := by
  simp only [openers, List.mem_cons, List.not_mem_nil, or_false, not_or] at h
  simp [step, inLine, atMark, atBracket, passPlain, pass, h]

theorem step_inText (h : c ≠ '\n' ∧ c ≠ '"' ∧ c ≠ '\\') : (inText p).step c rest = .ok (inText (c :: p)) := by
  simp [step, inText, atMark, atBracket, passPlain, pass, isPlain, h]

theorem step_first (h : isNameChar c = true) : (atStart p).step c rest = .ok (inBare (c :: p)) := by
  obtain ⟨-, -, foreign⟩ := isNameChar_plain h
  simp only [openers, List.mem_cons, List.not_mem_nil, or_false, not_or] at foreign
  simp [step, atStart, inBare, atMark, atBracket, passPlain, pass, foreign]

theorem inName_inBare (h : isNameChar c = true) : (inBare p).inName c rest = .ok (some (inBare (c :: p))) := by
  obtain ⟨joined, letter, foreign⟩ := isNameChar_plain h
  simp only [openers, List.mem_cons, List.not_mem_nil, or_false, not_or] at foreign
  simp only [Bool.or_eq_true, decide_eq_true_eq] at letter
  simp [inName, inBare, pass, joined, letter, foreign]

theorem step_header (h : rest.head? ≠ some '[') :
    (atStart p).step '[' rest = .ok (inHeader ('[' :: p)) := by
  simp [step, atStart, inHeader, atMark, isPlain, atBracket, passPlain, pass, h]

theorem step_inHeader (h : isNameChar c = true) : (inHeader p).step c rest = .ok (inHeader (c :: p)) := by
  obtain ⟨-, -, foreign⟩ := isNameChar_plain h
  simp only [openers, List.mem_cons, List.not_mem_nil, or_false, not_or] at foreign
  simp [step, inHeader, atMark, atBracket, passPlain, pass, foreign]

theorem step_closing : (inHeader p).step ']' rest = .ok (inLine (']' :: p)) := by
  simp [step, inHeader, inLine, atMark, atBracket, passPlain, pass]

theorem step_break_atStart : (atStart p).step '\n' rest = .ok (atStart ('\n' :: p)) := rfl

theorem step_break : (inLine p).step '\n' rest = .ok (atStart ('\n' :: p)) := rfl

theorem step_opening : (inLine (' ' :: p)).step '"' rest = .ok (inText ('"' :: ' ' :: p)) := by
  simp [step, inLine, inText, atMark, atDouble, marksBefore, oddBackslashes, behind, toggle, atBracket, passPlain,
    pass]

/-- A text is closed by the next mark, unless a backslash stands before it. -/
theorem step_ending (h : ∀ c ∈ s, c ≠ '\n' ∧ c ≠ '"' ∧ c ≠ '\\') :
    (inText (s ++ '"' :: ' ' :: p)).step '"' rest = .ok (inLine ('"' :: (s ++ '"' :: ' ' :: p))) := by
  cases s with
  | nil =>
    simp [step, inLine, inText, atMark, atDouble, marksBefore, behind, toggle, atBracket, passPlain, pass]
  | cons c s =>
    obtain ⟨-, noMark, noSlash⟩ := h c List.mem_cons_self
    simp [step, inLine, inText, atMark, atDouble, marksBefore, oddBackslashes, behind, toggle, atBracket, passPlain,
      pass, noMark, noSlash]

/-! ### Runs -/

theorem passAll_of_step {s s' : Layout} (outside : s.name = .none) (h : s.step c rest = .ok s') :
    s.passAll (c :: rest) = s'.passAll rest := by
  rw [passAll, if_pos outside, h]
  rfl

theorem passAll_of_inName {s s' : Layout} (inside : s.name ≠ .none) (h : s.inName c rest = .ok (some s')) :
    s.passAll (c :: rest) = s'.passAll rest := by
  rw [passAll, if_neg inside, h]

/-- Characters of one kind are passed one by one in a state of one kind. -/
theorem passAll_run {state : List Char → Layout} {P : Char → Prop}
    (passes : ∀ p c rest, P c → (state p).passAll (c :: rest) = (state (c :: p)).passAll rest)
    (h : ∀ c ∈ s, P c) (p rest : List Char) :
    (state p).passAll (s ++ rest) = (state (s.reverse ++ p)).passAll rest := by
  induction s generalizing p with
  | nil => rfl
  | cons c s ih =>
    rw [List.cons_append, passes p c (s ++ rest) (h c List.mem_cons_self),
      ih (fun x hx => h x (List.mem_cons_of_mem c hx)), List.reverse_cons, List.append_assoc]
    rfl

theorem passAll_gap : (inBare p).passAll (' ' :: rest) = (behindName (' ' :: p)).passAll rest :=
  passAll_of_inName (by rintro ⟨⟩) (by simp [inName, inBare, behindName, pass, separatesWords, isBlank])

theorem passAll_equals : (behindName p).passAll ('=' :: rest) = (inLine ('=' :: p)).passAll rest := by
  have ends : (behindName p).inName '=' rest = .ok none := by
    simp [inName, behindName, separatesWords, isBlank]
  have begins : (behindName p).endName '=' = .ok (inLine p) := rfl
  rw [passAll, if_neg (by rintro ⟨⟩), ends]
  simp only [begins, Except.bind, step_inLine (by decide : '=' ∉ openers)]

/-- A value that ends where its line ends is passed, behind a blank. -/
theorem passAll_standing {value : List Char} (h : Standing value) (p rest : List Char) :
    (inLine (' ' :: p)).passAll (value ++ rest) = (inLine (value.reverse ++ ' ' :: p)).passAll rest := by
  cases h with
  | plain foreign => exact passAll_run (fun p c rest h => passAll_of_step rfl (step_inLine h)) foreign _ _
  | @quoted s inside =>
    rw [List.cons_append, passAll_of_step rfl step_opening, List.append_assoc,
      passAll_run (fun p c rest h => passAll_of_step rfl (step_inText h)) inside, List.singleton_append,
      passAll_of_step rfl (step_ending fun c hc => inside c (List.mem_reverse.mp hc))]
    simp

/-- **A line takes the state between lines to itself.** -/
theorem passAll_line {line : List Char} (h : Line line) (p rest : List Char) :
    (atStart p).passAll (line ++ '\n' :: rest) = (atStart ('\n' :: (line.reverse ++ p))).passAll rest := by
  cases h with
  | empty => exact passAll_of_step rfl step_break_atStart
  | @header name bare =>
    obtain ⟨some_, chars⟩ := bare
    have single : (name ++ [']'] ++ '\n' :: rest).head? ≠ some '[' := by
      obtain ⟨c, t, rfl⟩ := List.exists_cons_of_ne_nil some_
      have foreign := (isNameChar_plain (chars c List.mem_cons_self)).2.2
      simp only [openers, List.mem_cons, List.not_mem_nil, or_false, not_or] at foreign
      simp [foreign]
    rw [List.cons_append, passAll_of_step rfl (step_header single), List.append_assoc,
      passAll_run (fun p c rest h => passAll_of_step rfl (step_inHeader h)) chars, List.singleton_append,
      passAll_of_step rfl step_closing, passAll_of_step rfl step_break]
    simp
  | @field name value bare standing =>
    obtain ⟨some_, chars⟩ := bare
    obtain ⟨c, t, rfl⟩ := List.exists_cons_of_ne_nil some_
    obtain ⟨first, others⟩ := List.forall_mem_cons.mp chars
    rw [List.append_assoc, List.cons_append, passAll_of_step rfl (step_first first),
      passAll_run (fun p c rest h => passAll_of_inName (by rintro ⟨⟩) (inName_inBare h)) others,
      List.cons_append, passAll_gap, List.cons_append, passAll_equals, List.cons_append,
      passAll_of_step rfl (step_inLine (by decide)), passAll_standing standing, passAll_of_step rfl step_break]
    simp

theorem passAll_terminated {ls : List (List Char)} (h : ∀ l ∈ ls, Line l) (p : List Char) :
    (atStart p).passAll (terminated ls) = .ok (atStart ((terminated ls).reverse ++ p)) := by
  induction ls generalizing p with
  | nil => rfl
  | cons l ls ih =>
    obtain ⟨first, others⟩ := List.forall_mem_cons.mp h
    rw [terminated_cons, passAll_line first, ih others]
    simp

end Layout

/-- **A document of whole lines is left as it is.** -/
theorem layOut_terminated {ls : List (List Char)} (h : ∀ l ∈ ls, Line l) :
    layOut (terminated ls) = .ok (terminated ls) := by
  have passes : ({} : Layout).passAll (terminated ls) = .ok (Layout.atStart ((terminated ls).reverse ++ [])) :=
    Layout.passAll_terminated h []
  rw [layOut, passes]
  simp [Layout.atStart]

end PortMap.Toml
