import Mathlib.Data.List.TakeWhile
import PortMap.Text.Blank

/-!
# Texts that are put together and cut again

A text that is put together from lines is cut into these lines (`lines_terminated`), a line that is put
together from words and blanks into these words (`words_separator`, `words_append`), and a text from
pieces and marks into these pieces (`splitAt_append`, `splitAt_piece`).
-/

namespace PortMap.Text

/-! ### Ends -/

/-- A text without separators has no blanks at its ends. -/
theorem trim_of_unseparated {s : List Char} (h : ∀ c ∈ s, separatesWords c = false) : trim s = s := by
  have kept {t : List Char} (ht : ∀ c ∈ t, c ∈ s) : t.dropWhile isBlank = t :=
    List.dropWhile_eq_self_iff.mpr fun hl =>
      Bool.not_eq_true _ ▸ (Bool.or_eq_false_iff.mp (h _ (ht _ (List.getElem_mem hl)))).1
  rw [trim, kept fun _ => id, kept fun _ => List.mem_reverse.mp, List.reverse_reverse]

/-- A text without separators at its ends is stripped. -/
theorem strip_eq_self {s : List Char} (first : ∀ c ∈ s.head?, separatesWords c = false)
    (last : ∀ c ∈ s.getLast?, separatesWords c = false) : strip s = s := by
  have untouched {t : List Char} (h : ∀ c ∈ t.head?, separatesWords c = false) :
      t.dropWhile separatesWords = t := by
    cases t with
    | nil => rfl
    | cons c t => exact List.dropWhile_cons_of_neg (by simp [h c rfl])
  rw [strip, untouched first, untouched (by rwa [List.head?_reverse]), List.reverse_reverse]

theorem strip_blank (s : List Char) : strip (' ' :: s) = strip s := rfl

theorem strip_append_blank (s : List Char) : strip (s ++ [' ']) = strip s := by
  rw [strip, strip, List.dropWhile_append]
  split
  · rename_i none_
    rw [List.isEmpty_iff.mp none_]
    rfl
  · rw [List.reverse_append]
    rfl

/-- What is left of a text does not end with a separator. -/
theorem getLast?_strip (s : List Char) : ∀ c ∈ (strip s).getLast?, separatesWords c = false := by
  intro c hc
  rw [strip, List.getLast?_reverse] at hc
  have first := List.head?_dropWhile_not separatesWords (s.dropWhile separatesWords).reverse
  rw [hc] at first
  simpa using first

/-- What is no blank is not trimmed away. -/
theorem mem_trim {s : List Char} {c : Char} (hc : c ∈ s) (solid : isBlank c = false) : c ∈ trim s := by
  have kept {t : List Char} (h : c ∈ t) : c ∈ t.dropWhile isBlank := by
    rw [← List.takeWhile_append_dropWhile (p := isBlank) (l := t)] at h
    refine (List.mem_append.mp h).resolve_left fun dropped => ?_
    exact Bool.false_ne_true (solid.symm.trans (List.mem_takeWhile_imp dropped))
  exact List.mem_reverse.mpr (kept (List.mem_reverse.mpr (kept hc)))

/-! ### Words -/

/-- A text is a word: it is not empty, and nothing in it separates words. -/
structure IsWord (s : List Char) : Prop where
  /-- It is not empty. -/
  notEmpty : s ≠ []
  /-- Nothing in it separates words. -/
  unseparated : ∀ c ∈ s, separatesWords c = false

theorem isWord_iff (s : List Char) : s ≠ [] ∧ (s.all fun c => !separatesWords c) = true ↔ IsWord s := by
  rw [List.all_eq_true]
  constructor
  · rintro ⟨notEmpty, unseparated⟩
    exact ⟨notEmpty, fun c hc => Bool.not_eq_true' _ ▸ unseparated c hc⟩
  · intro h
    exact ⟨h.notEmpty, fun c hc => by rw [h.unseparated c hc]; rfl⟩

instance (s : List Char) : Decidable (IsWord s) := decidable_of_iff _ (isWord_iff s)

theorem wordsFrom_append {s : List Char} (h : ∀ c ∈ s, separatesWords c = false)
    (word rest : List Char) : wordsFrom word (s ++ rest) = wordsFrom (s.reverse ++ word) rest := by
  induction s generalizing word with
  | nil => rfl
  | cons c s ih =>
    have hc := h c List.mem_cons_self
    rw [List.cons_append, wordsFrom, if_neg (by rw [hc]; decide),
      ih fun x hx => h x (List.mem_cons_of_mem c hx), List.reverse_cons, List.append_assoc]
    rfl

/-- A separator before the words is passed over. -/
theorem words_separator {c : Char} (h : separatesWords c = true) (rest : List Char) :
    words (c :: rest) = words rest := by
  rw [words, wordsFrom, if_pos h]
  rfl

/-- Separators before the words are passed over. -/
theorem words_separators {s : List Char} (h : ∀ c ∈ s, separatesWords c = true) (rest : List Char) :
    words (s ++ rest) = words rest := by
  induction s with
  | nil => rfl
  | cons c s ih =>
    rw [List.cons_append, words_separator (h c List.mem_cons_self),
      ih fun x hx => h x (List.mem_cons_of_mem c hx)]

/-- A word comes first that is followed by a separator or by nothing. -/
theorem words_append {s rest : List Char} (hs : IsWord s)
    (hr : ∀ c ∈ rest.head?, separatesWords c = true) : words (s ++ rest) = s :: words rest := by
  have notEmpty : s.reverse.isEmpty = false := by
    simpa using hs.notEmpty
  rw [words, wordsFrom_append hs.unseparated, List.append_nil]
  cases rest with
  | nil =>
    rw [wordsFrom, if_neg (by rw [notEmpty]; decide), List.reverse_reverse]
    rfl
  | cons c rest =>
    have hc : separatesWords c = true := hr c rfl
    rw [words_separator hc, wordsFrom, if_pos hc, if_neg (by rw [notEmpty]; decide),
      List.reverse_reverse]
    rfl

/-! ### Lines -/

/-- Nothing in a text ends a line. -/
def IsUnbroken (s : List Char) : Prop := ∀ c ∈ s, endsLine c = false

instance (s : List Char) : Decidable (IsUnbroken s) :=
  List.decidableBAll (fun c => endsLine c = false) s

theorem IsUnbroken.append {s t : List Char} (hs : IsUnbroken s) (ht : IsUnbroken t) :
    IsUnbroken (s ++ t) := fun c hc => (List.mem_append.mp hc).elim (hs c) (ht c)

theorem IsUnbroken.cons {c : Char} {s : List Char} (hc : endsLine c = false) (hs : IsUnbroken s) :
    IsUnbroken (c :: s) := fun x hx => by
  rcases List.mem_cons.mp hx with rfl | hx
  · exact hc
  · exact hs x hx

theorem separatesWords_of_endsLine {c : Char} (h : endsLine c = true) : separatesWords c = true := by
  simp only [endsLine, separatesWords, isBlank, Bool.or_eq_true, Bool.and_eq_true, decide_eq_true_eq,
    beq_iff_eq] at h ⊢
  omega

/-- A word is within a line. -/
theorem IsWord.isUnbroken {s : List Char} (h : IsWord s) : IsUnbroken s := by
  intro c hc
  -- whatever ends a line separates words
  refine Bool.eq_false_iff.mpr fun ends => ?_
  have separates := separatesWords_of_endsLine ends
  rw [h.unseparated c hc] at separates
  cases separates

theorem linesFrom_cons {c : Char} (h : endsLine c = false) (line rest : List Char) :
    linesFrom line (c :: rest) = linesFrom (c :: line) rest := by
  rw [linesFrom, if_neg (by rw [h]; decide)]
  rintro tail rfl -
  exact absurd h (by decide)

theorem linesFrom_append {s : List Char} (h : IsUnbroken s) (line rest : List Char) :
    linesFrom line (s ++ rest) = linesFrom (s.reverse ++ line) rest := by
  induction s generalizing line with
  | nil => rfl
  | cons c s ih =>
    rw [List.cons_append, linesFrom_cons (h c List.mem_cons_self),
      ih fun x hx => h x (List.mem_cons_of_mem c hx), List.reverse_cons, List.append_assoc]
    rfl

/-- The first line ends at the first line feed. -/
theorem lines_append {s : List Char} (h : IsUnbroken s) (rest : List Char) :
    lines (s ++ '\n' :: rest) = s :: lines rest := by
  rw [lines, linesFrom_append h, List.append_nil, linesFrom, if_pos (by decide), List.reverse_reverse]
  · rfl
  · rintro tail ⟨⟩

/-- The text of lines, each of them with a line feed after it. -/
def terminated (ls : List (List Char)) : List Char := ls.flatMap fun l => l ++ ['\n']

theorem terminated_cons (l : List Char) (ls : List (List Char)) :
    terminated (l :: ls) = l ++ '\n' :: terminated ls := by
  rw [terminated, List.flatMap_cons, List.append_assoc]
  rfl

theorem terminated_append (ls ls' : List (List Char)) :
    terminated (ls ++ ls') = terminated ls ++ terminated ls' :=
  List.flatMap_append

/-- The text of lines is cut into these lines. -/
theorem lines_terminated {ls : List (List Char)} (h : ∀ l ∈ ls, IsUnbroken l) :
    lines (terminated ls) = ls := by
  induction ls with
  | nil => rfl
  | cons l ls ih =>
    rw [terminated_cons, lines_append (h l List.mem_cons_self), ih fun x hx => h x (List.mem_cons_of_mem l hx)]

/-! ### Pieces -/

theorem splitFrom_append {mark : Char} {s : List Char} (h : mark ∉ s) (piece rest : List Char) :
    splitFrom mark piece (s ++ rest) = splitFrom mark (s.reverse ++ piece) rest := by
  induction s generalizing piece with
  | nil => rfl
  | cons c s ih =>
    rw [List.mem_cons, not_or] at h
    rw [List.cons_append, splitFrom, if_neg (Ne.symm h.1), ih h.2, List.reverse_cons, List.append_assoc]
    rfl

/-- The first piece ends at the first mark. -/
theorem splitAt_append {mark : Char} {s : List Char} (h : mark ∉ s) (rest : List Char) :
    splitAt mark (s ++ mark :: rest) = s :: splitAt mark rest := by
  rw [splitAt, splitFrom_append h, List.append_nil, splitFrom, if_pos rfl, List.reverse_reverse]
  rfl

/-- A text without a mark is one piece. -/
theorem splitAt_piece {mark : Char} {s : List Char} (h : mark ∉ s) : splitAt mark s = [s] := by
  have split := splitFrom_append h [] []
  rw [List.append_nil, List.append_nil, splitFrom, List.reverse_reverse] at split
  exact split

/-- Between line feeds, the text of lines consists of these lines and of nothing after the last one. -/
theorem splitAt_terminated {ls : List (List Char)} (h : ∀ l ∈ ls, '\n' ∉ l) :
    splitAt '\n' (terminated ls) = ls ++ [[]] := by
  induction ls with
  | nil => rfl
  | cons l ls ih =>
    obtain ⟨first, others⟩ := List.forall_mem_cons.mp h
    rw [terminated_cons, splitAt_append first, ih others, List.cons_append]

/-- The pieces of a text, with the marks between them, are the text. -/
theorem intercalate_splitFrom (mark : Char) (piece s : List Char) :
    [mark].intercalate (splitFrom mark piece s) = piece.reverse ++ s := by
  have notEmpty (piece s : List Char) : splitFrom mark piece s ≠ [] := by
    induction s generalizing piece with
    | nil => exact List.cons_ne_nil _ _
    | cons c s ih =>
      rw [splitFrom]
      split
      · exact List.cons_ne_nil _ _
      · exact ih _
  induction s generalizing piece with
  | nil => simp [splitFrom]
  | cons c s ih =>
    rw [splitFrom]
    split
    · rename_i isMark
      rw [List.intercalate_cons_of_ne_nil (notEmpty _ _), ih, isMark]
      simp
    · rw [ih, List.reverse_cons, List.append_assoc]
      rfl

theorem intercalate_splitAt (mark : Char) (s : List Char) : [mark].intercalate (splitAt mark s) = s :=
  intercalate_splitFrom mark [] s

end PortMap.Text
