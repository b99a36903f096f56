import PortMap.Proofs.Text.Blank

/-!
# Words and lines as segments

A list is split at the elements with a property (`List.splitOnP`); the segments of a text are what is left of
this when the empty ones are left out (`segments`). The words of a text are its segments between separators, and
its lines that are not empty are the segments between the characters that end a line.

So it does not matter to anyone who passes over empty lines that a carriage return and a line feed are one
break: the segment between them is empty.

## What is proved

* `words_eq_segments`, `filled_eq_segments` — words and lines are segments.
* `words_append_separator`, `filled_append_break` — **a separator between two texts separates their words, and
  a break between two texts their lines**, whatever the first text ends with and the second begins with.
* `filled_below` — the same for what stands below the first line.
-/

namespace PortMap.Text

/-! ### Breaks -/

/-- What ends a line. -/
def breaks : List (List Char) :=
  ["\n", "\r", "\r\n", "\x0b", "\x0c", "\x1c", "\x1d", "\x1e", "\u0085", "\u2028", "\u2029"].map
    String.toList

theorem singleton_mem_breaks {c : Char} (h : endsLine c = true) : [c] ∈ breaks := by
  have code : c.toNat ∈ [0x0A, 0x0B, 0x0C, 0x0D, 0x1C, 0x1D, 0x1E, 0x85, 0x2028, 0x2029] := by
    simp only [endsLine, Bool.or_eq_true, Bool.and_eq_true, decide_eq_true_eq, beq_iff_eq] at h
    simp only [List.mem_cons, List.not_mem_nil, or_false]
    omega
  have listed : ∀ n ∈ [0x0A, 0x0B, 0x0C, 0x0D, 0x1C, 0x1D, 0x1E, 0x85, 0x2028, 0x2029],
      [Char.ofNat n] ∈ breaks := by decide
  have same := listed c.toNat code
  rwa [Char.ofNat_toNat] at same

/-- **What ends a line**: one of the characters that do, or a carriage return with a line feed. -/
theorem mem_breaks_iff (b : List Char) :
    b ∈ breaks ↔ b = ['\r', '\n'] ∨ ∃ c, endsLine c = true ∧ b = [c] := by
  constructor
  · intro h
    have listed : ∀ b ∈ breaks, b = ['\r', '\n'] ∨ b.length = 1 ∧ b.all endsLine = true := by decide
    rcases listed b h with rfl | ⟨alone, ends⟩
    · exact .inl rfl
    · obtain ⟨c, rfl⟩ := List.length_eq_one_iff.mp alone
      exact .inr ⟨c, by simpa using ends, rfl⟩
  · rintro (rfl | ⟨c, ends, rfl⟩)
    · decide
    · exact singleton_mem_breaks ends

/-! ### Segments -/

/-- The segments of a text between the characters with a property, without the empty ones. -/
def segments (cuts : Char → Bool) (s : List Char) : List (List Char) := (s.splitOnP cuts).filter (· ≠ [])

/-- The lines of a text that are not empty. -/
def filled (s : List Char) : List (List Char) := (lines s).filter (· ≠ [])

variable {cuts : Char → Bool}

theorem segments_append {c : Char} (h : cuts c = true) (s t : List Char) :
    segments cuts (s ++ c :: t) = segments cuts s ++ segments cuts t := by
  rw [segments, List.splitOnP_append_cons s t h, List.filter_append]
  rfl

/-- The words of a text are its segments between separators. -/
theorem words_eq_segments (s : List Char) : words s = segments separatesWords s := by
  suffices general : ∀ word, wordsFrom word s =
      (List.splitOnPPrepend separatesWords s word).filter (· ≠ []) from general []
  intro word
  fun_induction wordsFrom word s with
  | case1 word h => simp [List.isEmpty_iff.mp h]
  | case2 word h =>
    have several : word ≠ [] := by simpa using h
    simp [several]
  | case3 word c rest hc h ih =>
    rw [List.splitOnPPrepend_cons_pos hc, ih]
    simp [List.isEmpty_iff.mp h]
  | case4 word c rest hc h ih =>
    have several : word ≠ [] := by simpa using h
    rw [List.splitOnPPrepend_cons_pos hc, ih]
    simp [several]
  | case5 word c rest hc ih => rw [List.splitOnPPrepend_cons_neg (by simpa using hc), ih]

/-- The lines that are not empty are the segments between the characters that end a line. -/
theorem filled_eq_segments (s : List Char) : filled s = segments endsLine s := by
  suffices general : ∀ line, (linesFrom line s).filter (· ≠ []) =
      (List.splitOnPPrepend endsLine s line).filter (· ≠ []) from general []
  intro line
  fun_induction linesFrom line s with
  | case1 line h => simp [List.isEmpty_iff.mp h]
  | case2 line h => simp
  | case3 line rest ih =>
    -- the segment between the carriage return and the line feed is empty
    rw [List.splitOnPPrepend_cons_pos (by decide), List.splitOnP_eq_splitOnPPrepend,
      List.splitOnPPrepend_cons_pos (by decide), List.filter_cons, ih]
    simp [List.filter_cons]
  | case4 line c rest _ hc ih =>
    rw [List.splitOnPPrepend_cons_pos hc, List.filter_cons, ih]
    simp [List.filter_cons]
  | case5 line c rest _ hc ih => rw [List.splitOnPPrepend_cons_neg (by simpa using hc), ih]

theorem forall_mem_splitOnPPrepend {s acc : List Char} (h : ∀ c ∈ acc, cuts c = false) :
    ∀ w ∈ List.splitOnPPrepend cuts s acc, ∀ c ∈ w, cuts c = false := by
  induction s generalizing acc with
  | nil => simpa using h
  | cons x s ih =>
    intro w hw
    by_cases hx : cuts x = true
    · rw [List.splitOnPPrepend_cons_pos hx] at hw
      rcases List.mem_cons.mp hw with rfl | hw
      · simpa using h
      · exact ih (List.forall_mem_nil _) w hw
    · have kept : cuts x = false := by simpa using hx
      rw [List.splitOnPPrepend_cons_neg kept] at hw
      refine ih ?_ w hw
      simpa using ⟨kept, h⟩

/-- The words of a text are words. -/
theorem isWord_of_mem_words {s w : List Char} (h : w ∈ words s) : IsWord w := by
  rw [words_eq_segments, segments, List.mem_filter, decide_eq_true_eq] at h
  exact ⟨h.2, forall_mem_splitOnPPrepend (List.forall_mem_nil _) w h.1⟩

/-- A separator between two texts separates their words. -/
theorem words_append_separator {c : Char} (h : separatesWords c = true) (s t : List Char) :
    words (s ++ c :: t) = words s ++ words t := by
  rw [words_eq_segments, words_eq_segments, words_eq_segments, segments_append h]

theorem filled_append {c : Char} (h : endsLine c = true) (s t : List Char) :
    filled (s ++ c :: t) = filled s ++ filled t := by
  rw [filled_eq_segments, filled_eq_segments, filled_eq_segments, segments_append h]

theorem filled_cons {c : Char} (h : endsLine c = true) (t : List Char) : filled (c :: t) = filled t :=
  filled_append h [] t

/-- **A break between two texts separates their lines.** -/
theorem filled_append_break {b : List Char} (h : b ∈ breaks) (s t : List Char) :
    filled (s ++ b ++ t) = filled s ++ filled t := by
  rcases (mem_breaks_iff b).mp h with rfl | ⟨c, ends, rfl⟩
  · rw [List.append_assoc, List.cons_append, filled_append (by decide), List.cons_append,
      filled_cons (by decide), List.nil_append]
  · rw [List.append_assoc, List.singleton_append, filled_append ends]

/-! ### Below the first line -/

/-- The first line ends at the first break; the second half of a break may stand below it. -/
theorem exists_lines_eq {l : List Char} (h : IsUnbroken l) {c : Char} (ends : endsLine c = true)
    (t : List Char) : ∃ u, lines (l ++ c :: t) = l :: lines u ∧ (u = t ∨ t = '\n' :: u) := by
  rw [lines, linesFrom_append h, List.append_nil]
  rw [linesFrom.eq_def]
  split
  · contradiction
  · rename_i rest same
    obtain ⟨-, rfl⟩ := List.cons.inj same
    exact ⟨rest, by rw [List.reverse_reverse]; rfl, .inr rfl⟩
  · rename_i same
    obtain ⟨rfl, rfl⟩ := List.cons.inj same
    exact ⟨t, by rw [if_pos ends, List.reverse_reverse]; rfl, .inl rfl⟩

/-- A text is a line, or has a first line and a break after it. -/
theorem isUnbroken_or (s : List Char) :
    IsUnbroken s ∨ ∃ l c t, s = l ++ c :: t ∧ IsUnbroken l ∧ endsLine c = true := by
  cases first : s.find? endsLine with
  | none =>
    left
    intro c hc
    simpa using List.find?_eq_none.mp first c hc
  | some c =>
    obtain ⟨ends, l, t, rfl, before⟩ := List.find?_eq_some_iff_append.mp first
    exact .inr ⟨l, c, t, rfl, fun x hx => by simpa using before x hx, ends⟩

/-- A text is a line, or has a last line and a break before it. -/
theorem isUnbroken_or_last (s : List Char) :
    IsUnbroken s ∨ ∃ t c l, s = t ++ c :: l ∧ endsLine c = true ∧ IsUnbroken l := by
  rcases isUnbroken_or s.reverse with unbroken | ⟨l, c, t, same, unbroken, ends⟩
  · exact .inl fun c hc => unbroken c (List.mem_reverse.mpr hc)
  · refine .inr ⟨t.reverse, c, l.reverse, ?_, ends, fun x hx => unbroken x (List.mem_reverse.mp hx)⟩
    rw [← List.reverse_reverse s, same]
    simp

/-- The lines of a line. -/
theorem lines_of_isUnbroken {s : List Char} (h : IsUnbroken s) : lines s = if s.isEmpty then [] else [s] := by
  have cut := linesFrom_append h [] []
  rw [List.append_nil, List.append_nil, linesFrom, List.isEmpty_reverse, List.reverse_reverse] at cut
  exact cut

/-- What stands below the first line. -/
theorem filled_below {l : List Char} (h : IsUnbroken l) {c : Char} (ends : endsLine c = true)
    (t : List Char) : ((lines (l ++ c :: t)).drop 1).filter (· ≠ []) = filled t := by
  obtain ⟨u, cut, rfl | rfl⟩ := exists_lines_eq h ends t
  · rw [cut]
    rfl
  · rw [cut, filled_cons (by decide)]
    rfl

end PortMap.Text
