import PortMap.Proofs.Route.Handled
import PortMap.Proofs.Text.Segments

/-!
# The first line that names a gateway

The three readers of routes look at the lines of a text one after the other, and the first line that names a
gateway is the answer. What a reader finds is therefore found part by part: a text is searched, and if nothing
is found in it, what follows it after a break (`FindsFirst`). The table of the kernel is read below its first
line, so that what follows has to be read below some first line, too.

## What is proved

* `findsFirst_lines`, `findsFirst_below` — this holds of every search through the lines of a text, or through
  those below the first one, that finds nothing on an empty line. How the lines are broken, and whether a break
  is cut in two, does not matter.
* `readers_findFirst` — **so it holds of the three readers**, and no failure leaves them.
-/

namespace PortMap.Route

open Text

/-! ### Searches that find the first -/

/-- A reader finds the first of what the lines of a text tell: `whole` reads a text, and `below` a text that
follows a break. -/
structure FindsFirst (whole below : List Char → Option Address) : Prop where
  /-- What follows a break counts if nothing is found before it. -/
  append : ∀ b ∈ breaks, ∀ s t, whole (s ++ b ++ t) = (whole s).or (below t)
  /-- A line that tells nothing may be put between two lines. -/
  between : ∀ b ∈ breaks, ∀ b' ∈ breaks, ∀ line, below line = none →
    ∀ s t, whole (s ++ b ++ line ++ b' ++ t) = whole (s ++ b ++ t)
  /-- It may be put before the first line. -/
  first : ∀ b ∈ breaks, ∀ line, below line = none → ∀ t, below (line ++ b ++ t) = below t
  /-- It may be put after the last line. -/
  last : ∀ b ∈ breaks, ∀ line, below line = none → ∀ s, whole (s ++ b ++ line) = whole s

/-- All of it follows from what is found on both sides of a break. -/
theorem findsFirst_of_append {whole below : List Char → Option Address}
    (append : ∀ b ∈ breaks, ∀ s t, whole (s ++ b ++ t) = (whole s).or (below t))
    (append_below : ∀ b ∈ breaks, ∀ s t, below (s ++ b ++ t) = (below s).or (below t)) :
    FindsFirst whole below where
  append := append
  between b hb b' hb' line silent s t := by
    have after := append b hb s (line ++ b' ++ t)
    rw [append_below b' hb' line t, silent, Option.none_or] at after
    rw [append b hb s t, ← after]
    simp only [List.append_assoc]
  first b hb line silent t := by
    rw [append_below b hb line t, silent, Option.none_or]
  last b hb line silent s := by
    rw [append b hb s line, silent, Option.or_none]

variable {read : List Char → Option Address}

/-- Empty lines are passed over. -/
theorem findSome?_filter_notEmpty (h : read [] = none) (ls : List (List Char)) :
    ls.findSome? read = (ls.filter (· ≠ [])).findSome? read := by
  induction ls with
  | nil => rfl
  | cons l ls ih =>
    by_cases empty : l = []
    · simp [empty, h, ih]
    · simp [empty, List.findSome?_cons, ih]

theorem findSome?_lines_append (h : read [] = none) {b : List Char} (hb : b ∈ breaks) (s t : List Char) :
    (lines (s ++ b ++ t)).findSome? read = ((lines s).findSome? read).or ((lines t).findSome? read) := by
  simp only [findSome?_filter_notEmpty h (lines _)]
  rw [← List.findSome?_append]
  exact congrArg _ (filled_append_break hb s t)

/-- A search through the lines of a text finds the first. -/
theorem findsFirst_lines (h : read [] = none) :
    FindsFirst (fun s => (lines s).findSome? read) (fun s => (lines s).findSome? read) :=
  findsFirst_of_append (fun _ hb => findSome?_lines_append h hb) fun _ hb => findSome?_lines_append h hb

/-- What is found below a first line. -/
theorem findSome?_below (h : read [] = none) {heading : List Char} (unbroken : IsUnbroken heading)
    {b : List Char} (hb : b ∈ breaks) (t : List Char) :
    ((lines (heading ++ b ++ t)).drop 1).findSome? read = (lines t).findSome? read := by
  rw [findSome?_filter_notEmpty h, findSome?_filter_notEmpty h (lines t)]
  congr 1
  rcases (mem_breaks_iff b).mp hb with rfl | ⟨c, ends, rfl⟩
  · rw [List.append_assoc, List.cons_append, filled_below unbroken (by decide)]
    exact filled_cons (by decide) t
  · rw [List.append_assoc, List.singleton_append, filled_below unbroken ends]
    rfl

theorem findSome?_below_append (h : read [] = none) {b : List Char} (hb : b ∈ breaks) (s t : List Char) :
    ((lines (s ++ b ++ t)).drop 1).findSome? read =
      (((lines s).drop 1).findSome? read).or ((lines t).findSome? read) := by
  -- the first line is cut off where it ends: in the first text, or at the break
  rcases isUnbroken_or s with unbroken | ⟨l, c, rest, rfl, unbroken, ends⟩
  · have nothing : (lines s).drop 1 = [] := by
      rw [lines_of_isUnbroken unbroken]
      split <;> rfl
    rw [findSome?_below h unbroken hb, nothing, List.findSome?_nil, Option.none_or]
  · have first := findSome?_below h unbroken (singleton_mem_breaks ends)
    simp only [List.append_assoc, List.singleton_append] at first
    rw [List.append_assoc, List.append_assoc, List.cons_append, first, first, ← List.append_assoc,
      findSome?_lines_append h hb]

/-- A search through the lines below the first one finds the first. -/
theorem findsFirst_below (h : read [] = none) {heading : List Char} (unbroken : IsUnbroken heading)
    {b : List Char} (hb : b ∈ breaks) :
    FindsFirst (fun s => ((lines s).drop 1).findSome? read)
      fun t => ((lines (heading ++ b ++ t)).drop 1).findSome? read := by
  refine findsFirst_of_append ?_ ?_
  · intro b' hb' s t
    rw [findSome?_below_append h hb', findSome?_below h unbroken hb]
  · intro b' hb' s t
    rw [findSome?_below h unbroken hb, findSome?_below h unbroken hb, findSome?_below h unbroken hb,
      findSome?_lines_append h hb']

/-! ### The three readers -/

/-- **The readers of routes find the first line that names a gateway**, whatever breaks the lines, and a line
that names none may be added anywhere; below a heading, for the table of the kernel. No failure leaves them:
the search for a gateway that tells failures apart ends without one. -/
theorem readers_findFirst :
    FindsFirst CommandOutput.gateway? CommandOutput.gateway? ∧
    FindsFirst PrintedTable.gateway? PrintedTable.gateway? ∧
    (∀ heading, IsUnbroken heading → ∀ b ∈ breaks,
      FindsFirst KernelTable.gateway? fun t => KernelTable.gateway? (heading ++ b ++ t)) ∧
    ∀ text, CommandOutput.search text = .ok (CommandOutput.gateway? text) ∧
      PrintedTable.search text = .ok (PrintedTable.gateway? text) ∧
      KernelTable.search text = .ok (KernelTable.gateway? text) := by
  refine ⟨findsFirst_lines rfl, findsFirst_lines rfl, ?_, ?_⟩
  · intro heading unbroken b hb
    exact findsFirst_below rfl unbroken hb
  · intro text
    exact ⟨CommandOutput.search_eq text, PrintedTable.search_eq text, KernelTable.search_eq text⟩

/-- Between a carriage return and the line feed after it, one break is as good as two with a line of three
columns between them. -/
theorem readers_findFirst_cutBreak :
    KernelTable.gateway? "Iface\r\neth0 1 2\x0beth0 00000000 0101A8C0 0003".toList =
      KernelTable.gateway? "Iface\r\neth0 00000000 0101A8C0 0003".toList := by
  obtain ⟨-, -, kernel, -⟩ := readers_findFirst
  have reader := kernel "Iface".toList (by decide) ['\u2028'] (by decide)
  exact reader.between ['\n'] (by decide) ['\x0b'] (by decide) "eth0 1 2".toList (by decide)
    "Iface\r".toList "eth0 00000000 0101A8C0 0003".toList

end PortMap.Route
