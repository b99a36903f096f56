import Mathlib.Data.List.Forall2
import PortMap.Proofs.Numeral.Hexadecimal
import PortMap.Proofs.Route.Fold
import PortMap.Proofs.Route.KernelRow

/-!
# A table of the kernel with lines that are none of its own

Between the rows of a table there may be stray lines: lines with fewer than four columns, and lines whose
gateway is not the numeral of a word of 32 bits (`IsStray`). The flags of a row may be written with any number of
digits from four on, in small or capital letters (`Row.ShownBy`).

## What is proved

* `gatewayOfLine_of_shownBy`, `gatewayOfLine_of_isStray` — what is read from one line.
* `findSome?_of_interspersed` — what is read from lines of both kinds: the rows count, and nothing else.
* `mixed_table_read` — **what is read from a table**: the gateway of the first row with destination zero and the
  gateway flag, from its least significant byte on, and nothing if there is no such row.
-/

namespace PortMap.Route.KernelTable

open Text

/-! ### Rows -/

/-- A character is a digit in base 16, in a small or a capital letter. -/
def WritesDigit (c : Char) (d : Nat) : Prop := d < 16 ∧ (c = Nat.digitChar d ∨ c = capitalDigit d)

/-- Digits in base 16 are written for a number. -/
def WritesNumber (s : List Char) (n : Nat) : Prop :=
  ∃ ds, List.Forall₂ WritesDigit s ds ∧ numberOf 16 ds = n

/-- A line shows a row: it is the line of the row, with four digits or more for the flags. -/
def Row.ShownBy (r : Row) (line : List Char) : Prop :=
  ∃ flags, 4 ≤ flags.length ∧ WritesNumber flags r.flags.toNat ∧ line = r.writeWith flags

theorem WritesDigit.reads {c : Char} {d : Nat} (h : WritesDigit c d) :
    hexValue? c = some d ∧ separatesWords c = false := by
  have small : ∀ d < 16, hexValue? (Nat.digitChar d) = some d ∧ separatesWords (Nat.digitChar d) = false := by
    decide
  obtain ⟨bound, rfl | rfl⟩ := h
  · exact small d bound
  · exact ⟨(capitalDigit_reads d bound).1, (capitalDigit_plain d bound).1⟩

/-- Digits are a run of digits. -/
theorem digitRun_of_writesDigit {s : List Char} {ds : List Nat} (h : List.Forall₂ WritesDigit s ds)
    (notEmpty : s ≠ []) : DigitRun s ds := by
  induction h with
  | nil => exact absurd rfl notEmpty
  | cons head tail ih =>
    cases tail with
    | nil => exact .one head.reads.1
    | cons _ _ => exact .cons head.reads.1 (ih (List.cons_ne_nil _ _))

theorem unseparated_of_writesDigit {s : List Char} {ds : List Nat} (h : List.Forall₂ WritesDigit s ds) :
    ∀ c ∈ s, separatesWords c = false := by
  induction h with
  | nil => simp
  | cons head _ ih => exact List.forall_mem_cons.mpr ⟨head.reads.2, ih⟩

/-- What is written in digits is a word, and is read as its number. -/
theorem WritesNumber.reads {s : List Char} {n : Nat} (h : WritesNumber s n) (notEmpty : s ≠ []) :
    IsWord s ∧ readHex? s = some (n : Int) := by
  obtain ⟨ds, digits, rfl⟩ := h
  have unseparated := unseparated_of_writesDigit digits
  refine ⟨⟨notEmpty, unseparated⟩, (readHex?_eq_some_iff unseparated).mpr ?_⟩
  exact .unsigned .absent (digitRun_of_writesDigit digits notEmpty)

/-- The line that shows a row is one line, and the gateway of the row is read from it. -/
theorem gatewayOfLine_of_shownBy {r : Row} {line : List Char} (h : r.ShownBy line) :
    IsUnbroken line ∧ gatewayOfLine line = r.gateway? := by
  obtain ⟨flags, wide, digits, rfl⟩ := h
  have notEmpty : flags ≠ [] := List.ne_nil_of_length_pos (by omega)
  obtain ⟨word, reads⟩ := digits.reads notEmpty
  exact ⟨r.isUnbroken_writeWith word, gatewayOfLine_writeWith word r reads⟩

/-! ### Stray lines -/

/-- A column is the numeral of no word of 32 bits: it is no numeral in base 16, or its number is out of
range. -/
def NamesNoWord (column : List Char) : Prop := ∀ n, HexNumeral column n → ¬ (0 ≤ n ∧ n < 2 ^ 32)

theorem namesNoWord_iff {column : List Char} (h : IsWord column) :
    NamesNoWord column ↔ readWord? column = none := by
  simp only [NamesNoWord, ← readHex?_eq_some_iff h.unseparated, readWord?]
  cases readHex? column with
  | none => simp
  | some n => simp

/-- A line that is no row of a table. -/
inductive IsStray : List Char → Prop where
  /-- It has fewer than four columns. -/
  | short {line : List Char} : IsUnbroken line → (words line).length < 4 → IsStray line
  /-- Its gateway is not the numeral of a word. -/
  | noWord {line column : List Char} : IsUnbroken line → (words line)[2]? = some column →
      NamesNoWord column → IsStray line

theorem IsStray.isUnbroken {line : List Char} (h : IsStray line) : IsUnbroken line := by
  cases h with
  | short unbroken _ | noWord unbroken _ _ => exact unbroken

/-- Nothing is read from a stray line. -/
theorem gatewayOfLine_of_isStray {line : List Char} (h : IsStray line) : gatewayOfLine line = none := by
  unfold gatewayOfLine
  cases h with
  | short _ few =>
    split
    · rename_i same
      rw [same] at few
      simp only [List.length_cons] at few
      omega
    · rfl
  | noWord _ third outside =>
    split
    · rename_i name destination column flags rest same
      have word : IsWord column := isWord_of_mem_words (by rw [same]; simp)
      rw [same] at third
      obtain rfl : column = _ := Option.some.inj third
      rw [namesNoWord_iff word] at outside
      rw [outside, ite_self, ite_self]
    · rfl

/-! ### Tables -/

/-- Lines that show the given rows in their order, with stray lines among them. -/
inductive Interspersed : List (List Char) → List Row → Prop where
  /-- No lines. -/
  | nil : Interspersed [] []
  /-- The line of a row. -/
  | row {r : Row} {line : List Char} {body : List (List Char)} {rows : List Row} : r.ShownBy line →
      Interspersed body rows → Interspersed (line :: body) (r :: rows)
  /-- A stray line. -/
  | stray {line : List Char} {body : List (List Char)} {rows : List Row} : IsStray line →
      Interspersed body rows → Interspersed (line :: body) rows

theorem Interspersed.isUnbroken {body : List (List Char)} {rows : List Row} (h : Interspersed body rows) :
    ∀ line ∈ body, IsUnbroken line := by
  induction h with
  | nil => simp
  | row shown _ ih => exact List.forall_mem_cons.mpr ⟨(gatewayOfLine_of_shownBy shown).1, ih⟩
  | stray isStray _ ih => exact List.forall_mem_cons.mpr ⟨isStray.isUnbroken, ih⟩

/-- **The rows count, and nothing else.** -/
theorem findSome?_of_interspersed {body : List (List Char)} {rows : List Row} (h : Interspersed body rows) :
    body.findSome? gatewayOfLine = rows.findSome? Row.gateway? := by
  induction h with
  | nil => rfl
  | row shown _ ih =>
    rw [List.findSome?_cons, List.findSome?_cons, (gatewayOfLine_of_shownBy shown).2, ih]
  | stray isStray _ ih => rw [List.findSome?_cons, gatewayOfLine_of_isStray isStray, ih]

/-- A last line feed does not count. -/
theorem gateway?_append_lineFeed (text : List Char) : gateway? (text ++ ['\n']) = gateway? text := by
  have cut := @findSome?_below_append gatewayOfLine rfl ['\n'] (by decide) text []
  rw [List.append_nil] at cut
  rw [gateway?, cut]
  exact Option.or_none

/-- What is read from a table is read from its rows. -/
theorem gateway?_of_interspersed {heading : List Char} (h : IsUnbroken heading) {body : List (List Char)}
    {rows : List Row} (mixed : Interspersed body rows) :
    gateway? (terminated (heading :: body)) = rows.findSome? Row.gateway? := by
  have unbroken : ∀ line ∈ heading :: body, IsUnbroken line := List.forall_mem_cons.mpr ⟨h, mixed.isUnbroken⟩
  rw [gateway?, lines_terminated unbroken, List.drop_one, List.tail_cons, findSome?_of_interspersed mixed]

/-! ### The default route -/

/-- The octets of an address, from the first on, are the bytes of a word, from the least significant one on. -/
def HasBytes (w : UInt32) (x : Address) : Prop :=
  x.a.toNat = w.toNat % 2 ^ 8 ∧ x.b.toNat = w.toNat / 2 ^ 8 % 2 ^ 8 ∧
    x.c.toNat = w.toNat / 2 ^ 16 % 2 ^ 8 ∧ x.d.toNat = w.toNat / 2 ^ 24

theorem hasBytes_iff (w : UInt32) (x : Address) : HasBytes w x ↔ addressOfWord w.toNat = x := by
  have small : w.toNat / 2 ^ 24 < 2 ^ 8 := by
    have bound : w.toNat < 2 ^ 32 := w.toNat_lt
    omega
  obtain ⟨a, b, c, d⟩ := x
  simp only [HasBytes, addressOfWord, Address.mk.injEq, ← UInt8.toNat_inj, UInt8.toNat_ofNat',
    Nat.mod_eq_of_lt small]
  constructor
  · rintro ⟨ha, hb, hc, hd⟩
    exact ⟨ha.symm, hb.symm, hc.symm, hd.symm⟩
  · rintro ⟨ha, hb, hc, hd⟩
    exact ⟨ha.symm, hb.symm, hc.symm, hd.symm⟩

/-- A row has destination zero and the gateway flag. -/
def Row.IsDefault (r : Row) : Prop := r.destination = 0 ∧ r.flags.toNat.testBit 1

instance (r : Row) : Decidable r.IsDefault := instDecidableAnd

theorem Row.gateway?_of_isDefault (r : Row) (h : r.IsDefault) :
    r.gateway? = some (addressOfWord r.gateway.toNat) :=
  if_pos h

theorem Row.gateway?_of_not_isDefault (r : Row) (h : ¬ r.IsDefault) : r.gateway? = none := if_neg h

/-- What is read from rows: the gateway of the first default route. -/
theorem findSome?_gateway? (rows : List Row) : rows.findSome? Row.gateway? =
    (rows.find? fun r => r.IsDefault).map fun r => addressOfWord r.gateway.toNat := by
  induction rows with
  | nil => rfl
  | cons r rows ih =>
    rw [List.findSome?_cons, List.find?_cons]
    by_cases isDefault : r.IsDefault
    · rw [r.gateway?_of_isDefault isDefault, decide_eq_true isDefault, Option.map_some]
    · rw [r.gateway?_of_not_isDefault isDefault, decide_eq_false isDefault, ih]

/-- **What is read from a table with stray lines**: the gateway of the first row with destination zero and the
gateway flag, whose octets are the bytes of the word that is written, from the least significant one on. Nothing
is read exactly if there is no such row. The last line may be ended or not. -/
theorem mixed_table_read {heading : List Char} (h : IsUnbroken heading) {body : List (List Char)}
    {rows : List Row} (mixed : Interspersed body rows) {text : List Char}
    (ended : text = terminated (heading :: body) ∨ text ++ ['\n'] = terminated (heading :: body)) :
    (∀ x, gateway? text = some x ↔
      ∃ r, (rows.find? fun r => r.IsDefault) = some r ∧ HasBytes r.gateway x) ∧
    (gateway? text = none ↔ ∀ r ∈ rows, ¬ r.IsDefault) := by
  have read : gateway? text =
      (rows.find? fun r => r.IsDefault).map fun r => addressOfWord r.gateway.toNat := by
    rw [← findSome?_gateway?, ← gateway?_of_interspersed h mixed]
    rcases ended with rfl | ended
    · rfl
    · rw [← ended, gateway?_append_lineFeed]
  constructor
  · intro x
    rw [read, Option.map_eq_some_iff]
    simp only [hasBytes_iff]
  · rw [read, Option.map_eq_none_iff, List.find?_eq_none]
    simp only [decide_eq_true_eq]

/-- The row of a default route through `192.168.1.1`. -/
def homeRow : Row where
  interface := "eth0".toList
  isWord_interface := by decide
  destination := 0
  gateway := 0x0101A8C0
  flags := 0xb
  further := ["0".toList, "0".toList]
  isUnbroken_further := by decide

/-- The row comes after a line of three columns, a gateway that is no numeral, and one that is too large; its
flags are written with six digits, one of them a small letter. -/
theorem mixed_table_read_home :
    let body := ["eth0\t00000000\t0101A8C0".toList, "eth0\t00000000\tZZZZ\t0003".toList,
      "eth0\t00000000\t1FFFFFFFF\t0003".toList, "eth0\t00000000\t0101A8C0\t00000b\t0\t0".toList]
    gateway? (terminated ("Iface".toList :: body)) = some ⟨192, 168, 1, 1⟩ := by
  intro body
  have shown : homeRow.ShownBy "eth0\t00000000\t0101A8C0\t00000b\t0\t0".toList := by
    refine ⟨"00000b".toList, by decide, ⟨[0, 0, 0, 0, 0, 11], ?_, by decide⟩, by decide⟩
    simp [WritesDigit]
  have mixed : Interspersed body [homeRow] := by
    refine .stray (.short (by decide) (by decide)) (.stray (.noWord (by decide) rfl ?_)
      (.stray (.noWord (by decide) rfl ?_) (.row shown .nil)))
    · exact (namesNoWord_iff (by decide)).mpr (by decide)
    · exact (namesNoWord_iff (by decide)).mpr (by decide)
  have unbroken : IsUnbroken "Iface".toList := by decide
  obtain ⟨reads, -⟩ := mixed_table_read unbroken mixed (.inl rfl)
  have found : [homeRow].find? (fun r => r.IsDefault) = some homeRow :=
    List.find?_cons_of_pos (by decide)
  exact (reads _).mpr ⟨homeRow, found, (hasBytes_iff _ _).mpr (by decide)⟩

end PortMap.Route.KernelTable
