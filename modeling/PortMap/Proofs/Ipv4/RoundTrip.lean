import Mathlib.Tactic.Tauto
import PortMap.Ipv4.Address
import PortMap.Proofs.Numeral.Digits

/-!
# Addresses read back

The dotted text of an address is read as this address, and no other text is
(`Address.readFrom_eq_ok_iff`), so that taking the text of an address for an address once more changes
nothing (`Address.ofValue_text`).
-/

namespace PortMap

open Text

/-- The digits of an octet are read as this octet. -/
theorem Octet.read_digitChars (x : UInt8) : Octet.read (Decimal.digitChars x.toNat) = .ok x := by
  have small : x.toNat < 256 := x.toNat_lt
  have notEmpty : (Decimal.digitChars x.toNat).isEmpty = false :=
    List.isEmpty_eq_false_iff.mpr Nat.toDigits_ne_nil
  have digits : (Decimal.digitChars x.toNat).all isPlainDigit = true :=
    List.all_eq_true.mpr fun c hc => isPlainDigit_of_mem_digitChars hc
  have short : (Decimal.digitChars x.toNat).length ≤ 3 :=
    (Nat.length_toDigits_le_iff (by decide) (by decide)).mpr (by omega)
  have noLeadingZero : ¬ (Decimal.digitChars x.toNat ≠ ['0'] ∧
      (Decimal.digitChars x.toNat).head? = some '0') := by
    rintro ⟨several, zero⟩
    by_cases h : x.toNat = 0
    · exact several (by rw [h]; rfl)
    · exact head?_digitChars h zero
  rw [Octet.read, if_neg (by rw [notEmpty]; decide), if_neg (by rw [digits]; decide),
    if_neg (Nat.not_lt.mpr short), if_neg noLeadingZero, plainNumber_digitChars]
  dsimp only
  rw [if_neg (by omega), UInt8.ofNat_toNat]

/-- **An octet is read from its digits only.** -/
theorem Octet.read_eq_ok_iff {s : List Char} {x : UInt8} :
    Octet.read s = .ok x ↔ s = Decimal.digitChars x.toNat := by
  constructor
  · intro reads
    simp only [Octet.read, List.isEmpty_iff, Bool.not_eq_true', ne_eq] at reads
    split at reads
    · cases reads
    rename_i notEmpty
    split at reads
    · cases reads
    rename_i digits
    split at reads
    · cases reads
    split at reads
    · cases reads
    rename_i noLeadingZero
    split at reads
    · cases reads
    rename_i small
    rw [Bool.not_eq_false, List.all_eq_true] at digits
    have same := digitChars_plainNumber notEmpty digits fun several zero => noLeadingZero ⟨several, zero⟩
    have number : x.toNat = plainNumber s := by
      rw [← Except.ok.inj reads]
      exact UInt8.toNat_ofNat_of_lt' (show plainNumber s < 256 by omega)
    rw [number, same]
  · rintro rfl
    exact Octet.read_digitChars x

namespace Address

/-- No octet holds a point or a slash. -/
theorem notMem_digitChars {c : Char} (h : c.isDigit = false) (n : Nat) : c ∉ Decimal.digitChars n :=
  fun hc => by
    rw [isDigit_of_mem_digitChars hc] at h
    cases h

theorem splitAt_chars (x : Address) : splitAt '.' x.chars =
    [Decimal.digitChars x.a.toNat, Decimal.digitChars x.b.toNat, Decimal.digitChars x.c.toNat,
      Decimal.digitChars x.d.toNat] := by
  have point (n : Nat) := notMem_digitChars (c := '.') (by decide) n
  rw [chars, splitAt_append (point _), splitAt_append (point _), splitAt_append (point _),
    splitAt_piece (point _)]

/-- The dotted text of an address is read as this address. -/
theorem readFrom_chars (literal : String) (x : Address) : readFrom literal x.chars = .ok x := by
  have noSlash : x.chars.contains '/' = false := by
    have slash (n : Nat) := notMem_digitChars (c := '/') (by decide) n
    rw [List.contains_eq_mem, decide_eq_false_iff_not]
    simp [chars, slash]
  have notEmpty : x.chars.isEmpty = false := by
    simp [chars]
  rw [readFrom, if_neg (by rw [noSlash]; decide), if_neg (by rw [notEmpty]; decide), splitAt_chars]
  simp only [readOctets, Octet.read_digitChars, Except.mapError]

theorem readOctets_eq_ok {text : String} {a b c d : List Char} {x : Address}
    (reads : readOctets text a b c d = .ok x) :
    Octet.read a = .ok x.a ∧ Octet.read b = .ok x.b ∧ Octet.read c = .ok x.c ∧ Octet.read d = .ok x.d := by
  unfold readOctets at reads
  cases ha : Octet.read a <;> cases hb : Octet.read b <;> cases hc : Octet.read c <;>
    cases hd : Octet.read d <;> simp only [ha, hb, hc, hd, Except.mapError] at reads <;> cases reads
  exact ⟨rfl, rfl, rfl, rfl⟩

/-- **An address is read from its dotted text only.** -/
theorem readFrom_eq_ok_iff {literal : String} {s : List Char} {x : Address} :
    readFrom literal s = .ok x ↔ s = x.chars := by
  constructor
  · intro reads
    unfold readFrom at reads
    split at reads
    · cases reads
    split at reads
    · cases reads
    split at reads
    · rename_i a b c d pieces
      obtain ⟨ha, hb, hc, hd⟩ := readOctets_eq_ok reads
      rw [Octet.read_eq_ok_iff] at ha hb hc hd
      have joined := intercalate_splitAt '.' s
      rw [pieces] at joined
      rw [← joined, ha, hb, hc, hd]
      simp [chars, List.intercalate]
    · cases reads
  · rintro rfl
    exact readFrom_chars literal x

/-- The dotted text of an address is read as this address. -/
theorem read?_chars (x : Address) : read? x.chars = some x := by
  rw [read?, read, readFrom_chars]
  rfl

/-- The text of an address, taken for an address, is this address. -/
theorem ofValue_text (x : Address) : ofValue (.text x.text) = .ok x := by
  rw [ofValue]
  simp only [Value.wholeNumber?, Value.display, text, String.toList_ofList]
  exact readFrom_chars _ x

/-- The dotted text of an address is a word. -/
theorem isWord_chars (x : Address) : IsWord x.chars := by
  refine ⟨by simp [chars], fun c hc => ?_⟩
  have parts : c.isDigit = true ∨ c = '.' := by
    simp only [chars, List.mem_append, List.mem_cons] at hc
    have digit {n : Nat} (h : c ∈ Decimal.digitChars n) := isDigit_of_mem_digitChars h
    tauto
  rcases parts with h | rfl
  · exact separatesWords_of_isDigit h
  · decide

end Address

end PortMap
