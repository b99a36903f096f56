import PortMap.Text.Encoding

/-!
# Bytes that are text

Bytes are read as ASCII exactly if all of them are below 128 (`readAscii_of_plain`,
`readAscii_of_foreign`).
-/

namespace PortMap.Text

theorem asciiFrom_of_plain {d : List UInt8} (h : ∀ b ∈ d, b < 0x80) (place : Nat) :
    asciiFrom place d = .ok (d.map fun b => Char.ofNat b.toNat) := by
  induction d generalizing place with
  | nil => rfl
  | cons b d ih =>
    rw [asciiFrom, if_pos (h b List.mem_cons_self), ih fun x hx => h x (List.mem_cons_of_mem b hx)]
    rfl

/-- Bytes below 128 are read one by one. -/
theorem readAscii_of_plain {d : List UInt8} (h : ∀ b ∈ d, b < 0x80) :
    readAscii d = .ok (d.map fun b => Char.ofNat b.toNat) := asciiFrom_of_plain h 0

theorem asciiFrom_of_foreign {d : List UInt8} {b : UInt8} (hb : b ∈ d) (large : ¬ b < 0x80)
    (place : Nat) : ∃ u, asciiFrom place d = .error u := by
  induction d generalizing place with
  | nil => cases hb
  | cons x d ih =>
    rw [asciiFrom]
    split
    · rcases List.mem_cons.mp hb with rfl | hb
      · exact absurd ‹b < 0x80› large
      · obtain ⟨u, hu⟩ := ih hb (place + 1)
        rw [hu]
        exact ⟨u, rfl⟩
    · exact ⟨_, rfl⟩

/-- A byte from 128 on stops the reading. -/
theorem readAscii_of_foreign {d : List UInt8} {b : UInt8} (hb : b ∈ d) (large : ¬ b < 0x80) :
    ∃ u, readAscii d = .error u := asciiFrom_of_foreign hb large 0

/-- Bytes are no text in ASCII exactly if one of them is 128 or more. -/
theorem exists_readAscii_eq_error_iff (d : List UInt8) :
    (∃ u, readAscii d = .error u) ↔ ∃ b ∈ d, ¬ b < 0x80 := by
  constructor
  · rintro ⟨u, hu⟩
    refine Decidable.by_contra fun none => ?_
    have plain : ∀ b ∈ d, b < 0x80 := fun b hb => Decidable.by_contra fun large => none ⟨b, hb, large⟩
    rw [readAscii_of_plain plain] at hu
    cases hu
  · rintro ⟨b, hb, large⟩
    exact readAscii_of_foreign hb large

end PortMap.Text
