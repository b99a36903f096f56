import PortMap.Wire.Field

/-!
# Laws of fields

The bytes of a field are the number that was put into it, and no other number
(`put16_eq_iff`, `put32_eq_iff`): this is the law by which messages are read back.
-/

namespace PortMap.Wire

theorem toNat_ofNat_byte (n : Nat) : (UInt8.ofNat n).toNat = n % 2 ^ 8 := UInt8.toNat_ofNat'

theorem get16_lt (d : Bytes) (i : Nat) : get16 d i < 2 ^ 16 := by
  have h₀ := (get8 d i).toNat_lt
  have h₁ := (get8 d (i + 1)).toNat_lt
  unfold get16
  omega

theorem get32_lt (d : Bytes) (i : Nat) : get32 d i < 2 ^ 32 := by
  have h₀ := get16_lt d i
  have h₁ := get16_lt d (i + 2)
  unfold get32
  omega

theorem ofNat_get16_eq_iff (d : Bytes) (i : Nat) (x : UInt16) :
    UInt16.ofNat (get16 d i) = x ↔ get16 d i = x.toNat := by
  rw [← UInt16.toNat_inj, UInt16.toNat_ofNat_of_lt' (get16_lt d i)]

theorem ofNat_get32_eq_iff (d : Bytes) (i : Nat) (x : UInt32) :
    UInt32.ofNat (get32 d i) = x ↔ get32 d i = x.toNat := by
  rw [← UInt32.toNat_inj, UInt32.toNat_ofNat_of_lt' (get32_lt d i)]

/-- Two bytes are the field of a number exactly if they read as that number. -/
theorem put16_eq_iff {n : Nat} (hn : n < 2 ^ 16) (d : Bytes) (i : Nat) :
    put16 n = [get8 d i, get8 d (i + 1)] ↔ get16 d i = n := by
  have h₀ := (get8 d i).toNat_lt
  have h₁ := (get8 d (i + 1)).toNat_lt
  simp only [put16, get16, List.cons.injEq, and_true, ← UInt8.toNat_inj, toNat_ofNat_byte]
  omega

/-- Four bytes are the field of a number exactly if they read as that number. -/
theorem put32_eq_iff {n : Nat} (hn : n < 2 ^ 32) (d : Bytes) (i : Nat) :
    put32 n = [get8 d i, get8 d (i + 1), get8 d (i + 2), get8 d (i + 3)] ↔ get32 d i = n := by
  have h₀ := (get8 d i).toNat_lt
  have h₁ := (get8 d (i + 1)).toNat_lt
  have h₂ := (get8 d (i + 2)).toNat_lt
  have h₃ := (get8 d (i + 3)).toNat_lt
  simp only [put32, get32, get16, Nat.add_assoc, Nat.reduceAdd, List.cons.injEq, and_true,
    ← UInt8.toNat_inj, toNat_ofNat_byte]
  omega

/-! ### The beginning of a message -/

@[simp] theorem get8_cons_zero (b : UInt8) (d : Bytes) : get8 (b :: d) 0 = b := rfl

@[simp] theorem get8_cons_succ (b : UInt8) (d : Bytes) (i : Nat) :
    get8 (b :: d) (i + 1) = get8 d i := rfl

/-- The first bytes of a message that has so many, one by one. -/
theorem take_eq_map_get8 {d : Bytes} {n : Nat} (h : n ≤ d.length) :
    d.take n = (List.range n).map (get8 d) := by
  refine List.ext_getElem (by simp [h]) fun i h₁ h₂ => ?_
  simp only [List.length_map, List.length_range] at h₂
  simp [get8, List.getElem?_eq_getElem (show i < d.length by omega)]

end PortMap.Wire
