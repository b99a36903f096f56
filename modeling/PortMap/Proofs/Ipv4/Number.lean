import PortMap.Ipv4.Address
import PortMap.Proofs.Wire.Field

/-!
# Addresses as numbers

The octets of an address are the bytes of a number of 32 bits, first octet first, and every such number is
the one of an address (`ofNat_toNat`, `toNat_ofNat`).
-/

namespace PortMap

open Wire

namespace Address

theorem toNat_lt (x : Address) : x.toNat < 2 ^ 32 := by
  have ha := x.a.toNat_lt
  have hb := x.b.toNat_lt
  have hc := x.c.toNat_lt
  have hd := x.d.toNat_lt
  unfold toNat
  omega

/-- The octets of an address are the field of its number. -/
theorem octets_eq_put32 (x : Address) : [x.a, x.b, x.c, x.d] = put32 x.toNat := by
  have number : get32 [x.a, x.b, x.c, x.d] 0 = x.toNat := by
    simp only [get32, get16, get8, toNat, List.getD_cons_zero, List.getD_cons_succ]
    omega
  exact ((put32_eq_iff x.toNat_lt _ 0).mpr number).symm

theorem toNat_ofNat {n : Nat} (h : n < 2 ^ 32) : (ofNat n).toNat = n := by
  simp only [ofNat, toNat, toNat_ofNat_byte]
  omega

theorem ofNat_toNat (x : Address) : ofNat x.toNat = x := by
  obtain ⟨a, b, c, d⟩ := x
  have octets := octets_eq_put32 ⟨a, b, c, d⟩
  simp only [put32, List.cons.injEq, and_true] at octets
  obtain ⟨ha, hb, hc, hd⟩ := octets
  rw [ofNat, ← ha, ← hb, ← hc, ← hd]

/-- Every number of 32 bits is taken for an address. -/
theorem ofValue_whole {n : Nat} (h : n < 2 ^ 32) : ofValue (.whole n) = .ok (ofNat n) := by
  have notNegative : ¬ (n : Int) < 0 := by omega
  have notTooLarge : ¬ 2 ^ 32 ≤ (n : Int) := by omega
  simp only [ofValue, Value.wholeNumber?, if_neg notNegative, if_neg notTooLarge, Int.toNat_natCast]

end Address

end PortMap
