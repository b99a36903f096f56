import PortMap.Proofs.Wire.Field
import PortMap.Wire.Reply

/-!
# Laws of the receive area

The receive area always has sixteen bytes (`length_area`), so that no field of a reply lies outside of
it. It begins with the datagram, as far as it has room for it (`prefix_area`), and neither what follows
the sixteenth byte (`area_append`) nor zeros at the end of the datagram (`area_append_zeros`) make a
difference to it.
-/

namespace PortMap.Wire

theorem length_area (d : Bytes) : (area d).length = 16 := by
  simp only [area, areaSize, List.length_append, List.length_take, List.length_replicate]
  omega

/-- The first bytes of the receive area, one by one. -/
theorem take_area (d : Bytes) {n : Nat} (h : n ≤ 16) :
    (area d).take n = (List.range n).map (get8 (area d)) :=
  take_eq_map_get8 ((length_area d).symm ▸ h)

/-- What there is room for arrives. -/
theorem prefix_area {d : Bytes} (h : d.length ≤ 16) (rest : Bytes) : d <+: area (d ++ rest) := by
  refine List.IsPrefix.trans ?_ (List.prefix_append _ _)
  rw [areaSize, List.prefix_take_iff]
  exact ⟨List.prefix_append d rest, h⟩

/-- The bytes of a datagram stay where they are; those that did not arrive read as zero in either. -/
theorem get8_area (d : Bytes) {i : Nat} (h : i < 16) : get8 (area d) i = get8 d i := by
  simp only [get8, area, areaSize, List.getD_eq_getElem?_getD, List.getElem?_append,
    List.length_take, List.getElem?_take, List.getElem?_replicate]
  grind

/-- What did not fit into the receive area makes no difference. -/
theorem area_take (d : Bytes) : area (d.take areaSize) = area d := by
  simp only [area, List.take_take, Nat.min_self, List.length_take]
  congr 2
  omega

theorem area_append {d : Bytes} (h : 16 ≤ d.length) (rest : Bytes) : area (d ++ rest) = area d := by
  rw [← area_take (d ++ rest), List.take_append_of_le_length (show areaSize ≤ d.length from h),
    area_take]

/-- Zeros at the end of a datagram make no difference: what does not arrive reads as zero. -/
theorem area_append_zeros (d : Bytes) (n : Nat) : area (d ++ List.replicate n 0) = area d := by
  simp only [area, List.take_append, List.take_replicate, List.length_append, List.length_replicate,
    List.append_assoc, List.replicate_append_replicate]
  congr 2
  omega

end PortMap.Wire
