import PortMap.Proofs.Ipv4.Number
import PortMap.Proofs.Wire.Reply

/-!
# Replies read back

A reply is read from the receive area of a datagram (`Reply.decode`). This module shows that reading
inverts writing, on every datagram.

* `Reply.decode_eq_ok_iff` — a datagram reads as a reply exactly if its receive area begins with the
  message of that reply. Everything below comes from this.
* `replies_roundTrip` — the same in numbers: what is told by which bytes, which bytes were told by what,
  and when two datagrams tell the same.
-/

namespace PortMap

namespace Wire

/-! ### Messages of replies -/

/-- The opcode of a reply that grants a mapping. -/
def Protocol.replyOpcode : Protocol → UInt8
  | .udp => 129
  | .tcp => 130

theorem Protocol.replyOpcode_eq (p : Protocol) : p.replyOpcode = p.opcode + 128 := by cases p <;> rfl

theorem Reply.encode_publicAddress (epoch : UInt32) (x : Address) :
    (Reply.publicAddress epoch x).encode =
      [0, 128, 0, 0] ++ put32 epoch.toNat ++ put32 x.toNat := by
  rw [Reply.encode, Address.octets_eq_put32]
  rfl

theorem Reply.encode_mapping (p : Protocol) (epoch : UInt32) (a b : UInt16) (l : UInt32) :
    (Reply.mapping p epoch a b l).encode =
      [0, p.replyOpcode, 0, 0] ++ put32 epoch.toNat ++ put16 a.toNat ++ put16 b.toNat
        ++ put32 l.toNat := by
  rw [Protocol.replyOpcode_eq]
  rfl

theorem Reply.length_encode_le (r : Reply) : r.encode.length ≤ 16 := by
  cases r <;> simp [Reply.encode, put16, put32]

/-! ### Reading -/

/-- A datagram reads as a public address exactly if the fields of its receive area are the ones of that
address. -/
theorem Reply.decode_eq_publicAddress_iff (d : Bytes) (epoch : UInt32) (x : Address) :
    Reply.decode d = .ok (.publicAddress epoch x) ↔
      get8 (area d) 0 = version ∧ get8 (area d) 1 = 128 ∧ get16 (area d) 2 = 0 ∧
        get32 (area d) 4 = epoch.toNat ∧ get32 (area d) 8 = x.toNat := by
  have number := put32_eq_iff x.toNat_lt (area d) 8
  rw [← Address.octets_eq_put32] at number
  simp only [List.cons.injEq, and_true] at number
  unfold Reply.decode Reply.ofArea
  generalize area d = r at number ⊢
  obtain ⟨a, b, c, d⟩ := x
  have he := ofNat_get32_eq_iff r 4 epoch
  grind

/-- **A datagram reads as a reply exactly if its receive area begins with the message of that reply.** -/
theorem Reply.decode_eq_ok_iff (d : Bytes) (r : Reply) :
    Reply.decode d = .ok r ↔ r.encode <+: area d := by
  rw [List.prefix_iff_eq_take, take_area d r.length_encode_le]
  -- the code that is told has to be the zero of the message
  have code := (put16_eq_iff (Nat.two_pow_pos 16) (area d) 2).symm
  cases r with
  | publicAddress epoch x =>
    rw [Reply.decode_eq_publicAddress_iff, code, ← put32_eq_iff epoch.toNat_lt,
      ← put32_eq_iff x.toNat_lt, eq_comm (b := version), eq_comm (b := (128 : UInt8)),
      Reply.encode_publicAddress]
    simp [put16, put32, version, List.range, List.range.loop, and_assoc]
  | mapping p epoch a b l =>
    rw [Reply.decode_eq_mapping_iff, code, ← put32_eq_iff epoch.toNat_lt, ← put16_eq_iff a.toNat_lt,
      ← put16_eq_iff b.toNat_lt, ← put32_eq_iff l.toNat_lt, eq_comm (b := version),
      ← p.replyOpcode_eq, eq_comm (b := p.replyOpcode), Reply.encode_mapping]
    simp [put16, put32, version, List.range, List.range.loop, and_assoc]

/-- Whatever follows the message of a reply, it reads as that reply. -/
theorem Reply.decode_encode_append (r : Reply) (rest : Bytes) :
    Reply.decode (r.encode ++ rest) = .ok r :=
  (Reply.decode_eq_ok_iff _ r).mpr (prefix_area r.length_encode_le rest)

/-- A public address is told by the first twelve bytes of the receive area, and a mapping by all of
them. -/
theorem Reply.decode_eq_publicAddress_iff_take (d : Bytes) (epoch : UInt32) (x : Address) :
    Reply.decode d = .ok (.publicAddress epoch x) ↔
      (Reply.publicAddress epoch x).encode = (area d).take 12 := by
  rw [Reply.decode_eq_ok_iff, List.prefix_iff_eq_take]
  rfl

theorem Reply.decode_eq_mapping_iff_area (d : Bytes) (p : Protocol) (epoch : UInt32) (a b : UInt16)
    (l : UInt32) :
    Reply.decode d = .ok (.mapping p epoch a b l) ↔
      (Reply.mapping p epoch a b l).encode = area d := by
  rw [Reply.decode_eq_ok_iff]
  constructor
  · intro h
    exact h.eq_of_length (length_area d).symm
  · intro h
    exact h ▸ List.prefix_rfl

theorem Reply.decode_append {d : Bytes} (h : 16 ≤ d.length) (rest : Bytes) :
    Reply.decode (d ++ rest) = Reply.decode d := by
  rw [Reply.decode, Reply.decode, area_append h]

theorem Reply.decode_append_zeros (d : Bytes) (n : Nat) :
    Reply.decode (d ++ List.replicate n 0) = Reply.decode d := by
  rw [Reply.decode, Reply.decode, area_append_zeros]

/-- **Replies and their messages correspond.** Every epoch and address of 32 bits, and every mapping whose
ports have 16 bits and whose epoch and lifetime have 32, is read from its message, whatever follows. A
datagram that reads as a public address has a receive area that begins with the message of that address,
and one that reads as a mapping has the message of that mapping for its receive area. So two datagrams
tell the same mapping exactly if their receive areas are the same, and the same address exactly if the
first twelve bytes of those are; what follows the sixteenth byte is never looked at, and neither are
zeros at the end. -/
theorem replies_roundTrip :
    (∀ (epoch n : UInt32) (rest : Bytes),
      Address.ofValue (.whole n.toNat) = .ok (.ofNat n.toNat) ∧
      Reply.decode ([0, 128, 0, 0] ++ put32 epoch.toNat ++ put32 n.toNat ++ rest) =
        .ok (.publicAddress epoch (.ofNat n.toNat))) ∧
    (∀ (p : Protocol) (epoch : UInt32) (a b : UInt16) (l : UInt32) (rest : Bytes),
      Reply.decode ([0, p.replyOpcode, 0, 0] ++ put32 epoch.toNat ++ put16 a.toNat ++ put16 b.toNat
        ++ put32 l.toNat ++ rest) = .ok (.mapping p epoch a b l)) ∧
    (∀ d epoch x, Reply.decode d = .ok (.publicAddress epoch x) →
      (∃ n : UInt32, x = .ofNat n.toNat ∧
        [0, 128, 0, 0] ++ put32 epoch.toNat ++ put32 n.toNat = (area d).take 12) ∧
      ∀ d', Reply.decode d' = .ok (.publicAddress epoch x) ↔ (area d').take 12 = (area d).take 12) ∧
    (∀ d p epoch a b l, Reply.decode d = .ok (.mapping p epoch a b l) →
      [0, p.replyOpcode, 0, 0] ++ put32 epoch.toNat ++ put16 a.toNat ++ put16 b.toNat
        ++ put32 l.toNat = area d ∧
      ∀ d', Reply.decode d' = .ok (.mapping p epoch a b l) ↔ area d' = area d) ∧
    (∀ d rest, 16 ≤ d.length → Reply.decode (d ++ rest) = Reply.decode d) ∧
    (∀ d n, Reply.decode (d ++ List.replicate n 0) = Reply.decode d) := by
  refine ⟨fun epoch n rest => ⟨Address.ofValue_whole n.toNat_lt, ?_⟩, fun p epoch a b l rest => ?_,
    fun d epoch x h => ⟨?_, fun d' => ?_⟩, fun d p epoch a b l h => ⟨?_, fun d' => ?_⟩,
    fun d rest h => Reply.decode_append h rest, Reply.decode_append_zeros⟩
  · have message := Reply.encode_publicAddress epoch (.ofNat n.toNat)
    rw [Address.toNat_ofNat n.toNat_lt] at message
    rw [← message, Reply.decode_encode_append]
  · rw [← Reply.encode_mapping, Reply.decode_encode_append]
  · have number : (UInt32.ofNat x.toNat).toNat = x.toNat := UInt32.toNat_ofNat_of_lt' x.toNat_lt
    refine ⟨.ofNat x.toNat, ?_, ?_⟩
    · rw [number, Address.ofNat_toNat]
    · rw [number, ← Reply.encode_publicAddress]
      exact (Reply.decode_eq_publicAddress_iff_take d epoch x).mp h
  · rw [Reply.decode_eq_publicAddress_iff_take] at h ⊢
    rw [h, eq_comm]
  · rw [← Reply.encode_mapping]
    exact (Reply.decode_eq_mapping_iff_area d p epoch a b l).mp h
  · rw [Reply.decode_eq_mapping_iff_area] at h ⊢
    rw [h, eq_comm]

/-- A reply that is cut off before its lifetime grants nothing, and so does the full one that says
so. -/
theorem replies_roundTrip_cutOff :
    let d : Bytes := [0, 129, 0, 0, 0, 0, 0, 9, 0, 80, 0x1f, 0x90]
    let d' : Bytes := d ++ [0, 0, 0, 0, 7]
    Reply.decode d = .ok (.mapping .udp 9 80 8080 0) ∧ d ++ [0, 0, 0, 0] = area d ∧
      (Reply.decode d' = .ok (.mapping .udp 9 80 8080 0) ↔ area d' = area d) := by
  intro d d'
  have read : Reply.decode d = .ok (.mapping .udp 9 80 8080 0) :=
    (Reply.decode_eq_mapping_iff_area d _ _ _ _ _).mpr (by decide)
  obtain ⟨-, -, -, mapping, -⟩ := replies_roundTrip
  obtain ⟨message, same⟩ := mapping d .udp 9 80 8080 0 read
  exact ⟨read, message, same d'⟩

end Wire

end PortMap
