import PortMap.Proofs.Wire.Area
import PortMap.Proofs.Wire.RoundTrip

/-!
# Replies and what they answer

Which datagrams read as which mapping (`Reply.decode_eq_mapping_iff`), and which of them answer which
request: the opcode of an answer is the one of the request with its highest bit set, and the private port
is the one of the request.
-/

namespace PortMap.Wire

theorem decode_take (d : Bytes) : Reply.decode (d.take areaSize) = Reply.decode d := by
  rw [Reply.decode, Reply.decode, area_take]

/-- A datagram reads as a mapping exactly if the fields of its receive area are the ones of that mapping. -/
theorem Reply.decode_eq_mapping_iff (d : Bytes) (p : Protocol) (epoch : UInt32) (a b : UInt16)
    (l : UInt32) :
    Reply.decode d = .ok (.mapping p epoch a b l) ↔
      get8 (area d) 0 = version ∧ get8 (area d) 1 = p.opcode + 128 ∧ get16 (area d) 2 = 0 ∧
        get32 (area d) 4 = epoch.toNat ∧ get16 (area d) 8 = a.toNat ∧ get16 (area d) 10 = b.toNat ∧
        get32 (area d) 12 = l.toNat := by
  unfold Reply.decode Reply.ofArea
  generalize area d = r
  have he := ofNat_get32_eq_iff r 4 epoch
  have ha := ofNat_get16_eq_iff r 8 a
  have hb := ofNat_get16_eq_iff r 10 b
  have hl := ofNat_get32_eq_iff r 12 l
  cases p <;> simp only [Protocol.opcode] <;> grind

/-- A datagram answers a mapping request: it tells the opcode and the private port of that request. -/
def Answers (request d : Bytes) : Prop :=
  get8 (area d) 1 = get8 request 1 + 128 ∧ get16 (area d) 8 = get16 request 4

/-- A mapping that is read from a datagram is one of the protocol and the private port that were asked
for exactly if the datagram answers the request. -/
theorem answers_iff {d : Bytes} {p' : Protocol} {epoch : UInt32} {x' y' : UInt16} {z' : UInt32}
    (h : Reply.decode d = .ok (.mapping p' epoch x' y' z')) (p : Protocol) (x y : UInt16) (z : UInt32) :
    Answers (Request.mapping p x y z).encode d ↔ p' = p ∧ x' = x := by
  obtain ⟨-, opcode, -, -, port, -⟩ := (Reply.decode_eq_mapping_iff d p' epoch x' y' z').mp h
  obtain ⟨-, -, opcode', port', -⟩ :=
    (unreserved_eq_encode_iff _ p x y z).mp (unreserved_encode p x y z)
  have opcodes : p'.opcode + 128 = p.opcode + 128 ↔ p' = p := by cases p <;> cases p' <;> decide
  rw [Answers, opcode, opcode', port, port', opcodes, UInt16.toNat_inj]

end PortMap.Wire
