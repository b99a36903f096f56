import PortMap.Ipv4.Address
import PortMap.Wire.Request

/-!
# Replies

A gateway answers with its public address or with the mapping that it grants. A reply is read from a
receive area of sixteen bytes; bytes that did not arrive read as zero, and bytes past the area are not
looked at.

| bytes   | address reply  | mapping reply              |
|---------|----------------|----------------------------|
| 0       | version 0      | version 0                  |
| 1       | opcode 128     | opcode 129 UDP, 130 TCP    |
| 2, 3    | result code    | result code                |
| 4 – 7   | epoch          | epoch                      |
| 8 – 11  | public address | private port, public port  |
| 12 – 15 |                | granted lifetime           |

`Reply.decode` refuses, in this order, a version other than 0, an opcode outside of 128 to 130, and a
result code other than 0. `Reply.encode` is the message of a reply.
-/

namespace PortMap.Wire

/-- A reply. -/
inductive Reply where
  /-- The public address of the gateway. -/
  | publicAddress (epoch : UInt32) (address : Address)
  /-- The mapping that the gateway grants. -/
  | mapping (protocol : Protocol) (epoch : UInt32) (privatePort publicPort : UInt16)
      (lifetime : UInt32)
  deriving DecidableEq, Repr

/-- Why a datagram is no reply that grants what was asked. -/
inductive Reply.Fault where
  /-- The version is not known. -/
  | version (v : UInt8)
  /-- The opcode is not one of a reply. -/
  | opcode (o : UInt8)
  /-- The gateway refuses, with the result code given. -/
  | refused (code : UInt16)
  deriving DecidableEq, Repr

/-- The number of bytes of the receive area. -/
def areaSize : Nat := 16

/-- The receive area after a datagram has arrived in it. -/
def area (d : Bytes) : Bytes := d.take areaSize ++ List.replicate (areaSize - d.length) 0

/-- The message of a reply. -/
def Reply.encode : Reply → Bytes
  | .publicAddress epoch address =>
    [version, 128, 0, 0] ++ put32 epoch.toNat ++ [address.a, address.b, address.c, address.d]
  | .mapping protocol epoch privatePort publicPort lifetime =>
    [version, protocol.opcode + 128, 0, 0] ++ put32 epoch.toNat ++ put16 privatePort.toNat
      ++ put16 publicPort.toNat ++ put32 lifetime.toNat

/-- Reads a full receive area as a reply. -/
def Reply.ofArea (a : Bytes) : Except Reply.Fault Reply :=
  let opcode := get8 a 1
  let code := get16 a 2
  let epoch := UInt32.ofNat (get32 a 4)
  if get8 a 0 ≠ version then .error (.version (get8 a 0))
  else if opcode < 128 ∨ 130 < opcode then .error (.opcode opcode)
  else if code ≠ 0 then .error (.refused (UInt16.ofNat code))
  else if opcode = 128 then .ok (.publicAddress epoch ⟨get8 a 8, get8 a 9, get8 a 10, get8 a 11⟩)
  else
    .ok (.mapping (if opcode = 129 then .udp else .tcp) epoch (UInt16.ofNat (get16 a 8))
      (UInt16.ofNat (get16 a 10)) (UInt32.ofNat (get32 a 12)))

/-- Reads a datagram as a reply. -/
def Reply.decode (d : Bytes) : Except Reply.Fault Reply := Reply.ofArea (area d)

end PortMap.Wire
