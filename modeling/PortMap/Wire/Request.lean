import PortMap.Value.Basic
import PortMap.Wire.Field

/-!
# Requests

A client asks the gateway for its public address, or for a port mapping. The first message has two
bytes, the second one twelve:

| bytes  | content                          |
|--------|----------------------------------|
| 0      | version, always 0                |
| 1      | opcode: 0 address, 1 UDP, 2 TCP  |
| 2, 3   | reserved, written as zero        |
| 4, 5   | private port                     |
| 6, 7   | suggested public port            |
| 8 – 11 | requested lifetime in seconds    |

`Request.encode` and `Request.decode` are the two directions. `Request.ofArguments` makes a mapping
request from values of any kind and names the leftmost one that does not fit its field.
-/

namespace PortMap.Wire

/-- The version of the protocol. -/
def version : UInt8 := 0

/-- The UDP port on which a gateway listens. -/
def gatewayPort : Nat := 5351

/-! ### Transport protocols -/

/-- The transport protocol of a port mapping. -/
inductive Protocol where
  /-- Datagrams. -/
  | udp
  /-- Connections. -/
  | tcp
  deriving DecidableEq, Repr

/-- The name of a protocol. -/
def Protocol.name : Protocol → String
  | .udp => "udp"
  | .tcp => "tcp"

/-- The name of a protocol in capitals. -/
def Protocol.label : Protocol → String
  | .udp => "UDP"
  | .tcp => "TCP"

/-- The opcode of a mapping request. -/
def Protocol.opcode : Protocol → UInt8
  | .udp => 1
  | .tcp => 2

/-- What a caller hands in for a protocol: one of the two, or a value that is neither. -/
inductive ProtocolChoice where
  /-- One of the two protocols. -/
  | known (p : Protocol)
  /-- A value that is no protocol, but goes by a name as the protocols do, which may be of any kind. -/
  | lookalike (name : Value)
  /-- A value that is no protocol, and goes by no name. -/
  | unknown (v : Value)

/-- The protocol that is asked for on the wire: whatever is not UDP goes out as TCP. -/
def ProtocolChoice.sent : ProtocolChoice → Protocol
  | .known p => p
  | .lookalike _ | .unknown _ => .tcp

/-! ### Messages -/

/-- A request. -/
inductive Request where
  /-- What is the public address? -/
  | publicAddress
  /-- Create or renew a port mapping, or delete it with lifetime zero. -/
  | mapping (protocol : Protocol) (privatePort publicPort : UInt16) (lifetime : UInt32)
  deriving DecidableEq, Repr

/-- The message of a request. -/
def Request.encode : Request → Bytes
  | .publicAddress => [version, 0]
  | .mapping protocol privatePort publicPort lifetime =>
    [version, protocol.opcode, 0, 0] ++ put16 privatePort.toNat ++ put16 publicPort.toNat
      ++ put32 lifetime.toNat

/-- Why a message is no request. -/
inductive Request.Fault where
  /-- The message ends before the last field of its opcode. -/
  | tooShort
  /-- The version is not known. -/
  | version (v : UInt8)
  /-- The opcode is not one of a request. -/
  | opcode (o : UInt8)
  deriving DecidableEq, Repr

/-- Reads a message as a request. The reserved bytes and whatever follows the last field are not
looked at. -/
def Request.decode (d : Bytes) : Except Request.Fault Request :=
  if d.length < 2 then .error .tooShort
  else if get8 d 0 ≠ version then .error (.version (get8 d 0))
  else
    let opcode := get8 d 1
    if opcode = 0 then .ok .publicAddress
    else if opcode ≠ 1 ∧ opcode ≠ 2 then .error (.opcode opcode)
    else if d.length < 12 then .error .tooShort
    else
      .ok (.mapping (if opcode = 1 then .udp else .tcp) (UInt16.ofNat (get16 d 4))
        (UInt16.ofNat (get16 d 6)) (UInt32.ofNat (get32 d 8)))

/-! ### Requests from values -/

/-- The width of a number field. -/
inductive Width where
  /-- Two bytes. -/
  | short
  /-- Four bytes. -/
  | long
  deriving DecidableEq, Repr

/-- The largest number of a field. -/
def Width.largest : Width → Nat
  | .short => 2 ^ 16 - 1
  | .long => 2 ^ 32 - 1

/-- Why a value does not fit a field. -/
inductive FieldFault where
  /-- The value is no whole number. -/
  | notWhole
  /-- The number is negative or has more than 64 bits. -/
  | outOfRange
  /-- The number is too large for the field. -/
  | tooLarge (width : Width)
  deriving DecidableEq, Repr

/-- What a value that does not fit is told. -/
def FieldFault.message : FieldFault → String
  | .notWhole => "required argument is not an integer"
  | .outOfRange => "argument out of range"
  | .tooLarge .short => "'H' format requires 0 <= number <= 65535"
  | .tooLarge .long => "'I' format requires 0 <= number <= 4294967295"

/-- The number that a value puts into a field. -/
def fieldNumber (width : Width) (v : Value) : Except FieldFault Nat :=
  match v.wholeNumber? with
  | none => .error .notWhole
  | some n =>
    if n < 0 ∨ 2 ^ 64 ≤ n then .error .outOfRange
    else if (width.largest : Int) < n then .error (.tooLarge width)
    else .ok n.toNat

/-- The mapping request with the ports and the lifetime given; the leftmost value that does not fit is
the cause of a refusal. -/
def Request.ofArguments (protocol : ProtocolChoice) (privatePort publicPort lifetime : Value) :
    Except FieldFault Request :=
  match fieldNumber .short privatePort, fieldNumber .short publicPort, fieldNumber .long lifetime with
  | .error e, _, _ => .error e
  | .ok _, .error e, _ => .error e
  | .ok _, .ok _, .error e => .error e
  | .ok a, .ok b, .ok l =>
    .ok (.mapping protocol.sent (UInt16.ofNat a) (UInt16.ofNat b) (UInt32.ofNat l))

end PortMap.Wire
