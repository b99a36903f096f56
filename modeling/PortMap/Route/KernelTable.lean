import PortMap.Ipv4.Address
import PortMap.Numeral.Integer

/-!
# The routing table of the kernel

The file in which a Linux kernel shows its routes: a heading, then one route a line with its interface,
destination, gateway and flags first. Destination and gateway are hexadecimal words whose least
significant byte is the first octet. The default route is the first one with destination zero and the
gateway flag; a line that cannot be read is passed over.
-/

namespace PortMap.Route.KernelTable

open Text

/-- The address whose first octet is the least significant byte of a word. -/
def addressOfWord (n : Nat) : Address :=
  ⟨UInt8.ofNat n, UInt8.ofNat (n / 2 ^ 8), UInt8.ofNat (n / 2 ^ 16), UInt8.ofNat (n / 2 ^ 24)⟩

/-- Whether the flags of a route say that it goes through a gateway. A negative number has the bits of
its two's complement. -/
def hasGatewayFlag (flags : Int) : Bool := flags / 2 % 2 == 1

/-- The gateway that a column names, if it is a word of 32 bits. -/
def readWord? (s : List Char) : Option Address :=
  match readHex? s with
  | some n => if 0 ≤ n ∧ n < 2 ^ 32 then some (addressOfWord n.toNat) else none
  | none => none

/-- The gateway of a line, if it is a default route through one. -/
def gatewayOfLine (line : List Char) : Option Address :=
  match words line with
  | _ :: destination :: gateway :: flags :: _ =>
    if destination ≠ "00000000".toList then none
    else if ((readHex? flags).map hasGatewayFlag).getD false then readWord? gateway
    else none
  | _ => none

/-- The gateway of the default route. -/
def gateway? (text : List Char) : Option Address := ((lines text).drop 1).findSome? gatewayOfLine

end PortMap.Route.KernelTable
