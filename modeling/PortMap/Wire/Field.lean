/-!
# Fields of a message

Messages are lists of bytes. A field of two or four bytes holds a number in network order, the most
significant byte first. Bytes that are not there read as zero.
-/

namespace PortMap.Wire

/-- A message, or a part of one. -/
abbrev Bytes := List UInt8

/-- A number in two bytes. -/
def put16 (n : Nat) : Bytes := [UInt8.ofNat (n / 2 ^ 8), UInt8.ofNat n]

/-- A number in four bytes. -/
def put32 (n : Nat) : Bytes :=
  [UInt8.ofNat (n / 2 ^ 24), UInt8.ofNat (n / 2 ^ 16), UInt8.ofNat (n / 2 ^ 8), UInt8.ofNat n]

/-- The byte at a place. -/
def get8 (d : Bytes) (i : Nat) : UInt8 := d.getD i 0

/-- The number in the two bytes from a place on. -/
def get16 (d : Bytes) (i : Nat) : Nat := (get8 d i).toNat * 2 ^ 8 + (get8 d (i + 1)).toNat

/-- The number in the four bytes from a place on. -/
def get32 (d : Bytes) (i : Nat) : Nat := get16 d i * 2 ^ 16 + get16 d (i + 2)

end PortMap.Wire
