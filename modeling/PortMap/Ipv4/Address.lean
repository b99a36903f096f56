import PortMap.Numeral.Decimal
import PortMap.Text.Blank
import PortMap.Value.Basic

/-!
# IPv4 addresses

An address is four octets. This module writes it as dotted text, reads dotted text strictly, and takes
a value of any kind for an address: a whole number is the address as a 32-bit number, anything else is
read by its displayed form.

Reading accepts exactly what writing produces: four octets, each one to three plain digits without a
leading zero and at most 255. Every refusal names its cause (`Octet.Fault`, `Address.Fault`).
-/

namespace PortMap

open Text

/-! ### Octets -/

/-- Why a text is no octet. -/
inductive Octet.Fault where
  /-- There is nothing between two dots. -/
  | empty
  /-- A character is not one of the ten plain digits. -/
  | notDigits (octet : String)
  /-- There are more than three digits. -/
  | tooLong (octet : String)
  /-- The first of several digits is zero. -/
  | leadingZero (octet : String)
  /-- The number is above 255. -/
  | tooLarge (n : Nat)
  deriving DecidableEq, Repr

/-- What a refused octet is told. -/
def Octet.Fault.message : Octet.Fault → String
  | .empty => "Empty octet not permitted"
  | .notDigits octet => "Only decimal digits permitted in " ++ quoted octet
  | .tooLong octet => "At most 3 characters permitted in " ++ quoted octet
  | .leadingZero octet => "Leading zeros are not permitted in " ++ quoted octet
  | .tooLarge n => "Octet " ++ toString n ++ " (> 255) not permitted"

/-- Reads an octet. -/
def Octet.read (s : List Char) : Except Octet.Fault UInt8 :=
  if s.isEmpty then .error .empty
  else if !s.all isPlainDigit then .error (.notDigits (String.ofList s))
  else if 3 < s.length then .error (.tooLong (String.ofList s))
  else if s ≠ ['0'] ∧ s.head? = some '0' then .error (.leadingZero (String.ofList s))
  else
    let n := plainNumber s
    if 255 < n then .error (.tooLarge n) else .ok (UInt8.ofNat n)

/-! ### Addresses -/

/-- An IPv4 address by its octets, first to last. -/
structure Address where
  /-- The first octet. -/
  a : UInt8
  /-- The second octet. -/
  b : UInt8
  /-- The third octet. -/
  c : UInt8
  /-- The last octet. -/
  d : UInt8
  deriving DecidableEq, Repr

namespace Address

/-- The address written `0.0.0.0`. -/
def any : Address := ⟨0, 0, 0, 0⟩

instance : Inhabited Address := ⟨any⟩

/-- The address whose octets are the digits of a number in base 256. -/
def ofNat (n : Nat) : Address :=
  ⟨UInt8.ofNat (n / 2 ^ 24), UInt8.ofNat (n / 2 ^ 16), UInt8.ofNat (n / 2 ^ 8), UInt8.ofNat n⟩

/-- The octets as digits of a number in base 256. -/
def toNat (x : Address) : Nat :=
  x.a.toNat * 2 ^ 24 + x.b.toNat * 2 ^ 16 + x.c.toNat * 2 ^ 8 + x.d.toNat

/-- The dotted text of an address, as characters. -/
def chars (x : Address) : List Char :=
  Decimal.digitChars x.a.toNat ++ '.' :: (Decimal.digitChars x.b.toNat ++ '.' ::
    (Decimal.digitChars x.c.toNat ++ '.' :: Decimal.digitChars x.d.toNat))

/-- The dotted text of an address. -/
def text (x : Address) : String := String.ofList x.chars

/-- Why a value is no address. -/
inductive Fault where
  /-- The text holds a slash. The value is given in its written form. -/
  | slash (literal : String)
  /-- The text is empty. -/
  | empty
  /-- There are not four parts between the dots. -/
  | notFourOctets (text : String)
  /-- A part is no octet. -/
  | octet (cause : Octet.Fault) (text : String)
  /-- The number is negative. -/
  | negative (n : Int)
  /-- The number has more than 32 bits. -/
  | tooLarge (n : Int)
  deriving DecidableEq, Repr

/-- What a refused address is told. -/
def Fault.message : Fault → String
  | .slash literal => "Unexpected '/' in " ++ literal
  | .empty => "Address cannot be empty"
  | .notFourOctets text => "Expected 4 octets in " ++ quoted text
  | .octet cause text => cause.message ++ " in " ++ quoted text
  | .negative n => toString n ++ " (< 0) is not permitted as an IPv4 address"
  | .tooLarge n => toString n ++ " (>= 2**32) is not permitted as an IPv4 address"

/-- Reads the four octets of an address, first to last; the first that is none is the cause. -/
def readOctets (text : String) (a b c d : List Char) : Except Fault Address :=
  let octet (s : List Char) : Except Fault UInt8 := (Octet.read s).mapError (Fault.octet · text)
  match octet a, octet b, octet c, octet d with
  | .ok a, .ok b, .ok c, .ok d => .ok ⟨a, b, c, d⟩
  | .error e, _, _, _ => .error e
  | _, .error e, _, _ => .error e
  | _, _, .error e, _ => .error e
  | _, _, _, .error e => .error e

/-- Reads dotted text; `literal` is the written form of the value that the text comes from. -/
def readFrom (literal : String) (s : List Char) : Except Fault Address :=
  if s.contains '/' then .error (.slash literal)
  else if s.isEmpty then .error .empty
  else
    match splitAt '.' s with
    | [a, b, c, d] => readOctets (String.ofList s) a b c d
    | _ => .error (.notFourOctets (String.ofList s))

/-- Reads dotted text. -/
def read (s : List Char) : Except Fault Address := readFrom (quoted (String.ofList s)) s

/-- Reads dotted text, without the cause of a refusal. -/
def read? (s : List Char) : Option Address := (read s).toOption

/-- Takes a value for an address. -/
def ofValue (v : Value) : Except Fault Address :=
  match v.wholeNumber? with
  | some n =>
    if n < 0 then .error (.negative n)
    else if 2 ^ 32 ≤ n then .error (.tooLarge n)
    else .ok (ofNat n.toNat)
  | none => readFrom v.literal v.display.toList

end Address

end PortMap
