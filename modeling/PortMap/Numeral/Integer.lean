import PortMap.Numeral.Decimal
import PortMap.Text.Blank
import PortMap.Text.Digit

/-!
# Numerals in settings and tables

Reading whole and real numbers from text that people or other programs write.

* A numeral may be surrounded by blanks, may have a sign, and may have single underscores between its
  digits.
* The decimal digits of every script are understood.
* In base 16 the numeral may begin with `0x`, which an underscore may follow.
* A whole decimal numeral of more than 4300 digits is refused.

`readInt?`, `readHex?` and `readFloat?` are the three readers.
-/

namespace PortMap

open Text

/-- The most digits a whole decimal numeral may have. -/
def maxDigits : Nat := 4300

/-- The digits of a numeral, by the reader `digit` of one digit; every underscore stands alone between
two digits. `after` says whether a digit has just been read. -/
def digitsFrom (digit : Char → Option Nat) (after : Bool) : List Char → Option (List Nat)
  | [] => if after then some [] else none
  | '_' :: rest => if after then digitsFrom digit false rest else none
  | c :: rest =>
    match digit c with
    | some d => (digitsFrom digit true rest).map (d :: ·)
    | none => none

/-- The whole number with the digits given, most significant first. -/
def numberOf (base : Nat) (ds : List Nat) : Nat := ds.foldl (fun n d => base * n + d) 0

/-- Puts the sign on a number. -/
def signed (negative : Bool) (n : Nat) : Int := if negative then -n else n

/-- Reads a whole decimal number. -/
def readInt? (s : List Char) : Option Int :=
  let (negative, rest) := takeSign (trim s)
  match digitsFrom digitValue? false rest with
  | some ds => if maxDigits < ds.length then none else some (signed negative (numberOf 10 ds))
  | none => none

/-- The text with plain digits in place of those of every script. -/
def withPlainDigits (s : List Char) : List Char :=
  s.map fun c => ((digitValue? c).map Nat.digitChar).getD c

/-- Splits off `0x`, and the underscore after it. -/
def dropHexMark : List Char → List Char
  | '0' :: x :: '_' :: rest => if x = 'x' ∨ x = 'X' then rest else '0' :: x :: '_' :: rest
  | '0' :: x :: rest => if x = 'x' ∨ x = 'X' then rest else '0' :: x :: rest
  | s => s

/-- Reads a whole number in base 16. -/
def readHex? (s : List Char) : Option Int :=
  let (negative, rest) := takeSign (trim s)
  (digitsFrom hexValue? false (dropHexMark (withPlainDigits rest))).map fun ds => signed negative (numberOf 16 ds)

/-- The plain form of a numeral: digits of every script become plain ones, and an underscore between
two digits is left out. `after` says whether a digit has just been read. -/
def plainForm (after : Bool) : List Char → Option (List Char)
  | [] => some []
  | '_' :: c :: rest =>
    if after && (digitValue? c).isSome then plainForm false (c :: rest) else none
  | c :: rest =>
    match digitValue? c with
    | some d => (plainForm true rest).map (Nat.digitChar d :: ·)
    | none => if c = '_' then none else (plainForm false rest).map (c :: ·)

/-- Reads a real number. -/
def readFloat? (s : List Char) : Option Binary64 := (plainForm false (trim s)).bind readReal?

end PortMap
