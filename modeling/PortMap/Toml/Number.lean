import PortMap.Numeral.Integer
import PortMap.Toml.Fault
import PortMap.Value.Basic

/-!
# Numbers in documents

A value that stands without marks or brackets is a truth value, a time, or a number. Whole numbers may be
in base 2, 8, 10 or 16, and real numbers begin with a digit and have one after their point. Underscores
stand alone between digits, and a zero at the start stands alone (`isWellFormed`). A negative number is the
difference of zero and its absolute value, so that there is no negative zero.
-/

namespace PortMap.Toml

open Text

/-! ### Well-formed numerals -/

/-- Whether the second character never follows the first one in a text. -/
def neverMeet (a b : Char) : List Char → Bool
  | x :: y :: rest => !(x == a && y == b) && neverMeet a b (y :: rest)
  | _ => true

/-- Whether a zero at the start is alone or followed by one of the characters. -/
def zeroFits (followers s : List Char) : Bool :=
  match s with
  | '0' :: c :: _ => followers.contains c
  | _ => true

/-- Whether a numeral has its underscores and its leading zero in places where they may be. -/
def isWellFormed (s : List Char) : Bool :=
  let s := strip s
  match s with
  | [] => false
  | [c] => c != '_'
  | first :: rest =>
    first != '_' && s.getLast? != some '_' && neverMeet '_' '.' s && neverMeet '.' '_' s
      && zeroFits ['.', 'o', 'b', 'x'] s
      && (if first = '+' ∨ first = '-' then zeroFits ['.'] rest && neverMeet '_' '_' rest
        else neverMeet '_' '_' s)

/-! ### Whole numbers -/

/-- The base of a whole numeral, and its digits. -/
def splitBase : List Char → Nat × List Char
  | '0' :: c :: rest =>
    if c = 'x' ∨ c = 'X' then (16, rest)
    else if c = 'o' ∨ c = 'O' then (8, rest)
    else if c = 'b' ∨ c = 'B' then (2, rest)
    else (10, '0' :: c :: rest)
  | s => (10, s)

/-- The digit below a base that a character stands for. -/
def digitBelow? (base : Nat) (c : Char) : Option Nat := (hexValue? c).filter (· < base)

/-- Reads the digits of a whole number. In base 10 there are at most so many of them, and the number
begins with a zero only if it is zero. -/
def readDigits? (base : Nat) (s : List Char) : Option Nat :=
  match digitsFrom (digitBelow? base) false s with
  | none => none
  | some ds =>
    if base = 10 ∧ (maxDigits < ds.length ∨ (ds.head? = some 0 ∧ ds.any (· != 0))) then none
    else some (numberOf base ds)

/-- Reads a whole numeral with the mark of its base. -/
def readWhole? (s : List Char) : Option Int :=
  let (negative, rest) := takeSign (trim s)
  let (base, ds) := splitBase (withPlainDigits rest)
  (readDigits? base ds).map (signed negative)

/-! ### Numbers -/

/-- Whether a numeral is one of a real number. -/
def isRealNumeral (s : List Char) : Bool :=
  s.contains '.' || (!s.contains 'x' && (s.contains 'e' || s.contains 'E'))

/-- Reads a real numeral without its sign. -/
def readUnsignedReal? (s : List Char) : Option Binary64 :=
  if s.dropWhile (· != '.') = ['.'] then none
  else if (s.head?.map isPlainDigit).getD false then readFloat? s
  else none

/-- The difference of zero and a number. -/
def fromZero (x : Binary64) : Binary64 :=
  if x.same (.zero false) then .zero false else x.withSign (!x.isNegative)

/-- Reads a numeral; `wellFormed` says whether it was found to be so. -/
def readNumeral (wellFormed : Bool) (s : List Char) : Except Fault Value :=
  if !wellFormed then .error .malformed
  else
    let (negative, rest) := takeSign s
    let rest := rest.filter (· != '_')
    let word := rest.map Char.toLower
    let real? :=
      if isRealNumeral rest then some (readUnsignedReal? rest)
      else if word = "inf".toList ∨ word = "nan".toList then some (readReal? word)
      else none
    match real? with
    | some (some x) => .ok (.real (if negative then fromZero x else x))
    | some none => .error .malformed
    | none =>
      match readWhole? rest with
      | some n => .ok (.whole (if negative then -n else n))
      | none => .error .malformed

end PortMap.Toml
