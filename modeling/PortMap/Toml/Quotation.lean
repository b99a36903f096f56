import PortMap.Numeral.Decimal
import PortMap.Numeral.Integer
import PortMap.Toml.Fault
import PortMap.Toml.Pieces
import PortMap.Value.Basic

/-!
# Texts in documents

A text stands between single or double marks, or between three of them at each end. Between double marks a
backslash begins an escape: one of a character, or one of a code point in four or eight digits. Code
points are numbers here, as an escape may stand for half of a surrogate pair.

An empty pair of marks at the start, once the escapes are replaced, is taken for the start of three marks,
so that a text of two double marks comes out empty.
-/

namespace PortMap.Toml

open Text

/-- The code points of a text. -/
def points (s : List Char) : List Nat := s.map Char.toNat

/-- The code point of the backslash. -/
def backslash : Nat := '\\'.toNat

/-! ### Escapes of characters -/

/-- The code point that the letter after a backslash stands for, for the escapes of one character. -/
def escaped? (n : Nat) : Option Nat :=
  [('0', 0), ('b', 8), ('f', 12), ('n', 10), ('r', 13), ('t', 9), ('"', 34)].findSome? fun e =>
    if e.1.toNat = n then some e.2 else none

/-- Whether the letter after a backslash begins the escape of a code point. -/
def beginsPoint (n : Nat) : Bool := n = 'u'.toNat || n = 'U'.toNat

/-- Replaces the escapes of characters. The letters that begin the escape of a code point are left as
they are. -/
def unescape : List Nat → Except Fault (List Nat)
  | [] => .ok []
  | [n] => .ok [n]
  | n :: c :: rest =>
    if n = backslash then
      match escaped? c with
      | some m => (unescape rest).map (m :: ·)
      | none =>
        if c = backslash then (unescape rest).map (backslash :: ·)
        else if beginsPoint c then (unescape rest).map fun s => n :: c :: s
        else .error .malformed
    else (unescape (c :: rest)).map (n :: ·)

/-- Whether every backslash begins an escape, in the pieces after the backslashes; `double` says whether
the backslash before was one of two. -/
def escapesAreKnown (double : Bool) : List (List Char) → Bool
  | [] => true
  | [] :: rest => escapesAreKnown (!double) rest
  | (c :: _) :: rest =>
    (double || (escaped? c.toNat).isSome || beginsPoint c.toNat) && escapesAreKnown false rest

/-! ### Escapes of code points -/

/-- The value of a digit in base 16 that a code point stands for. -/
def pointDigit? (n : Nat) : Option Nat :=
  if n < 128 then (hexValue? (Char.ofNat n)) else none

/-- The code point that digits stand for. In the escapes, those that begin with `d` may not go beyond
`d7`. -/
def pointOf (ds : List Nat) : Except Fault Nat :=
  match ds.mapM pointDigit? with
  | none => .error .malformed
  | some [] => .error .textEnds
  | some [13] => .error .textEnds
  | some vs =>
    let n := numberOf 16 vs
    if vs.head? = some 13 ∧ 8 ≤ vs.getD 1 0 then .error .malformed
    else if 2 ^ 31 ≤ n then .error .pointTooLarge
    else if 0x110000 ≤ n then .error .malformed
    else .ok n

/-- Whether there is an odd number of backslashes at the end. -/
def endsOdd (s : List Nat) : Bool := (s.reverse.takeWhile (· == backslash)).length % 2 == 1

/-- Cuts a text at a backslash with a letter after it; `piece` holds the piece that is being read, last
code point first. -/
def cutAtEscape (letter : Nat) (piece : List Nat) : List Nat → List (List Nat)
  | [] => [piece.reverse]
  | [n] => [(n :: piece).reverse]
  | n :: c :: rest =>
    if n = backslash ∧ c = letter then piece.reverse :: cutAtEscape letter [] rest
    else cutAtEscape letter (n :: piece) (c :: rest)

/-- Replaces the escapes of code points that the pieces begin with; `skip` says whether the backslash of
the next one was taken away by a backslash before it. -/
def replacePoints (letter width : Nat) (skip : Bool) : List (List Nat) → Except Fault (List Nat)
  | [] => .ok []
  | piece :: rest =>
    if skip then
      (replacePoints letter width (endsOdd piece) rest).map fun s =>
        backslash :: letter :: (piece ++ s)
    else
      match pointOf (piece.take width) with
      | .error e => .error e
      | .ok n =>
        (replacePoints letter width false rest).map fun s => n :: (piece.drop width ++ s)

/-- Replaces the escapes of code points of one width. -/
def unescapePoints (letter : Char) (width : Nat) (s : List Nat) : Except Fault (List Nat) :=
  match cutAtEscape letter.toNat [] s with
  | [] => .ok s
  | first :: rest => (replacePoints letter.toNat width (endsOdd first) rest).map (first ++ ·)

/-! ### Texts -/

/-- Whether something follows the end of a text, in the pieces between its marks: `run` is the number of
empty pieces after the text began, and `closed` says whether the text has ended. -/
def goesOn (long : Bool) (run : Nat) (closed : Bool) : List (List Char) → Bool
  | [] => false
  | piece :: rest =>
    if piece.isEmpty then
      if long then goesOn long (run + 1) closed rest else goesOn long run true rest
    else if (piece.reverse.takeWhile (· == '\\')).length % 2 = 1 then goesOn long run closed rest
    else if closed then true
    else if !long || 1 < run then goesOn long run true rest
    else goesOn long 0 closed rest

/-- Whether a text in marks ends before the end of its line. -/
def endsEarly (mark : Char) (s : List Char) : Bool :=
  match splitAt mark (s.drop 1) with
  | [] :: [] :: pieces => goesOn true 0 false pieces
  | pieces => goesOn false 0 false pieces

/-- What stands between the marks. -/
def between (mark : Nat) (s : List Nat) : List Nat :=
  match s with
  | _ :: a :: rest => if a = mark ∧ (rest.isEmpty ∨ rest.head? = some a) then inner (inner (inner s))
    else inner s
  | s => inner s

/-- Reads a text in marks, where the first character is the mark. -/
def readQuotation (mark : Char) (s : List Char) : Except Fault Value :=
  if endsEarly mark s then .error .malformed
  else if mark ≠ '"' then .ok (.ofPoints (between mark.toNat (points s)))
  else if !escapesAreKnown false ((splitAt '\\' s).drop 1) then .error .malformed
  else
    ((unescapePoints 'u' 4 (points s)).bind (unescapePoints 'U' 8)).bind fun s =>
      (unescape s).map fun s => .ofPoints (between mark.toNat s)

end PortMap.Toml
