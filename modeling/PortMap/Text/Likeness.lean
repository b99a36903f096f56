/-!
# How much two words are alike

Two words are compared by the letters that they share in order: the longest piece that stands in both is
taken, and then the parts before it and the parts after it are compared in the same way. Of several
longest pieces the one that begins first in the first word counts, and of those the one that begins first
in the second word.

A word is close to another one if the shared letters are at least three tenths of the letters of both
(`isClose`). `closest` is the choice, among a list of words, of those that a mistyped word may stand for.
-/

namespace PortMap.Text

/-- The number of letters that two words share at their beginnings. -/
def sharedBeginning : List Char → List Char → Nat
  | a :: rest, b :: other => if a = b then sharedBeginning rest other + 1 else 0
  | _, _ => 0

/-- A piece that stands in two words. -/
structure Piece where
  /-- Where it begins in the first word. -/
  start : Nat
  /-- Where it begins in the second word. -/
  place : Nat
  /-- How many letters it has. -/
  size : Nat
  deriving DecidableEq, Repr

/-- The pieces that begin at each pair of places. -/
def pieces (a b : List Char) : List Piece :=
  (List.range a.length).flatMap fun i =>
    (List.range b.length).map fun j => ⟨i, j, sharedBeginning (a.drop i) (b.drop j)⟩

/-- The first of the longest pieces of two words. -/
def longestPiece (a b : List Char) : Piece :=
  (pieces a b).foldl (fun best p => if best.size < p.size then p else best) ⟨0, 0, 0⟩

/-- The number of letters that two words share in order; every piece makes the rest shorter. -/
def sharedLetters : (fuel : Nat) → List Char → List Char → Nat
  | 0, _, _ => 0
  | fuel + 1, a, b =>
    let p := longestPiece a b
    if p.size = 0 then 0
    else
      p.size + sharedLetters fuel (a.take p.start) (b.take p.place)
        + sharedLetters fuel (a.drop (p.start + p.size)) (b.drop (p.place + p.size))

/-- How much two words are alike: the shared letters among the letters of both. -/
structure Likeness where
  /-- The number of shared letters. -/
  shared : Nat
  /-- The number of letters of both words. -/
  total : Nat
  deriving DecidableEq, Repr

/-- How much two words are alike. -/
def likeness (a b : List Char) : Likeness := ⟨sharedLetters (a.length + 1) a b, a.length + b.length⟩

/-- Whether at least three tenths of the letters are shared. -/
def Likeness.isClose (l : Likeness) : Bool := 3 * l.total ≤ 10 * l.shared

/-- Whether the first one shares a larger part of the letters. -/
def Likeness.exceeds (a b : Likeness) : Bool := b.shared * a.total < a.shared * b.total

/-- How many words are chosen at most. -/
def choices : Nat := 3

/-- Whether the first of two known words is the better choice for a word: it is more alike, or as much
alike and the later one in the order of words. -/
def isBetter (word a b : String) : Bool :=
  let x := likeness a.toList word.toList
  let y := likeness b.toList word.toList
  x.exceeds y || (!y.exceeds x && decide (b ≤ a))

/-- The known words that a word may stand for, in the order of words. -/
def closest (known : List String) (word : String) : List String :=
  let close := known.filter fun k => (likeness k.toList word.toList).isClose
  ((close.mergeSort (isBetter word)).take choices).mergeSort fun a b => decide (a ≤ b)

example : likeness "map".toList "nmap".toList = ⟨3, 7⟩ := by decide

end PortMap.Text
