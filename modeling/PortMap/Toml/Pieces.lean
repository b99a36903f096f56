import PortMap.Text.Blank

/-!
# Cutting lines into pieces

How a line is cut: at a separator, as often as it is found or at most a number of times; at its marks, so
that the pieces within marks and those outside of them alternate; and at one of its equals signs, into a
name and a value.
-/

namespace PortMap.Toml

open Text

/-- The text without its first and its last character. -/
def inner {α : Type} (s : List α) : List α := (s.drop 1).dropLast

/-- The pieces with the separator between them. -/
def joinPieces (separator : List Char) : List (List Char) → List Char
  | [] => []
  | [s] => s
  | s :: rest => s ++ separator ++ joinPieces separator rest

/-! ### Separators -/

/-- Cuts a text at the separator, at most `max` times; `piece` holds the piece that is being read, last
character first, and `skip` the number of characters of a separator that are still to be passed. -/
def cutFrom (separator : List Char) (piece : List Char) (skip : Nat) :
    (max : Nat) → List Char → List (List Char)
  | _, [] => [piece.reverse]
  | max, c :: rest =>
    match skip, max with
    | skip + 1, max => cutFrom separator piece skip max rest
    | 0, max + 1 =>
      if separator.isPrefixOf (c :: rest) then
        piece.reverse :: cutFrom separator [] (separator.length - 1) max rest
      else cutFrom separator (c :: piece) 0 (max + 1) rest
    | 0, 0 => cutFrom separator (c :: piece) 0 0 rest

/-- Cuts a text at the separator, at most `max` times. -/
def cutAtMost (max : Nat) (separator s : List Char) : List (List Char) := cutFrom separator [] 0 max s

/-- Cuts a text at every separator. -/
def cut (separator s : List Char) : List (List Char) := cutAtMost s.length separator s

/-- How often a separator is found in a text. -/
def countOf (separator s : List Char) : Nat := (cut separator s).length - 1

/-- Whether a separator is found in a text. -/
def contains (separator s : List Char) : Bool := countOf separator s ≠ 0

/-! ### Marks -/

/-- Cuts a text at its single marks, where a text in double marks begins within single ones: pieces
between double marks are taken in as long as a single mark is open. -/
def takeSingle (pieces : List (List Char)) : List (List Char) → List (List Char) × List (List Char)
  | [] => (pieces, [])
  | d :: rest =>
    if pieces.length % 2 = 0 then
      let last := pieces.getLastD [] ++ '"' :: d
      takeSingle (pieces.dropLast ++ splitAt '\'' last) rest
    else (pieces, d :: rest)

/-- Cuts a text at its marks; the pieces at even places stand outside of marks. -/
def cutAtMarks (s : List Char) : List (List Char) :=
  let double := splitAt '"' s
  match double with
  | first :: second :: more =>
    let (singles, rest) :=
      if first.contains '\'' then takeSingle (splitAt '\'' first) (second :: more) else ([], double)
    singles ++
      match rest with
      | [] => []
      | d :: rest => splitAt '\'' d ++ rest
  | _ => splitAt '\'' s

/-- How often a separator is found in the pieces before the first one outside of marks in which it is
found. -/
def countBefore (separator : List Char) (quoted : Bool) : List (List Char) → Nat
  | [] => 0
  | piece :: rest =>
    if !quoted && contains separator piece then 0
    else countOf separator piece + countBefore separator (!quoted) rest

/-- The number of the first separator outside of marks, counted from one. -/
def firstOutside (separator s : List Char) : Nat :=
  countBefore separator false (cutAtMarks s) + 1

/-! ### Names and values -/

/-- A line cut at an equals sign. -/
structure Cut where
  /-- What stands before it. -/
  name : List Char
  /-- What stands after it. -/
  value : List Char

/-- Cuts a line at the equals sign with a number, or at the last one if there are fewer. -/
def cutAtEquals (number : Nat) (line : List Char) : Cut :=
  let pieces := cutAtMost number ['='] line
  ⟨joinPieces ['='] pieces.dropLast, pieces.getLastD []⟩

example : cutAtMarks "a = \"b=c\" # 'd'".toList
    = ["a = ".toList, "b=c".toList, " # 'd'".toList] := by decide

end PortMap.Toml
