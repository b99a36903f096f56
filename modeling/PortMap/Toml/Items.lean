import PortMap.Toml.Quotation

/-!
# The items of a list

How the inside of a list is cut into its items: at its commas, where a text in marks, a table in braces
and a list within the list hold together. What lies between two tables in braces, and an item that is
blank, is not an item.
-/

namespace PortMap.Toml

open Text

/-! ### Texts -/

/-- Whether the text in brackets begins with a mark. -/
def beginsWithMark (s : List Char) : Bool :=
  match strip (inner s) with
  | c :: _ => c = '"' || c = '\''
  | [] => false

/-- Whether a piece ends with the character with which it begins, without a backslash before it. -/
def isBounded (s : List Char) : Bool :=
  match s with
  | [] => true
  | first :: rest =>
    match rest.reverse with
    | [] => true
    | last :: before => last = first && (before.takeWhile (· == '\\')).length % 2 = 0

/-- Whether a piece begins with three marks and does not end with as many. -/
def opensLong (s : List Char) : Bool :=
  match s, s.reverse with
  | a :: b :: c :: _, _ :: y :: z :: _ => a = b && b = c && y != a && z != a
  | _, _ => false

/-- Whether a piece is a part of a text only. -/
def isPart (s : List Char) : Bool := !isBounded (strip s) || opensLong (strip s)

/-- Joins a piece to those after it until the text that it begins is complete. -/
def complete (piece : List Char) : List (List Char) →
    Except Fault (List Char × List (List Char))
  | [] => if isPart piece then .error .listEnds else .ok (piece, [])
  | next :: rest =>
    if isPart piece then complete (piece ++ ',' :: next) rest else .ok (piece, next :: rest)

/-- Joins pieces to whole texts, except for the last one; no more pieces come out than go in. -/
def completeAll : (fuel : Nat) → List (List Char) → Except Fault (List (List Char))
  | fuel + 1, piece :: next :: rest =>
    match complete piece (next :: rest) with
    | .error e => .error e
    | .ok (item, rest) => (completeAll fuel rest).map (item :: ·)
  | _, pieces => .ok pieces

/-! ### Tables in braces -/

/-- Where the search for tables in braces stands. -/
inductive BracePart where
  /-- Within a table. -/
  | inside
  /-- Right after one. -/
  | behind
  /-- Between two of them. -/
  | between
  deriving DecidableEq, Repr

/-- A search for tables in braces. -/
structure Braces where
  /-- Where it stands. -/
  part : BracePart := .inside
  /-- The characters of the table so far, last one first. -/
  table : List Char := []
  /-- All characters so far, last one first. -/
  passed : List Char := []
  /-- The number of braces that are open. -/
  depth : Nat := 0
  /-- Whether a text is open. -/
  quoted : Bool := false
  /-- The tables so far, last one first. -/
  tables : List (List Char) := []

/-- Passes a character. -/
def Braces.step (s : Braces) (c : Char) : Braces :=
  let s := { s with passed := c :: s.passed }
  match s.part with
  | .behind => { s with part := .between }
  | .between => if c = '{' then { s with part := .inside, table := [c] } else s
  | .inside =>
    let slashes := ((s.passed.drop 1).takeWhile (· == '\\')).length
    let quoted := if c = '"' ∨ c = '\'' then !s.quoted || slashes % 2 = 1 else s.quoted
    let depth := if !quoted && c = '{' then s.depth + 1 else s.depth
    let s := { s with table := c :: s.table, quoted := quoted, depth := depth }
    if quoted || c != '}' then s
    else if 1 < depth then { s with depth := depth - 1 }
    else { s with part := .behind, table := [], tables := s.table.reverse :: s.tables }

/-- The tables in braces in the inside of a list. The first character belongs to the first table. -/
def tablesIn : List Char → List (List Char)
  | [] => []
  | c :: rest =>
    let start : Braces := { table := [c], passed := [c], depth := if c = '{' then 1 else 0 }
    (rest.foldl Braces.step start).tables.reverse

/-! ### Lists within lists -/

/-- The pieces between the commas that stand outside of brackets; `piece` holds the piece that is being
read, last character first. -/
def cutOutside (depth : Int) (piece : List Char) : List Char → List (List Char)
  | [] => [piece.reverse]
  | c :: rest =>
    if c = ',' ∧ depth = 0 then piece.reverse :: cutOutside depth [] rest
    else
      let depth := if c = '[' then depth + 1 else if c = ']' then depth - 1 else depth
      cutOutside depth (c :: piece) rest

/-! ### All together -/

/-- Whether a list begins with a list. -/
def beginsWithList (inside : List Char) : Bool :=
  inside.contains '[' && (strip (inside.takeWhile (· != '['))).isEmpty

/-- The items of a list in brackets, with those that are blank. -/
def itemsOf (s : List Char) : Except Fault (List (List Char)) :=
  let s := strip s
  let inside := inner s
  if beginsWithList inside then .ok (cutOutside 0 [] inside)
  else
    let pieces := if (strip inside).head? = some '{' then tablesIn inside else splitAt ',' inside
    if beginsWithMark s then completeAll pieces.length pieces else .ok pieces

end PortMap.Toml
