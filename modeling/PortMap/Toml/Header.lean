import PortMap.Text.Blank
import PortMap.Toml.Level
import PortMap.Toml.Pieces

/-!
# Headers

A header is a line with a name in brackets. Its parts, with points between them, lead from the outermost
table to the one that the lines below it fill. A table comes into being when a header leads to it for the
first time, and no header may open it a second time, unless it came into being on the way to another one.
A header in double brackets puts a new table at the end of a list of them.

`readHeader` reads the names of a header, and `openHeader` goes where they lead (`Opened`).
-/

namespace PortMap.Toml

open Text

/-! ### The names of a header -/

/-- The names in a header. -/
structure Header where
  /-- Whether it stands in double brackets. -/
  double : Bool
  /-- The names, from the outermost one on. -/
  names : List String

/-- Whether a character may stand in a name without marks. -/
def isNameChar (c : Char) : Bool := c.isAlphanum || c == '_' || c == '-'

/-- Whether a text ends with the mark with which it begins. -/
def isMarked (s : List Char) : Bool := s.length ≠ 1 && s.head? == s.getLast?

/-- The names in the pieces between points: a piece that begins with a mark takes in the next ones until
it ends with the mark. The piece that is being taken in, if there is one, is the first argument. -/
def namesIn : Option (List Char) → List (List Char) → Except Fault (List String)
  | none, [] => .ok []
  | some _, [] => .error .malformed
  | none, piece :: rest =>
    let piece := strip piece
    match piece with
    | [] => .error .malformed
    | c :: _ =>
      if c = '"' ∨ c = '\'' then
        if isMarked piece then
          (namesIn none rest).map (String.ofList (inner piece) :: ·)
        else namesIn (some piece) rest
      else if piece.all isNameChar then (namesIn none rest).map (String.ofList piece :: ·)
      else .error .malformed
  | some before, piece :: rest =>
    let piece := before ++ '.' :: piece
    if isMarked (strip piece) then
      (namesIn none rest).map (String.ofList (inner (strip piece)) :: ·)
    else namesIn (some piece) rest

/-- The text between the opening bracket, or two of them, and the closing ones, after which nothing may
follow. -/
def bracketed (closing s : List Char) : Except Fault (List Char) :=
  let number := firstOutside closing s
  let pieces := cutAtMost number closing s
  if pieces.length ≤ number ∨ !(strip (pieces.getLastD [])).isEmpty then .error .malformed
  else .ok (joinPieces closing pieces.dropLast)

/-- Reads a header, after its first opening bracket. -/
def readHeader (s : List Char) : Except Fault Header :=
  match s with
  | [] => .error .malformed
  | '[' :: rest =>
    match bracketed [']', ']'] rest with
    | .error e => .error e
    | .ok name => (namesIn none (splitAt '.' name)).map (Header.mk true)
  | _ =>
    match bracketed [']'] s with
    | .error e => .error e
    | .ok name => (namesIn none (splitAt '.' name)).map (Header.mk false)

/-! ### Where headers lead -/

/-- A step from a value to a value in it. -/
inductive Step where
  /-- To the field with a name. -/
  | field (name : String)
  /-- To the last item. -/
  | last
  deriving DecidableEq, Repr

/-- The value with another last item. -/
def putLast (v w : Value) : Value :=
  match v with
  | .list items => .list (items.dropLast ++ [w])
  | .group items => .group (items.dropLast ++ [w])
  | v => v

/-- Does something with the value to which steps lead. -/
def follow {α : Type} (f : Value → Except Fault (Value × α)) :
    List Step → Value → Except Fault (Value × α)
  | [], v => f v
  | .field name :: path, v =>
    match getField v name with
    | .error e => .error e
    | .ok w =>
      match follow f path (w.getD .null) with
      | .error e => .error e
      | .ok (w, a) => (putField v name w).map fun v => (v, a)
  | .last :: path, v =>
    match lastItem? v with
    | .error e => .error e
    | .ok none => follow f path v
    | .ok (some w) => (follow f path w).map fun (w, a) => (putLast v w, a)

/-- What a header has led to. -/
structure Opened where
  /-- The steps on the way. -/
  path : List Step
  /-- The names of the tables that have come into being on the way to others, and have not been opened
  since. -/
  implied : List String

/-- The table that a header makes, or the list with the table. -/
def fresh (list : Bool) : Value := if list then .list [.table []] else .table []

/-- Puts an empty table at the end of a list. -/
def grow : Value → Except Fault Value
  | .list items => .ok (.list (items ++ [.table []]))
  | _ => .error .noList

/-- Finds a field of a value, or makes it; `last` says whether no name follows in the header, and `double`
whether it stands in double brackets. A value that is no table stands for its last item. -/
def openStep (double last : Bool) (name : String) (implied : List String) (v : Value) :
    Except Fault (Value × Opened) :=
  match v.table? with
  | some fields =>
    match fields.lookup name with
    | none =>
      (putField v name (fresh (last && double))).map fun v =>
        (v, ⟨[.field name], if last then implied else implied ++ [name]⟩)
    | some w =>
      if !last then .ok (v, ⟨[.field name], implied⟩)
      else if implied.contains name then
        if double then .error .malformed else .ok (v, ⟨[.field name], implied.erase name⟩)
      else if double then
        match grow w with
        | .error e => .error e
        | .ok w => (putField v name w).map fun v => (v, ⟨[.field name], implied⟩)
      else .error .malformed
  | none =>
    match lastItem? v with
    | .error e => .error e
    | .ok item =>
      let w := item.getD v
      match hasMember w name with
      | .error e => .error e
      | .ok true => .ok (v, ⟨[.last, .field name], implied⟩)
      | .ok false =>
        (putField w name (fresh (last && double))).map fun w =>
          (putLast v w, ⟨[.last, .field name], implied⟩)

/-- Goes from a value to the one to which the names lead. In a header in double brackets, a list on the
way stands for its last item. -/
def openNames (double : Bool) : List String → List String → Value →
    Except Fault (Value × Opened)
  | [], implied, v => .ok (v, ⟨[], implied⟩)
  | name :: names, implied, v =>
    if name = "" then .error .malformed
    else
      match openStep double names.isEmpty name implied v with
      | .error e => .error e
      | .ok (v, here) =>
        (follow (fun w =>
          match if double then (lastItem? w).map Option.isSome else .ok false with
          | .error e => .error e
          | .ok false => openNames double names here.implied w
          | .ok true =>
            (follow (openNames double names here.implied) [.last] w).map fun (w, there) =>
              (w, { there with path := .last :: there.path })) here.path v).map
          fun (v, there) => (v, { there with path := here.path ++ there.path })

/-- Goes from the outermost table to where a header leads. -/
def openHeader (h : Header) (implied : List String) (root : Value) :
    Except Fault (Value × Opened) :=
  openNames h.double h.names implied root

end PortMap.Toml
