import PortMap.Toml.Entry
import PortMap.Toml.Header
import PortMap.Toml.Layout

/-!
# Reading TOML

A document is first brought into a layout in which each header and each field has a line of its own
(`layOut`). Then its lines are read one after the other into a `Draft`: a header opens a table, a line with
an equals sign puts a field into it, and a line in braces puts several. A text in three marks and a list
that are still open at the end of their line take in the lines that follow.

`read` reads a document.
-/

namespace PortMap.Toml

open Text

/-- A document that is being read. -/
structure Draft where
  /-- What has been read. -/
  root : Value := .table []
  /-- The header that was read last. -/
  opened : Opened := ⟨[], []⟩
  /-- The text that takes in the next line, if there is one. -/
  pending : Option Pending := none

/-- Whether a text that goes on ends with the line that has just been added to it. -/
def Pending.endsWith (p : Pending) (line : List Char) : Except Fault Bool :=
  match p.text with
  | [] => .error .textEnds
  | m :: _ =>
    if m = '[' then
      match line.getLast? with
      | none => .error .textEnds
      | some c => .ok (c = ']')
    else .ok (line.reverse.take 3 == [m, m, m])

namespace Draft

/-- Does something with the value that the header read last has led to. -/
def atLevel {α : Type} (d : Draft) (f : Value → Except Fault (Value × α)) :
    Except Fault (Draft × α) :=
  (follow f d.opened.path d.root).map fun (root, a) => ({ d with root := root }, a)

/-- Adds a line to the text that goes on. A field of its name that has come into being in the meantime is
replaced. -/
def goOn (d : Draft) (p : Pending) (line : List Char) : Except Fault Draft :=
  let text := p.text ++ line
  match p.endsWith line with
  | .error e => .error e
  | .ok false => .ok { d with pending := some (.ofLine p.name text) }
  | .ok true =>
    match readValue (fuelFor text) true text with
    | .error e => .error e
    | .ok v =>
      (d.atLevel fun level => (putField level p.name v).map fun level => (level, ())).map
        fun (d, _) => { d with pending := none }

/-- Reads a line that does not belong to a text that goes on. -/
def readLine (d : Draft) (line : List Char) : Except Fault Draft :=
  match line with
  | [] => .ok d
  | '[' :: rest =>
    match readHeader rest with
    | .error e => .error e
    | .ok h =>
      (openHeader h d.opened.implied d.root).map fun (root, opened) =>
        { d with root := root, opened := opened }
  | c :: _ =>
    if c = '{' then
      if line.getLast? ≠ some '}' then .error .malformed
      else
        (d.atLevel fun level =>
          (readBraces (fuelFor line) line level).map fun level => (level, ())).map Prod.fst
    else if line.contains '=' then
      (d.atLevel (readEntry (fuelFor line) line)).map fun (d, pending) =>
        { d with pending := pending }
    else .ok d

/-- Reads a line. The blanks at its ends count only within a text that has taken in a line break. -/
def next (d : Draft) (line : List Char) : Except Fault Draft :=
  match d.pending with
  | none => d.readLine (strip line)
  | some p =>
    let line := if p.joined || !p.text.contains '\n' then strip line else line
    if line.isEmpty && p.joined then .ok d else d.goOn p line

end Draft

/-- Reads a document. -/
def read (document : List Char) : Except Fault Table :=
  match layOut document with
  | .error e => .error e
  | .ok s =>
    match (splitAt '\n' s).foldlM Draft.next {} with
    | .error e => .error e
    | .ok d => .ok (d.root.table?.getD [])

end PortMap.Toml
