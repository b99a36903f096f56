import PortMap.Session.Basic

/-!
# The table of a mapping

A mapping is shown as a table with one row, drawn with lines: a title centred over it, a head, and the
row. A column is as wide as its longest text with a blank on each side.
-/

namespace PortMap.Cli.MappingTable

open Session

/-- A number of copies of a character. -/
def rule (n : Nat) (c : Char) : String := String.ofList (List.replicate n c)

/-- The heads of the columns, and the texts of a mapping under them. -/
def cells (m : Mapping) : List (String × String) := [
  ("Protocol", m.protocol.label),
  ("Private Port", toString m.privatePort.toNat),
  ("Public Port", toString m.publicPort.toNat),
  ("Lifetime (s)", toString m.lifetime.toNat),
  ("Epoch (s)", toString m.epoch.toNat)]

/-- The width of a column, without the blanks. -/
def width (cell : String × String) : Nat := Nat.max cell.1.length cell.2.length

/-- A line of texts between bars. -/
def textLine (bar : String) (texts : List (String × Nat)) : String :=
  bar ++ String.join (texts.map fun (s, n) => " " ++ s ++ rule (n - s.length) ' ' ++ " " ++ bar) ++ "\n"

/-- A drawn line: its left end, its stroke, its crossings and its right end. -/
def drawnLine (left : String) (stroke : Char) (crossing right : String) (widths : List Nat) : String :=
  left ++ Value.joined crossing (widths.map fun n => rule (n + 2) stroke) ++ right ++ "\n"

/-- A text centred in a width; the odd blank stands to its right. -/
def centred (n : Nat) (s : String) : String :=
  let missing := n - s.length
  rule (missing / 2) ' ' ++ s ++ rule (missing - missing / 2) ' ' ++ "\n"

/-- The table of a mapping at a gateway. -/
def render (gateway : Address) (m : Mapping) : String :=
  let columns := cells m
  let widths := columns.map width
  let total := widths.foldl (fun n w => n + w + 3) 1
  centred total ("Port mapping via " ++ gateway.text)
    ++ drawnLine "┏" '━' "┳" "┓" widths
    ++ textLine "┃" (columns.map fun c => (c.1, width c))
    ++ drawnLine "┡" '━' "╇" "┩" widths
    ++ textLine "│" (columns.map fun c => (c.2, width c))
    ++ drawnLine "└" '─' "┴" "┘" widths

end PortMap.Cli.MappingTable
