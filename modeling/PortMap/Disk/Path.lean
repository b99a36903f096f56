import PortMap.Text.Blank

/-!
# Paths

A path is a sequence of names, either from the root or from the working directory. Written, the names
are separated by slashes; several slashes in a row count as one, a slash at the end counts as none, and
the name `.` is left out. Exactly two slashes at the start are a root of its own.

A name has at most 255 bytes and a written path at most 4095, and no name holds the character that ends
names.
-/

namespace PortMap.Disk

/-- A path. -/
structure Path where
  /-- How the root is written, if the path begins there; the usual root is written as nothing. -/
  root : Option String
  /-- The names. -/
  names : List String
  deriving DecidableEq, Repr

namespace Path

/-- Reads a path. -/
def ofText (s : String) : Path where
  root :=
    match s.toList.takeWhile (· == '/') with
    | [] => none
    | [_, _] => some "/"
    | _ => some ""
  names := ((Text.splitAt '/' s.toList).filter fun n => n ≠ [] ∧ n ≠ ['.']).map String.ofList

/-- The path without its last name. -/
def parent (p : Path) : Path := { p with names := p.names.dropLast }

/-- The names with slashes between them. -/
def joinNames : List String → String
  | [] => ""
  | [name] => name
  | name :: rest => name ++ "/" ++ joinNames rest

/-- The written form of a path. -/
def text (p : Path) : String :=
  match p.root with
  | some root => root ++ "/" ++ joinNames p.names
  | none => if p.names.isEmpty then "." else joinNames p.names

end Path

/-! ### Limits -/

/-- The most bytes of a name. -/
def maxNameLength : Nat := 255

/-- The most bytes of a written path. -/
def maxPathLength : Nat := 4095

/-- Whether a name of a path has too many bytes. -/
def isTooLong (name : String) : Bool := maxNameLength < name.utf8ByteSize

/-- Whether a name of a path holds the character that ends names. -/
def Path.hasBadName (p : Path) : Bool := p.names.any fun name => name.toList.contains '\x00'

end PortMap.Disk
