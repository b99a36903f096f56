import PortMap.Disk.Path

/-!
# Files

A tree of files and directories, as far as it matters for settings: what stands at a path, and the two
places from which settings are looked for, the working directory and the home directory.

The tree is a list of entries by the names that lead to them from the root. A directory is there if it
is an entry, if an entry lies below it, or if it is one of the two places.
-/

namespace PortMap.Disk

/-- What stands at a path. -/
inductive Entry where
  /-- A file with its bytes. -/
  | file (d : List UInt8)
  /-- A file that may not be read. -/
  | locked
  /-- A directory. -/
  | directory
  deriving DecidableEq, Repr

/-- A tree of files. -/
structure Tree where
  /-- How the root is written; the usual one is written as nothing. -/
  root : String := ""
  /-- The names that lead to the working directory. -/
  working : List String
  /-- The names that lead to the home directory. -/
  home : List String
  /-- The entries by the names that lead to them. -/
  entries : List (List String × Entry) := []
  /-- The names that lead to directories from other roots. -/
  outside : List (List String) := [[]]

namespace Tree

/-- What stands at the end of the names from the root. -/
def at? (t : Tree) (names : List String) : Option Entry :=
  match t.entries.lookup names with
  | some e => some e
  | none =>
    if (t.working :: t.home :: t.entries.map (·.1)).any (names.isPrefixOf ·) then some .directory
    else none

/-- The names that a path leads to, name by name; every name but the last has to be one of a
directory. -/
def walk (t : Tree) (here : List String) : List String → Option (List String)
  | [] => some here
  | name :: rest =>
    if t.at? here ≠ some .directory then none
    else if name = ".." then t.walk here.dropLast rest
    else t.walk (here ++ [name]) rest

/-- The names from the root that a path stands for. A path from another root does not lead there. -/
def resolve (t : Tree) (p : Path) : Option (List String) :=
  match p.root with
  | some root => if root = t.root then t.walk [] p.names else none
  | none => t.walk t.working p.names

/-- Whether a path begins at another root than that of the tree. -/
def isOutside (t : Tree) (p : Path) : Bool := p.root.isSome && p.root != some t.root

/-- The names that are left when each `..` has taken away the name before it. -/
def plainNames (here : List String) (names : List String) : List String :=
  names.foldl (fun here name => if name = ".." then here.dropLast else here ++ [name]) here

/-- What stands at a path. -/
def get? (t : Tree) (p : Path) : Option Entry :=
  if t.isOutside p then
    if t.outside.contains (plainNames [] p.names) then some .directory else none
  else (t.resolve p).bind t.at?

/-- Whether going along the names, each of which but the last has to be one of a directory, comes to a
name that has too many bytes. -/
def meetsLongName (isDirectory : List String → Bool) (here : List String) : List String → Bool
  | [] => false
  | name :: rest =>
    isDirectory here && (isTooLong name ||
      meetsLongName isDirectory (if name = ".." then here.dropLast else here ++ [name]) rest)

/-- Whether a path cannot be looked up because it, or a name on the way, has too many bytes. A path that
holds the character that ends names leads nowhere. -/
def isBeyondLimits (t : Tree) (p : Path) : Bool :=
  !p.hasBadName && (decide (maxPathLength < p.text.utf8ByteSize) ||
    if t.isOutside p then meetsLongName t.outside.contains [] p.names
    else meetsLongName (t.at? · = some .directory) (if p.root.isSome then [] else t.working) p.names)

/-- Whether something stands at a path. -/
def isThere (t : Tree) (p : Path) : Bool := (t.get? p).isSome

/-- Whether a file stands at a path. -/
def isFile (t : Tree) (p : Path) : Bool :=
  match t.get? p with
  | some (.file _) | some .locked => true
  | some .directory | none => false

/-- Whether a directory stands at a path. -/
def isDirectory (t : Tree) (p : Path) : Bool := t.get? p = some .directory

/-- The path from the root along the names. -/
def pathOf (t : Tree) (names : List String) : Path := ⟨some t.root, names⟩

/-- The tree with an entry put at the end of the names from the root. -/
def put (t : Tree) (names : List String) (e : Entry) : Tree :=
  { t with entries := t.entries.filter (fun x => x.1 != names) ++ [(names, e)] }

/-- The tree without the entry at the end of the names from the root. -/
def remove (t : Tree) (names : List String) : Tree :=
  { t with entries := t.entries.filter fun x => x.1 != names }

end Tree

end PortMap.Disk
