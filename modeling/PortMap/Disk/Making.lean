import PortMap.Disk.Tree
import PortMap.Text.Quoted

/-!
# Making directories

A directory is made at a path, and with it the directories that lead there (`Tree.makeAll`). A directory
that is there already is left as it is; a file in its place, or on the way to it, is in the way.
-/

namespace PortMap.Disk

/-- What is in the way of a directory. -/
inductive Obstacle where
  /-- A directory on the way is missing. -/
  | missing
  /-- Something is there already. -/
  | present
  /-- Something on the way is no directory. -/
  | notDirectory
  /-- A name has too many bytes. -/
  | tooLong
  deriving DecidableEq, Repr

/-- Why a directory cannot be made. -/
inductive MakeFault where
  /-- Something is in the way. -/
  | blocked (cause : Obstacle) (path : Path)
  /-- A name holds the character that ends names. -/
  | badName
  deriving DecidableEq, Repr

/-- What is told of an obstacle. -/
def Obstacle.message : Obstacle → String
  | .missing => "[Errno 2] No such file or directory"
  | .present => "[Errno 17] File exists"
  | .notDirectory => "[Errno 20] Not a directory"
  | .tooLong => "[Errno 36] File name too long"

/-- What is told of a directory that cannot be made. -/
def MakeFault.message : MakeFault → String
  | .blocked cause path => cause.message ++ ": " ++ Text.quoted path.text
  | .badName => "embedded null byte"

namespace Tree

/-- The names from the root after one more name, which may be the one of the directory above. -/
def step (here : List String) (name : String) : List String :=
  if name = ".." then here.dropLast else here ++ [name]

/-- Goes along names, each of which has to be one of a directory. -/
def enter (t : Tree) (here : List String) : List String → Except Obstacle (List String)
  | [] => .ok here
  | name :: rest =>
    if isTooLong name then .error .tooLong
    else
      match t.at? (step here name) with
      | some .directory => enter t (step here name) rest
      | some _ => .error .notDirectory
      | none => .error .missing

/-- Where paths of a kind begin. -/
def start (t : Tree) (p : Path) : List String := if p.root.isSome then [] else t.working

/-- Makes the directory at a path, and none on the way. -/
def make (t : Tree) (p : Path) : Except Obstacle Tree :=
  if t.isOutside p then if t.isDirectory p then .error .present else .ok t
  else
    match t.enter (t.start p) p.names.dropLast with
    | .error e => .error e
    | .ok here =>
      match p.names.getLast? with
      | none => .error .present
      | some name =>
        if isTooLong name then .error .tooLong
        else if (t.at? (step here name)).isSome then .error .present
        else .ok (t.put (step here name) .directory)

/-- Makes the directory at a path with those on the way; `fuel` bounds their number. -/
def makeWithin : (fuel : Nat) → Tree → Path → Except MakeFault Tree
  | 0, _, p => .error (.blocked .missing p)
  | fuel + 1, t, p =>
    match t.make p with
    | .ok t => .ok t
    | .error .missing =>
      match makeWithin fuel t p.parent with
      | .error e => .error e
      | .ok t =>
        match t.make p with
        | .ok t => .ok t
        | .error .missing => .error (.blocked .missing p)
        | .error e => if t.isDirectory p then .ok t else .error (.blocked e p)
    | .error e => if t.isDirectory p then .ok t else .error (.blocked e p)

/-- Makes the directory at a path with those on the way. -/
def makeAll (t : Tree) (p : Path) : Except MakeFault Tree :=
  if p.hasBadName then .error .badName else makeWithin (p.names.length + 1) t p

/-- Whether a file can be opened for writing at a path: its name is good, it is no directory, and what
leads to it is one. -/
def canWrite (t : Tree) (p : Path) : Bool :=
  let names := plainNames (t.start p) p.names
  if p.hasBadName || names.any isTooLong then false
  else if t.isOutside p then !t.isDirectory p
  else t.at? names ≠ some .directory && t.at? names.dropLast = some .directory

end Tree

end PortMap.Disk
