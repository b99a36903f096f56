import PortMap.Text.Alphanumeric
import PortMap.Text.Blank
import PortMap.Toml.Fault

/-!
# The layout of a document

Before the lines of a document are read, the document is gone through once, character by character, so
that afterwards each header and each field stands on a line of its own:

* comments become blanks;
* a list that goes over several lines is brought onto one;
* a line break right after the marks that open a long text is taken out.

On the way the names in front of equals signs are checked: a name outside of quotation marks consists of
letters, numerals, underscores and dashes, and points join the parts of a name. A name without an equals
sign after it, and a text that is still open at the end of its line or of the document, are faults.

`layOut` gives the document in its new layout.
-/

namespace PortMap.Toml

open Text

/-- Where the reading of a name stands. -/
inductive NamePart where
  /-- No name is being read. -/
  | none
  /-- Within a name. -/
  | within
  /-- After a name, where an equals sign or another part is to come. -/
  | after
  deriving DecidableEq, Repr

/-- Where the going through a document stands. -/
structure Layout where
  /-- The characters passed so far in their new layout, last one first. -/
  passed : List Char := []
  /-- Where the reading of a name stands. -/
  name : NamePart := .none
  /-- Whether the name has parts. -/
  parted : Bool := false
  /-- The mark of the text that is open, if one is. -/
  mark : Option Char := none
  /-- Whether the text is a long one, with three marks at each end. -/
  long : Bool := false
  /-- Whether a header is open. -/
  header : Bool := false
  /-- Whether a header with two brackets is open. -/
  doubleHeader : Bool := false
  /-- The number of brackets that are open outside of headers. -/
  depth : Int := 0
  /-- Whether nothing but gaps has been passed since the line began. -/
  lineStart : Bool := true
  /-- Whether a comment is being passed. -/
  comment : Bool := false

namespace Layout

/-- Passes a character. -/
def pass (s : Layout) (c : Char) : Layout := { s with passed := c :: s.passed }

/-- The characters before the present one, going backwards. Before the first one of the document comes
the last one, up to the first one again. -/
def behind (s : Layout) (c : Char) (rest : List Char) : List Char :=
  s.passed ++ (rest.reverse ++ c :: s.passed)

/-- Whether there is an odd number of backslashes at the start. -/
def oddBackslashes (s : List Char) : Bool := (s.takeWhile (· == '\\')).length % 2 == 1

/-! ### Names -/

/-- Whether the next character begins another part of a name. -/
def beginsPart (rest : List Char) : Except Fault Bool :=
  match rest with
  | [] => .error .listEnds
  | c :: _ => .ok (!separatesWords c && c != '.')

/-- Passes a character of a name. `none` stands for a character that ends the name and is to be looked
at further. -/
def inName (s : Layout) (c : Char) (rest : List Char) : Except Fault (Option Layout) :=
  if c = '\n' then .error .malformed
  else
    match s.mark, s.name with
    | some mark, _ =>
      if c = mark && !oddBackslashes s.passed then
        .ok (some { s.pass c with name := .after, mark := none })
      else .ok (some (s.pass c))
    | none, .within =>
      if separatesWords c then .ok (some { s.pass c with name := .after })
      else if c = '.' then .ok (some { s.pass c with parted := true })
      else if isAlphanumeric c || c = '_' || c = '-' then .ok (some (s.pass c))
      else if s.parted && s.passed.head? = some '.' && (c = '"' || c = '\'') then
        .ok (some { s.pass c with mark := some c })
      else .ok none
    | none, _ =>
      if separatesWords c then
        if s.parted then
          (beginsPart rest).map fun more =>
            some { s.pass c with name := if more then .within else .after }
        else .ok (some (s.pass c))
      else if c = '.' then
        (beginsPart rest).map fun more =>
          some { s.pass c with parted := true, name := if more then .within else .after }
      else .ok none

/-- The state after the equals sign that ends a name. -/
def endName (s : Layout) (c : Char) : Except Fault Layout :=
  if c = '=' then .ok { s with name := .none, parted := false } else .error .malformed

/-! ### Marks, comments and brackets -/

/-- Opens a text with the mark if none is open, and closes the one that is. -/
def toggle (s : Layout) (mark : Char) : Layout :=
  { s with mark := if s.mark.isSome then none else some mark }

/-- Opens a long text with the mark if none is open, and closes the one that is. -/
def toggleLong (s : Layout) (mark : Char) : Layout :=
  { s with long := !s.long, mark := if s.long then none else some mark }

/-- How many of the two characters before a mark are the same mark. -/
def marksBefore (c : Char) (behind : List Char) : Nat := ((behind.takeWhile (· == c)).take 2).length

/-- Takes notice of a single mark. The third of three marks in a row opens or closes a long text. -/
def atSingle (s : Layout) (behind : List Char) : Layout :=
  if marksBefore '\'' behind = 2 then s.toggleLong '\'' else s.toggle '\''

/-- Takes notice of a double mark. The third of three marks in a row opens or closes a long text. A
backslash before the mark, or before three of them, takes its meaning away. -/
def atDouble (s : Layout) (behind : List Char) : Layout :=
  let marks := marksBefore '"' behind
  if marks ≠ 1 && oddBackslashes (behind.drop marks) then s
  else if marks = 2 then s.toggleLong '"'
  else s.toggle '"'

/-- Takes notice of a mark, which has no meaning within a text that the other mark has opened. -/
def atMark (s : Layout) (c : Char) (rest : List Char) : Layout :=
  if c = '\'' ∧ s.mark ≠ some '"' then s.atSingle (s.behind c rest)
  else if c = '"' ∧ s.mark ≠ some '\'' then s.atDouble (s.behind c rest)
  else s

/-- Whether neither a text nor a header is open. -/
def isPlain (s : Layout) : Bool := s.mark.isNone && !s.header && !s.doubleHeader

/-- Takes notice of a bracket. -/
def atBracket (s : Layout) (c : Char) (rest : List Char) : Layout :=
  if c = '[' then
    if !s.isPlain then s
    else if !s.lineStart then { s with depth := s.depth + 1 }
    else if rest.head? = some '[' then { s with doubleHeader := true }
    else { s with header := true }
  else if c = ']' ∧ s.mark.isNone then
    if s.header then { s with header := false }
    else if s.doubleHeader then
      if (s.behind c rest).head? = some ']' then { s with doubleHeader := false } else s
    else { s with depth := s.depth - 1 }
  else s

/-! ### Ends of lines -/

/-- The characters passed after a line break within a long text: right after two marks the break gives
way to the third of the marks that stood before it. -/
def passBreak : List Char → List Char
  | a :: b :: rest =>
    if (a = '\'' ∨ a = '"') ∧ b = a then
      match rest with
      | c :: more => a :: a :: b :: (if c = a then ' ' else c) :: more
      | [] => [a, a, b]
    else '\n' :: a :: b :: rest
  | passed => '\n' :: passed

/-- Passes the end of a line. -/
def endLine (s : Layout) : Except Fault Layout :=
  if s.long then .ok { s with passed := passBreak s.passed }
  else if s.mark.isSome then .error .malformed
  else if s.depth ≠ 0 then .ok (s.pass ' ')
  else .ok { s.pass '\n' with lineStart := true }

/-- Passes a character that is none of the special ones: the first one of a line outside of headers
begins a name. -/
def passPlain (s : Layout) (c : Char) : Except Fault Layout :=
  if s.lineStart && c != ' ' && c != '\t' then
    if s.header || s.doubleHeader then .ok { s.pass c with lineStart := false }
    else if c = '=' then .error .malformed
    else .ok { s.pass c with lineStart := false, name := .within }
  else .ok (s.pass c)

/-- Passes a character outside of names. -/
def step (s : Layout) (c : Char) (rest : List Char) : Except Fault Layout :=
  if c = '\n' then { s with comment := false }.endLine
  else if s.comment then .ok (s.pass ' ')
  else
    let s := s.atMark c rest
    if c = '#' && s.isPlain then .ok { s.pass ' ' with comment := true }
    else (s.atBracket c rest).passPlain c

/-- Goes through the characters. -/
def passAll (s : Layout) : List Char → Except Fault Layout
  | [] => .ok s
  | c :: rest =>
    if s.name = .none then (s.step c rest).bind fun s => s.passAll rest
    else
      match s.inName c rest with
      | .error e => .error e
      | .ok (some s) => s.passAll rest
      | .ok none => (s.endName c).bind fun s => (s.step c rest).bind fun s => s.passAll rest

end Layout

/-- The document in its new layout. -/
def layOut (document : List Char) : Except Fault (List Char) :=
  match ({} : Layout).passAll document with
  | .error e => .error e
  | .ok s =>
    if s.name ≠ .none ∨ (s.mark.isSome ∧ s.long) then .error .malformed else .ok s.passed.reverse

end PortMap.Toml
