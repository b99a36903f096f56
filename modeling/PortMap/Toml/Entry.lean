import PortMap.Toml.Items
import PortMap.Toml.Level
import PortMap.Toml.Moment
import PortMap.Toml.Number

/-!
# Fields and their values

A line with a field is cut at an equals sign into a name and a value. The name may have several parts, with
points between them, which lead into tables. The value is a text in marks, a list in brackets, a table in
braces, or it stands without any of these. A text in three marks may go on in the next line (`Pending`).

`readValue` reads a value, and `readEntry` reads a line and puts the field into a table.
-/

namespace PortMap.Toml

open Text

/-! ### Where a value begins -/

/-- Whether a value is a number or a time, as far as that can be seen. -/
def isNumberOrTime (s : List Char) : Except Fault Bool :=
  if (readFloat? s).isSome then .ok true
  else (readDay? s).map fun day => day.isSome || (clockNumbers? s).isSome

/-- Whether a value needs no further look: it is empty, it begins with a gap, a mark, a bracket or a
brace, or it is a truth value. -/
def isSettled (s : List Char) : Bool :=
  match s with
  | [] => true
  | c :: _ =>
    " \t'\"[\x7b".toList.contains c || strip s = "true".toList || strip s = "false".toList

/-- A line cut into a name and a value, and whether the value is well formed as a numeral. -/
structure Choice where
  /-- The line, cut. -/
  cut : Cut
  /-- Whether the value is well formed as a numeral. -/
  wellFormed : Bool

/-- Looks for the equals sign after which a value begins: the next one is tried as long as what follows
is no value that can stand alone. -/
def chooseFrom (line : List Char) : (fuel number : Nat) → Choice → Except Fault Choice
  | 0, _, _ => .error .malformed
  | fuel + 1, number, c =>
    if isSettled c.cut.value then .ok c
    else
      match isNumberOrTime c.cut.value with
      | .error e => .error e
      | .ok true => .ok c
      | .ok false =>
        let next := cutAtEquals (number + 1) line
        if next.value = c.cut.value then .error .malformed
        else chooseFrom line fuel (number + 1) ⟨next, c.wellFormed && isWellFormed next.value⟩

/-- Cuts a line into a name and a value. Underscores in a value that begins with a digit do not count. -/
def chooseCut (line : List Char) : Except Fault Choice :=
  let number := firstOutside ['='] line
  let c := cutAtEquals number line
  let value :=
    if (c.value.head?.map isPlainDigit).getD false then c.value.filter (· != '_') else c.value
  chooseFrom line (line.length + 2) number ⟨⟨c.name, value⟩, isWellFormed c.value⟩

/-! ### Names -/

/-- The parts of a name between its points; points within marks do not count. -/
def partsFrom (quoted : Bool) : List (List Char) → List (List Char)
  | [] => []
  | piece :: rest =>
    (if quoted then [piece] else (splitAt '.' piece).map strip) ++ partsFrom (!quoted) rest

/-- The parts of a name. -/
def partsOf (name : List Char) : List (List Char) :=
  if name.contains '"' || name.contains '\'' then partsFrom false (cutAtMarks name)
  else splitAt '.' name

/-- The parts without those at the end that are empty. -/
def dropEmpty (parts : List (List Char)) : List (List Char) :=
  (parts.reverse.dropWhile List.isEmpty).reverse

/-- A name without the marks around it. -/
def unmarked (name : List Char) : Except Fault (List Char) :=
  match name with
  | [] => .error .textEnds
  | c :: _ =>
    if (c = '"' ∨ c = '\'') ∧ name.getLast? = some c then
      (unescape (points (inner name))).map fun s => s.map Char.ofNat
    else .ok name

/-- The names that lead into tables, and the name of the field. -/
def readName (name : List Char) : Except Fault (List String × String) :=
  if name.contains '.' then
    match (dropEmpty (partsOf name)).reverse with
    | [] => .error .listEnds
    | last :: before =>
      .ok (before.reverse.map String.ofList, String.ofList (strip last))
  else (unmarked name).map fun name => ([], String.ofList name)

/-! ### Texts that go on -/

/-- A text that goes on in the next line. -/
structure Pending where
  /-- The name of the field. -/
  name : String
  /-- The text so far, from its mark on. -/
  text : List Char
  /-- Whether the next line follows without a line break. -/
  joined : Bool := false

/-- A text that goes on, up to the end of a line: a backslash there takes the line break away. -/
def Pending.ofLine (name : String) (text : List Char) : Pending :=
  if (text.reverse.takeWhile (· == '\\')).length % 2 = 1 then ⟨name, text.dropLast, true⟩
  else ⟨name, text ++ ['\n'], false⟩

/-- The last piece of an open list, together with those before it up to one that begins with a mark. -/
def lastText (piece : List Char) : List (List Char) → Except Fault (List Char)
  | [] => .ok piece
  | before :: rest =>
    match piece with
    | [] => .error .textEnds
    | c :: _ =>
      if c = '"' ∨ c = '\'' then .ok piece else lastText (before ++ ',' :: piece) rest

/-- The text at the end of an open list of texts; any other value is its own end. -/
def openText (s : List Char) : Except Fault (List Char) :=
  if s.head? = some '[' ∧ s.getLast? ≠ some ']' ∧ beginsWithMark s then
    match (splitAt ',' (strip (s.drop 1))).reverse with
    | [] => .ok []
    | piece :: rest => lastText piece rest
  else .ok s

/-- Whether a text begins with three marks that are not closed in the same line. -/
def isOpen (s : List Char) : Except Fault Bool :=
  match s with
  | [] => .error .textEnds
  | m :: rest =>
    if m ≠ '"' ∧ m ≠ '\'' then .ok false
    else
      match rest with
      | [] => .error .textEnds
      | a :: rest =>
        if a ≠ m then .ok false
        else
          match rest with
          | [] => .error .textEnds
          | b :: _ =>
            .ok (b = m && !(5 < s.length && s.reverse.take 3 == [m, m, m]))

/-- Whether a value goes on in the next line. -/
def goesBeyond (s : List Char) : Except Fault Bool :=
  if s.length < 3 then .ok false else (openText s).bind isOpen

/-! ### Tables in braces -/

/-- Whether what stands after an equals sign in braces is a whole value. -/
def isWhole (s : List Char) : Except Fault Bool :=
  match s, s.getLast? with
  | c :: _, some last =>
    .ok ((c = last && (c = '"' || c = '\'')) || c = '-' || isPlainDigit c || s = "true".toList
      || s = "false".toList || (c = '[' && last = ']') || (c = '{' && last = '}'))
  | _, _ => .error .textEnds

/-- Joins the pieces between commas to fields: a piece whose value is not whole goes on with the next
one. -/
def fieldsFrom (piece : List Char) : List (List Char) → Except Fault (List (List Char))
  | [] =>
    if !piece.contains '=' then .error .malformed
    else
      (isWhole (strip ((piece.dropWhile (· != '=')).drop 1))).bind fun whole =>
        if whole then .ok [piece] else .error .malformed
  | next :: rest =>
    if !piece.contains '=' then .error .malformed
    else
      (isWhole (strip ((piece.dropWhile (· != '=')).drop 1))).bind fun whole =>
        if whole then (fieldsFrom next rest).map (piece :: ·)
        else fieldsFrom (piece ++ ',' :: next) rest

/-- The fields of a table in braces. -/
def fieldsOf (s : List Char) : Except Fault (List (List Char)) :=
  match splitAt ',' (inner s) with
  | [] => .ok []
  | [piece] => if (strip piece).isEmpty then .ok [] else fieldsFrom piece []
  | piece :: rest => fieldsFrom piece rest

/-! ### Values -/

/-- The kind of an item; all items of a list are of one kind. -/
def itemKind : Value → String
  | .moment d _ _ => (Value.day d).kindName
  | v => v.kindName

/-- Puts a new field into a table. -/
def putNew (v : Value) (name : String) (w : Value) : Except Fault Value :=
  match getField v name with
  | .ok none => putField v name w
  | _ => .error .malformed

mutual

/-- Reads a value; `wellFormed` says whether it is well formed as a numeral. -/
def readValue : (fuel : Nat) → (wellFormed : Bool) → List Char → Except Fault Value
  | 0, _, _ => .error .malformed
  | fuel + 1, wellFormed, s =>
    match s with
    | [] => .error .malformed
    | c :: _ =>
      if s = "true".toList then .ok (.flag true)
      else if s = "false".toList then .ok (.flag false)
      else if c = '"' ∨ c = '\'' then readQuotation c s
      else if c = '[' then
        match itemsOf s with
        | .error e => .error e
        | .ok items => (readItems fuel none items).map .list
      else if c = '{' then readBraces fuel s (.inlined [])
      else
        match clockNumbers? s with
        | some ns => readClock ns
        | none =>
          match readDay? s with
          | .error e => .error e
          | .ok (some v) => .ok v
          | .ok none => readNumeral wellFormed s

/-- Reads the items of a list, all of the kind given, if one is. -/
def readItems : (fuel : Nat) → (kind : Option String) → List (List Char) →
    Except Fault (List Value)
  | 0, _, _ => .error .malformed
  | _ + 1, _, [] => .ok []
  | fuel + 1, kind, item :: rest =>
    if (strip item).isEmpty then readItems fuel kind rest
    else
      match readValue fuel true (strip item) with
      | .error e => .error e
      | .ok v =>
        if kind.any (· != itemKind v) then .error .malformed
        else (readItems fuel (some (itemKind v)) rest).map (v :: ·)

/-- Reads a table in braces into a table. -/
def readBraces : (fuel : Nat) → List Char → Value → Except Fault Value
  | 0, _, _ => .error .malformed
  | fuel + 1, s, table =>
    match fieldsOf s with
    | .error e => .error e
    | .ok fields => readFields fuel fields table

/-- Reads fields into a table, up to one that goes on in the next line. -/
def readFields : (fuel : Nat) → List (List Char) → Value → Except Fault Value
  | 0, _, _ => .error .malformed
  | _ + 1, [], table => .ok table
  | fuel + 1, field :: rest, table =>
    match readEntry fuel field table with
    | .error e => .error e
    | .ok (table, none) => readFields fuel rest table
    | .ok (table, some _) => .ok table

/-- Reads a line with a field into a table, or gives the text that goes on in the next line. -/
def readEntry : (fuel : Nat) → List Char → Value → Except Fault (Value × Option Pending)
  | 0, _, _ => .error .malformed
  | fuel + 1, line, table =>
    match chooseCut line with
    | .error e => .error e
    | .ok c =>
      let s := strip c.cut.value
      match readName (strip c.cut.name) with
      | .error e => .error e
      | .ok (path, name) =>
        within (fun level =>
          match goesBeyond s with
          | .error e => .error e
          | .ok true =>
            match getField level name with
            | .ok none =>
              if name = "" then .error .unnamedText else .ok (level, some (.ofLine name s))
            | _ => .error .malformed
          | .ok false =>
            match readValue fuel c.wellFormed s with
            | .error e => .error e
            | .ok v => (putNew level name v).map fun level => (level, none)) path table

end

/-- A number that bounds the steps of reading a text. -/
def fuelFor (s : List Char) : Nat := 4 * s.length + 16

end PortMap.Toml
