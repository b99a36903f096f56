import PortMap.Toml.Fault
import PortMap.Value.Basic

/-!
# Writing TOML

A table is written level by level: first the lines of its own fields, then a section with a header for
each table in it, then the sections for the tables in those. An empty line stands before a header. A list
of tables is written as sections with doubled brackets, right after the lines of the fields. Fields without
a value are left out.

Texts stand in double quotation marks, with the escapes of a quoted text. Where that text holds a
backslash followed by `x`, the two are written anew (`rejoin`): as `x` or as the beginning of an escape
by code point, by the number of backslashes before it. One text cannot be written: one in which there is
nothing before the only such pair.

`write` writes a table.
-/

namespace PortMap.Toml

open Text

/-! ### Texts -/

/-- The pieces of a text between the pairs of a backslash and `x`; `piece` holds the piece that is being
read, last character first. -/
def splitMarks (piece : List Char) : List Char → List (List Char)
  | [] => [piece.reverse]
  | '\\' :: 'x' :: rest => piece.reverse :: splitMarks [] rest
  | c :: rest => splitMarks (c :: piece) rest

/-- The text with one backslash for each pair of them. -/
def halveBackslashes : List Char → List Char
  | '\\' :: '\\' :: rest => '\\' :: halveBackslashes rest
  | c :: rest => c :: halveBackslashes rest
  | [] => []

/-- What is written between two pieces, by the backslashes at the end of the first one. -/
def joint (before : List Char) : List Char :=
  let slashes := (before.reverse.takeWhile (· == '\\')).length
  if slashes = 0 then ['x']
  else if (Nat.min slashes (before.length - 1)) % 2 = 1 then ['x']
  else ['u', '0', '0']

/-- Puts the pieces of a text together again. -/
def rejoinFrom (before : List Char) : List (List Char) → List Char
  | [] => before
  | piece :: rest =>
    let before := halveBackslashes before
    rejoinFrom (before ++ joint before ++ piece) rest

/-- Puts the pieces of a text together again; an empty piece before all others is dropped, and then
another one has to follow the next. -/
def rejoin : List (List Char) → Option (List Char)
  | [] => some []
  | [piece] => some piece
  | [] :: [_] => none
  | [] :: piece :: rest => some (rejoinFrom piece rest)
  | piece :: rest => some (rejoinFrom piece rest)

/-- The escapes of a text without its quotation marks, so that it may stand between double ones. -/
def escapes (s : List Char) : List Char :=
  if quotationMark s = '"' then s.flatMap (quotedChar '"')
  else s.flatMap fun c => if c = '\'' then [c] else if c = '"' then ['\\', '"'] else quotedChar '\'' c

/-- A text in double quotation marks. -/
def textLiteral (s : String) : Except Fault String :=
  match rejoin (splitMarks [] (escapes s.toList)) with
  | some cs => .ok ("\"" ++ String.ofList cs ++ "\"")
  | none => .error .listEnds

/-- Whether a name may stand without quotation marks. A line break at its end is not looked at. -/
def isBareName (name : List Char) : Bool :=
  let body := if name.getLast? = some '\n' then name.dropLast else name
  !body.isEmpty && body.all fun c => c.isAlphanum || c == '_' || c == '-'

/-- The written form of a name. -/
def nameLiteral (name : String) : Except Fault String :=
  if isBareName name.toList then .ok name else textLiteral name

/-! ### Values -/

/-- The form of real numbers: exponents have no leading zero. -/
def realStyle : Binary64.RealStyle := ⟨1, "nan", "inf"⟩

mutual

/-- A value on a line. A table within a list gives the list of its names, and a value that the format has
no form for gives the text that it is displayed as. -/
def valueLiteral : Value → Except Fault String
  | .flag b => .ok (if b then "true" else "false")
  | .whole n => .ok (toString n)
  | .real x => .ok (x.render realStyle)
  | .list items | .group items => (itemLiterals items).map fun s => "[" ++ s ++ "]"
  | .table fields | .inlined fields => (nameItems fields).map fun s => "[" ++ s ++ "]"
  | v => textLiteral v.display

/-- The items of a list, each with a comma after it. -/
def itemLiterals : List Value → Except Fault String
  | [] => .ok ""
  | v :: rest =>
    match valueLiteral v with
    | .error e => .error e
    | .ok s => (itemLiterals rest).map fun more => " " ++ s ++ "," ++ more

/-- The names of a table as the items of a list. -/
def nameItems : List (String × Value) → Except Fault String
  | [] => .ok ""
  | (name, _) :: rest =>
    match textLiteral name with
    | .error e => .error e
    | .ok s => (nameItems rest).map fun more => " " ++ s ++ "," ++ more

end

/-! ### Tables -/

/-- What a table comes to: the text of its own fields, and the tables in it. -/
structure Part where
  /-- The lines of its fields. -/
  lines : String := ""
  /-- The sections of its lists of tables. -/
  sections : String := ""
  /-- The tables in it, with their written names. -/
  tables : Table := []

/-- The text of a part. -/
def Part.text (p : Part) : String := p.lines ++ p.sections

/-- The fields of an item of a list of tables; a value that is none has no fields only if it is empty. -/
def itemFields (v : Value) : Except Fault Table :=
  match v with
  | .table fields | .inlined fields => .ok fields
  | .text s =>
    match s.toList with
    | [] => .ok []
    | c :: _ =>
      match nameLiteral c.toString with
      | .error e => .error e
      | .ok _ => .error .fieldOfText
  | .list [] | .group [] => .ok []
  | .list (item :: _) | .group (item :: _) =>
    match nameLiteral item.display with
    | .error e => .error e
    | .ok _ => .error .fieldOfList
  | v => .error (.notIterable v.kindInFault)

/-- Whether a value is a list with a table among its items. -/
def tablesAmong? : Value → Option (List Value)
  | .list items => if items.any fun v => v.table?.isSome then some items else none
  | _ => none

/-- Goes through tables and those in them, level by level, at most `fuel` levels deep. The text of each
table is added to what has been written by `add`, together with its name. -/
def writeLevels (part : String → Table → Except Fault Part) (add : String → String → Part → String)
    (path : String) : (fuel : Nat) → String → Table → Except Fault String
  | 0, text, _ => .ok text
  | fuel + 1, text, tables =>
    let level := tables.foldlM
      (fun (text, next) (name, v) =>
        (part (path ++ name ++ ".") (v.table?.getD [])).map fun p =>
          (add text (path ++ name) p,
            p.tables.foldl (fun next (inner, w) => Table.put next (name ++ "." ++ inner) w) next))
      (text, ([] : Table))
    match level with
    | .error e => .error e
    | .ok (text, []) => .ok text
    | .ok (text, next) => writeLevels part add path fuel text next

/-- Adds a table within a list of tables: its header and its text, if it has any. -/
def addInner (text path : String) (p : Part) : String :=
  if p.text = "" then text else text ++ "[" ++ path ++ "]\n" ++ p.text

/-- The section of a table in a list of them, at the path given. A text that begins with a header stands
after an empty line. -/
def itemSection (part : String → Table → Except Fault Part) (fuel : Nat) (path : String)
    (item : Value) : Except Fault String :=
  match (itemFields item).bind (part (path ++ ".")) with
  | .error e => .error e
  | .ok p =>
    let header := "[[" ++ path ++ "]]\n"
    let (before, after) := if p.lines = "" then ("", "\n" ++ p.sections) else (p.text, "\n")
    (writeLevels part addInner (path ++ ".") fuel after p.tables).map fun s => header ++ before ++ s

/-- Adds a field to a part. -/
def addField (part : String → Table → Except Fault Part) (fuel : Nat) (path : String) (p : Part)
    (name : String) (v : Value) : Except Fault Part :=
  match nameLiteral name with
  | .error e => .error e
  | .ok name =>
    match v with
    | .null => .ok p
    | .table _ | .inlined _ => .ok { p with tables := p.tables.put name v }
    | v =>
      match tablesAmong? v with
      | some items =>
        (items.mapM (itemSection part fuel (path ++ name))).map fun sections =>
          { p with sections := p.sections ++ String.join sections }
      | none =>
        (valueLiteral v).map fun s => { p with lines := p.lines ++ name ++ " = " ++ s ++ "\n" }

/-- What the table at a path comes to; `fuel` bounds how deep its values go. -/
def part : (fuel : Nat) → (path : String) → Table → Except Fault Part
  | 0, _, _ => .ok {}
  | fuel + 1, path, fields =>
    fields.foldlM (fun p (name, v) => addField (part fuel) fuel path p name v) {}

/-- Adds a section, after an empty line: a table without lines has none if there are tables in it. -/
def addSection (text path : String) (p : Part) : String :=
  if p.text = "" && !p.tables.isEmpty then text
  else
    let gap := if text = "" || text.endsWith "\n\n" then "" else "\n"
    text ++ gap ++ "[" ++ path ++ "]\n" ++ p.text

mutual

/-- How many tables and lists hold each other in a value, at most. -/
def depth : Value → Nat
  | .list items | .group items => depthOfItems items + 1
  | .table fields | .inlined fields => depthOfFields fields + 1
  | _ => 0

/-- The greatest depth of values. -/
def depthOfItems : List Value → Nat
  | [] => 0
  | v :: rest => max (depth v) (depthOfItems rest)

/-- The greatest depth of the values of fields. -/
def depthOfFields : List (String × Value) → Nat
  | [] => 0
  | (_, v) :: rest => max (depth v) (depthOfFields rest)

end

/-- A table as a document. -/
def write (t : Table) : Except Fault String :=
  let fuel := depthOfFields t + 1
  match part fuel "" t with
  | .error e => .error e
  | .ok p => writeLevels (part fuel) addSection "" fuel p.text p.tables

end PortMap.Toml
