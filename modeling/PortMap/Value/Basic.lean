import PortMap.Numeral.Decimal
import PortMap.Text.Quoted
import PortMap.Value.Calendar

/-!
# Values of settings, details and log attributes

Where the kind of a value is free (the contents of a settings file before it is checked, the details
of an error, the attributes of a log record, a port number that a caller hands in) it is a `Value`.

* A `Table` keeps its fields in the order in which they were put; `get?` and `put` are the look-up and
  the update in place.
* `Value.literal` is the written form with quoted texts, `Value.display` the form of a value that stands
  alone in a message: a text without its quotes, a day or a time as it is usually given.
-/

namespace PortMap

/-- A value of a free kind. -/
inductive Value where
  /-- No value. -/
  | null
  /-- A truth value. -/
  | flag (b : Bool)
  /-- A whole number of any size. -/
  | whole (n : Int)
  /-- A binary floating-point number. -/
  | real (x : Binary64)
  /-- A text. -/
  | text (s : String)
  /-- A text with halves of surrogate pairs, which are no characters, by its code points. -/
  | points (codes : List Nat)
  /-- A day of the calendar. -/
  | day (d : Day)
  /-- A time of day. -/
  | clock (c : Clock)
  /-- A time on a day, with the offset of its zone where one is given. -/
  | moment (d : Day) (c : Clock) (zone : Option String)
  /-- A list. -/
  | list (items : List Value)
  /-- A fixed group of values, such as a host and a port. -/
  | group (items : List Value)
  /-- A table of named fields in the order in which they were put. -/
  | table (fields : List (String × Value))
  /-- A table that is written within one line. -/
  | inlined (fields : List (String × Value))

/-- Named fields in the order in which they were put. -/
abbrev Table := List (String × Value)

instance : Inhabited Value := ⟨.null⟩

namespace Table

/-- The value of the field with the name given. -/
def get? (t : Table) (name : String) : Option Value := t.lookup name

/-- The names of the fields, in order. -/
def names (t : Table) : List String := t.map (·.1)

/-- The table with the field set: in its place if there is one, else at the end. -/
def put : Table → String → Value → Table
  | [], name, v => [(name, v)]
  | (k, w) :: rest, name, v => if k = name then (k, v) :: rest else (k, w) :: put rest name v

end Table

namespace Value

/-- The table that a value is. -/
def table? : Value → Option Table
  | .table fields | .inlined fields => some fields
  | _ => none

/-- The text with the code points given. -/
def ofPoints (codes : List Nat) : Value :=
  if codes.all Nat.isValidChar then .text (String.ofList (codes.map Char.ofNat)) else .points codes

/-- Whether a value counts as true: no value, zero and whatever is empty do not. -/
def isTrue : Value → Bool
  | .null => false
  | .flag b => b
  | .whole n => n ≠ 0
  | .real x => !x.same (.zero false)
  | .text s => s ≠ ""
  | .points codes => !codes.isEmpty
  | .day _ | .clock _ | .moment .. => true
  | .list items | .group items => !items.isEmpty
  | .table fields | .inlined fields => !fields.isEmpty

/-- The whole number that a value counts as: truth values count one and zero. -/
def wholeNumber? : Value → Option Int
  | .flag b => some (if b then 1 else 0)
  | .whole n => some n
  | _ => none

/-- The name of the kind of a value. -/
def kindName : Value → String
  | .null => "NoneType"
  | .flag _ => "bool"
  | .whole _ => "int"
  | .real _ => "float"
  | .text _ | .points _ => "str"
  | .day _ => "date"
  | .clock _ => "time"
  | .moment .. => "datetime"
  | .list _ => "list"
  | .group _ => "tuple"
  | .table _ => "dict"
  | .inlined _ => "TomlDecoder.get_empty_inline_table.<locals>.DynamicInlineTableDict"

/-- The name of the kind of a value in the account of a fault. -/
def kindInFault (v : Value) : String :=
  match v with
  | .day _ | .clock _ | .moment .. => "datetime." ++ v.kindName
  | .inlined _ => "DynamicInlineTableDict"
  | v => v.kindName

/-! ### Written form -/

/-- The texts one after the other with the separator between them. -/
def joined (separator : String) : List String → String
  | [] => ""
  | [s] => s
  | s :: rest => s ++ separator ++ joined separator rest

/-- The numbers of a day or a time between parentheses. -/
def numberLiteral (kind : String) (ns : List Nat) (more : List String) : String :=
  "datetime." ++ kind ++ "(" ++ joined ", " (ns.map toString ++ more) ++ ")"

mutual

/-- The written form of a value. -/
def literal : Value → String
  | .null => "None"
  | .flag b => if b then "True" else "False"
  | .whole n => toString n
  | .real x => x.text
  | .text s => Text.quoted s
  | .points codes => Text.quotedPoints codes
  | .day d => numberLiteral "date" [d.year, d.month, d.day] []
  | .clock c => numberLiteral "time" c.numbers []
  | .moment d c zone =>
    numberLiteral "datetime" ([d.year, d.month, d.day] ++ c.numbers)
      (zone.map fun z => "tzinfo=" ++ z).toList
  | .list items => "[" ++ joined ", " (literals items) ++ "]"
  | .group items =>
    match literals items with
    | [one] => "(" ++ one ++ ",)"
    | several => "(" ++ joined ", " several ++ ")"
  | .table fields | .inlined fields =>
    "\x7b" ++ joined ", " (fieldLiterals fields) ++ "\x7d"

/-- The written forms of the values. -/
def literals : List Value → List String
  | [] => []
  | v :: rest => literal v :: literals rest

/-- The written forms of the fields. -/
def fieldLiterals : List (String × Value) → List String
  | [] => []
  | (name, v) :: rest => (Text.quoted name ++ ": " ++ literal v) :: fieldLiterals rest

end

/-- The usual form of an offset of a zone; the letter of none stands for no offset. -/
def zoneText (zone : String) : String := if zone = "Z" then "+00:00" else zone

/-- The form of a value in a message: a text stands as it is, a day or a time in its usual form, and every
other value in its written form. -/
def display : Value → String
  | .text s => s
  | .day d => d.text
  | .clock c => c.text
  | .moment d c zone => d.text ++ " " ++ c.text ++ (zone.map zoneText).getD ""
  | v => literal v

end Value

end PortMap
