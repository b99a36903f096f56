import PortMap.Value.Basic

/-!
# Values as JSON text

The JSON form of a value, on one line and with ASCII characters only: a space follows each comma and
colon, the fields of a table keep their order, every other character is written by its UTF-16 units,
and the numbers that JSON does not have are the words `NaN`, `Infinity` and `-Infinity`. Days and times have
no form in JSON; the text that they are displayed as stands for them.
-/

namespace PortMap.Value

open Text

/-- The form of real numbers in JSON text. -/
def jsonStyle : Binary64.RealStyle := ⟨2, "NaN", "Infinity"⟩

/-- The escape of a UTF-16 unit. -/
def unitEscape (n : Nat) : List Char := ['\\', 'u'] ++ hexText 4 n

/-- What stands for a character in JSON text. -/
def jsonChar (c : Char) : List Char :=
  let n := c.toNat
  if c = '"' ∨ c = '\\' then ['\\', c]
  else if 0x20 ≤ n ∧ n < 0x7F then [c]
  else if c = '\n' then ['\\', 'n']
  else if c = '\r' then ['\\', 'r']
  else if c = '\t' then ['\\', 't']
  else if n = 8 then ['\\', 'b']
  else if n = 12 then ['\\', 'f']
  else if n < 0x10000 then unitEscape n
  else unitEscape (0xD800 + (n - 0x10000) / 0x400) ++ unitEscape (0xDC00 + (n - 0x10000) % 0x400)

/-- What stands for a code point in JSON text. -/
def jsonPoint (n : Nat) : List Char :=
  if n.isValidChar then jsonChar (Char.ofNat n) else unitEscape n

/-- A text in JSON. -/
def jsonText (s : String) : String := "\"" ++ String.ofList (s.toList.flatMap jsonChar) ++ "\""

mutual

/-- The JSON text of a value. -/
def json : Value → String
  | .null => "null"
  | .flag b => if b then "true" else "false"
  | .whole n => toString n
  | .real x => x.render jsonStyle
  | .text s => jsonText s
  | .points codes => "\"" ++ String.ofList (codes.flatMap jsonPoint) ++ "\""
  | .day d => jsonText (Value.day d).display
  | .clock c => jsonText (Value.clock c).display
  | .moment d c zone => jsonText (Value.moment d c zone).display
  | .list items => "[" ++ joined ", " (jsonItems items) ++ "]"
  | .group items => "[" ++ joined ", " (jsonItems items) ++ "]"
  | .table fields | .inlined fields => "\x7b" ++ joined ", " (jsonFields fields) ++ "\x7d"

/-- The JSON texts of the values. -/
def jsonItems : List Value → List String
  | [] => []
  | v :: rest => json v :: jsonItems rest

/-- The JSON texts of the fields. -/
def jsonFields : List (String × Value) → List String
  | [] => []
  | (name, v) :: rest => (jsonText name ++ ": " ++ json v) :: jsonFields rest

end

end PortMap.Value
