import PortMap.Text.Unprintable

/-!
# Quoted text

A text between quotation marks, for messages and for lists and tables in them. The mark is the single
one, unless the text holds a single one and no double one. The backslash, the mark in use, the line
feed, the carriage return and the tab are written with a backslash, and a character without a picture
by its code point with two, four or eight digits in base 16.
-/

namespace PortMap.Text

/-- The number in base 16 with at least `width` digits, in small letters. -/
def hexText (width n : Nat) : List Char :=
  let ds := Nat.toDigits 16 n
  List.replicate (width - ds.length) '0' ++ ds

/-- The escape of a code point. -/
def pointEscape (n : Nat) : List Char :=
  if n < 0x100 then ['\\', 'x'] ++ hexText 2 n
  else if n < 0x10000 then ['\\', 'u'] ++ hexText 4 n
  else ['\\', 'U'] ++ hexText 8 n

/-- The escape of a character by its code point. -/
def codeEscape (c : Char) : List Char := pointEscape c.toNat

/-- What stands for a character between the marks `mark`. -/
def quotedChar (mark c : Char) : List Char :=
  if c = mark ∨ c = '\\' then ['\\', c]
  else if c = '\n' then ['\\', 'n']
  else if c = '\r' then ['\\', 'r']
  else if c = '\t' then ['\\', 't']
  else if isPrintable c then [c]
  else codeEscape c

/-- The mark for a text. -/
def quotationMark (s : List Char) : Char :=
  if s.contains '\'' && !s.contains '"' then '"' else '\''

/-- The text between quotation marks. -/
def quotedChars (s : List Char) : List Char :=
  let mark := quotationMark s
  mark :: (s.flatMap (quotedChar mark) ++ [mark])

/-- The text between quotation marks. -/
def quoted (s : String) : String := String.ofList (quotedChars s.toList)

/-- The text with the code points given between quotation marks; a code point that is no character is
written as an escape. -/
def quotedPoints (codes : List Nat) : String :=
  let mark := quotationMark ((codes.filter Nat.isValidChar).map Char.ofNat)
  let inside := codes.flatMap fun n =>
    if n.isValidChar then quotedChar mark (Char.ofNat n) else pointEscape n
  String.ofList (mark :: (inside ++ [mark]))

example : quotedChars "it's".toList = "\"it's\"".toList := by decide

example : quotedChars "a\n\x01".toList = "'a\\n\\x01'".toList := by decide

end PortMap.Text
