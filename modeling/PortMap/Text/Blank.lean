/-!
# White space and line breaks

Cutting a text into lines, and a line into words, by the white space of Unicode.

* A *blank* is a character of the Unicode property `White_Space`; numerals may be surrounded by
  blanks.
* Words are also cut at the four information separators U+001C to U+001F.
* A line ends at a line feed, a carriage return, the two together, a vertical tab, a form feed, one of
  the information separators U+001C to U+001E, a next-line character, or a line or paragraph
  separator. A break at the end of the text opens no further line.
-/

namespace PortMap.Text

/-- Whether a character is white space. -/
def isBlank (c : Char) : Bool :=
  let n := c.toNat
  (9 ≤ n && n ≤ 13) || n == 0x20 || n == 0x85 || n == 0xA0 || n == 0x1680 || (0x2000 ≤ n && n ≤ 0x200A)
    || n == 0x2028 || n == 0x2029 || n == 0x202F || n == 0x205F || n == 0x3000

/-- Whether a character separates words. -/
def separatesWords (c : Char) : Bool := isBlank c || (0x1C ≤ c.toNat && c.toNat ≤ 0x1F)

/-- Whether a character ends a line. -/
def endsLine (c : Char) : Bool :=
  let n := c.toNat
  (10 ≤ n && n ≤ 13) || (0x1C ≤ n && n ≤ 0x1E) || n == 0x85 || n == 0x2028 || n == 0x2029

/-- The text without the blanks at its two ends. -/
def trim (s : List Char) : List Char := ((s.dropWhile isBlank).reverse.dropWhile isBlank).reverse

/-- The text without the characters that separate words at its two ends. -/
def strip (s : List Char) : List Char :=
  ((s.dropWhile separatesWords).reverse.dropWhile separatesWords).reverse

/-! ### Words -/

/-- The words of a text; `word` holds the letters of the word that is being read, last one first. -/
def wordsFrom (word : List Char) : List Char → List (List Char)
  | [] => if word.isEmpty then [] else [word.reverse]
  | c :: rest =>
    if separatesWords c then
      if word.isEmpty then wordsFrom [] rest else word.reverse :: wordsFrom [] rest
    else wordsFrom (c :: word) rest

/-- The words of a text: its longest pieces without a separator, in order. -/
def words (s : List Char) : List (List Char) := wordsFrom [] s

/-! ### Lines -/

/-- The lines of a text; `line` holds the characters of the line that is being read, last one first. -/
def linesFrom (line : List Char) : List Char → List (List Char)
  | [] => if line.isEmpty then [] else [line.reverse]
  | '\r' :: '\n' :: rest => line.reverse :: linesFrom [] rest
  | c :: rest => if endsLine c then line.reverse :: linesFrom [] rest else linesFrom (c :: line) rest

/-- The lines of a text, without their breaks. -/
def lines (s : List Char) : List (List Char) := linesFrom [] s

/-! ### Pieces -/

/-- The pieces between the characters `mark`; `piece` holds the piece that is being read, last
character first. -/
def splitFrom (mark : Char) (piece : List Char) : List Char → List (List Char)
  | [] => [piece.reverse]
  | c :: rest =>
    if c = mark then piece.reverse :: splitFrom mark [] rest else splitFrom mark (c :: piece) rest

/-- The pieces of a text between the characters `mark`: one more than there are marks. -/
def splitAt (mark : Char) (s : List Char) : List (List Char) := splitFrom mark [] s

example : lines "a\r\nb\n\nc\x0b".toList = ["a".toList, "b".toList, [], "c".toList] := by decide

example : words "\t0.0.0.0  via ".toList = ["0.0.0.0".toList, "via".toList] := by decide

end PortMap.Text
