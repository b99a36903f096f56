/-!
# Text for a screen that is no terminal

A terminal is told colours and places by control sequences: the escape character, a bracket, numbers with
semicolons and question marks, and a letter. Text that does not go to a terminal is shown without them.
-/

namespace PortMap.Text

/-- Whether a character may stand between the bracket and the letter of a control sequence. -/
def isControlNumber (c : Char) : Bool := c.isDigit || c == ';' || c == '?'

/-- What follows a control sequence, after its escape character and its bracket; nothing if it does not
end in a letter. -/
def afterControl? (s : List Char) : Option (List Char) :=
  match s.dropWhile isControlNumber with
  | c :: rest => if c.isAlpha then some rest else none
  | [] => none

/-- The text without control sequences; every character is passed once. -/
def withoutControlsFrom : (fuel : Nat) → List Char → List Char
  | 0, s => s
  | _ + 1, [] => []
  | fuel + 1, c :: rest =>
    match c, rest with
    | '\x1b', '[' :: more =>
      match afterControl? more with
      | some rest => withoutControlsFrom fuel rest
      | none => c :: withoutControlsFrom fuel rest
    | _, _ => c :: withoutControlsFrom fuel rest

/-- The text without control sequences. -/
def withoutControls (s : String) : String :=
  String.ofList (withoutControlsFrom s.toList.length s.toList)

end PortMap.Text
