/-!
# Abridged text

A text of more than fifty bytes in UTF-8 is shown by its beginning and its end: the longest beginning
of at most twenty-five bytes and the longest end of at most twenty-four, with three dots between them.
-/

namespace PortMap.Text

/-- The longest beginning of a text that has at most `room` bytes. -/
def beginning : (room : Nat) → List Char → List Char
  | _, [] => []
  | room, c :: rest => if c.utf8Size ≤ room then c :: beginning (room - c.utf8Size) rest else []

/-- The text, without its middle if it is long. -/
def abridged (s : String) : String :=
  if s.utf8ByteSize ≤ 50 then s
  else
    String.ofList (beginning 25 s.toList) ++ "..."
      ++ String.ofList (beginning 24 s.toList.reverse).reverse

end PortMap.Text
