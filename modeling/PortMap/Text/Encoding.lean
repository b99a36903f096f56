import PortMap.Text.Quoted

/-!
# Text from bytes

Reading the bytes of a file as text, in ASCII or in UTF-8. The first byte, or the first run of bytes,
that does not belong to the encoding is the cause of a refusal.

A line read from a text file ends with a line feed: `unixBreaks` replaces a carriage return, with or
without a line feed after it.
-/

namespace PortMap.Text

/-- Why bytes are no text of an encoding. -/
structure Undecodable where
  /-- The name of the encoding. -/
  encoding : String
  /-- The place of the first byte that does not belong. -/
  start : Nat
  /-- The bytes that do not belong. -/
  bytes : List UInt8
  /-- What is wrong with them. -/
  reason : String
  deriving DecidableEq, Repr

/-- What is told of bytes that are no text. -/
def Undecodable.message (u : Undecodable) : String :=
  let what :=
    match u.bytes with
    | [b] => "byte 0x" ++ String.ofList (hexText 2 b.toNat) ++ " in position " ++ toString u.start
    | several =>
      "bytes in position " ++ toString u.start ++ "-" ++ toString (u.start + several.length - 1)
  "'" ++ u.encoding ++ "' codec can't decode " ++ what ++ ": " ++ u.reason

/-! ### ASCII -/

/-- Reads ASCII, from the place given on. -/
def asciiFrom (place : Nat) : List UInt8 → Except Undecodable (List Char)
  | [] => .ok []
  | b :: rest =>
    if b < 0x80 then (asciiFrom (place + 1) rest).map (Char.ofNat b.toNat :: ·)
    else .error ⟨"ascii", place, [b], "ordinal not in range(128)"⟩

/-- Reads ASCII. -/
def readAscii (d : List UInt8) : Except Undecodable (List Char) := asciiFrom 0 d

/-! ### UTF-8 -/

/-- The least and the largest second byte after a first byte, and the number of bytes that follow the
first one; `none` if no character begins so. -/
def utf8Lead (b : UInt8) : Option (UInt8 × UInt8 × Nat) :=
  if 0xC2 ≤ b ∧ b ≤ 0xDF then some (0x80, 0xBF, 1)
  else if b = 0xE0 then some (0xA0, 0xBF, 2)
  else if b = 0xED then some (0x80, 0x9F, 2)
  else if 0xE1 ≤ b ∧ b ≤ 0xEF then some (0x80, 0xBF, 2)
  else if b = 0xF0 then some (0x90, 0xBF, 3)
  else if b = 0xF4 then some (0x80, 0x8F, 3)
  else if 0xF1 ≤ b ∧ b ≤ 0xF3 then some (0x80, 0xBF, 3)
  else none

/-- The longest beginning of the bytes, at most `count` of them, that can follow: the first between
the bounds, the others any continuation. -/
def utf8Tail (low high : UInt8) : (count : Nat) → List UInt8 → List UInt8
  | 0, _ => []
  | _ + 1, [] => []
  | count + 1, b :: rest => if low ≤ b ∧ b ≤ high then b :: utf8Tail 0x80 0xBF count rest else []

/-- The character of a first byte and the bytes that follow it. -/
def utf8Char (lead : UInt8) (tail : List UInt8) : Char :=
  let bits : Nat := if tail.length = 1 then 0x1F else if tail.length = 2 then 0x0F else 0x07
  Char.ofNat (tail.foldl (fun n b => n * 64 + b.toNat % 64) (lead.toNat &&& bits))

/-- Reads UTF-8 from a place on; `skip` bytes of the character last read are still to be passed. -/
def utf8From (place skip : Nat) : List UInt8 → Except Undecodable (List Char)
  | [] => .ok []
  | b :: rest =>
    match skip with
    | skip + 1 => utf8From (place + 1) skip rest
    | 0 =>
      if b < 0x80 then (utf8From (place + 1) 0 rest).map (Char.ofNat b.toNat :: ·)
      else
        match utf8Lead b with
        | none => .error ⟨"utf-8", place, [b], "invalid start byte"⟩
        | some (low, high, count) =>
          let tail := utf8Tail low high count rest
          if tail.length = count then
            (utf8From (place + 1) count rest).map (utf8Char b tail :: ·)
          else
            .error ⟨"utf-8", place, b :: tail,
              if tail.length = rest.length then "unexpected end of data"
              else "invalid continuation byte"⟩

/-- Reads UTF-8. -/
def readUtf8 (d : List UInt8) : Except Undecodable (List Char) := utf8From 0 0 d

/-! ### Line breaks of files -/

/-- The text with a line feed for each carriage return, alone or with a line feed after it. -/
def unixBreaks : List Char → List Char
  | [] => []
  | '\r' :: '\n' :: rest => '\n' :: unixBreaks rest
  | c :: rest => (if c = '\r' then '\n' else c) :: unixBreaks rest

end PortMap.Text
