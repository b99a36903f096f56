import PortMap.Numeral.Places
import PortMap.Value.Basic

/-!
# Message templates

A message is a text with directives and the arguments that fill them in. A directive is a percent sign,
an optional name in parentheses, flags, a width, a precision, and a letter that says how the argument is
written; two percent signs stand for one.

Every argument has to be used, unless the arguments are a table or a list as a whole, and a directive
with a name needs a table. `Template.fill` fills in the directives, first to last, and the first one that
cannot be filled in is the cause of a refusal.
-/

namespace PortMap.Log.Template

open Text

/-! ### Faults -/

/-- Why a template cannot be filled in. -/
inductive Fault where
  /-- There are fewer arguments than directives. -/
  | notEnough
  /-- There are more arguments than directives. -/
  | leftOver
  /-- A directive has a name, and the arguments are no table. -/
  | needsTable
  /-- The arguments are a list, in which no name can be looked up. -/
  | nameInList
  /-- No argument has the name. -/
  | noSuchName (name : String)
  /-- The name of a directive does not end. -/
  | incompleteName
  /-- A directive does not end. -/
  | incomplete
  /-- A width or precision is no whole number. -/
  | sizeNotWhole
  /-- A width is too large. -/
  | widthTooLarge
  /-- A precision is too large. -/
  | precisionTooLarge
  /-- A width among the arguments is too large. -/
  | widthArgumentTooLarge
  /-- A precision among the arguments is too large. -/
  | precisionArgumentTooLarge
  /-- The letter of a directive has no meaning. -/
  | unknownLetter (letter : Char) (place : Nat)
  /-- The argument of a directive for whole numbers is no number. -/
  | notReal (letter : Char) (kind : String)
  /-- The argument of a directive for the digits of a base is no whole number. -/
  | notWhole (letter : Char) (kind : String)
  /-- The argument of a directive for real numbers is no number. -/
  | mustBeReal (kind : String)
  /-- The argument has no whole part, as it is not a number. -/
  | wholeOfNaN
  /-- The argument has no whole part, as it is infinite. -/
  | wholeOfInfinity
  /-- The argument is too large for the format of real numbers. -/
  | tooLarge
  /-- The argument of a directive for characters is none. -/
  | notCharacter
  /-- The argument is not the number of a character. -/
  | noSuchCharacter
  deriving DecidableEq, Repr

/-- What is told of a template that cannot be filled in. -/
def Fault.message : Fault → String
  | .notEnough => "not enough arguments for format string"
  | .leftOver => "not all arguments converted during string formatting"
  | .needsTable => "format requires a mapping"
  | .nameInList => "list indices must be integers or slices, not str"
  | .noSuchName name => quoted name
  | .incompleteName => "incomplete format key"
  | .incomplete => "incomplete format"
  | .sizeNotWhole => "* wants int"
  | .widthTooLarge => "width too big"
  | .precisionTooLarge => "precision too big"
  | .widthArgumentTooLarge => "Python int too large to convert to C ssize_t"
  | .precisionArgumentTooLarge => "Python int too large to convert to C int"
  | .unknownLetter letter place =>
    "unsupported format character '" ++ (if 31 ≤ letter.toNat ∧ letter.toNat < 128
      then letter.toString else "?") ++ "' (0x" ++ String.ofList (hexText 1 letter.toNat)
      ++ ") at index " ++ toString place
  | .notReal letter kind =>
    "%" ++ letter.toString ++ " format: a real number is required, not " ++ kind
  | .notWhole letter kind =>
    "%" ++ letter.toString ++ " format: an integer is required, not " ++ kind
  | .mustBeReal kind => "must be real number, not " ++ kind
  | .wholeOfNaN => "cannot convert float NaN to integer"
  | .wholeOfInfinity => "cannot convert float infinity to integer"
  | .tooLarge => "int too large to convert to float"
  | .notCharacter => "%c requires int or char"
  | .noSuchCharacter => "%c arg not in range(0x110000)"

/-! ### Arguments -/

/-- The arguments that are still to be used. -/
structure Arguments where
  /-- The arguments, in order. -/
  items : List Value
  /-- The table or the list that the arguments are as a whole. -/
  whole : Option Value := none

/-- The arguments of a message: a list of them with a single table that is not empty stands for that
table. -/
def Arguments.ofList (items : List Value) : Arguments :=
  match items with
  | [.table (f :: rest)] => ⟨[.table (f :: rest)], some (.table (f :: rest))⟩
  | items => ⟨items, none⟩

/-- One value in place of the arguments. -/
def Arguments.ofValue (v : Value) : Arguments :=
  match v with
  | .group items => ⟨items, none⟩
  | .list _ | .table _ => ⟨[v], some v⟩
  | _ => ⟨[v], none⟩

/-- The next argument. -/
def Arguments.next (a : Arguments) : Except Fault (Value × Arguments) :=
  match a.items with
  | [] => .error .notEnough
  | v :: rest => .ok (v, { a with items := rest })

/-- The arguments after a name has been looked up: the value of the name is the only one. -/
def Arguments.named (a : Arguments) (name : String) : Except Fault Arguments :=
  match a.whole with
  | some (.table fields) =>
    match Table.get? fields name with
    | some v => .ok { a with items := [v] }
    | none => .error (.noSuchName name)
  | some _ => .error .nameInList
  | none => .error .needsTable

/-! ### Directives -/

/-- How an argument is written, apart from the letter. -/
structure Shape where
  /-- Whether the argument stands at the left of its width. -/
  left : Bool := false
  /-- Whether a number that is not negative has a plus sign. -/
  plus : Bool := false
  /-- Whether a number that is not negative has a blank for its sign. -/
  blank : Bool := false
  /-- Whether the alternative form is used. -/
  alternative : Bool := false
  /-- Whether a number is filled up with zeros. -/
  zero : Bool := false
  /-- The width. -/
  width : Nat := 0
  /-- The precision. -/
  precision : Option Nat := none

/-- Fills up a text to the width with blanks. -/
def Shape.padWith {α : Type} (f : Shape) (blank : α) (s : List α) : List α :=
  let fill := List.replicate (f.width - s.length) blank
  if f.left then s ++ fill else fill ++ s

/-- Fills up a text to the width. -/
def Shape.pad (f : Shape) (s : List Char) : List Char := f.padWith ' ' s

/-- The sign of a number. -/
def Shape.sign (f : Shape) (negative : Bool) : List Char :=
  if negative then ['-'] else if f.plus then ['+'] else if f.blank then [' '] else []

/-- A number from its sign, the mark of its base and its digits, filled up to the width. -/
def Shape.number (f : Shape) (negative : Bool) (mark digits : List Char) : List Char :=
  let front := f.sign negative ++ mark
  let missing := f.width - (front.length + digits.length)
  if f.zero && !f.left then front ++ List.replicate missing '0' ++ digits
  else f.pad (front ++ digits)

/-- A text, cut to the precision and filled up to the width. -/
def Shape.text (f : Shape) (s : List Char) : List Char :=
  f.pad (match f.precision with
    | some n => s.take n
    | none => s)

/-- The written form of a value with ASCII characters only. -/
def asciiLiteral (v : Value) : List Char :=
  v.literal.toList.flatMap fun c => if c.toNat < 128 then [c] else codeEscape c

/-- The whole number for a directive with the letter. -/
def wholeArgument (letter : Char) (v : Value) : Except Fault Int :=
  match v.wholeNumber? with
  | some n => .ok n
  | none =>
    if letter == 'd' || letter == 'i' || letter == 'u' then
      match v with
      | .real .nan => .error .wholeOfNaN
      | .real (.infinite _) => .error .wholeOfInfinity
      | .real x => .ok x.truncate
      | v => .error (.notReal letter v.kindName)
    else .error (.notWhole letter v.kindName)

/-- The base that the letter of a directive stands for, and its mark. -/
def baseOf (letter : Char) : Nat × List Char :=
  if letter == 'o' then (8, ['0', 'o'])
  else if letter == 'x' || letter == 'X' then (16, ['0', letter])
  else (10, [])

/-- A whole number in the base of the letter. -/
def Shape.whole (f : Shape) (letter : Char) (n : Int) : List Char :=
  let (base, mark) := baseOf letter
  let ds := Nat.toDigits base n.natAbs
  let ds := if letter == 'X' then ds.map Char.toUpper else ds
  let ds := List.replicate (f.precision.getD 1 - ds.length) '0' ++ ds
  f.number (decide (n < 0)) (if f.alternative then mark else []) ds

/-- The real number for a directive. -/
def realArgument (v : Value) : Except Fault Binary64 :=
  match v with
  | .real x => .ok x
  | v =>
    match v.wholeNumber? with
    | none => .error (.mustBeReal v.kindName)
    | some n =>
      match Binary64.ofInt? n with
      | some x => .ok x
      | none => .error .tooLarge

/-- A real number in the form of the letter. -/
def Shape.real (f : Shape) (letter : Char) (x : Binary64) : List Char :=
  let places := f.precision.getD 6
  let q := Places.magnitude x
  let small := letter.toLower
  let ds :=
    if x.isNaN then "nan".toList
    else if !x.isFinite then "inf".toList
    else if small == 'f' then Places.fixed f.alternative places q
    else if small == 'e' then Places.scientific f.alternative places q
    else Places.general f.alternative (if places = 0 then 1 else places) q
  f.number (x.isNegative && !x.isNaN) [] (if letter.isUpper then ds.map Char.toUpper else ds)

/-- The code point for a directive; the halves of surrogate pairs will do. -/
def characterArgument (v : Value) : Except Fault Nat :=
  match v with
  | .text s =>
    match s.toList with
    | [c] => .ok c.toNat
    | _ => .error .notCharacter
  | v =>
    match v.wholeNumber? with
    | none => .error .notCharacter
    | some n =>
      if 0 ≤ n ∧ n < 0x110000 then .ok n.toNat else .error .noSuchCharacter

/-- The code points of a text. -/
def pointsOf (s : List Char) : List Nat := s.map Char.toNat

/-- An argument written by a directive with the letter at a place of the template, as code points. -/
def Shape.write (f : Shape) (letter : Char) (place : Nat) (v : Value) : Except Fault (List Nat) :=
  if letter == 's' then .ok (pointsOf (f.text v.display.toList))
  else if letter == 'r' then .ok (pointsOf (f.text v.literal.toList))
  else if letter == 'a' then .ok (pointsOf (f.text (asciiLiteral v)))
  else if "diuoxX".toList.contains letter then
    (wholeArgument letter v).map fun n => pointsOf (f.whole letter n)
  else if "eEfFgG".toList.contains letter then
    (realArgument v).map fun x => pointsOf (f.real letter x)
  else if letter == 'c' then (characterArgument v).map fun n => f.padWith ' '.toNat [n]
  else .error (.unknownLetter letter place)

/-! ### Reading directives -/

/-- Where the reading of a template stands: the arguments, the place, and the rest of the template. -/
structure State where
  /-- The arguments that are still to be used. -/
  arguments : Arguments
  /-- The number of characters read so far. -/
  place : Nat
  /-- The rest of the template. -/
  rest : List Char

/-- The characters up to the parenthesis that closes the name, and what follows it; `depth` is the
number of parentheses that are open inside of it. -/
def closeName (depth : Nat) : List Char → Option (List Char × List Char)
  | [] => none
  | c :: rest =>
    if c = ')' ∧ depth = 0 then some ([], rest)
    else
      let depth := if c = '(' then depth + 1 else if c = ')' then depth - 1 else depth
      (closeName depth rest).map fun (name, rest) => (c :: name, rest)

/-- Passes the name of a directive, if it has one. -/
def readName (s : State) : Except Fault State :=
  match s.rest with
  | '(' :: rest =>
    match s.arguments.whole with
    | none => .error .needsTable
    | some _ =>
      match closeName 0 rest with
      | none => .error .incompleteName
      | some (name, rest) =>
        (s.arguments.named (String.ofList name)).map fun a =>
          ⟨a, s.place + name.length + 2, rest⟩
  | _ => .ok s

/-- Whether a character is a flag. -/
def isFlag (c : Char) : Bool := "-+ #0".toList.contains c

/-- The shape that the flags ask for. -/
def ofFlags (flags : List Char) : Shape where
  left := flags.contains '-'
  plus := flags.contains '+'
  blank := flags.contains ' '
  alternative := flags.contains '#'
  zero := flags.contains '0'

/-- Passes a number of characters. -/
def State.pass (s : State) (n : Nat) : State :=
  { s with place := s.place + n, rest := s.rest.drop n }

/-- The bounds of a size and what is told of sizes outside of them. -/
structure Limit where
  /-- The number of bits of a size with its sign. -/
  bits : Nat
  /-- The fault of a size that stands in the template. -/
  tooLarge : Fault
  /-- The fault of a size among the arguments. -/
  argumentTooLarge : Fault

/-- The limit of widths. -/
def widthLimit : Limit := ⟨64, .widthTooLarge, .widthArgumentTooLarge⟩

/-- The limit of precisions. -/
def precisionLimit : Limit := ⟨32, .precisionTooLarge, .precisionArgumentTooLarge⟩

/-- Reads a width or a precision: digits, or a star for the next argument. -/
def readSize (limit : Limit) (s : State) : Except Fault (Int × State) :=
  let bound : Int := 2 ^ (limit.bits - 1)
  match s.rest with
  | '*' :: _ =>
    match s.arguments.next with
    | .error e => .error e
    | .ok (v, a) =>
      match v.wholeNumber? with
      | some n =>
        if -bound ≤ n ∧ n < bound then .ok (n, { s.pass 1 with arguments := a })
        else .error limit.argumentTooLarge
      | none => .error .sizeNotWhole
  | rest =>
    let ds := rest.takeWhile isPlainDigit
    if (plainNumber ds : Int) < bound then .ok (plainNumber ds, s.pass ds.length)
    else .error limit.tooLarge

/-- Reads the precision of a directive, if it has one. -/
def readPrecision (s : State) : Except Fault (Option Nat × State) :=
  match s.rest with
  | '.' :: _ => (readSize precisionLimit (s.pass 1)).map fun (n, s) => (some n.toNat, s)
  | _ => .ok (none, s)

/-- Reads a directive after its percent sign: its shape, its letter, and the state after it. -/
def readDirective (s : State) : Except Fault (Shape × Char × State) :=
  match readName s with
  | .error e => .error e
  | .ok s =>
    let flags := s.rest.takeWhile isFlag
    match readSize widthLimit (s.pass flags.length) with
    | .error e => .error e
    | .ok (width, s) =>
      match readPrecision s with
      | .error e => .error e
      | .ok (precision, s) =>
        let s := match s.rest with
          | c :: _ => if c == 'h' || c == 'l' || c == 'L' then s.pass 1 else s
          | [] => s
        match s.rest with
        | [] => .error .incomplete
        | letter :: _ =>
          let shape := ofFlags flags
          .ok ({ shape with
              left := shape.left || decide (width < 0), width := width.natAbs, precision := precision },
            letter, s.pass 1)

/-! ### Filling in -/

/-- Fills in the directives from a state on; every directive passes at least one character. -/
def fillFrom : (fuel : Nat) → State → Except Fault (List Nat)
  | 0, _ => .ok []
  | fuel + 1, s =>
    match s.rest with
    | [] => if s.arguments.items.isEmpty || s.arguments.whole.isSome then .ok [] else .error .leftOver
    | '%' :: '%' :: _ => (fillFrom fuel (s.pass 2)).map ('%'.toNat :: ·)
    | '%' :: _ =>
      match readDirective (s.pass 1) with
      | .error e => .error e
      | .ok (shape, letter, s) =>
        match s.arguments.next with
        | .error e => .error e
        | .ok (v, a) =>
          match shape.write letter (s.place - 1) v with
          | .error e => .error e
          | .ok text => (fillFrom fuel { s with arguments := a }).map (text ++ ·)
    | c :: _ => (fillFrom fuel (s.pass 1)).map (c.toNat :: ·)

/-- Fills in the directives of a template; the outcome is a text. -/
def fill (template : String) (arguments : Arguments) : Except Fault Value :=
  (fillFrom (template.toList.length + 1) ⟨arguments, 0, template.toList⟩).map Value.ofPoints

end PortMap.Log.Template
