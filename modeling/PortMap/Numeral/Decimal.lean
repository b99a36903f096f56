import PortMap.Numeral.Binary64

/-!
# Decimal text of binary numbers

Writing a number of the format `binary64` with the fewest digits that read back to it, and reading
decimal numerals with correct rounding.

* `Decimal` is a whole number times a power of ten, and `Decimal.toBinary64` rounds one.
* `shortest` is the decimal with the fewest digits that reads back to the number; of two with as many
  digits it is the nearer one. That it reads back is tested for each candidate, and the exact value
  stands in should no candidate of 17 digits do.
* `RealStyle` holds the choices of a written form, and `Binary64.render` writes in it. Powers of ten
  from `10 ^ (-4)` up to below `10 ^ 16` are written positionally, always with a point.
* `readReal?` reads a plain numeral: a sign, digits with or without a point, an exponent, or one of
  the words for infinity and "not a number".
-/

namespace PortMap

/-- The decimal number `digits * 10 ^ exponent`. -/
structure Decimal where
  /-- The digits, read as a whole number. -/
  digits : Nat
  /-- The power of ten. -/
  exponent : Int
  deriving DecidableEq, Repr

namespace Decimal

/-- The digits of a whole number as characters. -/
def digitChars (n : Nat) : List Char := Nat.toDigits 10 n

/-- The number of the format nearest to a decimal. Decimals far outside of the range of the format are
answered without computing the power. -/
def toBinary64 (negative : Bool) (d : Decimal) : Binary64 :=
  if d.digits = 0 then .zero negative
  else
    let size := d.exponent + (digitChars d.digits).length
    if 400 < size then .infinite negative
    else if size < -400 then .zero negative
    else if 0 ≤ d.exponent then .ofRatio negative (d.digits * 10 ^ d.exponent.toNat) 1
    else .ofRatio negative d.digits (10 ^ (-d.exponent).toNat)

end Decimal

namespace Binary64

/-! ### The fewest digits -/

/-- Whether the quotient `n / d` is below `10 ^ k`. -/
def belowPowerOfTen (n d : Nat) (k : Int) : Bool :=
  if 0 ≤ k then n < d * 10 ^ k.toNat else n * 10 ^ (-k).toNat < d

/-- The number of digits that the quotient `n / d` has before the decimal point; minus the number of
zeros that follow the point where it is below `1 / 10`. -/
def pointPosition (n d : Nat) : Int :=
  let k := (((n.log2 : Int) - d.log2) * 30103) / 100000
  if belowPowerOfTen n d k then k else if belowPowerOfTen n d (k + 1) then k + 1 else k + 2

/-- The decimal of at most `length` digits nearest to the quotient `n / d` among the two next to it
that read back to `x`, if one does; a tie goes to the even one. -/
def nearestReadingBack (x : Binary64) (n d : Nat) (point : Int) (length : Nat) : Option Decimal :=
  let exponent := point - length
  let num := if 0 ≤ exponent then n else n * 10 ^ (-exponent).toNat
  let den := if 0 ≤ exponent then d * 10 ^ exponent.toNat else d
  let low : Decimal := ⟨num / den, exponent⟩
  let high : Decimal := ⟨num / den + 1, exponent⟩
  let reads (c : Decimal) : Bool := c.toBinary64 x.isNegative = x
  if reads low then
    if reads high && roundHalfEven num den != num / den then some high else some low
  else if reads high then some high
  else none

/-- The first decimal that reads back to `x`, for the lengths from `length` on, as many as `more`. -/
def shortestFrom (x : Binary64) (n d : Nat) (point : Int) : (more length : Nat) → Option Decimal
  | 0, _ => none
  | more + 1, length =>
    match nearestReadingBack x n d point length with
    | some c => some c
    | none => shortestFrom x n d point more (length + 1)

/-- The value of `m * 2 ^ e` as a decimal, exactly. -/
def exactDecimal (m : Nat) (e : Int) : Decimal :=
  if 0 ≤ e then ⟨m * 2 ^ e.toNat, 0⟩ else ⟨m * 5 ^ (-e).toNat, e⟩

/-- The decimal with the fewest digits that reads back to the number, without its sign; zero for the
values that are not finite. -/
def shortest (x : Binary64) : Decimal :=
  match x with
  | .finite _ m e _ =>
    if m = 0 then ⟨0, 0⟩
    else
      let n := if 0 ≤ e then m * 2 ^ e.toNat else m
      let d := if 0 ≤ e then 1 else 2 ^ (-e).toNat
      (shortestFrom x n d (pointPosition n d) 17 1).getD (exactDecimal m e)
  | _ => ⟨0, 0⟩

/-! ### Written forms -/

/-- The choices of a written form. -/
structure RealStyle where
  /-- The least number of digits of a written exponent. -/
  exponentDigits : Nat
  /-- The word for "not a number". -/
  nan : String
  /-- The word for infinity, without a sign. -/
  infinity : String

/-- The form of messages and values: exponents have two digits at least. -/
def plainStyle : RealStyle := ⟨2, "nan", "inf"⟩

/-- A number of zeros. -/
def zeros (n : Nat) : List Char := List.replicate n '0'

/-- The digits `ds` with the decimal point after the first `point` of them. -/
def positional (ds : List Char) (point : Int) : List Char :=
  if point ≤ 0 then ['0', '.'] ++ zeros (-point).toNat ++ ds
  else if ds.length ≤ point.toNat then ds ++ zeros (point.toNat - ds.length) ++ ['.', '0']
  else ds.take point.toNat ++ ['.'] ++ ds.drop point.toNat

/-- The digits `ds` with a point after the first one, and the exponent that says where the point
belongs. -/
def scientific (style : RealStyle) (ds : List Char) (point : Int) : List Char :=
  let e := point - 1
  let digits := Decimal.digitChars e.natAbs
  ds.take 1 ++ (if 1 < ds.length then '.' :: ds.drop 1 else []) ++ ['e', if e < 0 then '-' else '+']
    ++ zeros (style.exponentDigits - digits.length) ++ digits

/-- The digits of a decimal without the zeros at their end, at least one digit. -/
def significantChars (d : Decimal) : List Char :=
  let ds := ((Decimal.digitChars d.digits).reverse.dropWhile (· == '0')).reverse
  if ds.isEmpty then ['0'] else ds

/-- The written form of a decimal: positional where the first digit stands for a power of ten from
`10 ^ (-4)` up to `10 ^ 15`, else scientific. -/
def renderDecimal (style : RealStyle) (d : Decimal) : List Char :=
  let point : Int := (Decimal.digitChars d.digits).length + d.exponent
  let ds := significantChars d
  if d.digits = 0 then ['0', '.', '0']
  else if -4 < point ∧ point ≤ 16 then positional ds point
  else scientific style ds point

/-- The written form of a number. -/
def renderChars (style : RealStyle) : Binary64 → List Char
  | .nan => style.nan.toList
  | .infinite s => (if s then ['-'] else []) ++ style.infinity.toList
  | .finite s m e h => (if s then ['-'] else []) ++ renderDecimal style (shortest (.finite s m e h))

/-- The written form of a number, as a text. -/
def render (style : RealStyle) (x : Binary64) : String := String.ofList (x.renderChars style)

/-- The plain written form of a number. -/
def text (x : Binary64) : String := x.render plainStyle

end Binary64

/-! ### Reading -/

/-- The value of a plain digit. -/
def plainDigit? (c : Char) : Option Nat :=
  if '0' ≤ c ∧ c ≤ '9' then some (c.toNat - '0'.toNat) else none

/-- Whether a character is a plain digit. -/
def isPlainDigit (c : Char) : Bool := (plainDigit? c).isSome

/-- The whole number written by plain digits, most significant first. -/
def plainNumber (ds : List Char) : Nat := ds.foldl (fun n c => 10 * n + (plainDigit? c).getD 0) 0

/-- Splits off a sign; the flag says whether it is a minus. -/
def takeSign : List Char → Bool × List Char
  | '-' :: rest => (true, rest)
  | '+' :: rest => (false, rest)
  | rest => (false, rest)

/-- Reads the exponent part of a numeral, which may be absent. -/
def readExponent? : List Char → Option Int
  | [] => some 0
  | c :: rest =>
    if c = 'e' ∨ c = 'E' then
      let (negative, ds) := takeSign rest
      if ds.isEmpty || !ds.all isPlainDigit then none
      else some (if negative then -plainNumber ds else plainNumber ds)
    else none

/-- Reads digits with or without a point and an exponent as a decimal. -/
def readDecimal? (s : List Char) : Option Decimal :=
  let whole := s.takeWhile isPlainDigit
  let rest := s.dropWhile isPlainDigit
  let (fraction, rest) :=
    match rest with
    | '.' :: more => (more.takeWhile isPlainDigit, more.dropWhile isPlainDigit)
    | _ => ([], rest)
  if whole.isEmpty && fraction.isEmpty then none
  else (readExponent? rest).map fun e => ⟨plainNumber (whole ++ fraction), e - fraction.length⟩

/-- Reads a plain numeral, or a word for infinity or "not a number" in any case of letters. -/
def readReal? (s : List Char) : Option Binary64 :=
  let (negative, rest) := takeSign s
  let word := rest.map Char.toLower
  if word = "inf".toList ∨ word = "infinity".toList then some (.infinite negative)
  else if word = "nan".toList then some .nan
  else (readDecimal? rest).map (Decimal.toBinary64 negative)

end PortMap
