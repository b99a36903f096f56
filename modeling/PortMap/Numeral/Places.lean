import PortMap.Numeral.Decimal

/-!
# Real numbers with a number of places

Three forms of a real number without its sign: with a fixed number of places after the point, with one
digit before the point and an exponent, and the shorter of the two for a number of significant digits.
The digits are those of the exact value, rounded to the nearest; a tie goes to the even one.
-/

namespace PortMap.Places

open Decimal

/-- A quotient that is not negative. -/
structure Quotient where
  /-- The dividend. -/
  num : Nat
  /-- The divisor. -/
  den : Nat

/-- The absolute value of a finite number; zero for the other values. -/
def magnitude : Binary64 → Quotient
  | .finite _ m e _ => if 0 ≤ e then ⟨m * 2 ^ e.toNat, 1⟩ else ⟨m, 2 ^ (-e).toNat⟩
  | _ => ⟨0, 1⟩

/-- The quotient times a power of ten, rounded. -/
def scaled (q : Quotient) (power : Int) : Nat :=
  if 0 ≤ power then Binary64.roundHalfEven (q.num * 10 ^ power.toNat) q.den
  else Binary64.roundHalfEven q.num (q.den * 10 ^ (-power).toNat)

/-- Digits with a point before the last `places` of them; `point` says whether it is written where no
digit follows it. -/
def withPoint (point : Bool) (places : Nat) (n : Nat) : List Char :=
  let ds := digitChars n
  let ds := Binary64.zeros (places + 1 - ds.length) ++ ds
  let whole := ds.take (ds.length - places)
  if places = 0 then (if point then whole ++ ['.'] else whole)
  else whole ++ '.' :: ds.drop (ds.length - places)

/-- A fixed number of places. -/
def fixed (point : Bool) (places : Nat) (q : Quotient) : List Char :=
  withPoint point places (scaled q places)

/-- The power of ten of the first digit, and the digits as a whole number, rounded to the places after
the first one. -/
def leading (places : Nat) (q : Quotient) : Int × Nat :=
  if q.num = 0 then (0, 0)
  else
    let power := Binary64.pointPosition q.num q.den - 1
    let n := scaled q (places - power)
    if n < 10 ^ (places + 1) then (power, n) else (power + 1, 10 ^ places)

/-- An exponent, with a sign and two digits at least. -/
def exponentChars (power : Int) : List Char :=
  let ds := digitChars power.natAbs
  ['e', if power < 0 then '-' else '+'] ++ Binary64.zeros (2 - ds.length) ++ ds

/-- One digit before the point and an exponent. -/
def scientific (point : Bool) (places : Nat) (q : Quotient) : List Char :=
  let (power, n) := leading places q
  withPoint point places n ++ exponentChars power

/-- The digits without the zeros at the end of their places, and without a point that nothing
follows. -/
def dropZeros (s : List Char) : List Char :=
  if s.contains '.' then
    match s.reverse.dropWhile (· == '0') with
    | '.' :: rest => rest.reverse
    | rest => rest.reverse
  else s

/-- The shorter form for a number of significant digits; `full` says whether zeros at the end are
kept. -/
def general (full : Bool) (digits : Nat) (q : Quotient) : List Char :=
  let places := digits - 1
  let (power, n) := leading places q
  let trimmed (s : List Char) : List Char := if full then s else dropZeros s
  if -4 ≤ power ∧ power ≤ places then
    trimmed (fixed full (places - power).toNat q)
  else trimmed (withPoint full places n) ++ exponentChars power

end PortMap.Places
