/-!
# Binary floating-point numbers

The numbers of the IEEE 754 format `binary64`, kept as exact data: a sign, a whole significand below
`2 ^ 53` and a power of two. Every operation first works out the exact rational answer with whole
numbers and rounds it once, to the nearest number of the format, a tie going to the even significand.
All of it can therefore be computed inside a proof.

## What is defined

* `Binary64`, one constructor for each of "not a number", the infinities and the finite numbers; a
  finite number carries the proof that it is in its only kept form (`Canonical`), so equality of data
  is equality of bit patterns, the zeros of the two signs being different data;
* `ofRatio` and `ofScaled`, the rounding of a quotient and of a scaled whole number;
* `lt`, `le` and `same`, the comparisons, in which a value that is not a number never takes part;
* `mul`, `ofInt?` and `toInt?`. Powers stand in `Numeral.Power`.
-/

-- A power of a whole number is the one that `Nat` and `Int` bring along, in every module alike.
attribute [instance (high + 1), default_instance (high + 1)] instPowNat

namespace PortMap

/-! ### The numbers of the format -/

/-- The pairs for which `m * 2 ^ e` is a number of the format written in its kept form: the
significand uses all of its 53 bits unless the exponent is already the least one. -/
def Canonical (m : Nat) (e : Int) : Prop :=
  m < 2 ^ 53 ∧ -1074 ≤ e ∧ e ≤ 971 ∧ (2 ^ 52 ≤ m ∨ e = -1074)

instance (m : Nat) (e : Int) : Decidable (Canonical m e) :=
  inferInstanceAs (Decidable (_ ∧ _ ∧ _ ∧ _))

/-- A number of the format `binary64`. -/
inductive Binary64 where
  /-- Not a number. -/
  | nan
  /-- An infinity, negative or positive. -/
  | infinite (negative : Bool)
  /-- The number `m * 2 ^ e`, or its opposite. -/
  | finite (negative : Bool) (m : Nat) (e : Int) (canonical : Canonical m e)
  deriving DecidableEq

namespace Binary64

/-- Zero of either sign. -/
def zero (negative : Bool) : Binary64 := .finite negative 0 (-1074) (by decide)

/-- One. -/
def one : Binary64 := .finite false (2 ^ 52) (-52) (by decide)

/-- A quarter. -/
def quarter : Binary64 := .finite false (2 ^ 52) (-54) (by decide)

/-- Two. -/
def two : Binary64 := .finite false (2 ^ 52) (-51) (by decide)

/-- Sixty-four. -/
def sixtyFour : Binary64 := .finite false (2 ^ 52) (-46) (by decide)

instance : Inhabited Binary64 := ⟨zero false⟩

/-- Whether a value is not a number. -/
def isNaN : Binary64 → Bool
  | .nan => true
  | _ => false

/-- Whether a value is neither an infinity nor "not a number". -/
def isFinite : Binary64 → Bool
  | .finite .. => true
  | _ => false

/-- Whether the sign of a value is negative. -/
def isNegative : Binary64 → Bool
  | .nan => false
  | .infinite s => s
  | .finite s _ _ _ => s

/-- The value with the sign given. -/
def withSign (negative : Bool) : Binary64 → Binary64
  | .nan => .nan
  | .infinite _ => .infinite negative
  | .finite _ m e h => .finite negative m e h

/-! ### Comparison

Every finite number of the format is a whole multiple of `2 ^ (-1074)`, the least positive one. -/

/-- The value counted in units of `2 ^ (-1074)`. An infinity counts `2 ^ 2100` units, more than every
finite number; "not a number" counts none and is excluded wherever the count is used. -/
def units : Binary64 → Int
  | .nan => 0
  | .infinite s => if s then -2 ^ 2100 else 2 ^ 2100
  | .finite s m e _ =>
    let n : Int := (m * 2 ^ (e + 1074).toNat : Nat)
    if s then -n else n

/-- The first number is less than the second. -/
def lt (x y : Binary64) : Bool := !x.isNaN && !y.isNaN && decide (x.units < y.units)

/-- The first number is less than the second or as large. -/
def le (x y : Binary64) : Bool := !x.isNaN && !y.isNaN && decide (x.units ≤ y.units)

/-- The two numbers are as large; the zeros of both signs are. -/
def same (x y : Binary64) : Bool := !x.isNaN && !y.isNaN && decide (x.units = y.units)

/-- How a number compares with a whole number, `none` where the number is not one. -/
def compareInt (x : Binary64) (n : Int) : Option Ordering :=
  match x with
  | .nan => none
  | .infinite s => some (if s then .lt else .gt)
  | .finite .. => some (compare x.units (n * 2 ^ 1074))

/-! ### Rounding -/

/-- The quotient `n / d` rounded to a whole number, a half going to the even neighbour. -/
def roundHalfEven (n d : Nat) : Nat :=
  let q := n / d
  let r := n % d
  if 2 * r < d then q
  else if d < 2 * r then q + 1
  else if q % 2 = 0 then q else q + 1

/-- The number `m * 2 ^ e` if it is in kept form, else the infinity: the rounding functions leave the
kept form only upwards. -/
def orInfinite (negative : Bool) (m : Nat) (e : Int) : Binary64 :=
  if h : Canonical m e then .finite negative m e h else .infinite negative

/-- The exponent of the kept form of the quotient `n / d`: the one that puts 53 bits before the binary
point, or the least one of the format. -/
def quotientExponent (n d : Nat) : Int :=
  let e : Int := (n.log2 : Int) - d.log2 - 52
  let full := if 0 ≤ e then d * 2 ^ (52 + e.toNat) ≤ n else d * 2 ^ 52 ≤ n * 2 ^ (-e).toNat
  max (-1074) (if full then e else e - 1)

/-- The number of the format nearest to the quotient `n / d`, for `d` positive. -/
def ofRatio (negative : Bool) (n d : Nat) : Binary64 :=
  if n = 0 then zero negative
  else
    let e := quotientExponent n d
    let q := if 0 ≤ e then roundHalfEven n (d * 2 ^ e.toNat) else roundHalfEven (n * 2 ^ (-e).toNat) d
    if q = 2 ^ 53 then orInfinite negative (2 ^ 52) (e + 1) else orInfinite negative q e

/-- The number of the format nearest to `m * 2 ^ e`. Exponents far outside of the range of the format
are answered without computing the power. -/
def ofScaled (negative : Bool) (m : Nat) (e : Int) : Binary64 :=
  if m = 0 then zero negative
  else if 1100 < (m.log2 : Int) + e then .infinite negative
  else if (m.log2 : Int) + e < -1200 then zero negative
  else if 0 ≤ e then ofRatio negative (m * 2 ^ e.toNat) 1
  else ofRatio negative m (2 ^ (-e).toNat)

/-- The number of the format nearest to a whole number. -/
def ofInt (n : Int) : Binary64 := ofScaled (decide (n < 0)) n.natAbs 0

/-- The number of the format nearest to a whole number, `none` if that is an infinity. -/
def ofInt? (n : Int) : Option Binary64 :=
  let x := ofInt n
  if x.isFinite then some x else none

/-- The whole number that a number is equal to. -/
def toInt? : Binary64 → Option Int
  | .finite s m e _ =>
    let sign (n : Nat) : Int := if s then -n else n
    if 0 ≤ e then some (sign (m * 2 ^ e.toNat))
    else
      let d := 2 ^ (-e).toNat
      if m % d = 0 then some (sign (m / d)) else none
  | _ => none

/-- The whole part of a number, which is zero for the values that are not finite. -/
def truncate : Binary64 → Int
  | .finite s m e _ =>
    let n := if 0 ≤ e then m * 2 ^ e.toNat else m / 2 ^ (-e).toNat
    if s then -n else n
  | _ => 0

/-! ### Products -/

/-- The product. -/
def mul : Binary64 → Binary64 → Binary64
  | .nan, _ => .nan
  | _, .nan => .nan
  | .infinite s, .infinite t => .infinite (s != t)
  | .infinite s, .finite t m _ _ => if m = 0 then .nan else .infinite (s != t)
  | .finite s m _ _, .infinite t => if m = 0 then .nan else .infinite (s != t)
  | .finite s m e _, .finite t n f _ => ofScaled (s != t) (m * n) (e + f)

end Binary64

end PortMap
