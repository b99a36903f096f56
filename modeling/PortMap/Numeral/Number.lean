import PortMap.Numeral.Decimal
import PortMap.Numeral.Power

/-!
# Whole and real numbers together

A quantity such as a delay may be given as a whole number or as a binary floating-point number. Whole
numbers stay exact among themselves; where the two kinds meet, the whole number is first rounded to
the format, which fails if it is too large. A truth value counts as one or zero.
-/

namespace PortMap

/-- A whole number, a real number, or a truth value that counts as one. -/
inductive Number where
  /-- A truth value. -/
  | flag (b : Bool)
  /-- A whole number. -/
  | whole (n : Int)
  /-- A binary floating-point number. -/
  | real (x : Binary64)
  deriving DecidableEq

/-- Why a calculation has no answer. -/
inductive Number.Fault where
  /-- A power is larger than every number of the format. -/
  | powerTooLarge
  /-- A whole number is larger than every number of the format. -/
  | wholeTooLarge
  deriving DecidableEq, Repr

/-- What is told of a calculation without an answer. -/
def Number.Fault.message : Number.Fault → String
  | .powerTooLarge => "(34, 'Numerical result out of range')"
  | .wholeTooLarge => "int too large to convert to float"

namespace Number

/-- The number without truth values: a whole number or a real one. -/
def exact : Number → Int ⊕ Binary64
  | .flag b => .inl (if b then 1 else 0)
  | .whole n => .inl n
  | .real x => .inr x

/-- The number rounded to the format. -/
def toReal : Number → Except Fault Binary64
  | .real x => .ok x
  | .flag b => .ok (if b then .one else .zero false)
  | .whole n =>
    match Binary64.ofInt? n with
    | some x => .ok x
    | none => .error .wholeTooLarge

/-- The product. -/
def mul (a b : Number) : Except Fault Number :=
  match a.exact, b.exact with
  | .inl m, .inl n => .ok (.whole (m * n))
  | _, _ =>
    match a.toReal, b.toReal with
    | .error e, _ => .error e
    | _, .error e => .error e
    | .ok x, .ok y => .ok (.real (x.mul y))

/-- The power with a whole exponent that is not negative. -/
def pow (a : Number) (n : Nat) : Except Fault Number :=
  match a.exact with
  | .inl m => .ok (.whole (m ^ n))
  | .inr x =>
    match Binary64.ofInt? n with
    | none => .error .wholeTooLarge
    | some y =>
      match x.pow y with
      | some y => .ok (.real y)
      | none => .error .powerTooLarge

/-- The first number is less than the second, both taken exactly. -/
def lt (a b : Number) : Bool :=
  match a.exact, b.exact with
  | .inl m, .inl n => decide (m < n)
  | .inr x, .inr y => x.lt y
  | .inl m, .inr y => y.compareInt m == some .gt
  | .inr x, .inl n => x.compareInt n == some .lt

/-- The number is at most zero. -/
def atMostZero (a : Number) : Bool :=
  match a.exact with
  | .inl m => decide (m ≤ 0)
  | .inr x => x.le (.zero false)

/-- The number is the value that is not a number. -/
def isNaN : Number → Bool
  | .real x => x.isNaN
  | _ => false

/-- The second number if it is less than the first, else the first. -/
def min (a b : Number) : Number := if b.lt a then b else a

/-- The written form. -/
def text : Number → String
  | .flag b => if b then "True" else "False"
  | .whole n => toString n
  | .real x => x.text

end Number

end PortMap
