import PortMap.Numeral.Number
import PortMap.Value.Basic

/-!
# Calculating with values

Powers, products and the lesser of two values, where the values may be of any kind. Numbers are
calculated with as `Number` says, a text or a list times a whole number is repeated, and texts and lists
are ordered by the first place at which they differ. Whatever else is asked for is a fault, which tells
the kinds of the values.
-/

namespace PortMap

/-- The kind of a number. -/
def Number.kindName (x : Number) : String :=
  match x.exact with
  | .inl _ => "int"
  | .inr _ => "float"

/-- A number as a value. -/
def Number.value : Number → Value
  | .flag b => .flag b
  | .whole n => .whole n
  | .real x => .real x

namespace Value

/-- The number that a value is. -/
def number? : Value → Option Number
  | .flag b => some (.flag b)
  | .whole n => some (.whole n)
  | .real x => some (.real x)
  | _ => none

/-! ### Faults -/

/-- An operation on two values. -/
inductive Operation where
  /-- The power. -/
  | power
  /-- The product. -/
  | product
  deriving DecidableEq, Repr

/-- The sign of an operation. -/
def Operation.sign : Operation → String
  | .power => "** or pow()"
  | .product => "*"

/-- A comparison of two values. -/
inductive Comparison where
  /-- The first is less. -/
  | below
  /-- The first is less, or they are equal. -/
  | notAbove
  deriving DecidableEq, Repr

/-- The sign of a comparison. -/
def Comparison.sign : Comparison → String
  | .below => "<"
  | .notAbove => "<="

/-- Why a calculation has no answer. -/
inductive Fault where
  /-- The numbers have none. -/
  | number (cause : Number.Fault)
  /-- The operation does not know values of these kinds. -/
  | operands (o : Operation) (left right : String)
  /-- A text or a list cannot be repeated a number of times that is not whole. -/
  | repetition (kind : String)
  /-- It cannot be repeated so many times. -/
  | tooManyTimes
  /-- There is no room for so many repetitions. -/
  | noRoom
  /-- Values of these kinds have no order. -/
  | order (c : Comparison) (left right : String)
  deriving DecidableEq, Repr

/-- What is told of a calculation without an answer. -/
def Fault.message : Fault → String
  | .number cause => cause.message
  | .operands o left right =>
    "unsupported operand type(s) for " ++ o.sign ++ ": '" ++ left ++ "' and '" ++ right ++ "'"
  | .repetition kind => "can't multiply sequence by non-int of type '" ++ kind ++ "'"
  | .tooManyTimes => "cannot fit 'int' into an index-sized integer"
  | .noRoom => ""
  | .order c left right =>
    "'" ++ c.sign ++ "' not supported between instances of '" ++ left ++ "' and '" ++ right ++ "'"

/-! ### Powers and products -/

/-- The power with a whole exponent that is not negative. -/
def power (a : Value) (n : Nat) : Except Fault Number :=
  match a.number? with
  | some x => (x.pow n).mapError .number
  | none => .error (.operands .power a.kindInFault "int")

/-- The items of a list one after the other, a number of times. -/
def repeated {α : Type} (n : Nat) (items : List α) : List α := (List.replicate n items).flatten

/-- How many items a repeated text or list may have. -/
def roomForItems : Nat := 2 ^ 40

/-- How often a text or a list of a length is repeated. -/
def repetitions (length : Nat) (x : Number) : Except Fault Nat :=
  match x.exact with
  | .inr _ => .error (.repetition x.kindName)
  | .inl n =>
    if n < -2 ^ 63 ∨ 2 ^ 63 ≤ n then .error .tooManyTimes
    else if roomForItems < length * n.toNat then .error .noRoom
    else .ok (if length = 0 then 0 else n.toNat)

/-- The product with a number. -/
def times (a : Value) (x : Number) : Except Fault Value :=
  match a with
  | .text s =>
    (repetitions s.length x).map fun n => .text (String.ofList (repeated n s.toList))
  | .points codes => (repetitions codes.length x).map fun n => .points (repeated n codes)
  | .list items => (repetitions items.length x).map fun n => .list (repeated n items)
  | .group items => (repetitions items.length x).map fun n => .group (repeated n items)
  | a =>
    match a.number? with
    | some y => (y.mul x).map Number.value |>.mapError .number
    | none => .error (.operands .product a.kindInFault x.kindName)

/-! ### Order -/

mutual

/-- Whether two values are equal; numbers are compared by what they are, of whatever kind. -/
def same : Value → Value → Bool
  | .null, .null => true
  | .text s, .text t => s == t
  | .points a, .points b => a == b
  | .day a, .day b => a == b
  | .clock a, .clock b => a == b
  | .moment a b c, .moment a' b' c' => a == a' && b == b' && c == c'
  | .list items, .list others => sameItems items others
  | .group items, .group others => sameItems items others
  | .table fields, v | .inlined fields, v =>
    match v.table? with
    | some others => fields.length == others.length && sameFields fields others
    | none => false
  | v, w =>
    match v.number?, w.number? with
    | some x, some y => !x.lt y && !y.lt x && !x.isNaN && !y.isNaN
    | _, _ => false

/-- Whether two lists have equal items at equal places. -/
def sameItems : List Value → List Value → Bool
  | [], [] => true
  | v :: rest, w :: others => same v w && sameItems rest others
  | _, _ => false

/-- Whether each of the fields is equal to the one of its name in a table. -/
def sameFields : List (String × Value) → Table → Bool
  | [], _ => true
  | (name, v) :: rest, t =>
    (match t.get? name with
      | some w => same v w
      | none => false) && sameFields rest t

end

mutual

/-- Whether the first value is less than the second one. -/
def less : Value → Value → Except Fault Bool
  | .text s, .text t => .ok (decide (s < t))
  | .points a, .points b => .ok (decide (a < b))
  | .list items, .list others => lessItems items others
  | .group items, .group others => lessItems items others
  | v, w =>
    match v.number?, w.number? with
    | some x, some y => .ok (x.lt y)
    | _, _ => .error (.order .below v.kindInFault w.kindInFault)

/-- Whether the first list is less than the second one: at the first place at which they differ, or
because it ends before. -/
def lessItems : List Value → List Value → Except Fault Bool
  | [], others => .ok !others.isEmpty
  | _ :: _, [] => .ok false
  | v :: rest, w :: others => if same v w then lessItems rest others else less v w

end

/-- The second value if it is less than the first one, else the first one. -/
def lesser (a b : Value) : Except Fault Value := (less b a).map fun first => if first then b else a

end Value

end PortMap
