import PortMap.Value.Arithmetic

/-!
# Waiting for a time

A time to wait for is given as a value of any kind, in seconds. Not every one of them can be waited for,
and which ones can depends on who waits:

* A sleep in a call, and the longest wait of a socket, are counted in billionths of a second, in a whole
  number of 64 bits, and must not be below zero (`Timer.sleep`, `Timer.longestWait`).
* The event loop sleeps for whatever can be compared with zero and added to its clock, and not at all if it
  is not above zero (`Timer.sleepAside`).

In a rehearsal nothing waits, and no time is refused.

## Honest scope

How long a wait lasts is not told. What follows a sleep is told as if it came to an end, also for a sleep of
the event loop that has none.
-/

namespace PortMap.Net

/-- What times are waited by. -/
inductive Timer where
  /-- A rehearsal: the times that are asked for are taken down, and nothing waits. -/
  | rehearsal
  /-- A clock that runs. -/
  | running
  deriving DecidableEq, Repr

namespace Timer

/-- Why a time cannot be waited for. -/
inductive Fault where
  /-- It is the value that is not a number. -/
  | notNumber
  /-- It is a whole number of seconds that is too large, or too small, to be counted. -/
  | wholeOutOfRange
  /-- It is a real number of seconds that is too large, or too small, to be counted. -/
  | realOutOfRange
  /-- It is of a kind that is no time. -/
  | notTime (kind : String)
  /-- A sleep is below zero. -/
  | sleepBelowZero
  /-- The longest wait of a socket is below zero. -/
  | waitBelowZero
  /-- The event loop cannot calculate with it. -/
  | calculation (cause : Value.Fault)
  deriving DecidableEq, Repr

/-- What is told of a time that cannot be waited for. -/
def Fault.message : Fault → String
  | .notNumber => "Invalid value NaN (not a number)"
  | .wholeOutOfRange => "timestamp too large to convert to C _PyTime_t"
  | .realOutOfRange => "timestamp out of range for platform time_t"
  | .notTime kind => "'" ++ kind ++ "' object cannot be interpreted as an integer"
  | .sleepBelowZero => "sleep length must be non-negative"
  | .waitBelowZero => "Timeout value out of range"
  | .calculation cause => cause.message

/-! ### Counting in billionths of a second -/

/-- The billionths of a second in a second, as a number of the format. -/
def billion : Binary64 := .finite false (10 ^ 9 * 2 ^ 23) (-23) (by decide)

/-- The most whole seconds that can be counted. -/
def mostSeconds : Nat := (2 ^ 63 - 1) / 10 ^ 9

/-- Whether a real number of seconds can be counted: its billionths, rounded to the format, fit into a whole
number of 64 bits. -/
def countsReal (x : Binary64) : Bool :=
  let n := x.mul billion
  n.compareInt (-2 ^ 63) != some .lt && n.compareInt (2 ^ 63) == some .lt

/-- A time must be one that can be counted, and not below zero, which is a fault of its own. -/
def counted (belowZero : Fault) (t : Value) : Except Fault Unit :=
  match t.number?.map Number.exact with
  | none => .error (.notTime t.kindInFault)
  | some (.inl n) =>
    if mostSeconds < n.natAbs then .error .wholeOutOfRange
    else if n < 0 then .error belowZero
    else .ok ()
  | some (.inr x) =>
    if x.isNaN then .error .notNumber
    else if !countsReal x then .error .realOutOfRange
    else if x.lt (.zero false) then .error belowZero
    else .ok ()

/-! ### What can be waited for -/

/-- A sleep in a call. -/
def sleep (timer : Timer) (d : Value) : Except Fault Unit :=
  match timer with
  | .rehearsal => .ok ()
  | .running => counted .sleepBelowZero d

/-- A sleep of the event loop. -/
def sleepAside (timer : Timer) (d : Value) : Except Fault Unit :=
  match timer with
  | .rehearsal => .ok ()
  | .running =>
    match d.number? with
    | none => .error (.calculation (.order .notAbove d.kindInFault "int"))
    | some x =>
      if x.atMostZero then .ok ()
      else
        match x.toReal with
        | .ok _ => .ok ()
        | .error e => .error (.calculation (.number e))

/-- The longest wait of a socket; without a value it waits for ever. -/
def longestWait (timer : Timer) (t : Value) : Except Fault Unit :=
  match timer, t with
  | .rehearsal, _ | .running, .null => .ok ()
  | .running, t => counted .waitBelowZero t

end Timer

end PortMap.Net
