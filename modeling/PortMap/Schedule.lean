import PortMap.Value.Arithmetic

/-!
# Delays between failed receives

A schedule of growing delays: the first delay, the factor from one delay to the next, and a ceiling.
The delay after attempt `n`, counted from zero, is the first delay times the `n`-th power of the
factor, or the ceiling where that is smaller. The three are usually numbers; whoever makes a schedule of
anything else is told so by the first delay that is asked for.

The standing schedule begins with a quarter of a second and doubles up to 64 seconds.
-/

namespace PortMap

/-- A schedule of delays. -/
structure Schedule where
  /-- The delay after the first attempt. -/
  first : Value := .real .quarter
  /-- The factor from one delay to the next. -/
  factor : Value := .real .two
  /-- The longest delay. -/
  ceiling : Value := .real .sixtyFour

namespace Schedule

/-- The delay after an attempt; attempts before the first count as the first. -/
def delay (s : Schedule) (attempt : Int) : Except Value.Fault Value :=
  match s.factor.power attempt.toNat with
  | .error e => .error e
  | .ok p => (s.first.times p).bind fun d => d.lesser s.ceiling

end Schedule

end PortMap
