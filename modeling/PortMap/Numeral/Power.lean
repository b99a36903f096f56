import PortMap.Numeral.Binary64

/-!
# Powers of real numbers

The power `x ^ y` of a number of the format is worked out as the exponential of `y * log x`, in steps each
of which is rounded to 53 bits. The logarithm is kept as a pair of numbers, the second one some sixty
bits smaller than the first, so the answer is off by hardly more than half a unit of its last place; it
is not always the number nearest to the exact power.

* `Scaled` holds the exact numbers between two roundings. Their exponents have no bounds: only the last
  step has to mind the bounds of the format.
* `logarithm` splits a number into a power of two and one of 128 steps, of which `stepLog` is the
  logarithm, and a remainder, for which a polynomial does.
* `exponential` splits its argument into a multiple of `log 2 / 128`, for which `stepPower` is the
  power of two, and a remainder, for which another polynomial does.
* `pow` puts both together and answers the cases without a logarithm.
-/

namespace PortMap.Binary64

/-! ### Exact numbers between two roundings -/

/-- The number `m * 2 ^ e`. -/
structure Scaled where
  /-- The significand. -/
  m : Int
  /-- The exponent. -/
  e : Int

namespace Scaled

/-- A whole number. -/
def ofInt (n : Int) : Scaled := ⟨n, 0⟩

/-- The sum. -/
def add (x y : Scaled) : Scaled :=
  let e := min x.e y.e
  ⟨x.m * 2 ^ (x.e - e).toNat + y.m * 2 ^ (y.e - e).toNat, e⟩

/-- The product. -/
def mul (x y : Scaled) : Scaled := ⟨x.m * y.m, x.e + y.e⟩

/-- The opposite. -/
def neg (x : Scaled) : Scaled := ⟨-x.m, x.e⟩

/-- The quotient by `2 ^ k` of a whole number, rounded to a whole number. -/
def roundShift (n : Int) (k : Nat) : Int :=
  let q : Int := roundHalfEven n.natAbs (2 ^ k)
  if n < 0 then -q else q

/-- The number rounded to 53 bits. -/
def round (x : Scaled) : Scaled :=
  let k := x.m.natAbs.log2 - 52
  ⟨roundShift x.m k, x.e + k⟩

/-- The number rounded to a whole one. -/
def nearestInt (x : Scaled) : Int :=
  if 0 ≤ x.e then x.m * 2 ^ x.e.toNat else roundShift x.m (-x.e).toNat

/-- The sum, rounded. -/
def sum (x y : Scaled) : Scaled := (x.add y).round

/-- The difference, rounded. -/
def difference (x y : Scaled) : Scaled := (x.add y.neg).round

/-- The product, rounded. -/
def product (x y : Scaled) : Scaled := (x.mul y).round

/-- The product of two numbers plus a third one, rounded once. -/
def productSum (x y z : Scaled) : Scaled := ((x.mul y).add z).round

/-- Whether the size of a number is less than `2 ^ k`. -/
def below (x : Scaled) (k : Int) : Bool :=
  x.m = 0 || decide ((x.m.natAbs.log2 : Int) + x.e < k)

end Scaled

/-! ### Constants to two hundred bits -/

/-- The number of bits after the binary point of the constants. -/
def guardBits : Nat := 200

/-- The first terms of the series `t + t³ / 3 + t⁵ / 5 + …`, with `t = n / d`; `power` is the power of `t`
that is next, and `k` its exponent. -/
def oddSeries (n d : Int) : (count : Nat) → (power : Int) → (k : Int) → Int
  | 0, _, _ => 0
  | count + 1, power, k => power / k + oddSeries n d count (power * n * n / (d * d)) (k + 2)

/-- The logarithm of `a / b` in units of `2 ^ (-200)`. -/
def logRatio (a b : Int) : Int :=
  2 * oddSeries (a - b) (a + b) 70 (2 ^ guardBits * (a - b) / (a + b)) 1

/-- The first terms of the series of the exponential of `x`, which is counted in units of `2 ^ (-200)` as
is the answer; `term` is the term that is next, and `k` its place. -/
def powerSeries (x : Int) : (count : Nat) → (term : Int) → (k : Int) → Int
  | 0, _, _ => 0
  | count + 1, term, k => term + powerSeries x count (term * x / (2 ^ guardBits * (k + 1))) (k + 1)

/-- The logarithm of two. -/
def logTwo : Int := logRatio 2 1

/-! ### Logarithms -/

/-- The logarithm of two, cut to 42 bits. -/
def logTwoHigh : Scaled := ⟨0xb17217f7d1c, -44⟩

/-- The rest of the logarithm of two. -/
def logTwoLow : Scaled := ⟨0x1ef35793c7673, -93⟩

/-- The steps: the reciprocal of a number near the middle of each of the 128 equal pieces into which the
numbers from `0.7057…` to twice as much are cut, counted in units of `1 / 256`. -/
def reciprocals : List Int := [
  362, 360, 358, 356, 354, 352, 350, 348, 346, 344, 342, 342, 340, 338, 336, 334, 332, 330, 330, 328,
  326, 324, 322, 320, 320, 318, 316, 314, 314, 312, 310, 308, 308, 306, 304, 304, 302, 300, 300, 298,
  296, 294, 294, 292, 292, 290, 288, 288, 286, 284, 284, 282, 282, 280, 278, 278, 276, 276, 274, 272,
  272, 270, 270, 268, 268, 266, 266, 264, 264, 262, 260, 260, 258, 258, 256, 256, 254, 252, 250, 248,
  246, 244, 242, 241, 239, 237, 235, 234, 232, 230, 229, 227, 226, 224, 223, 221, 220, 218, 217, 215,
  214, 213, 211, 210, 208, 207, 206, 205, 203, 202, 201, 200, 198, 197, 196, 195, 194, 193, 191, 190,
  189, 188, 187, 186, 185, 184, 183, 182]

/-- The logarithm of a step, as a number of 43 bits after the binary point and what is left of it. -/
def stepLog (reciprocal : Int) : Scaled × Scaled :=
  let exact := logRatio 256 reciprocal
  let high : Scaled := ⟨Scaled.roundShift exact (guardBits - 43), -43⟩
  let low : Scaled := ⟨exact - high.m * 2 ^ (guardBits - 43), -guardBits⟩
  (high, low.round)

/-- Where the pieces begin, as a significand of 53 bits. -/
def firstPiece : Nat := 0x16955500000000

/-- The value of the polynomial that stands for the logarithm of `1 + r` without its first two terms,
divided by their product; `square` is minus half of the square of `r`. -/
def logPolynomial (r square : Scaled) : Scaled :=
  let outer := r.productSum ⟨0x10002b8b263fc3, -52⟩ ⟨-0x12495b9b4845e9, -52⟩
  let middle := r.productSum ⟨-0x1555555529a47a, -53⟩ ⟨0x1999999959554e, -53⟩
  let inner := r.productSum ⟨0x10000000000006, -53⟩ ⟨-0x15555555555560, -53⟩
  square.productSum (outer.productSum square middle) inner

/-- The logarithm of a positive number `m * 2 ^ e` with `m` of 53 bits, as a number and what is left of
it. -/
def logarithm (m : Nat) (e : Int) : Scaled × Scaled :=
  let late := decide (firstPiece ≤ m)
  let z : Scaled := ⟨m, if late then -53 else -52⟩
  let k := Scaled.ofInt (if late then e + 53 else e + 52)
  let piece := (m + 2 ^ 52 - firstPiece) % 2 ^ 52 / 2 ^ 45
  let reciprocal := (reciprocals[piece]?).getD 256
  let (stepHigh, stepLow) := stepLog reciprocal
  let r := z.productSum ⟨reciprocal, -8⟩ (.ofInt (-1))
  let base := k.productSum logTwoHigh stepHigh
  let near := base.sum r
  let low₁ := k.productSum logTwoLow stepLow
  let low₂ := (base.difference near).sum r
  let half := (Scaled.mk (-1) (-1)).product r
  let square := r.product half
  let cube := r.product square
  let high := near.sum square
  let low₃ := half.productSum r square.neg
  let low₄ := (near.difference high).sum square
  let low := cube.productSum (logPolynomial r square) (((low₁.sum low₂).sum low₃).sum low₄)
  let answer := high.sum low
  (answer, (high.difference answer).sum low)

/-! ### Exponentials -/

/-- The power of two with the exponent `j / 128`, as a number and the part by which it has to grow to be
exact. -/
def stepPower (j : Int) : Scaled × Scaled :=
  let exact := powerSeries (j * logTwo / 128) 60 (2 ^ guardBits) 0
  let high := (Scaled.mk exact (-guardBits)).round
  let whole := high.m * 2 ^ (high.e + guardBits).toNat
  (high, (Scaled.mk ((exact - whole) * 2 ^ guardBits / whole) (-guardBits)).round)

/-- What an exponential comes to within the bounds of the format. -/
inductive Magnitude where
  /-- It is larger than every number. -/
  | tooLarge
  /-- It is this number. -/
  | exactly (x : Scaled)

/-- The last step of an exponential that is less than one half of the least number of full precision:
it is rounded where the format ends. Both numbers are counted in units of that least number. -/
def subnormal (scale part : Scaled) : Scaled :=
  let one := Scaled.ofInt 1
  let near := scale.sum part
  let high := one.sum near
  let low := ((one.difference high).sum near).sum ((scale.difference near).sum part)
  (high.sum low).difference one

/-- The exponential of the sum of two numbers, of which the second one is much smaller. -/
def exponential (x tail : Scaled) : Magnitude :=
  if x.below (-54) then .exactly ((Scaled.ofInt 1).sum x)
  else if !x.below 10 then if 0 < x.m then .tooLarge else .exactly (.ofInt 0)
  else
    let count := (x.mul ⟨0x171547652b82fe, -45⟩).nearestInt
    let k := Scaled.ofInt count
    let r := k.productSum ⟨-0x1cf79abc9e3b3a, -99⟩ (k.productSum ⟨-0x162e42fefa0000, -60⟩ x)
    let r := r.sum tail
    let (step, growth) := stepPower (count % 128)
    let scale : Scaled := ⟨step.m, step.e + count / 128⟩
    let square := r.product r
    let inner := r.productSum ⟨0x1555555555543c, -55⟩ ⟨0x1ffffffffffdbd, -54⟩
    let outer := r.productSum ⟨0x11111167a4d017, -59⟩ ⟨0x155555cf172b91, -57⟩
    let part := outer.productSum (square.product square) (inner.productSum square (r.sum growth))
    if x.below 9 || 0 < count then .exactly (scale.productSum part scale)
    else
      let shift (y : Scaled) (n : Int) : Scaled := ⟨y.m, y.e + n⟩
      let scale := shift scale 1022
      let part := part.product scale
      let near := scale.sum part
      .exactly (shift (if near.below 0 then subnormal scale part else near) (-1022))

/-! ### Powers -/

/-- The number with 53 bits of the significand in use. -/
def normalized (m : Nat) (e : Int) : Nat × Int :=
  let k := 52 - m.log2
  (m * 2 ^ k, e - k)

/-- The power of a positive number other than one with an exponent other than zero; `none` if it is larger
than every number of the format. -/
def powPositive (negative : Bool) (m : Nat) (e : Int) (y : Scaled) : Option Binary64 :=
  let (m, e) := normalized m e
  let large := decide (0 ≤ e + 52) == decide (0 < y.m)
  if !y.below 63 then if large then none else some (zero negative)
  else if y.below (-65) then some (one.withSign negative)
  else
    let (high, low) := logarithm m e
    let product := y.product high
    let rest := y.productSum low (y.productSum high product.neg)
    match exponential product rest with
    | .tooLarge => none
    | .exactly x =>
      let answer := ofScaled negative x.m.natAbs x.e
      if answer.isFinite then some answer else none

/-- Whether a number is an odd whole number. -/
def isOdd (x : Binary64) : Bool :=
  match x.toInt? with
  | some n => n % 2 == 1
  | none => false

/-- The power with a whole exponent; `none` if a finite base gives more than the format holds. The power
with exponent zero is one for every base. -/
def pow (x y : Binary64) : Option Binary64 :=
  match x, y with
  | x, .finite s n f h =>
    if n = 0 then some one
    else
      let negative := x.isNegative && isOdd (.finite s n f h)
      match x with
      | .nan => some .nan
      | .infinite _ => some (if s then zero negative else .infinite negative)
      | .finite _ m e _ =>
        if m = 0 then some (if s then .infinite negative else zero negative)
        else if m = 2 ^ 52 ∧ e = -52 then some (one.withSign negative)
        else powPositive negative m e ⟨if s then -n else n, f⟩
  | x, _ => some x

end PortMap.Binary64
