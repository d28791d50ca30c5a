/-!
# Binary floating point numbers

A number of 64 bits: a sign, an exponent of 11 bits and a fraction of 52 bits. A finite number is
`±m * 2^q` with a significand `m` below `2^53` and `q` at least -1074. `ofRatio` rounds a quotient
of integers to the nearest such number, a tie to the even significand.
-/

namespace Stencil

/-- A floating point number, by its bits. -/
structure Binary64 where
  /-- Sign, exponent and fraction, from the highest bit down. -/
  bits : UInt64
deriving DecidableEq

namespace Binary64

/-- The sign bit. -/
def negative (x : Binary64) : Bool :=
  x.bits >>> 63 == 1

/-- The biased exponent. -/
def biased (x : Binary64) : Nat :=
  ((x.bits >>> 52) &&& 0x7ff).toNat

/-- The stored fraction. -/
def fraction (x : Binary64) : Nat :=
  (x.bits &&& 0xfffffffffffff).toNat

/-- Not a number. -/
def isNaN (x : Binary64) : Bool :=
  x.biased == 2047 && x.fraction != 0

/-- Positive or negative infinity. -/
def isInfinite (x : Binary64) : Bool :=
  x.biased == 2047 && x.fraction == 0

/-- The significand `m` of a finite number `±m * 2^q`. -/
def significand (x : Binary64) : Nat :=
  if x.biased == 0 then x.fraction else x.fraction + Nat.pow 2 52

/-- The exponent `q` of a finite number `±m * 2^q`. -/
def scale (x : Binary64) : Int :=
  if x.biased == 0 then -1074 else (x.biased : Int) - 1075

/-- Positive or negative zero. -/
def isZero (x : Binary64) : Bool :=
  x.bits <<< 1 == 0

/-- The number with the opposite sign. -/
def neg (x : Binary64) : Binary64 :=
  ⟨x.bits ^^^ 0x8000000000000000⟩

/-- The number without its sign. -/
def abs (x : Binary64) : Binary64 :=
  ⟨x.bits &&& 0x7fffffffffffffff⟩

/-- The magnitude of `x` with the given sign. -/
def withSign (negative : Bool) (x : Binary64) : Binary64 :=
  if negative then ⟨x.bits ||| 0x8000000000000000⟩ else x.abs

def zero : Binary64 := ⟨0⟩
def one : Binary64 := ⟨0x3ff0000000000000⟩
def infinity : Binary64 := ⟨0x7ff0000000000000⟩
def nan : Binary64 := ⟨0x7ff8000000000000⟩

/-- The quotient of two natural numbers, rounded to the nearest; a tie goes to the even one. -/
def roundDiv (num den : Nat) : Nat :=
  let q := num / den
  let twice := 2 * (num % den)
  if twice < den then q
  else if den < twice then q + 1
  else q + q % 2

/-- The magnitude nearest to `num / den`; beyond the largest finite number it is infinity. -/
def ofRatio (num den : Nat) : Binary64 :=
  if num == 0 then zero
  else
    let estimate : Int := (num.log2 : Int) - den.log2 - 52
    let scaled (q : Int) : Nat × Nat :=
      if q ≥ 0 then (num, den * Nat.pow 2 q.toNat) else (num * Nat.pow 2 (-q).toNat, den)
    let (n, d) := scaled estimate
    let q := max (if n < d * Nat.pow 2 52 then estimate - 1 else estimate) (-1074)
    let (n, d) := scaled q
    let m := roundDiv n d
    let (m, q) := if m == Nat.pow 2 53 then (Nat.pow 2 52, q + 1) else (m, q)
    if m < Nat.pow 2 52 then ⟨m.toUInt64⟩
    else if q + 1075 ≥ 2047 then infinity
    else ⟨((q + 1075).toNat * Nat.pow 2 52 + (m - Nat.pow 2 52)).toUInt64⟩

/-- The number nearest to an integer. -/
def ofInt (n : Int) : Binary64 :=
  withSign (n < 0) (ofRatio n.natAbs 1)

/-- The number nearest to `mantissa * 10^exponent`. -/
def ofDecimal (mantissa : Nat) (exponent : Int) : Binary64 :=
  let digits : Int := (Nat.toDigits 10 mantissa).length
  if mantissa == 0 || exponent + digits < -400 then zero
  else if exponent + digits > 400 then infinity
  else if exponent ≥ 0 then ofRatio (mantissa * Nat.pow 10 exponent.toNat) 1
  else ofRatio mantissa (Nat.pow 10 (-exponent).toNat)

/-- A finite number as a quotient of an integer and a power of two. -/
def toRatio (x : Binary64) : Int × Nat :=
  let m : Int := if x.negative then -x.significand else x.significand
  if x.scale ≥ 0 then (m * Nat.pow 2 x.scale.toNat, 1) else (m, Nat.pow 2 (-x.scale).toNat)

/-- A finite number without its fractional part. -/
def truncate (x : Binary64) : Int :=
  let (n, d) := x.toRatio
  n.tdiv d

/-- The largest integer not above a finite number. -/
def floor (x : Binary64) : Int :=
  let (n, d) := x.toRatio
  n.fdiv d

/-- A finite number that is an integer. -/
def isIntegral (x : Binary64) : Bool :=
  x.biased != 2047 && (let (n, d) := x.toRatio; n % d == 0)

/-- Arithmetic is that of the processor. -/
def ofFloat (f : Float) : Binary64 := ⟨f.toBits⟩
def toFloat (x : Binary64) : Float := Float.ofBits x.bits

def add (x y : Binary64) : Binary64 := ofFloat (x.toFloat + y.toFloat)
def sub (x y : Binary64) : Binary64 := ofFloat (x.toFloat - y.toFloat)
def mul (x y : Binary64) : Binary64 := ofFloat (x.toFloat * y.toFloat)
def div (x y : Binary64) : Binary64 := ofFloat (x.toFloat / y.toFloat)
def pow (x y : Binary64) : Binary64 := ofFloat (x.toFloat ^ y.toFloat)

/-- Numerical equality: the two zeros are equal and nothing equals NaN. -/
def eq (x y : Binary64) : Bool :=
  !x.isNaN && !y.isNaN && (x.bits == y.bits || x.isZero && y.isZero)

/-- Numerical order, false whenever a side is NaN. -/
def lt (x y : Binary64) : Bool :=
  if x.isNaN || y.isNaN || x.isZero && y.isZero then false
  else match x.negative, y.negative with
    | false, false => decide (x.bits < y.bits)
    | true, true => decide (y.bits < x.bits)
    | true, false => true
    | false, true => false

/-- The remainder of `x / y` with the sign of `x`; exact. -/
def remainder (x y : Binary64) : Binary64 :=
  if x.isNaN || y.isNaN || x.isInfinite || y.isZero then nan
  else if y.isInfinite then x
  else
    let (n, d) := x.abs.toRatio
    let (n', d') := y.abs.toRatio
    withSign x.negative (ofRatio ((n * d') % (n' * d)).toNat (d * d'))

/-- The quotient rounded down and the remainder with the sign of the divisor, for a divisor that is
not zero. -/
def divMod (x y : Binary64) : Binary64 × Binary64 :=
  let rem := remainder x y
  let quot := (x.sub rem).div y
  let (quot, rem) :=
    if rem.isZero then (quot, withSign y.negative zero)
    else if y.negative != rem.negative && !rem.isNaN then (quot.sub one, rem.add y)
    else (quot, rem)
  let quot :=
    if quot.isZero then withSign (x.div y).negative zero
    else if quot.isNaN || quot.isInfinite then quot
    else
      let down := ofInt quot.floor
      let down := withSign (quot.negative) down
      if lt (ofRatio 1 2) (quot.sub down) then down.add one else down
  (quot, rem)

end Binary64

end Stencil
