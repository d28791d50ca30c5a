import Stencil.Decimal.Binary64

/-!
# Shortest decimal text

Among the decimals that round to a given floating point number, the one with the fewest digits; of
several, the one nearest to the number. Numbers from `10^-4` up to, and without, `10^16` are
written positionally, others with an exponent of two digits or more.
-/

namespace Stencil

/-- A positive decimal `0.d₁d₂… * 10^point`. -/
structure Digits where
  /-- The digits as one number. -/
  value : Nat
  /-- How many digits there are. -/
  count : Nat
  /-- The power of ten. -/
  point : Int

namespace Binary64

/-- The power of ten `k` with `10^(k-1) ≤ num / den < 10^k`, for a positive quotient that is a
power of ten only from one on. -/
def magnitude (num den : Nat) : Int :=
  if num ≥ den then ((Nat.toDigits 10 (num / den)).length : Int)
  else 1 - ((Nat.toDigits 10 (den / num)).length : Int)

/-- The better of the two neighbours of a positive number on the grid of `count` digits, if one of
them rounds to the number. -/
def onGrid? (x : Binary64) (count : Nat) : Option Digits :=
  let m := x.significand
  let q := x.scale - 2
  let unit (n : Nat) : Nat × Nat :=
    if q ≥ 0 then (n * Nat.pow 2 q.toNat, 1) else (n, Nat.pow 2 (-q).toNat)
  let (num, den) := unit (4 * m)
  let (top, _) := unit (4 * m + 2)
  let (bottom, _) := unit (if m == Nat.pow 2 52 && x.biased > 1 then 4 * m - 1 else 4 * m - 2)
  let point := magnitude num den
  -- the grid is ten to the power of `point - count`
  let up := (point - count).toNat
  let down := ((count : Int) - point).toNat
  let num := num * Nat.pow 10 down
  let top := top * Nat.pow 10 down
  let bottom := bottom * Nat.pow 10 down
  let den := den * Nat.pow 10 up
  let inside (d : Nat) : Bool :=
    if m % 2 == 0 then decide (bottom ≤ d * den) && decide (d * den ≤ top)
    else decide (bottom < d * den) && decide (d * den < top)
  let low := num / den
  let choose (d : Nat) : Digits :=
    if d == Nat.pow 10 count then ⟨1, 1, point + 1⟩ else ⟨d, count, point⟩
  let below := num - low * den
  let above := (low + 1) * den - num
  match inside low, inside (low + 1) with
  | true, true =>
    if below < above then choose low
    else if above < below then choose (low + 1)
    else choose (if low % 2 == 0 then low else low + 1)
  | true, false => choose low
  | false, true => choose (low + 1)
  | false, false => none

/-- The first grid with a hit, from `count` digits on. -/
def searchDigits (x : Binary64) : (fuel count : Nat) → Digits
  | 0, count => ⟨0, count, 0⟩
  | fuel + 1, count =>
    match x.onGrid? count with
    | some digits => digits
    | none => searchDigits x fuel (count + 1)

/-- The shortest digits of a positive finite number. Seventeen always suffice. -/
def shortest (x : Binary64) : Digits :=
  searchDigits x 17 1

/-- Digits without the zeros at their end. -/
def trimZeros (ds : List Char) : List Char :=
  match (ds.reverse.dropWhile (· == '0')).reverse with
  | [] => ['0']
  | ds => ds

/-- Positional or exponential text of digits with the decimal point after the first `point`. -/
def positioned (digits : List Char) (point : Int) : List Char :=
  let n : Int := digits.length
  if -4 < point && point ≤ 16 then
    if point ≤ 0 then '0' :: '.' :: (List.replicate (-point).toNat '0' ++ digits)
    else if n ≤ point then digits ++ List.replicate (point - n).toNat '0' ++ ['.', '0']
    else digits.take point.toNat ++ '.' :: digits.drop point.toNat
  else
    let exponent := point - 1
    let mantissa := match digits with
      | [d] => [d]
      | d :: ds => d :: '.' :: ds
      | [] => []
    let size := Nat.toDigits 10 exponent.natAbs
    mantissa ++ 'e' :: (if exponent < 0 then '-' else '+') ::
      (List.replicate (2 - size.length) '0' ++ size)

/-- The text of a floating point number. -/
def text (x : Binary64) : String :=
  if x.isNaN then "nan"
  else
    let magnitude :=
      if x.isInfinite then ['i', 'n', 'f']
      else if x.isZero then ['0', '.', '0']
      else
        let ds := x.shortest
        positioned (trimZeros (Nat.toDigits 10 ds.value)) ds.point
    String.ofList (if x.negative then '-' :: magnitude else magnitude)

end Binary64

end Stencil
