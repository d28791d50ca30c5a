import Stencil.Value.Compare

/-!
# Arithmetic

Sums, products, quotients and powers of numbers; texts, lists and tuples can be joined and repeated.
Integers are exact; an integer meets a floating point number as the nearest floating point number.
Safe text escapes what it is joined with.
-/

namespace Stencil

namespace Value

/-- The floating point number nearest to an integer, which must not be too large. -/
def toFloat (n : Int) : Run Binary64 :=
  let x := Binary64.ofInt n
  if x.isInfinite then Run.accident .overflow else return x

/-- Operands as floating point numbers. -/
def floats : Numeric → Numeric → Run (Binary64 × Binary64)
  | .int a, .int b => return (← toFloat a, ← toFloat b)
  | .int a, .float y => return (← toFloat a, y)
  | .float x, .int b => return (x, ← toFloat b)
  | .float x, .float y => return (x, y)

/-- An operation on numbers, given for integers and for floating point numbers. -/
def arithmetic (ints : Int → Int → Run Value) (reals : Binary64 → Binary64 → Run Value)
    (a b : Value) : Run Value := do
  match a, b with
  | .undefined _ why, _ => Run.failUndefined why
  | _, .undefined _ why => Run.failUndefined why
  | a, b =>
    match a.numeric?, b.numeric? with
    | some (.int x), some (.int y) => ints x y
    | some x, some y =>
      let (x, y) ← floats x y
      reals x y
    | _, _ => Run.badType

/-- Two texts joined; safe text escapes the other one. -/
def joinTexts (s : String) (safe : Bool) (t : String) (safe' : Bool) : Value :=
  match safe, safe' with
  | true, true => .text (s ++ t) true
  | true, false => .text (s ++ Markup.escape t) true
  | false, true => .text (Markup.escape s ++ t) true
  | false, false => .text (s ++ t) false

def add (a b : Value) : Run Value := do
  match a, b with
  | .text s safe, .text t safe' => return joinTexts s safe t safe'
  | .list c, .list c' => Run.newList ((← Run.listItems c) ++ (← Run.listItems c'))
  | .tuple xs, .tuple ys => return .tuple (xs ++ ys)
  | a, b => arithmetic (fun x y => return .int (x + y)) (fun x y => return .float (x.add y)) a b

def sub (a b : Value) : Run Value :=
  arithmetic (fun x y => return .int (x - y)) (fun x y => return .float (x.sub y)) a b

/-- `n` copies of a list, none for a negative `n`. -/
def copies {α : Type} (items : List α) (n : Int) : List α :=
  (List.replicate n.toNat items).flatten

/-- A sequence repeated. -/
def repeated (v : Value) (n : Int) : Run Value := do
  match v with
  | .text s safe => return .text (String.ofList (copies s.toList n)) safe
  | .tuple xs => return .tuple (copies xs n)
  | .list c => Run.newList (copies (← Run.listItems c) n)
  | _ => Run.badType

/-- The integer that a value is, truth values included. -/
def integer? (v : Value) : Option Int :=
  match v.numeric? with
  | some (.int n) => some n
  | _ => Option.none

/-- Whether a value can be repeated. -/
def isSequence : Value → Bool
  | .text _ _ | .tuple _ | .list _ => true
  | _ => false

def mul (a b : Value) : Run Value := do
  if a.isSequence then
    match b with
    | .undefined _ why => Run.failUndefined why
    | b => match b.integer? with
      | some n => repeated a n
      | Option.none => Run.badType
  else if b.isSequence then
    match a with
    | .undefined _ why => Run.failUndefined why
    | a => match a.integer? with
      | some n => repeated b n
      | Option.none => Run.badType
  else arithmetic (fun x y => return .int (x * y)) (fun x y => return .float (x.mul y)) a b

/-- The quotient, which is a floating point number also for integers. -/
def div (a b : Value) : Run Value :=
  arithmetic
    (fun x y =>
      if y == 0 then Run.accident .zeroDivision
      else
        let q := Binary64.ofRatio x.natAbs y.natAbs
        if q.isInfinite then Run.accident .overflow
        else return .float (Binary64.withSign ((x < 0) != (y < 0) && x != 0) q))
    (fun x y => if y.isZero then Run.accident .zeroDivision else return .float (x.div y)) a b

/-- The quotient rounded down. -/
def floorDiv (a b : Value) : Run Value :=
  arithmetic
    (fun x y => if y == 0 then Run.accident .zeroDivision else return .int (x.fdiv y))
    (fun x y => if y.isZero then Run.accident .zeroDivision
      else return .float (Binary64.divMod x y).1) a b

/-- The remainder, which has the sign of the divisor. -/
def modulo (a b : Value) : Run Value :=
  arithmetic
    (fun x y => if y == 0 then Run.accident .zeroDivision else return .int (x.fmod y))
    (fun x y => if y.isZero then Run.accident .zeroDivision
      else return .float (Binary64.divMod x y).2) a b

/-- A power of floating point numbers. -/
def powFloat (x y : Binary64) : Run Value :=
  if x.isZero && y.negative && !y.isZero && !y.isNaN then Run.accident .zeroDivision
  else if x.negative && !x.isZero && !x.isInfinite && !y.isInfinite && !y.isNaN &&
      !y.isIntegral then Run.badType
  else
    let r := x.pow y
    if r.isInfinite && !x.isInfinite && !y.isInfinite then Run.accident .overflow
    else return .float r

def pow (a b : Value) : Run Value :=
  arithmetic
    (fun x y =>
      if y ≥ 0 then return .int (Int.pow x y.toNat)
      else if x == 0 then Run.accident .zeroDivision
      else do powFloat (← toFloat x) (← toFloat y))
    powFloat a b

def neg (v : Value) : Run Value := do
  match v with
  | .undefined _ why => Run.failUndefined why
  | v => match v.numeric? with
    | some (.int n) => return .int (-n)
    | some (.float x) => return .float x.neg
    | Option.none => Run.badType

def pos (v : Value) : Run Value := do
  match v with
  | .undefined _ why => Run.failUndefined why
  | v => match v.numeric? with
    | some (.int n) => return .int n
    | some (.float x) => return .float x
    | Option.none => Run.badType

def absolute (v : Value) : Run Value := do
  match v with
  | .undefined _ _ => Run.badType
  | v => match v.numeric? with
    | some (.int n) => return .int n.natAbs
    | some (.float x) => return .float x.abs
    | Option.none => Run.badType

end Value

end Stencil
