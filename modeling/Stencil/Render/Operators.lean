import Stencil.Filter.Test
import Stencil.Value.Format

/-!
# Operators and argument lists

What the operators of expressions do with values that are already known, and how the arguments of a
call are put together from its parts.
-/

namespace Stencil

namespace Value

/-- A binary operation on two known values. The logical operators choose one of them. -/
def binary (eng : Engine) (op : BinaryOp) (a b : Value) : Run Value := do
  match op with
  | .add => add a b
  | .sub => sub a b
  | .mul => mul a b
  | .div => div a b
  | .floorDiv => floorDiv a b
  | .mod =>
    match a with
    | .text s safe => format eng s safe b
    | a => modulo a b
  | .pow => pow a b
  | .and => return if ← truth eng a then b else a
  | .or => return if ← truth eng a then a else b

/-- A unary operation. -/
def unary (eng : Engine) (op : UnaryOp) (v : Value) : Run Value := do
  match op with
  | .not => return .bool (!(← truth eng v))
  | .neg => neg v
  | .pos => pos v

/-- A single comparison. -/
def compares (eng : Engine) (op : Comparison) (a b : Value) : Run Bool := do
  match op with
  | .eq => equal a b
  | .ne => return !(← equal a b)
  | .gt => Test.ordered a b (· == .gt)
  | .gteq => Test.ordered a b (· != .lt)
  | .lt => Test.ordered a b (· == .lt)
  | .lteq => Test.ordered a b (· != .gt)
  | .isIn => Test.contains eng a b
  | .notIn => return !(← Test.contains eng a b)

/-- Whether a value holds a floating point number that has no literal; `fuel` bounds its depth. -/
def hasNonFinite : (fuel : Nat) → Value → Run Bool
  | 0, _ => Run.accident .tooDeep
  | fuel + 1, v => do
    match v with
    | .float x => return x.isNaN || x.isInfinite
    | .tuple items => return (← items.mapM (hasNonFinite fuel)).any id
    | .list cell => return (← (← Run.listItems cell).mapM (hasNonFinite fuel)).any id
    | .dict entries =>
      return (← entries.mapM fun (k, x) => do
        return (← hasNonFinite fuel k) || (← hasNonFinite fuel x)).any id
    | _ => return false

/-- A value that is written out in a compiled template: numbers without a literal cannot be. -/
def spelledOut (v : Value) : Run Value := do
  if ← hasNonFinite valueDepth v then Run.accident .unknownName else return v

end Value

namespace Run

/-- The values that `*v` adds to the positional arguments. -/
def spreadItems (eng : Engine) (v : Option Value) : Run (List Value) :=
  match v with
  | none => return []
  | some v => itemsOf eng v

/-- The arguments that `**v` adds to the named ones, none of which may be there already. -/
def spreadNamed (v : Option Value) (named : Named) : Run Named := do
  match v with
  | none => return named
  | some (.dict entries) =>
    entries.foldlM (fun acc (k, x) => do
      match k with
      | .text name _ => if acc.any (fun n => n.1 == name) then badType else return acc ++ [(name, x)]
      | _ => badType) named
  | some (.undefined _ why) => failUndefined why
  | some _ => badType

end Run

end Stencil
