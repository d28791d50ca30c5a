import Stencil.Filter.Basic

/-!
# Tests

What each test says of a value.
-/

namespace Stencil

namespace Test

/-- The names of all tests. -/
def known : List String :=
  ["odd", "even", "divisibleby", "defined", "undefined", "filter", "test", "none", "boolean",
    "false", "true", "integer", "float", "lower", "upper", "string", "mapping", "number",
    "sequence", "iterable", "callable", "sameas", "escaped", "in", "==", "eq", "equalto", "!=",
    "ne", ">", "gt", "greaterthan", "ge", ">=", "<", "lt", "lessthan", "<=", "le"]

/-- Whether a value can be iterated over. -/
def isIterable (v : Value) : Run Bool := do
  match v with
  | .list _ | .tuple _ | .view _ _ | .dict _ | .text _ _ | .range _ _ _ | .iterator _
  | .loop _ | .self _ => return true
  | .undefined .strict why => Run.failUndefined why
  | .undefined _ _ => return true
  | _ => return false

/-- Whether `v` is an item, key or part of `container`. -/
def contains (eng : Engine) (v container : Value) : Run Bool := do
  match container with
  | .text s _ =>
    match v with
    | .text piece _ => return Value.occurs piece s
    | _ => Run.badType
  | .list cell => Value.member v (← Run.listItems cell)
  | .tuple items => Value.member v items
  | .view _ items => Value.member v items
  | .dict entries => return (← Value.lookup v entries).isSome
  | .range a b s => Value.member v ((rangeItems a b s).map .int)
  | .undefined .strict why => Run.failUndefined why
  | .undefined _ _ => return false
  | .iterator cell =>
    return (← Run.nextKept eng cell (fun x => Value.equal x v) Run.itemLimit).isSome
  | .loop cell =>
    let it ← Run.newIterator (.loopItems cell)
    return (← Run.nextKept eng it (fun x => Value.equal x v) Run.itemLimit).isSome
  | _ => Run.badType

/-- A comparison by size that takes some outcomes. -/
def ordered (a b : Value) (takes : Ordering → Bool) : Run Bool := do
  return (← Value.order a b).any takes

/-- Whether a value can be called. -/
def isCallable : Value → Bool
  | .function _ | .method _ _ | .joiner _ | .loop _ | .macroRef _ | .block _ _ _ => true
  | .undefined _ _ => true
  | _ => false

/-- Applies a test. -/
def apply (eng : Engine) (_site : Site) (name : String) (v : Value) (args : List Value)
    (named : Named) : Run Value := do
  let bind (params : List Param) : Run (List Value) := Run.bindParams params args named
  let alone (b : Run Bool) : Run Value := do
    discard (bind [])
    return .bool (← b)
  let against (param : String) (f : Value → Run Bool) : Run Value := do
    match ← bind [⟨param, none⟩] with
    | [w] => return .bool (← f w)
    | _ => Run.badType
  -- comparisons take exactly two positional values
  let compared (f : Value → Run Bool) : Run Value := do
    match args, named with
    | [w], [] => return .bool (← f w)
    | _, _ => Run.badType
  match name with
  | "odd" => alone do Value.equal (← Value.modulo v (.int 2)) (.int 1)
  | "even" => alone do Value.equal (← Value.modulo v (.int 2)) (.int 0)
  | "divisibleby" => against "num" fun w => do Value.equal (← Value.modulo v w) (.int 0)
  | "defined" => alone (return !v.isUndefined)
  | "undefined" => alone (return v.isUndefined)
  | "filter" | "test" => alone do
      Value.checkKey valueDepth v
      match v with
      | .text s _ => return (if name == "filter" then Filter.known else known).contains s
      | _ => return false
  | "none" => alone (return match v with
      | .none => true
      | _ => false)
  | "boolean" => alone (return match v with
      | .bool _ => true
      | _ => false)
  | "false" => alone (return match v with
      | .bool b => !b
      | _ => false)
  | "true" => alone (return match v with
      | .bool b => b
      | _ => false)
  | "integer" => alone (return match v with
      | .int _ => true
      | _ => false)
  | "float" => alone (return match v with
      | .float _ => true
      | _ => false)
  | "lower" => alone do return Text.isLower (← Value.str eng v).toList
  | "upper" => alone do return Text.isUpper (← Value.str eng v).toList
  | "string" => alone (return match v with
      | .text _ _ => true
      | _ => false)
  | "mapping" => alone (return match v with
      | .dict _ => true
      | _ => false)
  | "number" => alone (return v.numeric?.isSome)
  | "sequence" => alone (return match v with
      | .text _ _ | .list _ | .tuple _ | .dict _ | .range _ _ _ => true
      | .undefined .strict _ => false
      | .undefined _ _ => true
      | _ => false)
  | "iterable" => alone (isIterable v)
  | "callable" => alone (return isCallable v)
  | "escaped" => alone (return v.hasMarkup)
  | "sameas" => against "other" fun w => Value.equal v w
  | "in" => against "seq" fun w => contains eng v w
  | "==" | "eq" | "equalto" => compared fun w => Value.equal v w
  | "!=" | "ne" => compared fun w => do return !(← Value.equal v w)
  | ">" | "gt" | "greaterthan" => compared fun w => ordered v w (· == .gt)
  | ">=" | "ge" => compared fun w => ordered v w (· != .lt)
  | "<" | "lt" | "lessthan" => compared fun w => ordered v w (· == .lt)
  | "<=" | "le" => compared fun w => ordered v w (· != .gt)
  | _ => throw (.runtime ("No test named " ++ quote name ++ "."))

end Test

end Stencil
