import Stencil.Render.Constant

/-!
# Evaluating expressions

The value of an expression in a frame. Where the value is known beforehand, that value is taken;
otherwise the parts are evaluated from left to right.
-/

namespace Stencil

namespace Run

/-- The value of an expression that may be known beforehand. -/
def unlessFolded (eng : Engine) (f : Frame) (e : Expr) (rest : Run Value) : Run Value := do
  match ← Constant.folded eng f.escaping e with
  | some v => Value.spelledOut v
  | none => rest

/-- Whether text is escaped in a frame. -/
def escapes (f : Frame) : Run Bool := do
  if f.volatile then return (← context f.context).autoescape else return f.autoescape

/-- The texts of values joined. Where text is escaped, one safe text makes the whole safe. -/
def concatenate (eng : Engine) (f : Frame) (parts : List Value) : Run Value := do
  if f.autoescape && !f.volatile then
    let soft ← parts.mapM (Value.soft eng)
    if soft.any Value.hasMarkup then
      return .safe (String.join (← soft.mapM (Value.escaped eng)))
    else return .plain (String.join (← soft.mapM (Value.str eng)))
  else return .plain (String.join (← parts.mapM (Value.str eng)))

/-- The value of a condition without an alternative that does not hold. It is always of the lenient
kind. -/
def noAlternative (f : Frame) (line : Nat) : Run Value := do
  return .undefined .lenient (.noted (← newNote (.noAlternative (f.position line))))

/-- Applies a filter or test that is looked up at the time of its use. -/
def applyNamed (f : Frame) (kind : String) (known : List String)
    (apply : Site → String → Value → List Value → Named → Run Value) (name : String) (v : Value)
    (args : List Value) (named : Named) : Run Value := do
  if known.contains name then apply (← siteOf f.context) name v args named
  else if named.isEmpty then
    throw (.runtime ("No " ++ kind ++ " named " ++ quote name ++ " found."))
  else badType

mutual

/-- The value of an expression. -/
def evaluate (eng : Engine) (f : Frame) : Expr → Run Value
  | .name _ id => valueOf f id
  | .const _ d => do Value.spelledOut (← Value.ofDatum valueDepth d)
  | .data _ s => do return .text s (← escapes f)
  | .tuple _ items => do return .tuple (← evaluateAll eng f items)
  | .list _ items => do newList (← evaluateAll eng f items)
  | .dict _ items => do Value.ofEntries (← evaluatePairs eng f items)
  | .cond l test whenTrue orElse => unlessFolded eng f (.cond l test whenTrue orElse) do
    if ← Value.truth eng (← evaluate eng f test) then evaluate eng f whenTrue
    else match ← evaluateOption eng f orElse with
      | some v => return v
      | none => noAlternative f l
  | .filter l subject name args => unlessFolded eng f (.filter l subject name args) do
    let v ← evaluateOption eng f subject
    let (positional, named) ← evaluateArgs eng f args
    applyNamed f "filter" Filter.known eng.filter name ((v.or f.captured).getD .none)
      positional named
  | .test l subject name args => unlessFolded eng f (.test l subject name args) do
    let v ← evaluate eng f subject
    let (positional, named) ← evaluateArgs eng f args
    applyNamed f "test" Test.known eng.test name v positional named
  | .call l callee args => unlessFolded eng f (.call l callee args) do
    let v ← evaluate eng f callee
    let (positional, named) ← evaluateArgs eng f args
    eng.call f.context v positional named
  | .item l subject index => unlessFolded eng f (.item l subject index) do
    let v ← evaluate eng f subject
    match ← evaluate eng f index with
    | .slice start stop step => Value.sliceOf v start stop step
    | key => Value.getItem eng v key
  | .member l subject name => unlessFolded eng f (.member l subject name) do
    Value.getMember eng (← evaluate eng f subject) name
  | .slice _ start stop step => do
    let bound (v : Option Value) : Value := v.getD .none
    return .slice (bound (← evaluateOption eng f start)) (bound (← evaluateOption eng f stop))
      (bound (← evaluateOption eng f step))
  | .concat l parts => unlessFolded eng f (.concat l parts) do
    concatenate eng f (← evaluateAll eng f parts)
  | .compare l subject operands => unlessFolded eng f (.compare l subject operands) do
    let a ← evaluate eng f subject
    return .bool (← evaluateComparison eng f a operands)
  | .binary l op left right => unlessFolded eng f (.binary l op left right) do
    let a ← evaluate eng f left
    match op with
    | .and => if ← Value.truth eng a then evaluate eng f right else return a
    | .or => if ← Value.truth eng a then return a else evaluate eng f right
    | op => Value.binary eng op a (← evaluate eng f right)
  | .unary l op operand => unlessFolded eng f (.unary l op operand) do
    Value.unary eng op (← evaluate eng f operand)

/-- The values of several expressions. -/
def evaluateAll (eng : Engine) (f : Frame) : List Expr → Run (List Value)
  | [] => return []
  | e :: es => return (← evaluate eng f e) :: (← evaluateAll eng f es)

/-- The value of an expression that may be missing. -/
def evaluateOption (eng : Engine) (f : Frame) : Option Expr → Run (Option Value)
  | none => return none
  | some e => return some (← evaluate eng f e)

/-- The entries of a dictionary. -/
def evaluatePairs (eng : Engine) (f : Frame) : List (Expr × Expr) → Run (List (Value × Value))
  | [] => return []
  | (k, v) :: rest =>
    return (← evaluate eng f k, ← evaluate eng f v) :: (← evaluatePairs eng f rest)

/-- A chain of comparisons, which ends with the first that fails. -/
def evaluateComparison (eng : Engine) (f : Frame) (a : Value) : List (Comparison × Expr) → Run Bool
  | [] => return true
  | (op, e) :: rest => do
    let b ← evaluate eng f e
    if ← Value.compares eng op a b then evaluateComparison eng f b rest else return false

/-- Named arguments. -/
def evaluateNamed (eng : Engine) (f : Frame) : List (String × Expr) → Run Named
  | [] => return []
  | (k, e) :: rest => return (k, ← evaluate eng f e) :: (← evaluateNamed eng f rest)

/-- All arguments of a call: positional ones come before named ones. -/
def evaluateArgs (eng : Engine) (f : Frame) : Args → Run (List Value × Named)
  | .mk positional named spread spreadRest => do
    let args ← evaluateAll eng f positional
    let rest ← spreadItems eng (← evaluateOption eng f spread)
    let named ← evaluateNamed eng f named
    let named ← spreadNamed (← evaluateOption eng f spreadRest) named
    return (args ++ rest, named)

end

end Run

end Stencil
