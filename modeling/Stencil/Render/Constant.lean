import Stencil.Render.Operators

/-!
# Expressions with a value known beforehand

A compiled template holds the value of every expression that can be computed from its text alone.
`value` computes it, and fails with `notConstant` where the running template has to. Some failures
are not taken for that: they make the whole template fail to compile. `probe` looks for such a
failure in all parts of an expression.
-/

namespace Stencil

/-- What the text of a template tells about escaping at some place. -/
structure Escaping where
  autoescape : Bool
  /-- Whether only the running template can tell. -/
  volatile : Bool
deriving DecidableEq

/-- What the text tells about escaping in a frame. -/
def Frame.escaping (f : Frame) : Escaping := ⟨f.autoescape, f.volatile⟩

namespace Constant

/-- Not known beforehand. -/
def unknown {α : Type} : Run α := throw .notConstant

/-- A failure means that a value is not known beforehand. Running out of depth is no failure of the
expression, and stays what it is. -/
def attempt {α : Type} (act : Run α) : Run α :=
  tryCatch act fun
    | .accident .tooDeep => Run.accident .tooDeep
    | _ => unknown

/-- What is computed if it is known beforehand. -/
def ifKnown {α : Type} (act : Run α) : Run (Option α) :=
  tryCatch (do return some (← act)) fun
    | .notConstant => return none
    | f => throw f

mutual

/-- The value of an expression, as far as it is known beforehand. -/
def value (eng : Engine) (esc : Escaping) : Expr → Run Value
  | .name _ _ => unknown
  | .const _ d => Value.ofDatum valueDepth d
  | .data _ s => if esc.volatile then unknown else return .text s esc.autoescape
  | .tuple _ items => return .tuple (← values eng esc items)
  | .list _ items => do Run.newList (← values eng esc items)
  | .dict _ items => do Value.ofEntries (← pairs eng esc items)
  | .cond _ test whenTrue orElse => do
    if ← Value.truth eng (← value eng esc test) then value eng esc whenTrue
    else match ← optional eng esc orElse with
      | some v => return v
      | none => unknown
  | .filter _ subject name args => do
    if esc.volatile || !Filter.known.contains name || Filter.contextual.contains name then unknown
    else
      let (positional, named) ← arguments eng esc args
      match ← optional eng esc subject with
      | none => unknown
      | some v => attempt (eng.filter ⟨none, esc.autoescape⟩ name v positional named)
  | .test _ subject name args => do
    if esc.volatile || !Test.known.contains name then unknown
    else
      let (positional, named) ← arguments eng esc args
      let v ← value eng esc subject
      attempt (eng.test ⟨none, esc.autoescape⟩ name v positional named)
  | .call _ _ _ => unknown
  | .item _ subject index => attempt do
    Value.getItem eng (← value eng esc subject) (← value eng esc index)
  | .member _ subject name => attempt do
    Value.getMember eng (← value eng esc subject) name
  | .slice _ start stop step => do
    let bound (v : Option Value) : Value := v.getD .none
    return .slice (bound (← optional eng esc start)) (bound (← optional eng esc stop))
      (bound (← optional eng esc step))
  | .concat _ parts => do
    return .plain (String.join (← (← values eng esc parts).mapM (Value.str eng)))
  | .compare _ subject operands => do
    let a ← value eng esc subject
    attempt do return .bool (← comparison eng esc a operands)
  | .binary _ op left right =>
    match op with
    | .and => do
      let a ← value eng esc left
      if ← Value.truth eng a then value eng esc right else return a
    | .or => do
      let a ← value eng esc left
      if ← Value.truth eng a then return a else value eng esc right
    | op => attempt do Value.binary eng op (← value eng esc left) (← value eng esc right)
  | .unary _ op operand => attempt do Value.unary eng op (← value eng esc operand)

/-- The values of several expressions. -/
def values (eng : Engine) (esc : Escaping) : List Expr → Run (List Value)
  | [] => return []
  | e :: es => return (← value eng esc e) :: (← values eng esc es)

/-- The value of an expression that may be missing. -/
def optional (eng : Engine) (esc : Escaping) : Option Expr → Run (Option Value)
  | none => return none
  | some e => return some (← value eng esc e)

/-- The entries of a dictionary. -/
def pairs (eng : Engine) (esc : Escaping) : List (Expr × Expr) → Run (List (Value × Value))
  | [] => return []
  | (k, v) :: rest => return (← value eng esc k, ← value eng esc v) :: (← pairs eng esc rest)

/-- A chain of comparisons; operands behind the first that fails are not looked at. -/
def comparison (eng : Engine) (esc : Escaping) (a : Value) : List (Comparison × Expr) → Run Bool
  | [] => return true
  | (op, e) :: rest => do
    let b ← value eng esc e
    if ← Value.compares eng op a b then comparison eng esc b rest else return false

/-- Named arguments. -/
def namedValues (eng : Engine) (esc : Escaping) : List (String × Expr) → Run Named
  | [] => return []
  | (k, e) :: rest => return (k, ← value eng esc e) :: (← namedValues eng esc rest)

/-- All arguments of a filter or test. -/
def arguments (eng : Engine) (esc : Escaping) : Args → Run (List Value × Named)
  | .mk positional named spread spreadNamed => do
    let args ← values eng esc positional
    let named ← namedValues eng esc named
    let rest ← attempt do Run.spreadItems eng (← optional eng esc spread)
    let named ← attempt do Run.spreadNamed (← optional eng esc spreadNamed) named
    return (args ++ rest, named)

end

/-- A copy of a value that can be written out: numbers, texts, and what is made of them. -/
def written : (fuel : Nat) → Value → Run Value
  | 0, _ => unknown
  | fuel + 1, v => do
    match v with
    | .none | .bool _ | .int _ | .float _ | .text _ _ | .range _ _ _ => return v
    | .tuple items => return .tuple (← items.mapM (written fuel))
    | .list cell => Run.newList (← (← Run.listItems cell).mapM (written fuel))
    | .dict entries =>
      return .dict (← entries.mapM fun (k, x) => do return (← written fuel k, ← written fuel x))
    | _ => unknown

/-- The value of an expression if it is known beforehand and can be written out. -/
def folded (eng : Engine) (esc : Escaping) (e : Expr) : Run (Option Value) := do
  if esc.volatile then return none
  else ifKnown do written valueDepth (← value eng esc e)

/-- The text that an expression prints if its value is known beforehand. -/
def printed (eng : Engine) (esc : Escaping) (e : Expr) : Run (Option String) := do
  match ← ifKnown (value eng esc e) with
  | none => return none
  | some v => some <$> if esc.autoescape then Value.escaped eng v else Value.str eng v

/-- What the text tells about escaping inside an `autoescape` block. -/
def escapingIn (eng : Engine) (esc : Escaping) (e : Expr) : Run Escaping := do
  match ← ifKnown (value eng esc e) with
  | some v => return { esc with autoescape := ← Value.truth eng v }
  | none => return { esc with volatile := true }

/-- Tries a single expression. -/
def attemptOnly (eng : Engine) (esc : Escaping) (e : Expr) : Run Unit :=
  discard (ifKnown (value eng esc e))

mutual

/-- Tries all parts of an expression, inner ones first, and fails if one of them fails in a way that
is not put off until the template runs. -/
def probe (eng : Engine) (esc : Escaping) : Expr → Run Unit
  | .name _ _ => return ()
  | .const _ _ => return ()
  | .data _ _ => return ()
  | .tuple l items => do
    probeList eng esc items
    attemptOnly eng esc (.tuple l items)
  | .list l items => do
    probeList eng esc items
    attemptOnly eng esc (.list l items)
  | .dict l items => do
    probePairs eng esc items
    attemptOnly eng esc (.dict l items)
  | .cond l test whenTrue orElse => do
    probe eng esc test
    probe eng esc whenTrue
    probeOption eng esc orElse
    attemptOnly eng esc (.cond l test whenTrue orElse)
  | .filter l subject name args => do
    probeOption eng esc subject
    probeArgs eng esc args
    attemptOnly eng esc (.filter l subject name args)
  | .test l subject name args => do
    probe eng esc subject
    probeArgs eng esc args
    attemptOnly eng esc (.test l subject name args)
  | .call _ callee args => do
    probe eng esc callee
    probeArgs eng esc args
  | .item l subject index => do
    probe eng esc subject
    probe eng esc index
    attemptOnly eng esc (.item l subject index)
  | .member l subject name => do
    probe eng esc subject
    attemptOnly eng esc (.member l subject name)
  | .slice l start stop step => do
    probeOption eng esc start
    probeOption eng esc stop
    probeOption eng esc step
    attemptOnly eng esc (.slice l start stop step)
  | .concat l parts => do
    probeList eng esc parts
    attemptOnly eng esc (.concat l parts)
  | .compare l subject operands => do
    probe eng esc subject
    probeOperands eng esc operands
    attemptOnly eng esc (.compare l subject operands)
  | .binary l op left right => do
    probe eng esc left
    probe eng esc right
    attemptOnly eng esc (.binary l op left right)
  | .unary l op operand => do
    probe eng esc operand
    attemptOnly eng esc (.unary l op operand)

def probeList (eng : Engine) (esc : Escaping) : List Expr → Run Unit
  | [] => return ()
  | e :: es => do
    probe eng esc e
    probeList eng esc es

def probeOption (eng : Engine) (esc : Escaping) : Option Expr → Run Unit
  | none => return ()
  | some e => probe eng esc e

def probePairs (eng : Engine) (esc : Escaping) : List (Expr × Expr) → Run Unit
  | [] => return ()
  | (k, v) :: rest => do
    probe eng esc k
    probe eng esc v
    probePairs eng esc rest

def probeOperands (eng : Engine) (esc : Escaping) : List (Comparison × Expr) → Run Unit
  | [] => return ()
  | (_, e) :: rest => do
    probe eng esc e
    probeOperands eng esc rest

def probeNamed (eng : Engine) (esc : Escaping) : List (String × Expr) → Run Unit
  | [] => return ()
  | (_, e) :: rest => do
    probe eng esc e
    probeNamed eng esc rest

def probeArgs (eng : Engine) (esc : Escaping) : Args → Run Unit
  | .mk positional named spread spreadNamed => do
    probeList eng esc positional
    probeNamed eng esc named
    probeOption eng esc spread
    probeOption eng esc spreadNamed

end

end Constant

/-- The engine that compiling works with: iterators, filters and tests, up to a depth of calls. -/
def Engine.ofConstants : (depth : Nat) → Engine
  | 0 => stuck
  | depth + 1 =>
    { stuck with
      next := fun cell => Run.nextItem (ofConstants depth) cell
      filter := fun site name v args named => Filter.apply (ofConstants depth) site name v args named
      test := fun site name v args named => Test.apply (ofConstants depth) site name v args named }

end Stencil
