import Stencil.Render.Evaluate
import Stencil.Scope.Parts

/-!
# Macros

A macro is called with positional and named arguments. Arguments that are left over go to `varargs`
and `kwargs` if the body uses these names, and are an error otherwise. `caller` is the call block
that a macro is called from.
-/

namespace Stencil

namespace Run

/-- The values of the parameters that are written down, `none` where the call gives none, with the
arguments that are left over. -/
def bindWritten : List String → List Value → Named → List (String × Option Value) × Named
  | [], _, named => ([], named)
  | p :: ps, v :: vs, named =>
    let (rest, left) := bindWritten ps vs named
    ((p, some v) :: rest, left)
  | p :: ps, [], named =>
    let (rest, left) := bindWritten ps [] (named.filter fun n => n.1 != p)
    ((p, named.lookup p) :: rest, left)

/-- The caller among the arguments of a macro. -/
def callerAmong (named : Named) : Run Value :=
  match named.lookup "caller" with
  | some .none | none => undefined (.hint "No caller defined")
  | some v => return v

/-- The caller that a macro is called with, if it uses one that is not among its parameters. -/
def bindCaller (m : MacroCell) (positional : Nat) (named : Named) :
    Run (List (String × Option Value) × Named) := do
  let explicit := m.params.contains "caller"
  let found :=
    if positional ≥ m.params.length then explicit
    else (m.params.drop positional).contains "caller"
  if !m.usesCaller || found then return ([], named)
  -- a parameter that was filled by position leaves no place for another caller
  else if explicit then badType
  else
    return ([("caller", some (← callerAmong named))], named.filter fun n => n.1 != "caller")

/-- Arguments that are left over, for a macro that uses them or where there are none. -/
def bindRest (isUsed isEmpty : Bool) (name : String) (rest : Value) :
    Run (List (String × Option Value)) :=
  if isUsed then return [(name, some rest)]
  else if isEmpty then return []
  else badType

/-- All parameters of a macro. -/
def bindMacro (m : MacroCell) (args : List Value) (named : Named) :
    Run (List (String × Option Value)) := do
  let (written, named) := bindWritten m.params args named
  let (caller, named) ← bindCaller m args.length named
  let kwargs ← bindRest m.usesKwargs named.isEmpty "kwargs"
    (.dict (named.map fun n => (.plain n.1, n.2)))
  let extra := args.drop m.params.length
  let varargs ← bindRest m.usesVarargs extra.isEmpty "varargs" (.tuple extra)
  return written ++ caller ++ kwargs ++ varargs

/-- Fills in the parameters that were not given: with their defaults, which belong to the last
parameters, or with an undefined value. -/
def fillDefaults (eng : Engine) (f : Frame) (params : List String) (defaults : List Expr) :
    Run Unit := do
  let padded := List.replicate (params.length - defaults.length) none ++ defaults.map some
  (params.zip padded).forM fun (p, default) => do
    let v : Variable := ⟨f.scope.level, p⟩
    match ← readVariable f.activation v, default with
    | some _, _ => return ()
    | none, some e => setVariable f.activation v (some (← eng.expr f e))
    | none, none =>
      let missing ← undefined (.hint ("parameter " ++ quote p ++ " was not provided"))
      setVariable f.activation v (some missing)

/-- Calls a macro. What it writes is safe if text is escaped where it is called from. -/
def callMacro (eng : Engine) (m : MacroCell) (autoescape : Bool) (args : List Value)
    (named : Named) : Run Value := do
  let bound ← bindMacro m args named
  let activation ← newActivation { base := m.frame.scope.level, outer := some m.frame.activation }
  let text ← capture do
    let frame := { m.frame with activation, stream := (← get).sinks.length }
    bound.forM fun (p, v) => setVariable activation ⟨frame.scope.level, p⟩ v
    enter frame
    fillDefaults eng frame m.params m.defaults
    discard (eng.body frame m.body)
  return .text text autoescape

/-- Makes a macro of a definition in a frame. -/
def newMacro (f : Frame) (name : Option String) (params : List String) (defaults : List Expr)
    (body : List Stmt) : Run Value := do
  let sig := Signature.ofBody params body
  let frame := { f.inner (f.scope.inMacro sig defaults body) with checked := false }
  let cell : MacroCell :=
    { name, params, defaults, body, frame, usesCaller := sig.usesCaller
      usesKwargs := sig.usesKwargs, usesVarargs := sig.usesVarargs }
  let w ← get
  set { w with macros := w.macros.push cell }
  return .macroRef w.macros.size

end Run

end Stencil
