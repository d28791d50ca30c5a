import Stencil.Value.Member

/-!
# Scopes at work

Entering and leaving a scope, looking names up, and assigning to targets.
-/

namespace Stencil

namespace Run

/-- The value of a name in a context: what the template assigned itself comes first. -/
def resolve (context : Nat) (name : String) : Run (Option Value) := do
  let c ← Run.context context
  return (c.vars.lookup name).or (c.parent.lookup name)

/-- Gives the variables of the innermost layer their first values. -/
def enter (f : Frame) : Run Unit := do
  match f.scope with
  | [] => return ()
  | layer :: _ =>
    layer.vars.forM fun (name, start) => do
      let v : Variable := ⟨layer.level, name⟩
      match start with
      | .param => return ()
      | .resolve => setVariable f.activation v (← resolve f.context name)
      | .copy level => setVariable f.activation v (← readVariable f.activation ⟨level, name⟩)
      | .empty => setVariable f.activation v none

/-- Takes the values of the variables of the innermost layer away. -/
def leave (f : Frame) : Run Unit := do
  match f.scope with
  | [] => return ()
  | layer :: _ =>
    layer.vars.forM fun (name, _) => setVariable f.activation ⟨layer.level, name⟩ none

/-- The value of a name, which is undefined if it has none. -/
def valueOf (f : Frame) (name : String) : Run Value := do
  match f.scope.find? name with
  | none => accident .brokenInvariant
  | some v =>
    match ← readVariable f.activation v with
    | some x => return x
    | none => undefined (.name name)

/-- Gives a name a value. -/
def setName (f : Frame) (name : String) (value : Value) : Run Unit := do
  match f.scope.find? name with
  | none => accident .brokenInvariant
  | some v => setVariable f.activation v (some value)

/-- An iterator over the items of a value. -/
def iterate (v : Value) : Run Nat := do
  match v with
  | .list cell => newIterator (.listFrom cell 0)
  | .tuple items => newIterator (.items items)
  | .view _ items => newIterator (.items items)
  | .dict entries => newIterator (.items (entries.map (·.1)))
  | .text s _ => newIterator (.items (s.toList.map fun c => .plain c.toString))
  | .range a b s => newIterator (.rangeFrom a b s)
  | .iterator cell => return cell
  | .loop cell => newIterator (.loopItems cell)
  | .undefined .strict why => failUndefined why
  | .undefined _ _ => newIterator (.items [])
  | _ => badType

/-- All items of a value. -/
def itemsOf (eng : Engine) (v : Value) : Run (List Value) := do
  match v with
  | .list cell => listItems cell
  | .tuple items => return items
  | v => drain eng (← iterate v)

/-- Exactly `n` items of a value. -/
def unpack (eng : Engine) (n : Nat) (v : Value) : Run (List Value) := do
  let it ← iterate v
  let items ← (List.range n).foldlM (fun acc _ => do
    match ← eng.next it with
    | some x => return x :: acc
    | none => accident .badValue) []
  match ← eng.next it with
  | some _ => accident .badValue
  | none => return items.reverse

/-- Named values with one of them set, at its present place or at the end. -/
def setNamed {α : Type} (name : String) (value : α) (named : List (String × α)) :
    List (String × α) :=
  if named.any (fun n => n.1 == name) then
    named.map fun n => if n.1 == name then (name, value) else n
  else named ++ [(name, value)]

/-- Sets an attribute of a namespace. -/
def setAttribute (space : Value) (name : String) (value : Value) : Run Unit := do
  match space with
  | .space cell =>
    modify fun w => { w with spaces := w.spaces.modify cell (setNamed name value) }
  | _ => badType

/-- Assigns a value to a target; `fuel` bounds the nesting of tuples. -/
def assignTo (eng : Engine) (f : Frame) : (fuel : Nat) → Target → Value → Run Unit
  | 0, _, _ => accident .tooDeep
  | fuel + 1, t, value => do
    match t with
    | .name _ id => setName f id value
    | .member _ subject name =>
      match f.scope.find? subject with
      | none => accident .brokenInvariant
      | some v =>
        match ← readVariable f.activation v with
        | some space => setAttribute space name value
        | none => badType
    | .tuple _ items =>
      let values ← unpack eng items.length value
      (items.zip values).forM fun (t, v) => assignTo eng f fuel t v

/-- Assigns a value to a target. -/
def assign (eng : Engine) (f : Frame) (t : Target) (value : Value) : Run Unit :=
  assignTo eng f valueDepth t value

/-- The value of the variables of a target: a tuple of values for a tuple. -/
def targetValue (f : Frame) : (fuel : Nat) → Target → Run Value
  | 0, _ => accident .tooDeep
  | fuel + 1, t => do
    match t with
    | .name _ id => valueOf f id
    | .member _ subject _ => valueOf f subject
    | .tuple _ items => return .tuple (← items.mapM (targetValue f fuel))

/-- Whether the function at work, or one around it, belongs to a template that extends another;
`fuel` bounds the number of functions. -/
def extendedIn (w : World) : (fuel : Nat) → (activation : Nat) → Bool
  | 0, _ => false
  | fuel + 1, a =>
    match w.activations[a]? with
    | some act =>
      act.extended.isSome || (act.outer.map (extendedIn w fuel)).getD false
    | none => false

/-- Whether the template at work extends another. -/
def isExtended (f : Frame) : Run Bool := do
  let w ← get
  return extendedIn w (nestingOf w f.activation) f.activation

end Run

namespace Frame

/-- A frame for a scope inside another. -/
def inner (f : Frame) (scope : Scope) : Frame :=
  { f with scope, toplevel := false, rootlevel := false }

/-- A line of the template. -/
def position (f : Frame) (line : Nat) : Position :=
  ⟨f.host, line⟩

end Frame

end Stencil
