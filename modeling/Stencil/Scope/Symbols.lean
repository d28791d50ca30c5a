import Stencil.Tree.Basic

/-!
# Where names live

Every scope of a template has a layer of variables. A name used in a scope is either a variable of
an enclosing layer, or gets a variable of its own that starts as a parameter, as the value of the
name in the context, as a copy of the variable of an enclosing layer, or without a value.
-/

namespace Stencil

/-- A variable: the level of its layer and its name. -/
structure Variable where
  level : Nat
  name : String
deriving DecidableEq

/-- What a variable holds when its scope is entered. -/
inductive Start where
  /-- The value passed in. -/
  | param
  /-- The value of the name in the context. -/
  | resolve
  /-- The value of a variable of an enclosing layer. -/
  | copy (level : Nat)
  /-- No value. -/
  | empty
deriving DecidableEq

/-- The variables of one scope. -/
structure Layer where
  level : Nat
  /-- The variables with their starts, in order of their first mention. -/
  vars : List (String × Start) := []
  /-- The names assigned in the scope. -/
  stores : List String := []
deriving DecidableEq

/-- The layers of nested scopes, innermost first. -/
abbrev Scope := List Layer

namespace Layer

/-- Whether the layer has a variable of the given name. -/
def has (l : Layer) (name : String) : Bool :=
  l.vars.any (·.1 == name)

/-- Sets how a variable starts, at its present place or at the end. -/
def define (l : Layer) (name : String) (start : Start) : Layer :=
  if l.has name then
    { l with vars := l.vars.map fun v => if v.1 == name then (name, start) else v }
  else { l with vars := l.vars ++ [(name, start)] }

def addStore (l : Layer) (name : String) : Layer :=
  if l.stores.contains name then l else { l with stores := l.stores ++ [name] }

end Layer

namespace Scope

/-- The outermost scope of a template or block. -/
def root : Scope := [{ level := 0 }]

/-- The level of the innermost layer. -/
def level (s : Scope) : Nat :=
  (s.head?.map (·.level)).getD 0

/-- A new scope inside the present one. -/
def inner (s : Scope) : Scope :=
  { level := s.level + 1 } :: s

/-- The variable that a name stands for. -/
def find? : Scope → String → Option Variable
  | [], _ => none
  | l :: ls, name => if l.has name then some ⟨l.level, name⟩ else find? ls name

/-- Changes the innermost layer. -/
def update (s : Scope) (f : Layer → Layer) : Scope :=
  match s with
  | [] => []
  | l :: ls => f l :: ls

/-- Declares a parameter. -/
def param (s : Scope) (name : String) : Scope :=
  s.update fun l => (l.addStore name).define name .param

/-- Notes that a name is used: without a variable yet, it is resolved in the context. -/
def load (s : Scope) (name : String) : Scope :=
  match s.find? name with
  | some _ => s
  | none => s.update (·.define name .resolve)

/-- Notes that a name is assigned: without a variable in the innermost layer yet, it gets one that
starts as a copy of an enclosing variable, or empty. -/
def store (s : Scope) (name : String) : Scope :=
  match s with
  | [] => []
  | l :: ls =>
    let l := l.addStore name
    if l.has name then l :: ls
    else match find? ls name with
      | some v => l.define name (.copy v.level) :: ls
      | none => l.define name .empty :: ls

/-- Joins the innermost layers that branches of a conditional have led to. A name that only a branch
assigns starts from the enclosing variable or from the context. -/
def join (s : Scope) (branches : List Scope) : Scope :=
  match s with
  | [] => []
  | l :: ls =>
    let layers := branches.filterMap List.head?
    let assigned := (layers.flatMap (·.stores)).filter fun n => !l.stores.contains n
    let merged := layers.foldl (fun (acc : Layer) b =>
      let acc := b.vars.foldl (fun a v => a.define v.1 v.2) acc
      b.stores.foldl Layer.addStore acc) l
    let joined := assigned.foldl (fun (acc : Layer) n =>
      match find? ls n with
      | some v => acc.define n (.copy v.level)
      | none => acc.define n .resolve) merged
    joined :: ls

/-- All assigned names of the scope and of those around it, inner ones first, with the variables
they stand for. -/
def assigned (s : Scope) : List (String × Variable) :=
  let names := (s.flatMap (·.stores)).eraseDups
  names.filterMap fun n => (s.find? n).map (n, ·)

end Scope

end Stencil
