import Stencil.Render.World

/-!
# The parts of the engine that call each other

Evaluating an expression may call a macro, which runs statements, which evaluate expressions. Each
part takes the others as an `Engine`; the engine of depth `n + 1` is built from the one of depth
`n`.
-/

namespace Stencil

/-- How a sequence of statements ended. -/
inductive Flow where
  | next
  /-- Leaves the innermost loop. -/
  | breakLoop
  /-- Goes on with the next item of the innermost loop. -/
  | continueLoop
deriving DecidableEq

/-- Named arguments. -/
abbrev Named := List (String × Value)

/-- What a filter or test knows of where it is applied: the running context, if there is one, and
whether text is escaped there. -/
structure Site where
  context : Option Nat
  autoescape : Bool

/-- The mutually dependent parts. -/
structure Engine where
  /-- The next item of an iterator. -/
  next : (iterator : Nat) → Run (Option Value)
  /-- The value of an expression. -/
  expr : Frame → Expr → Run Value
  /-- Runs statements. -/
  body : Frame → List Stmt → Run Flow
  /-- Calls a value. -/
  call : (context : Nat) → Value → List Value → Named → Run Value
  /-- Applies a filter. -/
  filter : Site → (name : String) → Value → List Value → Named → Run Value
  /-- Applies a test. -/
  test : Site → (name : String) → Value → List Value → Named → Run Value
  /-- Runs a template from its start, writing to the innermost sink. -/
  root : (template : TemplateId) → (context : Nat) → Run Unit
  /-- Runs the definition of a block at some distance from the nearest one, in a context. -/
  block : (name : String) → (depth context : Nat) → Run Unit

namespace Engine

/-- An engine that can do nothing. -/
def stuck : Engine :=
  { next := fun _ => Run.accident .tooDeep
    expr := fun _ _ => Run.accident .tooDeep
    body := fun _ _ => Run.accident .tooDeep
    call := fun _ _ _ _ => Run.accident .tooDeep
    filter := fun _ _ _ _ _ => Run.accident .tooDeep
    test := fun _ _ _ _ _ => Run.accident .tooDeep
    root := fun _ _ => Run.accident .tooDeep
    block := fun _ _ _ => Run.accident .tooDeep }

end Engine

/-- How deep templates, macros and loops can call each other. -/
def Engine.callDepth : Nat := 100000

/-- How deep values are followed when they are shown or compared. -/
def valueDepth : Nat := 2000

end Stencil
