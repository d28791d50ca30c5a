import Stencil.Render.Statement

/-!
# Running templates

A template runs from its start in a context; if it extends another, that one runs after it in the
same context. Blocks run where they stand, or by reference. `engine` ties all parts together up to a
given depth of calls.
-/

namespace Stencil

namespace Run

/-- Gives `self` its value where it is used. -/
def provideSelf (f : Frame) (isUsed : Bool) : Run Unit :=
  if isUsed then setName f "self" (.self f.context) else return ()

/-- The frame in which a template runs. -/
def ownFrame (w : World) (id : TemplateId) (body : List Stmt) (activation context : Nat) : Frame :=
  { scope := Scope.ofTemplate body, activation, context, host := id.name
    autoescape := w.env.options.autoescape, toplevel := true, rootlevel := true
    checked := Stmt.anyExtends body, stream := w.sinks.length }

/-- Runs the body of a template in its frame. -/
def runTop (eng : Engine) (f : Frame) (body : List Stmt) : Run Unit := do
  provideSelf f !(Undeclared.find ["self"] body).isEmpty
  enter f
  discard (runStmts eng f body)

/-- The template that a running one extends. -/
def extendedBy (activation : Nat) : Run (Option TemplateId) := do
  return ((← get).activations[activation]?).bind (·.extended)

/-- Runs the body of a template, and gives the template that it extends. -/
def runOwn (eng : Engine) (id : TemplateId) (context : Nat) : Run (Option TemplateId) := do
  let t ← template id
  let w ← get
  let activation ← newActivation { base := 0 }
  runTop eng (ownFrame w id t.tree.body activation context) t.tree.body
  extendedBy activation

/-- Runs a template from its start. -/
def runRoot (eng : Engine) (id : TemplateId) (context : Nat) : Run Unit := do
  match ← runOwn eng id context with
  | some parent => eng.root parent context
  | none => return ()

/-- The parent of a definition among all definitions of its block in a context. A definition that
comes more than once counts where it comes first. -/
def superBlock (defs : List BlockDef) (d : BlockDef) (context : Nat) : Run Value := do
  match defs.findIdx? (· == d) with
  | none => accident .badValue
  | some i =>
    if i + 1 < defs.length then return .block context d.name (i + 1)
    else undefined (.hint ("there is no parent block called " ++ quote d.name ++ "."))

/-- Gives `super` its value where it is used. -/
def provideSuper (f : Frame) (isUsed : Bool) (defs : List BlockDef) (d : BlockDef) : Run Unit := do
  if isUsed then setName f "super" (← superBlock defs d f.context) else return ()

/-- Runs the body of a definition of a block in a context, of which `defs` are all definitions. -/
def runBlockBody (eng : Engine) (defs : List BlockDef) (d : BlockDef) (context : Nat)
    (body : List Stmt) : Run Unit := do
  let w ← get
  let activation ← newActivation { base := 0 }
  let f : Frame :=
    { scope := Scope.ofBlock body, activation, context, host := d.template.name
      autoescape := w.env.options.autoescape, stream := w.sinks.length }
  provideSelf f ((Scope.providedInBlock body).contains "self")
  provideSuper f ((Scope.providedInBlock body).contains "super") defs d
  enter f
  discard (runStmts eng f body)

/-- Runs the definition of a block at some distance from the nearest one, in a context. -/
def runBlock (eng : Engine) (name : String) (depth context : Nat) : Run Unit := do
  let defs ← Value.blockDefs context name
  match defs[depth]? with
  | none => accident .outOfRange
  | some d =>
    match (← template d.template).blocks.lookup d.name with
    | none => accident .brokenInvariant
    | some body => runBlockBody eng defs d context body

end Run

namespace Engine

/-- The engine for at most the given depth of calls. -/
def ofDepth : (depth : Nat) → Engine
  | 0 => stuck
  | depth + 1 =>
    { next := fun cell => Run.nextItem (ofDepth depth) cell
      expr := fun f e => Run.evaluate (ofDepth depth) f e
      body := fun f stmts => Run.runStmts (ofDepth depth) f stmts
      call := fun context v args named => Call.value (ofDepth depth) context v args named
      filter := fun site name v args named => Filter.apply (ofDepth depth) site name v args named
      test := fun site name v args named => Test.apply (ofDepth depth) site name v args named
      root := fun id context => Run.runRoot (ofDepth depth) id context
      block := fun name n context => Run.runBlock (ofDepth depth) name n context }

/-- The engine that templates run on. -/
def standard : Engine := ofDepth callDepth

end Engine

namespace Run

/-- The text that a template gives for some data, for at most the given depth of calls. -/
def renderAt (depth : Nat) (id : TemplateId) (data : List (String × Value)) : Run String := do
  let context ← freshContext id data
  capture ((Engine.ofDepth depth).root id context)

/-- The text that a template gives for some data. -/
def render : TemplateId → List (String × Value) → Run String := renderAt Engine.callDepth

end Run

end Stencil
