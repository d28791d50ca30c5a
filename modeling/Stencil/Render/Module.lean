import Stencil.Render.Load

/-!
# Contexts and modules

A template runs in a context. A context is new, with the globals of the template and the data given
to it, or it takes over what is known in another one. Running a template for import makes a module of
it: what it wrote, and the names that it exports.
-/

namespace Stencil

namespace Context

/-- Everything that is known in a context. -/
def known (c : Context) : List (String × Value) :=
  c.vars ++ c.parent

end Context

namespace Run

/-- A context for a template, in which exactly the given names are known. -/
def contextFor (id : TemplateId) (parent : List (String × Value)) : Run Nat := do
  let t ← template id
  newContext
    { parent
      name := id.name
      globalKeys := ((Load.globalsOf t).map (·.1)).eraseDups
      blocks := t.blocks.map fun b => (b.1, [⟨id, b.1⟩])
      autoescape := (← get).env.options.autoescape }

/-- A context for a template with its globals and some data. -/
def freshContext (id : TemplateId) (data : List (String × Value)) : Run Nat := do
  contextFor id (data ++ Load.globalsOf (← template id))

/-- Puts the blocks of a template behind those of a context. -/
def appendBlocks (context : Nat) (id : TemplateId) : Run Unit := do
  let t ← template id
  modifyContext context fun c => { c with
    blocks := t.blocks.foldl (fun (all : List (String × List BlockDef)) b =>
      setNamed b.1 ((all.lookup b.1).getD [] ++ [⟨id, b.1⟩]) all) c.blocks }

/-- The variables of a frame that have a value. -/
def localsOf (f : Frame) : Run (List (String × Value)) := do
  f.scope.assigned.filterMapM fun (name, v) => do
    return (← readVariable f.activation v).map (name, ·)

/-- What is known at a place in a running template. -/
def knownAt (f : Frame) : Run (List (String × Value)) := do
  return (← localsOf f) ++ (← context f.context).known

/-- Runs a template in a context and makes a module of it. -/
def makeModule (eng : Engine) (id : TemplateId) (context : Nat) : Run Nat := do
  let body ← collect (eng.root id context)
  let c ← Run.context context
  let exports := c.exported.filterMap fun n => (c.vars.lookup n).map (n, ·)
  let w ← get
  set { w with modules := w.modules.push { name := id.name, exports, body } }
  return w.modules.size

/-- The module of a template that runs without a context. It is made only once. -/
def sharedModule (eng : Engine) (id : TemplateId) : Run Nat := do
  record (.attachment id.name)
  match (← template id).module with
  | some m => return m
  | none =>
    let m ← makeModule eng id (← freshContext id [])
    modifyTemplate id fun t => { t with module := some m }
    return m

/-- The module of a template that is imported without context. Globals of the importing template
that the other does not have are handed on. -/
def moduleFor (eng : Engine) (id : TemplateId) (context : Nat) : Run Nat := do
  let c ← Run.context context
  let own := (Load.globalsOf (← template id)).map (·.1)
  match c.globalKeys.filter fun k => !own.contains k with
  | [] => sharedModule eng id
  | keys =>
    let data ← keys.mapM fun k => do
      match c.parent.lookup k with
      | some v => return (k, v)
      | none => accident .missingKey
    makeModule eng id (← freshContext id data)

end Run

end Stencil
