import Stencil.Render.Call
import Stencil.Render.Module

/-!
# Running statements

Each kind of statement has a function that runs it, given how its bodies are run; `runStmt` and
`runStmts` choose among them by recursion on the tree.
-/

namespace Stencil

namespace Run

/-- The text of a value as it is written in a frame. -/
def shown (eng : Engine) (f : Frame) (v : Value) : Run String := do
  if ← escapes f then Value.escaped eng v else Value.str eng v

/-- Writes the parts of an output. -/
def runOutput (eng : Engine) (f : Frame) (parts : List Expr) : Run Unit := do
  if f.checked && (← isExtended f) then return ()
  else
    parts.forM fun e => do
      match ← Constant.printed eng f.escaping e with
      | some s => write s
      | none => write (← shown eng f (← evaluate eng f e))

/-- Notes which template the one at work extends. -/
def setExtended (activation : Nat) (id : TemplateId) : Run Unit :=
  modify fun w => { w with
    activations := w.activations.modify activation fun a => { a with extended := some id } }

/-- Extends another template: its blocks come after those already there. The check has seen to it
that this happens at the top level only. -/
def runExtend (eng : Engine) (f : Frame) (parent : Expr) : Run Unit := do
  if f.toplevel then
    if ← isExtended f then throw (.runtime "extended multiple times")
    else
      let id ← Load.template eng [] (← evaluate eng f parent)
      record (.attachment id.name)
      setExtended f.activation id
      appendBlocks f.context id
  else accident .brokenInvariant

/-- Whether a name can be imported by others. -/
def isPublic (name : String) : Bool :=
  !Text.startsWith name.toList ['_']

/-- Makes a name known in the context, where it can be imported from or not. -/
def publish (context : Nat) (name : String) (v : Value) (isExported : Bool) : Run Unit :=
  modifyContext context fun c => { c with
    vars := setNamed name v c.vars
    exported :=
      if isExported then if c.exported.contains name then c.exported else c.exported ++ [name]
      else c.exported.filter (· != name) }

/-- Makes a name that was assigned at the top level known in the context. -/
def publishAssigned (f : Frame) (name : String) (v : Value) : Run Unit := do
  let c ← context f.context
  publish f.context name v (isPublic name || c.exported.contains name)

/-- Makes what was assigned at the top level known in the context. -/
def publishTarget (f : Frame) (target : Target) : Run Unit := do
  if f.toplevel then
    target.names.forM fun name => do publishAssigned f name (← valueOf f name)
  else return ()

/-- Runs a recursive loop for the first time and writes what it gives. -/
def startRecursive (eng : Engine) (f : Frame) (body : LoopBody) (iter : Expr) : Run Unit := do
  writeValue (← runRecursive eng body (← evaluate eng f iter) 0)

/-- Defines a macro. -/
def runMacroDef (f : Frame) (name : String) (params : List String) (defaults : List Expr)
    (body : List Stmt) : Run Unit := do
  let m ← newMacro f (some name) params defaults body
  setName f name m
  if f.toplevel then publishAssigned f name m else return ()

/-- Calls a macro with the body of a call block as its caller. -/
def runCallBlock (eng : Engine) (f : Frame) (callee : Expr) (args : Args) (params : List String)
    (defaults : List Expr) (body : List Stmt) : Run Unit := do
  let caller ← newMacro f none params defaults body
  let v ← evaluate eng f callee
  let (positional, named) ← evaluateArgs eng f args
  if named.any (fun n => n.1 == "caller") then badType
  else writeValue (← eng.call f.context v positional (named ++ [("caller", caller)]))

/-- What a filter gives for a text. -/
def filtered (eng : Engine) (f : Frame) (filter : Expr) (text : String) : Run Value := do
  let v ← bufferValue f text
  evaluate eng { f with captured := some v } filter

/-- Runs a body, and a filter on what it wrote. -/
def runFilterBlock (eng : Engine) (f : Frame) (filter : Expr) (body : List Stmt)
    (run : Frame → Run Flow) : Run Flow := do
  let frame := f.inner (f.scope.inner.ofFilterBlock filter body)
  enter frame
  let (flow, sink) ← collectWith (run frame)
  if flow != .next then return flow
  else
    writeValue (← filtered eng frame filter (← joined sink))
    leave frame
    return .next

/-- Runs a body with some names bound. -/
def runWith (eng : Engine) (f : Frame) (bindings : List (Target × Expr)) (body : List Stmt)
    (run : Frame → Run Flow) : Run Flow := do
  let frame := f.inner (f.scope.inner.ofWith bindings body)
  enter frame
  bindings.forM fun (target, e) => do
    assign eng frame target (← evaluate eng f e)
  leaveAfter frame (← run frame)

def setEscaping (context : Nat) (autoescape : Bool) : Run Unit :=
  modifyContext context fun c => { c with autoescape }

/-- A context for a block that sees the variables around it. -/
def derivedContext (f : Frame) : Run Nat := do
  let c ← context f.context
  newContext { c with parent := ← knownAt f, vars := [], exported := [], globalKeys := [] }

/-- The context that a block runs in where it stands. -/
def blockContext (f : Frame) (isScoped : Bool) : Run Nat :=
  if isScoped then derivedContext f else return f.context

/-- A block that is run needs a definition, and a required one another than its own. -/
def checkBlock (context : Nat) (name : String) (isRequired : Bool) : Run Unit := do
  let defs ← Value.blockDefs context name
  if isRequired && defs.length ≤ 1 then
    throw (.runtime ("Required block " ++ quote name ++ " not found"))
  else if defs.isEmpty then accident .missingKey
  else return ()

/-- Takes over whether text is escaped from the context that a block ran in. -/
def keepEscaping (f : Frame) (isScoped : Bool) (ctx : Nat) : Run Unit := do
  if isScoped then
    setEscaping f.context (← context ctx).autoescape
  else return ()

/-- Runs a block where it stands: the definition nearest to the template that was asked for. -/
def runBlockHere (eng : Engine) (f : Frame) (name : String) (isScoped isRequired : Bool) :
    Run Unit := do
  if f.toplevel && (← isExtended f) then return ()
  else
    let ctx ← blockContext f isScoped
    checkBlock f.context name isRequired
    eng.block name 0 ctx
    keepEscaping f isScoped ctx

/-- Runs a template that sees what is known at a place. -/
def runInContext (eng : Engine) (f : Frame) (id : TemplateId) : Run Unit := do
  eng.root id (← contextFor id (← knownAt f))

/-- A template that may be missing. -/
def ifFound (load : Run TemplateId) : Run (Option TemplateId) :=
  tryCatch (do return some (← load)) fun
    | .notFound _ _ | .noneFound _ => return none
    | e => throw e

/-- The template to include. -/
def included (eng : Engine) (f : Frame) (name : Expr) (ignoreMissing : Bool) :
    Run (Option TemplateId) :=
  let load : Run TemplateId := do Load.templateOrFirst eng (← evaluate eng f name)
  if ignoreMissing then ifFound load else some <$> load

/-- Writes what a template gives without a context. -/
def runWithoutContext (eng : Engine) (f : Frame) (id : TemplateId) : Run Unit := do
  let cell ← sharedModule eng id
  match (← get).modules[cell]? with
  | some m => writeStream f.stream m.body
  | none => return ()

/-- Includes a template. -/
def runInclusion (eng : Engine) (f : Frame) (name : Expr) (withContext ignoreMissing : Bool) :
    Run Unit := do
  match ← included eng f name ignoreMissing with
  | none => return ()
  | some id => if withContext then runInContext eng f id else runWithoutContext eng f id

/-- The module that an import gives. -/
def importedModule (eng : Engine) (f : Frame) (name : Expr) (withContext : Bool) : Run Nat := do
  let id ← Load.template eng [] (← evaluate eng f name)
  if withContext then makeModule eng id (← contextFor id (← knownAt f))
  else moduleFor eng id f.context

/-- The value of a name of a module, which is undefined if the module does not export it. -/
def importedName (eng : Engine) (f : Frame) (line cell : Nat) (name : String) : Run Value := do
  let module := (← get).modules[cell]?.bind (·.name)
  match ← Value.attribute? eng (.module cell) name with
  | some v => return v
  | none => undefined (.noted (← newNote (.notExported module (f.position line) name)))

/-- Makes an imported name known in the context, where others cannot import it from. -/
def publishImport (f : Frame) (name : String) (v : Value) : Run Unit := do
  let c ← context f.context
  publish f.context name v (!isPublic name && c.exported.contains name)

/-- Imports a template as a module. -/
def runImport (eng : Engine) (f : Frame) (name : Expr) (target : String) (withContext : Bool) :
    Run Unit := do
  let m := Value.module (← importedModule eng f name withContext)
  setName f target m
  if f.toplevel then publishImport f target m else return ()

/-- Imports names from a template. -/
def runImportNames (eng : Engine) (f : Frame) (line : Nat) (name : Expr) (names : List ImportName)
    (withContext : Bool) : Run Unit := do
  let cell ← importedModule eng f name withContext
  names.forM fun n => do
    setName f (n.rename.getD n.name) (← importedName eng f line cell n.name)
  if f.toplevel then
    names.forM fun n => do
      let target := n.rename.getD n.name
      publishImport f target (← valueOf f target)
  else return ()

/-- Attributes can only be assigned to namespaces. -/
def checkSubjects (f : Frame) (target : Target) : Run Unit :=
  target.subjects.forM fun s => do
    match f.scope.find? s with
    | none => accident .brokenInvariant
    | some v =>
      match ← readVariable f.activation v with
      | some (.space _) => return ()
      | _ => throw (.runtime "cannot assign attribute on non-namespace object")

/-- Assigns a value. -/
def runAssign (eng : Engine) (f : Frame) (target : Target) (e : Expr) : Run Unit := do
  checkSubjects f target
  assign eng f target (← evaluate eng f e)
  publishTarget f target

/-- What a filter gives for a text, if there is a filter. -/
def filteredIf (eng : Engine) (f : Frame) (filter : Option Expr) (text : String) : Run Value :=
  match filter with
  | some e => filtered eng f e text
  | none => return .plain text

/-- A text that a body wrote, filtered if there is a filter, and safe where text is escaped. -/
def assignedText (eng : Engine) (f : Frame) (filter : Option Expr) (text : String) : Run Value := do
  let v ← filteredIf eng f filter text
  if (← context f.context).autoescape then return .safe (← Value.str eng v) else return v

/-- Assigns what a body writes. -/
def runAssignBlock (eng : Engine) (f : Frame) (target : Target) (filter : Option Expr)
    (body : List Stmt) (run : Frame → Run Flow) : Run Flow := do
  let frame := { f.inner (f.scope.inner.visitAll body) with checked := false }
  enter frame
  let (flow, sink) ← collectWith (run frame)
  if flow != .next then return flow
  else
    assign eng f target (← assignedText eng frame filter (← joined sink))
    publishTarget f target
    leave frame
    return .next

/-- Runs a body with escaping turned on or off. Leaving a loop from inside does not restore it. -/
def runAutoescape (eng : Engine) (f : Frame) (e : Expr) (body : List Stmt)
    (run : Frame → Run Flow) : Run Flow := do
  let frame := f.inner (f.scope.inner.ofAutoescape e body)
  enter frame
  let before := (← context f.context).autoescape
  setEscaping f.context (← Value.truth eng (← evaluate eng frame e))
  let escaping ← Constant.escapingIn eng f.escaping e
  let flow ← run { frame with autoescape := escaping.autoescape, volatile := escaping.volatile }
  if flow == .next then
    setEscaping f.context before
    leave frame
    return flow
  else return flow

/-- Runs a statement that has no part in the flow of control. -/
def andNext (act : Run Unit) : Run Flow := do
  act
  return .next

mutual

/-- Runs a statement. -/
def runStmt (eng : Engine) (f : Frame) : Stmt → Run Flow
  | .output _ parts => andNext (runOutput eng f parts)
  | .extend _ parent => andNext (runExtend eng f parent)
  | .loop _ target iter body orElse test recursive =>
    if recursive then
      andNext (startRecursive eng f ⟨target, body, orElse, test, f⟩ iter)
    else
      runLoop eng f target iter body orElse test (fun f => runStmts eng f body)
        (fun f => runStmts eng f orElse)
  | .branch _ test body elifs orElse => do
    let soft := { f with rootlevel := false }
    if ← Value.truth eng (← evaluate eng soft test) then runStmts eng soft body
    else match ← runElifs eng soft elifs with
      | some flow => return flow
      | none => runStmts eng soft orElse
  | .macroDef _ name params defaults body => andNext (runMacroDef f name params defaults body)
  | .callBlock _ _ callee args params defaults body =>
    andNext (runCallBlock eng f callee args params defaults body)
  | .filterBlock _ filter body => runFilterBlock eng f filter body fun f => runStmts eng f body
  | .withBlock _ bindings body => runWith eng f bindings body fun f => runStmts eng f body
  | .block _ name _ isScoped isRequired => andNext (runBlockHere eng f name isScoped isRequired)
  | .inclusion _ name withContext ignoreMissing =>
    andNext (runInclusion eng f name withContext ignoreMissing)
  | .importModule _ name target withContext => andNext (runImport eng f name target withContext)
  | .importNames l name names withContext =>
    andNext (runImportNames eng f l name names withContext)
  | .exprStmt _ e => andNext (discard (evaluate eng f e))
  | .assign _ target e => andNext (runAssign eng f target e)
  | .assignBlock _ target filter body =>
    runAssignBlock eng f target filter body fun f => runStmts eng f body
  | .autoescape _ e body => runAutoescape eng f e body fun f => runStmts eng f body
  | .continueLoop _ => return .continueLoop
  | .breakLoop _ => return .breakLoop
  -- embeds are taken out of a template before it is loaded
  | .embed _ _ _ => accident .brokenInvariant
  | .embedded _ key => andNext do runInContext eng f (← Load.ofTag eng key)

/-- Runs statements up to the first that leaves the body. -/
def runStmts (eng : Engine) (f : Frame) : List Stmt → Run Flow
  | [] => return .next
  | s :: ss => do
    match ← runStmt eng f s with
    | .next => runStmts eng f ss
    | flow => return flow

/-- Runs the first of further branches whose condition holds. -/
def runElifs (eng : Engine) (f : Frame) : List Stmt → Run (Option Flow)
  | [] => return none
  | .branch _ test body _ _ :: rest => do
    if ← Value.truth eng (← evaluate eng f test) then return some (← runStmts eng f body)
    else runElifs eng f rest
  | _ :: rest => runElifs eng f rest

end

end Run

end Stencil
