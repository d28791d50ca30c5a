import Stencil.Render.Constant
import Stencil.Scope.Parts

/-!
# Checking templates

Not every template that can be read can be run. A block must not be defined twice, `extends` must
stand at the top level, filters and tests must exist (those in conditionals are looked up when they
are used), and so on. The check goes through a template in a fixed order and reports the first fault.
Parts that can never run are left out: output behind an `extends`, and what follows a second one.
-/

namespace Stencil

namespace Check

/-- What has been seen of a template so far. -/
structure Progress where
  /-- Whether the template extends another in any case. -/
  extendsAnyway : Bool := false
  /-- How many `extends` there were. -/
  extensions : Nat := 0
  /-- Whether everything so far can be put into running form. -/
  wellFormed : Bool := true

/-- Where a statement or expression stands. -/
structure Place where
  scope : Scope
  escaping : Escaping
  /-- Directly in the template or in conditionals only. -/
  toplevel : Bool := false
  /-- Directly in the template. -/
  rootlevel : Bool := false
  /-- Filters and tests need not exist. -/
  lenient : Bool := false
  /-- Output is dropped once the template extends another. -/
  checked : Bool := false
  /-- Inside a loop of the function at work. -/
  inLoop : Bool := false

namespace Place

/-- A conditional part of a place. -/
def soft (p : Place) : Place :=
  { p with rootlevel := false, lenient := true }

/-- A scope inside a place. -/
def inner (p : Place) (scope : Scope) : Place :=
  { p with scope, toplevel := false, rootlevel := false, lenient := false }

end Place

end Check

/-- A check in progress. -/
abbrev Check := StateT Check.Progress Run

namespace Check

/-- Reports a fault on a line. -/
def fail {α : Type} (line : Nat) (fault : SyntaxFault) : Check α :=
  throw (Fault.syntaxError ⟨line, fault⟩)

/-- Notes that a part cannot be put into running form. -/
def malformed : Check Unit :=
  modify fun p => { p with wellFormed := false }

/-- The check of an expression whose value may be known beforehand; if it is, its parts need no
check. -/
def unlessFolded (eng : Engine) (p : Place) (e : Expr) (rest : Check Unit) : Check Unit := do
  let known ← if p.escaping.volatile then pure none
    else do
      Constant.probe eng p.escaping e
      Constant.folded eng p.escaping e
  match known with
  | some _ => return ()
  | none => rest

/-- Words that cannot name an argument directly; a call with one of them passes all its named
arguments as a dictionary, in which a name may come twice. -/
def reservedWords : List String :=
  ["False", "None", "True", "and", "as", "assert", "async", "await", "break", "class", "continue",
    "def", "del", "elif", "else", "except", "finally", "for", "from", "global", "if", "import",
    "in", "is", "lambda", "nonlocal", "not", "or", "pass", "raise", "return", "try", "while",
    "with", "yield"]

/-- Named arguments must have different names. -/
def distinctNames (names : List String) : Check Unit :=
  if names.any reservedWords.contains || names.eraseDups.length == names.length then return ()
  else malformed

mutual

/-- Checks an expression. A slice can only be an index. -/
def expr (eng : Engine) (p : Place) (isIndex : Bool) : Expr → Check Unit
  | .name _ id =>
    match p.scope.find? id with
    | some _ => return ()
    | none => throw (Fault.accident .brokenInvariant)
  | .const _ _ => return ()
  | .data _ _ => return ()
  | .tuple _ items => exprs eng p items
  | .list _ items => exprs eng p items
  | .dict _ items => pairs eng p items
  | .cond l test whenTrue orElse => unlessFolded eng p (.cond l test whenTrue orElse) do
    expr eng p.soft false whenTrue
    expr eng p.soft false test
    optional eng p.soft orElse
  | .filter l subject name args => unlessFolded eng p (.filter l subject name args) do
    unless Filter.known.contains name || p.lenient do fail l (.unknownFilter name)
    optional eng p subject
    arguments eng p args
  | .test l subject name args => unlessFolded eng p (.test l subject name args) do
    unless Test.known.contains name || p.lenient do fail l (.unknownTest name)
    expr eng p false subject
    arguments eng p args
  | .call l callee args => unlessFolded eng p (.call l callee args) do
    expr eng p false callee
    arguments eng p args
  | .item l subject index => unlessFolded eng p (.item l subject index) do
    expr eng p false subject
    expr eng p true index
  | .member l subject name => unlessFolded eng p (.member l subject name) do
    expr eng p false subject
  | .slice _ start stop step => do
    optional eng p start
    optional eng p stop
    optional eng p step
    unless isIndex do malformed
  | .concat l parts => unlessFolded eng p (.concat l parts) do
    exprs eng p parts
  | .compare l subject ops => unlessFolded eng p (.compare l subject ops) do
    expr eng p false subject
    operands eng p ops
  | .binary l op left right => unlessFolded eng p (.binary l op left right) do
    expr eng p false left
    expr eng p false right
  | .unary l op operand => unlessFolded eng p (.unary l op operand) do
    expr eng p false operand

def exprs (eng : Engine) (p : Place) : List Expr → Check Unit
  | [] => return ()
  | e :: es => do
    expr eng p false e
    exprs eng p es

def optional (eng : Engine) (p : Place) : Option Expr → Check Unit
  | none => return ()
  | some e => expr eng p false e

def pairs (eng : Engine) (p : Place) : List (Expr × Expr) → Check Unit
  | [] => return ()
  | (k, v) :: rest => do
    expr eng p false k
    expr eng p false v
    pairs eng p rest

def operands (eng : Engine) (p : Place) : List (Comparison × Expr) → Check Unit
  | [] => return ()
  | (_, e) :: rest => do
    expr eng p false e
    operands eng p rest

def named (eng : Engine) (p : Place) : List (String × Expr) → Check Unit
  | [] => return ()
  | (_, e) :: rest => do
    expr eng p false e
    named eng p rest

def arguments (eng : Engine) (p : Place) : Args → Check Unit
  | .mk positional names spread spreadNamed => do
    exprs eng p positional
    named eng p names
    optional eng p spread
    optional eng p spreadNamed
    distinctNames (names.map (·.1))

end

/-- Checks the parts of an output. The values known beforehand are looked for in all of them
first. -/
def output (eng : Engine) (p : Place) (parts : List Expr) : Check Unit := do
  let rest ← parts.filterM fun e => do
    return (← Constant.printed eng p.escaping e).isNone
  exprs eng p rest

/-- Checks a macro or call block whose body is checked by `body`. -/
def macroDef (eng : Engine) (p : Place) (line : Nat) (params : List String) (defaults : List Expr)
    (stmts : List Stmt) (body : Place → Check Unit) : Check Unit := do
  let sig := Signature.ofBody params stmts
  let inside := { p.inner (p.scope.inMacro sig defaults stmts) with checked := false, inLoop := false }
  unless sig.callerHasDefault defaults.length do fail line .callerWithoutDefault
  if params.eraseDups.length != params.length then malformed
  exprs eng inside defaults
  body inside

/-- Names that a loop must not assign: the first assignment to `loop` in it. -/
def loopAssignment? (target : Target) (body orElse : List Stmt) : Option Nat :=
  ((Stmt.storedByTarget target ++ Stmt.storedByList body ++ Stmt.storedByList orElse).find?
    fun s => s.2 == "loop").map (·.1)

mutual

/-- Checks a statement, and tells whether what follows it in the same body can never run. -/
def stmt (eng : Engine) (p : Place) : Stmt → Check Bool
  | .output _ parts => do
    unless p.checked && (← get).extendsAnyway do output eng p parts
    return false
  | .extend l parent => do
    unless p.toplevel do fail l .extendsNested
    let s ← get
    if s.extensions > 0 && s.extendsAnyway then return true
    expr eng p false parent
    modify fun s => { s with
      extendsAnyway := s.extendsAnyway || p.rootlevel
      extensions := s.extensions + 1 }
    return false
  | .loop _ target iter body orElse test recursive => do
    let provided := Stmt.loopProvided body orElse recursive
    match test with
    | none => pure ()
    | some t => expr eng (p.inner (p.scope.inner.ofLoopTest target t)) false t
    match loopAssignment? target body orElse with
    | some l => fail l .loopAssigned
    | none => pure ()
    unless recursive do expr eng p false iter
    stmts eng { p.inner (p.scope.inLoop target body provided) with inLoop := true } body
    stmts eng { p.inner (p.scope.inner.visitAll orElse) with inLoop := p.inLoop && !recursive } orElse
    if recursive then expr eng p false iter
    return false
  | .branch _ test body elifs orElse => do
    expr eng p.soft false test
    stmts eng p.soft body
    stmts eng p.soft elifs
    stmts eng p.soft orElse
    return false
  | .macroDef l _ params defaults body => do
    macroDef eng p l params defaults body fun p => stmts eng p body
    return false
  | .callBlock l callLine callee args params defaults body => do
    macroDef eng p l params defaults body fun p => stmts eng p body
    expr eng p false (.call callLine callee args)
    match args with
    | .mk _ names _ _ => distinctNames (names.map (·.1) ++ ["caller"])
    return false
  | .filterBlock _ filter body => do
    let inside := p.inner (p.scope.inner.ofFilterBlock filter body)
    stmts eng inside body
    expr eng inside false filter
    return false
  | .withBlock _ bindings body => do
    exprs eng p (bindings.map (·.2))
    stmts eng (p.inner (p.scope.inner.ofWith bindings body)) body
    return false
  | .block _ _ _ _ _ => return false
  | .inclusion _ template _ _ => do
    expr eng p false template
    return false
  | .importModule _ template _ _ => do
    expr eng p false template
    return false
  | .importNames _ template _ _ => do
    expr eng p false template
    return false
  | .exprStmt _ e => do
    expr eng p false e
    return false
  | .assign _ _ e => do
    expr eng p false e
    return false
  | .assignBlock _ _ filter body => do
    let inside := { p.inner (p.scope.inner.visitAll body) with checked := false }
    stmts eng inside body
    optional eng inside filter
    return false
  | .autoescape _ v body => do
    let inside := p.inner (p.scope.inner.ofAutoescape v body)
    expr eng inside false v
    let escaping ← Constant.escapingIn eng p.escaping v
    stmts eng { inside with escaping } body
    return false
  | .continueLoop _ => do
    unless p.inLoop do malformed
    return false
  | .breakLoop _ => do
    unless p.inLoop do malformed
    return false
  | .embed _ parent _ => do
    expr eng p false parent
    return false
  | .embedded _ _ => return false

/-- Checks statements up to the first behind which nothing can run. -/
def stmts (eng : Engine) (p : Place) : List Stmt → Check Unit
  | [] => return ()
  | s :: ss => do
    let isLast ← stmt eng p s
    unless isLast do stmts eng p ss

end

/-- The first block whose name an earlier one has. -/
def repeatedBlock? (seen : List String) : List (Nat × String) → Option (Nat × String)
  | [] => none
  | (l, name) :: rest =>
    if seen.contains name then some (l, name) else repeatedBlock? (name :: seen) rest

/-- Checks a template and then each of its blocks. -/
def template (eng : Engine) (t : Template) : Run Unit := do
  let blocks := Stmt.blocksOfList t.body
  match repeatedBlock? [] (blocks.map fun b => (b.1, b.2.1)) with
  | some (l, name) => throw (.syntaxError ⟨l, .blockDefinedTwice name⟩)
  | none => pure ()
  let escaping : Escaping := ⟨(← get).env.options.autoescape, false⟩
  let root : Place :=
    { scope := Scope.ofTemplate t.body, escaping, toplevel := true, rootlevel := true
      checked := Stmt.anyExtends t.body }
  let all : Check Unit := do
    stmts eng root t.body
    blocks.forM fun (_, _, body, _, _) => stmts eng { scope := Scope.ofBlock body, escaping } body
  let (_, progress) ← all.run {}
  unless progress.wellFormed do Run.accident .badCode

end Check

end Stencil
