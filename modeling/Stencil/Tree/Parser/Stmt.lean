import Stencil.Tree.Parser.Expr
import Stencil.Text.Blank
import Stencil.Text.Case

/-!
# Parsing statements

One parser per tag. A tag that holds other statements reads them up to one of its closing tags.
-/

namespace Stencil

/-- The optional tags of the language. -/
structure Extensions where
  /-- `do`: an expression evaluated for its effect. -/
  doTag : Bool := false
  /-- `break` and `continue`. -/
  loopControls : Bool := false
  /-- `embed`. -/
  embedTag : Bool := false
deriving DecidableEq

namespace Parser

/-- The name of an expression's kind in messages. -/
def kindName (e : Expr) : String :=
  String.ofList (Text.lower e.kind.label.toList)

mutual

/-- The target that an expression stands for, if it can be assigned to. -/
def target? : Expr → Option Target
  | .name l id => some (.name l id)
  | .tuple l items => (targets? items).map (.tuple l)
  | _ => none

/-- The targets that the items of a tuple stand for. -/
def targets? : List Expr → Option (List Target)
  | [] => some []
  | e :: es =>
    match target? e, targets? es with
    | some t, some ts => some (t :: ts)
    | _, _ => none

end

/-- A member of an assignment: a name, the attribute of a namespace where that is allowed, or any
other primary expression, which may turn out not to be assignable. -/
def targetItem (g : Grammar) (attributes : Bool) : P (Target ⊕ Expr) := do
  let ⟨line, found⟩ ← current
  match found with
  | .name s =>
    if (literalName? s).isSome then return .inr (← primary g)
    discard next
    if attributes && (← at? (.symbol .dot)) then
      discard next
      let (name, _) ← expectName
      return .inl (.member line s name)
    return .inl (.name line s)
  | _ =>
    let e ← primary g
    match target? e with
    | some t => return .inl t
    | none => return .inr e

/-- The targets among items, if all of them are targets. -/
def allTargets : List (Target ⊕ Expr) → Option (List Target)
  | [] => some []
  | .inl t :: rest => (allTargets rest).map (t :: ·)
  | .inr _ :: _ => none

/-- The target of an assignment: one or several divided by commas. -/
def target (g : Grammar) (attributes : Bool) : P Target := do
  match ← tupleItems (targetItem g attributes) with
  | (items, true, line) =>
    match allTargets items with
    | some ts => return .tuple line ts
    | none => failAt line (.notAssignable "tuple")
  | (.inl t :: _, false, _) => return t
  | (.inr e :: _, false, _) => failAt e.line (.notAssignable (kindName e))
  | ([], false, _) => fail (.expressionExpected (← lexeme))

/-- A name to be assigned to. -/
def targetName : P (String × Nat) := do
  let (s, line) ← expectName
  if (literalName? s).isSome then failAt line (.notAssignable "name")
  return (s, line)

/-- Statements up to one of the given tags, which becomes current; `drop` passes it too. -/
def body (g : Grammar) (ends : List String) (drop : Bool) : P (List Stmt) := do
  discard (skipIf (.symbol .colon))
  discard (expect .blockEnd)
  let stmts ← closedBy ends (g.statements (some ends))
  if (← lexeme) == .eof then
    let s ← get
    fail (.unexpectedEnd (nesting (ends :: s.ends) s.tags))
  if drop then discard next
  return stmts

def forTag (g : Grammar) : P Stmt := do
  let line := (← next).line
  let t ← target g false
  discard (expect (.word "in"))
  let iter ← tuple g false false
  let test ← if ← skipIf (.word "if") then some <$> g.expression true else pure none
  let recursive ← skipIf (.word "recursive")
  let inner ← body g ["endfor", "else"] false
  let close ← next
  let orElse ← if close.lexeme == .name "endfor" then pure [] else body g ["endfor"] true
  return .loop line t iter inner orElse test recursive

/-- The test and body of a conditional, and the tag that ends it. -/
def branchPart (g : Grammar) : P (Expr × List Stmt × Lexeme) := do
  let test ← tuple g false false
  let inner ← body g ["elif", "else", "endif"] false
  return (test, inner, (← next).lexeme)

def ifTag (g : Grammar) : P Stmt := do
  let line := (← next).line
  let (test, inner, close) ← branchPart g
  repeatUntil (fun (elifs, close) => do
    if close == Lexeme.name "elif" then
      let line ← currentLine
      let (test, inner, close) ← branchPart g
      return .inl (Stmt.branch line test inner [] [] :: elifs, close)
    else if close == Lexeme.name "else" then
      let orElse ← body g ["endif"] true
      return .inr (Stmt.branch line test inner elifs.reverse orElse)
    else return .inr (Stmt.branch line test inner elifs.reverse [])) ([], close)

def setTag (g : Grammar) : P Stmt := do
  let line := (← next).line
  let t ← target g true
  if ← skipIf (.symbol .assign) then
    return .assign line t (← tuple g true false)
  let filter ← filters g none
  return .assignBlock line t filter (← body g ["endset"] true)

def withTag (g : Grammar) : P Stmt := do
  let line := (← next).line
  let bindings ← repeatUntil (fun bindings => do
    if ← at? .blockEnd then return .inr bindings.reverse
    unless bindings.isEmpty do discard (expect (.symbol .comma))
    let t ← target g false
    discard (expect (.symbol .assign))
    return .inl ((t, ← g.expression true) :: bindings)) []
  return .withBlock line bindings (← body g ["endwith"] true)

def autoescapeTag (g : Grammar) : P Stmt := do
  let line := (← next).line
  let value ← g.expression true
  return .autoescape line value (← body g ["endautoescape"] true)

/-- Whether a statement is text of blanks only. -/
def isBlankOutput : Stmt → Bool
  | .output _ parts => parts.all fun
    | .data _ s => !s.isEmpty && s.toList.all Char.isBlank
    | _ => false
  | _ => false

def blockTag (g : Grammar) : P Stmt := do
  let line := (← next).line
  let (name, _) ← expectName
  let isScoped ← skipIf (.word "scoped")
  let isRequired ← skipIf (.word "required")
  if ← at? (.symbol .sub) then fail .hyphenInBlockName
  let inner ← body g ["endblock"] true
  if isRequired && !inner.all isBlankOutput then fail .requiredBlockContent
  discard (skipIf (.word name))
  return .block line name inner isScoped isRequired

def extendsTag (g : Grammar) : P Stmt := do
  let line := (← next).line
  return .extend line (← g.expression true)

/-- `with context` or `without context`, if it follows. -/
def contextClause? : P (Option Bool) := do
  let found ← lexeme
  if found == .name "with" || found == .name "without" then
    if (← look) == .name "context" then
      discard next
      discard next
      return some (found == .name "with")
  return none

def includeTag (g : Grammar) : P Stmt := do
  let line := (← next).line
  let template ← g.expression true
  let ignoreMissing ← do
    if ← at? (.word "ignore") then
      if (← look) == .name "missing" then
        discard next
        discard next
        pure true
      else pure false
    else pure false
  return .inclusion line template ((← contextClause?).getD true) ignoreMissing

def importTag (g : Grammar) : P Stmt := do
  let line := (← next).line
  let template ← g.expression true
  discard (expect (.word "as"))
  let (name, _) ← targetName
  return .importModule line template name ((← contextClause?).getD false)

/-- The names of a `from` tag and its context clause. -/
def importedNames : P (List ImportName × Option Bool) :=
  repeatUntil (fun (names : List ImportName) => do
    unless names.isEmpty do discard (expect (.symbol .comma))
    match ← lexeme with
    | .name _ =>
      if let some c ← contextClause? then return .inr (names.reverse, some c)
      let (name, line) ← targetName
      if name.toList.head? == some '_' then failAt line .privateImport
      let rename ← if ← skipIf (.word "as") then (fun n => some n.1) <$> targetName else pure none
      let names := ⟨name, rename⟩ :: names
      if let some c ← contextClause? then return .inr (names.reverse, some c)
      if ← at? (.symbol .comma) then return .inl names
      return .inr (names.reverse, none)
    | _ =>
      discard expectName
      return .inl names) []

def fromTag (g : Grammar) : P Stmt := do
  let line := (← next).line
  let template ← g.expression true
  discard (expect (.word "import"))
  let (names, context) ← importedNames
  return .importNames line template names (context.getD false)

/-- Parameters with their default values. -/
def signature (g : Grammar) : P (List String × List Expr) := do
  discard (expect (.symbol .lparen))
  let (params, defaults) ← repeatUntil (fun (params, defaults) => do
    if ← at? (.symbol .rparen) then return .inr (params.reverse, defaults.reverse)
    unless params.isEmpty do discard (expect (.symbol .comma))
    let (name, _) ← targetName
    if ← skipIf (.symbol .assign) then
      return .inl (name :: params, (← g.expression true) :: defaults)
    unless defaults.isEmpty do fail .defaultExpected
    return .inl (name :: params, defaults)) (([] : List String), ([] : List Expr))
  discard (expect (.symbol .rparen))
  return (params, defaults)

def macroTag (g : Grammar) : P Stmt := do
  let line := (← next).line
  let (name, _) ← targetName
  let (params, defaults) ← signature g
  return .macroDef line name params defaults (← body g ["endmacro"] true)

def callTag (g : Grammar) : P Stmt := do
  let line := (← next).line
  let (params, defaults) ← if ← at? (.symbol .lparen) then signature g else pure ([], [])
  match ← g.expression true with
  | .call callLine callee args =>
    return .callBlock line callLine callee args params defaults (← body g ["endcall"] true)
  | _ => failAt line .callExpected

def filterTag (g : Grammar) : P Stmt := do
  let line := (← next).line
  let first ← filterNamed g none
  let filter := (← filters g (some first)).getD first
  return .filterBlock line filter (← body g ["endfilter"] true)

def printTag (g : Grammar) : P Stmt := do
  let line := (← next).line
  let parts ← repeatUntil (fun parts => do
    if ← at? .blockEnd then return .inr parts.reverse
    unless parts.isEmpty do discard (expect (.symbol .comma))
    return .inl ((← g.expression true) :: parts)) []
  return .output line parts

def doTag (g : Grammar) : P Stmt := do
  let line := (← next).line
  return .exprStmt line (← tuple g true false)

def embedTag (g : Grammar) : P Stmt := do
  let line := (← next).line
  let parent ← g.expression true
  return .embed line parent (← body g ["endembed"] true)

/-- The parser of the tag with the given name. -/
def tag? (ext : Extensions) (g : Grammar) (name : String) : Option (P Stmt) :=
  match name with
  | "for" => some (forTag g)
  | "if" => some (ifTag g)
  | "block" => some (blockTag g)
  | "extends" => some (extendsTag g)
  | "print" => some (printTag g)
  | "macro" => some (macroTag g)
  | "include" => some (includeTag g)
  | "from" => some (fromTag g)
  | "import" => some (importTag g)
  | "set" => some (setTag g)
  | "with" => some (withTag g)
  | "autoescape" => some (autoescapeTag g)
  | "call" => some (callTag g)
  | "filter" => some (filterTag g)
  | "do" => if ext.doTag then some (doTag g) else none
  | "break" =>
    if ext.loopControls then some (do return .breakLoop (← next).line) else none
  | "continue" =>
    if ext.loopControls then some (do return .continueLoop (← next).line) else none
  | "embed" => if ext.embedTag then some (embedTag g) else none
  | _ => none

/-- A statement, from the name of its tag to the end of the tag that closes it. -/
def statement (ext : Extensions) (g : Grammar) : P Stmt := do
  let ⟨line, found⟩ ← current
  match found with
  | .name name =>
    match tag? ext g name with
    | some p =>
      modify fun s => { s with tags := name :: s.tags }
      let stmt ← p
      modify fun s => { s with tags := s.tags.tail }
      return stmt
    | none =>
      let s ← get
      failAt line (.unknownTag name (nesting s.ends s.tags))
  | _ => failAt line .tagNameExpected

/-- Statements in reverse order, and printed parts, also reversed, that belong to the next one. -/
structure Sequence where
  done : List Stmt := []
  pending : List Expr := []

/-- Closes the pending parts as one statement, on the line of the first of them. -/
def Sequence.flush (s : Sequence) : List Stmt :=
  match s.pending.reverse with
  | [] => s.done
  | first :: rest => .output first.line (first :: rest) :: s.done

/-- Whether a token is the name of one of the given tags. -/
def isEnd (ends : Option (List String)) : Lexeme → Bool
  | .name s => (ends.getD []).contains s
  | _ => false

/-- Statements up to one of the given tags or to the end of the template. Text and printed
expressions next to each other form one statement. -/
def statements (ext : Extensions) (g : Grammar) (ends : Option (List String)) : P (List Stmt) :=
  repeatUntil (fun (acc : Sequence) => do
    let ⟨line, found⟩ ← current
    match found with
    | .data text =>
      discard next
      return .inl { acc with pending := .data line text :: acc.pending }
    | .variableBegin =>
      discard next
      let e ← tuple g true false
      discard (expect .variableEnd)
      return .inl { acc with pending := e :: acc.pending }
    | .blockBegin =>
      let done := acc.flush
      discard next
      if isEnd ends (← lexeme) then return .inr done.reverse
      let stmt ← statement ext g
      discard (expect .blockEnd)
      return .inl ⟨stmt :: done, []⟩
    | _ => return .inr acc.flush.reverse) {}

end Parser

end Stencil
