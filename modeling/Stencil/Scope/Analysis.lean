import Stencil.Scope.Symbols

/-!
# Finding the names of a scope

Which names a scope uses and assigns, read off its statements in the order in which they mention
them. Nested scopes are not entered, except where a part of them is evaluated outside.
-/

namespace Stencil

namespace Expr

mutual

/-- The names that an expression uses, in order. -/
def names : Expr → List String
  | name _ id => [id]
  | const _ _ => []
  | data _ _ => []
  | tuple _ items => namesOfList items
  | list _ items => namesOfList items
  | dict _ items => namesOfPairs items
  | cond _ c v e => names c ++ names v ++ namesOfOption e
  | filter _ s _ args => namesOfOption s ++ namesOfArgs args
  | test _ s _ args => names s ++ namesOfArgs args
  | call _ f args => names f ++ namesOfArgs args
  | item _ s i => names s ++ names i
  | member _ s _ => names s
  | slice _ a b c => namesOfOption a ++ namesOfOption b ++ namesOfOption c
  | concat _ parts => namesOfList parts
  | compare _ s ops => names s ++ namesOfOperands ops
  | binary _ _ l r => names l ++ names r
  | unary _ _ e => names e

def namesOfList : List Expr → List String
  | [] => []
  | e :: es => names e ++ namesOfList es

def namesOfPairs : List (Expr × Expr) → List String
  | [] => []
  | (k, v) :: rest => names k ++ names v ++ namesOfPairs rest

def namesOfOption : Option Expr → List String
  | none => []
  | some e => names e

def namesOfOperands : List (Comparison × Expr) → List String
  | [] => []
  | (_, e) :: rest => names e ++ namesOfOperands rest

def namesOfNamed : List (String × Expr) → List String
  | [] => []
  | (_, e) :: rest => names e ++ namesOfNamed rest

def namesOfArgs : Args → List String
  | .mk positional named spread spreadNamed =>
    namesOfList positional ++ namesOfNamed named ++ namesOfOption spread ++
      namesOfOption spreadNamed

end

end Expr

namespace Target

mutual

/-- The names that a target assigns. -/
def names : Target → List String
  | name _ id => [id]
  | member _ _ _ => []
  | tuple _ items => namesOfList items

def namesOfList : List Target → List String
  | [] => []
  | t :: ts => names t ++ namesOfList ts

end

mutual

/-- The namespaces that a target assigns to. -/
def subjects : Target → List String
  | name _ _ => []
  | member _ s _ => [s]
  | tuple _ items => subjectsOfList items

def subjectsOfList : List Target → List String
  | [] => []
  | t :: ts => subjects t ++ subjectsOfList ts

end

end Target

namespace Scope

def loads (s : Scope) (names : List String) : Scope :=
  names.foldl load s

def params (s : Scope) (names : List String) : Scope :=
  names.foldl param s

mutual

/-- Notes what a target assigns, and the namespaces it uses. -/
def visitTarget (s : Scope) : Target → Scope
  | .name _ id => s.store id
  | .member _ subject _ => s.load subject
  | .tuple _ items => visitTargets s items

def visitTargets (s : Scope) : List Target → Scope
  | [] => s
  | t :: ts => visitTargets (visitTarget s t) ts

end

mutual

/-- Notes what a statement uses and assigns in the scope it stands in. -/
def visit (s : Scope) : Stmt → Scope
  | .output _ parts => s.loads (Expr.namesOfList parts)
  | .extend _ e => s.loads e.names
  | .loop _ _ iter _ _ _ _ => s.loads iter.names
  | .branch _ test body elifs orElse =>
    let s := s.loads test.names
    s.join [visitAll s body, visitAll s elifs, visitAll s orElse]
  | .macroDef _ name _ _ _ => s.store name
  | .callBlock _ _ callee args _ _ _ => s.loads (callee.names ++ Expr.namesOfArgs args)
  | .filterBlock _ filter _ => s.loads filter.names
  | .withBlock _ bindings _ => s.loads (bindings.flatMap fun b => b.2.names)
  | .block _ _ _ _ _ => s
  | .inclusion _ t _ _ => s.loads t.names
  | .importModule _ t target _ => (s.loads t.names).store target
  | .importNames _ t names _ =>
    (names.map fun n => n.rename.getD n.name).foldl store (s.loads t.names)
  | .exprStmt _ e => s.loads e.names
  | .assign _ target e => (s.loads e.names).visitTarget target
  | .assignBlock _ target _ _ => s.visitTarget target
  | .autoescape _ _ _ => s
  | .continueLoop _ => s
  | .breakLoop _ => s
  | .embed _ parent _ => s.loads parent.names
  | .embedded _ _ => s

/-- Notes what statements use and assign, one after the other. -/
def visitAll (s : Scope) : List Stmt → Scope
  | [] => s
  | t :: ts => visitAll (visit s t) ts

end

/-- The scope of a macro or call block: parameters, defaults, and the body. -/
def ofMacro (s : Scope) (params : List String) (defaults : List Expr) (body : List Stmt) : Scope :=
  ((s.params params).loads (Expr.namesOfList defaults)).visitAll body

/-- The scope of a loop's body. -/
def ofLoop (s : Scope) (target : Target) (body : List Stmt) : Scope :=
  (s.params target.names).visitAll body

/-- The scope in which a loop's test is evaluated. -/
def ofLoopTest (s : Scope) (target : Target) (test : Expr) : Scope :=
  (s.params target.names).loads test.names

/-- The scope of a filter block. -/
def ofFilterBlock (s : Scope) (filter : Expr) (body : List Stmt) : Scope :=
  (s.visitAll body).loads filter.names

/-- The scope of a `with` block. -/
def ofWith (s : Scope) (bindings : List (Target × Expr)) (body : List Stmt) : Scope :=
  (s.params (bindings.flatMap fun b => b.1.names)).visitAll body

/-- The scope of an `autoescape` block. -/
def ofAutoescape (s : Scope) (value : Expr) (body : List Stmt) : Scope :=
  (s.loads value.names).visitAll body

end Scope

/-- A search for names that are used before they are assigned: those still looked for, and those
found. -/
structure Undeclared where
  sought : List String
  found : List String := []

namespace Undeclared

/-- Uses of names. -/
def use (u : Undeclared) (names : List String) : Undeclared :=
  { u with found := u.found ++ names.filter u.sought.contains }

/-- Assignments, behind which a name is no longer looked for. -/
def assign (u : Undeclared) (names : List String) : Undeclared :=
  { u with sought := u.sought.filter fun n => !names.contains n }

mutual

/-- Searches a statement with everything nested in it, blocks excepted. -/
def visit (u : Undeclared) : Stmt → Undeclared
  | .output _ parts => u.use (Expr.namesOfList parts)
  | .extend _ e => u.use e.names
  | .loop _ target iter body orElse test _ =>
    let u := (u.assign target.names).use iter.names
    ((u.visitAll body).visitAll orElse).use (Expr.namesOfOption test)
  | .branch _ test body elifs orElse =>
    (((u.use test.names).visitAll body).visitAll elifs).visitAll orElse
  | .macroDef _ _ params defaults body =>
    ((u.assign params).use (Expr.namesOfList defaults)).visitAll body
  | .callBlock _ _ callee args params defaults body =>
    let u := u.use (callee.names ++ Expr.namesOfArgs args)
    ((u.assign params).use (Expr.namesOfList defaults)).visitAll body
  | .filterBlock _ filter body => (u.visitAll body).use filter.names
  | .withBlock _ bindings body =>
    let u := u.assign (bindings.flatMap fun b => b.1.names)
    (u.use (bindings.flatMap fun b => b.2.names)).visitAll body
  | .block _ _ _ _ _ => u
  | .inclusion _ t _ _ => u.use t.names
  | .importModule _ t _ _ => u.use t.names
  | .importNames _ t _ _ => u.use t.names
  | .exprStmt _ e => u.use e.names
  | .assign _ target e => (u.assign target.names).use e.names
  | .assignBlock _ target filter body =>
    ((u.assign target.names).use (Expr.namesOfOption filter)).visitAll body
  | .autoescape _ value body => (u.use value.names).visitAll body
  | .continueLoop _ => u
  | .breakLoop _ => u
  | .embed _ parent body => (u.use parent.names).visitAll body
  | .embedded _ _ => u

/-- Searches statements one after the other. -/
def visitAll (u : Undeclared) : List Stmt → Undeclared
  | [] => u
  | t :: ts => visitAll (visit u t) ts

end

/-- Which of the given names are used in the statements before they are assigned there. -/
def find (names : List String) (body : List Stmt) : List String :=
  (visitAll ⟨names, []⟩ body).found

end Undeclared

namespace Stmt

mutual

/-- The blocks of a statement, a block before those inside it. -/
def blocks : Stmt → List (Nat × String × List Stmt × Bool × Bool)
  | loop _ _ _ body orElse _ _ => blocksOfList body ++ blocksOfList orElse
  | branch _ _ body elifs orElse => blocksOfList body ++ blocksOfList elifs ++ blocksOfList orElse
  | macroDef _ _ _ _ body => blocksOfList body
  | callBlock _ _ _ _ _ _ body => blocksOfList body
  | filterBlock _ _ body => blocksOfList body
  | withBlock _ _ body => blocksOfList body
  | block l name body isScoped isRequired =>
    (l, name, body, isScoped, isRequired) :: blocksOfList body
  | assignBlock _ _ _ body => blocksOfList body
  | autoescape _ _ body => blocksOfList body
  | _ => []

/-- The blocks of statements in order. -/
def blocksOfList : List Stmt → List (Nat × String × List Stmt × Bool × Bool)
  | [] => []
  | s :: ss => blocks s ++ blocksOfList ss

end

mutual

/-- Whether a statement contains an `extends`. -/
def hasExtends : Stmt → Bool
  | extend _ _ => true
  | loop _ _ _ body orElse _ _ => anyExtends body || anyExtends orElse
  | branch _ _ body elifs orElse => anyExtends body || anyExtends elifs || anyExtends orElse
  | macroDef _ _ _ _ body => anyExtends body
  | callBlock _ _ _ _ _ _ body => anyExtends body
  | filterBlock _ _ body => anyExtends body
  | withBlock _ _ body => anyExtends body
  | block _ _ body _ _ => anyExtends body
  | assignBlock _ _ _ body => anyExtends body
  | autoescape _ _ body => anyExtends body
  | _ => false

/-- Whether some statement contains an `extends`. -/
def anyExtends : List Stmt → Bool
  | [] => false
  | s :: ss => hasExtends s || anyExtends ss

end

mutual

/-- The names that a statement assigns, at any depth, with their lines. -/
def stored : Stmt → List (Nat × String)
  | loop _ target _ body orElse _ _ => storedByTarget target ++ storedByList body ++ storedByList orElse
  | branch _ _ body elifs orElse => storedByList body ++ storedByList elifs ++ storedByList orElse
  | macroDef _ _ _ _ body => storedByList body
  | callBlock _ _ _ _ _ _ body => storedByList body
  | filterBlock _ _ body => storedByList body
  | withBlock _ _ body => storedByList body
  | block _ _ body _ _ => storedByList body
  | assign _ target _ => storedByTarget target
  | assignBlock _ target _ body => storedByTarget target ++ storedByList body
  | autoescape _ _ body => storedByList body
  | _ => []

/-- The names that statements assign. -/
def storedByList : List Stmt → List (Nat × String)
  | [] => []
  | s :: ss => stored s ++ storedByList ss

/-- The names that a target assigns, with their lines. -/
def storedByTarget : Target → List (Nat × String)
  | .name l id => [(l, id)]
  | .member _ _ _ => []
  | .tuple _ items => storedByTargets items

/-- The names that the targets of a tuple assign. -/
def storedByTargets : List Target → List (Nat × String)
  | [] => []
  | t :: ts => storedByTarget t ++ storedByTargets ts

end

end Stmt

end Stencil
