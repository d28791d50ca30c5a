import Stencil.Data.Basic

/-!
# Template trees

Expressions, assignment targets and statements of the template language, each with the line it
stands on. An `embed` is kept as a statement with its parent and body; separating the embedded
templates from the host is a step of its own, which leaves `embedded` statements behind.
-/

namespace Stencil

/-- Operators with one operand. -/
inductive UnaryOp where
  | not | neg | pos
deriving DecidableEq

/-- Operators with two operands. -/
inductive BinaryOp where
  | add | sub | mul | div | floorDiv | mod | pow | and | or
deriving DecidableEq

/-- Comparisons, which can be chained. -/
inductive Comparison where
  | eq | ne | gt | gteq | lt | lteq | isIn | notIn
deriving DecidableEq

mutual

/-- An expression. -/
inductive Expr where
  | name (line : Nat) (id : String)
  | const (line : Nat) (value : Datum)
  /-- Text between tags. -/
  | data (line : Nat) (text : String)
  | tuple (line : Nat) (items : List Expr)
  | list (line : Nat) (items : List Expr)
  | dict (line : Nat) (items : List (Expr × Expr))
  | cond (line : Nat) (test value : Expr) (orElse : Option Expr)
  /-- A filter; in a filter block it has no subject. -/
  | filter (line : Nat) (subject : Option Expr) (name : String) (args : Args)
  | test (line : Nat) (subject : Expr) (name : String) (args : Args)
  | call (line : Nat) (callee : Expr) (args : Args)
  | item (line : Nat) (subject index : Expr)
  | member (line : Nat) (subject : Expr) (name : String)
  | slice (line : Nat) (start stop step : Option Expr)
  | concat (line : Nat) (parts : List Expr)
  | compare (line : Nat) (subject : Expr) (operands : List (Comparison × Expr))
  | binary (line : Nat) (op : BinaryOp) (left right : Expr)
  | unary (line : Nat) (op : UnaryOp) (operand : Expr)

/-- The arguments of a call, filter or test. -/
inductive Args where
  | mk (positional : List Expr) (named : List (String × Expr)) (spread spreadNamed : Option Expr)

end

/-- No arguments. -/
def Args.none : Args := .mk [] [] .none .none

/-- What can be assigned to. -/
inductive Target where
  | name (line : Nat) (id : String)
  /-- An attribute of a namespace. -/
  | member (line : Nat) (subject name : String)
  | tuple (line : Nat) (items : List Target)

/-- A name imported from a template, and what it is called here. -/
structure ImportName where
  name : String
  rename : Option String
deriving DecidableEq

/-- A statement. -/
inductive Stmt where
  /-- Text and expressions to be printed. -/
  | output (line : Nat) (parts : List Expr)
  | extend (line : Nat) (parent : Expr)
  | loop (line : Nat) (target : Target) (iter : Expr) (body orElse : List Stmt)
      (test : Option Expr) (recursive : Bool)
  /-- A conditional; `elifs` are conditionals without further branches. -/
  | branch (line : Nat) (test : Expr) (body elifs orElse : List Stmt)
  | macroDef (line : Nat) (name : String) (params : List String) (defaults : List Expr)
      (body : List Stmt)
  | callBlock (line : Nat) (callLine : Nat) (callee : Expr) (args : Args) (params : List String)
      (defaults : List Expr) (body : List Stmt)
  | filterBlock (line : Nat) (filter : Expr) (body : List Stmt)
  | withBlock (line : Nat) (bindings : List (Target × Expr)) (body : List Stmt)
  | block (line : Nat) (name : String) (body : List Stmt) (isScoped isRequired : Bool)
  | inclusion (line : Nat) (template : Expr) (withContext ignoreMissing : Bool)
  | importModule (line : Nat) (template : Expr) (target : String) (withContext : Bool)
  | importNames (line : Nat) (template : Expr) (names : List ImportName) (withContext : Bool)
  | exprStmt (line : Nat) (value : Expr)
  | assign (line : Nat) (target : Target) (value : Expr)
  | assignBlock (line : Nat) (target : Target) (filter : Option Expr) (body : List Stmt)
  | autoescape (line : Nat) (value : Expr) (body : List Stmt)
  | continueLoop (line : Nat)
  | breakLoop (line : Nat)
  /-- The template `parent` with some blocks replaced by those of `body`. -/
  | embed (line : Nat) (parent : Expr) (body : List Stmt)
  /-- The place of an embed that was taken out, with the key of its template. -/
  | embedded (line : Nat) (key : String)

namespace Expr

/-- The line of an expression. -/
def line : Expr → Nat
  | name l _ | const l _ | data l _ | tuple l _ | list l _ | dict l _ | cond l _ _ _
  | filter l _ _ _ | test l _ _ _ | call l _ _ | item l _ _ | member l _ _ | slice l _ _ _
  | concat l _ | compare l _ _ | binary l _ _ _ | unary l _ _ => l

end Expr

namespace Stmt

/-- The line of a statement. -/
def line : Stmt → Nat
  | output l _ | extend l _ | loop l _ _ _ _ _ _ | branch l _ _ _ _ | macroDef l _ _ _ _
  | callBlock l _ _ _ _ _ _ | filterBlock l _ _ | withBlock l _ _ | block l _ _ _ _
  | inclusion l _ _ _ | importModule l _ _ _ | importNames l _ _ _ | exprStmt l _ | assign l _ _
  | assignBlock l _ _ _ | autoescape l _ _ | continueLoop l | breakLoop l | embed l _ _
  | embedded l _ => l

end Stmt

end Stencil
