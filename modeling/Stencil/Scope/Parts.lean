import Stencil.Scope.Analysis

/-!
# The scopes of the parts of a template

The scopes of a whole template, of a block, of a loop and of a macro, with the names that are
provided there: `self` and `super`, `loop`, and the special parameters of macros.
-/

namespace Stencil

/-- The scope of a template as a whole. It has `self` only if the template uses it. -/
def Scope.ofTemplate (body : List Stmt) : Scope :=
  (Scope.root.params ((Undeclared.find ["self"] body).eraseDups)).visitAll body

/-- Which of the names provided in a block its body uses. -/
def Scope.providedInBlock (body : List Stmt) : List String :=
  let used := Undeclared.find ["self", "super"] body
  ["self", "super"].filter used.contains

/-- The scope of a block, which does not see the variables of the template around it. -/
def Scope.ofBlock (body : List Stmt) : Scope :=
  (Scope.root.params (providedInBlock body)).visitAll body

/-- Whether a loop provides `loop` to its body. -/
def Stmt.loopProvided (body orElse : List Stmt) (recursive : Bool) : Bool :=
  recursive || !(Undeclared.find ["loop"] body).isEmpty ||
    (Stmt.blocksOfList (body ++ orElse)).any fun b => b.2.2.2.1

/-- The scope of a loop's body, with `loop` if it is provided. -/
def Scope.inLoop (s : Scope) (target : Target) (body : List Stmt) (provided : Bool) : Scope :=
  (if provided then s.inner.param "loop" else s.inner).ofLoop target body

/-- The parameters of a macro. -/
structure Signature where
  /-- The parameters that are written down. -/
  params : List String
  usesCaller : Bool
  usesKwargs : Bool
  usesVarargs : Bool
deriving DecidableEq

namespace Signature

/-- The signature of a macro: the names of the special parameters count as such where the body uses
them and does not assign them first. -/
def ofBody (params : List String) (body : List Stmt) : Signature :=
  let used := Undeclared.find ["caller", "kwargs", "varargs"] body
  { params
    usesCaller := used.contains "caller"
    usesKwargs := used.contains "kwargs" && !params.contains "kwargs"
    usesVarargs := used.contains "varargs" && !params.contains "varargs" }

/-- The special parameters that are added to those written down. -/
def added (s : Signature) : List String :=
  (if s.usesCaller && !s.params.contains "caller" then ["caller"] else []) ++
    (if s.usesKwargs then ["kwargs"] else []) ++ (if s.usesVarargs then ["varargs"] else [])

/-- Whether a parameter named `caller` has a default where the body uses it. The defaults belong to
the last parameters. -/
def callerHasDefault (s : Signature) (defaults : Nat) : Bool :=
  !s.usesCaller || !s.params.contains "caller" ||
    (s.params.reverse.take defaults).contains "caller"

end Signature

/-- The scope of a macro's body. -/
def Scope.inMacro (s : Scope) (sig : Signature) (defaults : List Expr) (body : List Stmt) : Scope :=
  (s.inner.ofMacro sig.params defaults body).params sig.added

end Stencil
