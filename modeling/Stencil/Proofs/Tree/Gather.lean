import Stencil.Tree.Basic

/-!
# Going through statements in source order

`Stmt.gather` goes through a statement and all it encloses, whatever the nesting, and puts together
what each statement contributes of its own: enclosed statements before the one that encloses them,
and left to right.
-/

namespace Stencil

namespace Stmt

variable {α : Type} (own : Stmt → List α) (inEmbeds : Bool)

mutual

/-- What a statement and those that it encloses contribute. The bodies of embeds are gone into only
if `inEmbeds`. -/
def gather (s : Stmt) : List α :=
  (match s with
    | loop _ _ _ body orElse _ _ => gatherAll body ++ gatherAll orElse
    | branch _ _ body elifs orElse => gatherAll body ++ gatherAll elifs ++ gatherAll orElse
    | macroDef _ _ _ _ body => gatherAll body
    | callBlock _ _ _ _ _ _ body => gatherAll body
    | filterBlock _ _ body => gatherAll body
    | withBlock _ _ body => gatherAll body
    | block _ _ body _ _ => gatherAll body
    | assignBlock _ _ _ body => gatherAll body
    | autoescape _ _ body => gatherAll body
    | embed _ _ body => if inEmbeds then gatherAll body else []
    | _ => []) ++ own s

/-- What a list of statements contributes. -/
def gatherAll : List Stmt → List α
  | [] => []
  | s :: ss => gather s ++ gatherAll ss

end

end Stmt

end Stencil
