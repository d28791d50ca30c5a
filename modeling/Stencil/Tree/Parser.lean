import Stencil.Tree.Parser.Stmt
import Stencil.Token.Scanner
import Stencil.Tree.Embed

/-!
# Parsing templates

The parsers of expressions and statements call each other; `Parser.grammar` ties them together up to
a given depth of nesting. A nested part starts behind the token that opens it and is at most three
levels deeper, so the number of tokens bounds the depth.
-/

namespace Stencil

/-- A template language: how a source is divided into tokens, and which tags there are. -/
structure Language where
  delimiters : Delimiters := {}
  extensions : Extensions := {}
deriving DecidableEq

namespace Parser

/-- The parsers for templates of at most the given depth. -/
def grammar (ext : Extensions) : (depth : Nat) → Grammar
  | 0 =>
    { expression := fun _ => fail .tooDeep
      negation := fail .tooDeep
      signed := fun _ => fail .tooDeep
      statements := fun _ => fail .tooDeep }
  | depth + 1 =>
    { expression := fun conditions => expression (grammar ext depth) conditions
      negation := fun s => negation (grammar ext depth) s
      signed := fun withFilters => signed (grammar ext depth) withFilters
      statements := fun ends => statements ext (grammar ext depth) ends }

/-- The state in front of the first token. -/
def start (tokens : List Token) (stop : Option SyntaxError) : Except SyntaxError State :=
  match tokens, stop with
  | t :: ts, stop => .ok ⟨t, ts, stop, [], []⟩
  | [], none => .ok ⟨⟨1, .eof⟩, [], none, [], []⟩
  | [], some e => .error e

end Parser

namespace Language

/-- The tree of a source, with its embeds in place. -/
def parseTree (lang : Language) (source : String) : Except SyntaxError Template := do
  let (tokens, stop) := lang.delimiters.scan source
  let s ← Parser.start tokens stop
  let (stmts, _) ← (Parser.statements lang.extensions
    (Parser.grammar lang.extensions (4 * tokens.length + 8)) none).run s
  return ⟨1, stmts⟩

/-- The parsed form of a source under a template name, which enters the keys of the embeds. -/
def parse (lang : Language) (name : Option String) (source : String) :
    Except SyntaxError Parsed := do
  return (← lang.parseTree source).detach name

end Language

end Stencil
