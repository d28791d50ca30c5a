import Stencil.Tree.Parser
import Stencil.Node.References

/-!
# Linked templates

The templates that a source names literally: those it includes, the parents of the templates
embedded in it, and its own parent, in this order. Nothing is loaded or rendered.
-/

namespace Stencil

/-- The literal references of a tree: included templates, parents of embedded templates, and the
tree's own parent. -/
def Node.linked (n : Node) : Except Node.Malformed (List Datum) := do
  let embeds ← n.embedParents
  let parents ← n.parents
  return Node.collect (.kind .inclusion) n ++ embeds ++ parents

namespace Language

/-- The labelled tree of a source. The templates embedded in it are listed only if `records`. -/
def outline (lang : Language) (records : Bool) (name : Option String) (code : String) :
    Except SyntaxError Node := do
  let parsed ← lang.parse name code
  return if records then parsed.outline else parsed.template.outline []

/-- The references of a labelled tree that was made from a source, whose nodes have all their
fields. -/
def linked (lang : Language) (records : Bool) (name : Option String) (code : String) :
    Except SyntaxError (List Datum) := do
  return (← lang.outline records name code).linked.toOption.getD []

end Language

end Stencil
