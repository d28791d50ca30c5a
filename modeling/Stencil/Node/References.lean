import Stencil.Node.Basic

/-!
# References between templates

The templates that a tree names literally. `Node.collect` gathers the targets of all nodes that a
selector takes, children before their parent and fields in order; the templates embedded in a tree
are no part of that search and contribute their parents only.
-/

namespace Stencil

/-- A choice of nodes by their kind. -/
inductive Selector where
  | kind (k : Kind)
  | family (f : Kind.Family)
  | group (g : Kind.Group)
  | every
deriving DecidableEq

namespace Selector

/-- Whether a kind is chosen. -/
def takes : Selector → Kind → Bool
  | kind k, k' => k == k'
  | family f, k' => k'.family == f
  | group g, k' => k'.group? == some g
  | every, _ => true

/-- The selector with the given name: a kind, or several kinds that have a name in common. -/
def ofLabel? (s : String) : Option Selector :=
  match s with
  | "Node" => some every
  | "Stmt" => some (family .statement)
  | "Expr" => some (family .expression)
  | "Helper" => some (family .helper)
  | "BinExpr" => some (group .binary)
  | "UnaryExpr" => some (group .unary)
  | "Literal" => some (group .literal)
  | "_FilterTestCommon" => some (group .filtering)
  | "EvalContextModifier" => some (kind .optionScope)
  | _ => (Kind.ofLabel? s).map kind

end Selector

/-- The target that stands for no template. -/
def noTarget : String := "not_used"

namespace Node

/-- The value of the literal that a field holds, if it holds one. -/
def literal? : Field → Option Datum
  | .node n => if n.kind == .const then (n.field? "value").map Field.toDatum else none
  | _ => none

/-- Whether a value names a template. -/
def isTarget : Datum → Bool
  | .text s => s != noTarget
  | _ => true

/-- The literal target of a node itself. -/
def target? (n : Node) : Option Datum :=
  match n.field? "template" with
  | some f => (literal? f).filter isTarget
  | none => none

mutual

/-- The literal targets of the chosen nodes of a tree, each node after its descendants. -/
def collect (sel : Selector) : Node → List Datum
  | .mk kind fields embedded =>
    collectFields sel fields ++
      (if sel.takes kind then (target? (.mk kind fields embedded)).toList else [])

/-- The targets below a node, field by field. -/
def collectFields (sel : Selector) : List (String × Field) → List Datum
  | [] => []
  | (_, f) :: fs => collectField sel f ++ collectFields sel fs

/-- The targets below one field: a node, or the nodes of a list. -/
def collectField (sel : Selector) : Field → List Datum
  | .node n => collect sel n
  | .list items => collectItems sel items
  | .tuple _ => []
  | .datum _ => []

/-- The targets below the nodes of a list. -/
def collectItems (sel : Selector) : List Field → List Datum
  | [] => []
  | .node n :: rest => collect sel n ++ collectItems sel rest
  | _ :: rest => collectItems sel rest

end

mutual

/-- Whether the tree has a chosen node whose target is a literal without a value. -/
def hasBlankTarget (sel : Selector) : Node → Bool
  | .mk kind fields embedded =>
    blankInFields sel fields ||
      (sel.takes kind && (match (Node.mk kind fields embedded).field? "template" with
        | some (.node t) => t.kind == .const && (t.field? "value").isNone
        | _ => false))

/-- `hasBlankTarget` below a node. -/
def blankInFields (sel : Selector) : List (String × Field) → Bool
  | [] => false
  | (_, f) :: fs => blankInField sel f || blankInFields sel fs

/-- `hasBlankTarget` below a field. -/
def blankInField (sel : Selector) : Field → Bool
  | .node n => hasBlankTarget sel n
  | .list items => blankInItems sel items
  | .tuple _ => false
  | .datum _ => false

/-- `hasBlankTarget` below list items. -/
def blankInItems (sel : Selector) : List Field → Bool
  | [] => false
  | .node n :: rest => hasBlankTarget sel n || blankInItems sel rest
  | _ :: rest => blankInItems sel rest

end

/-- Why a tree cannot be searched. -/
inductive Malformed where
  /-- A field that is needed is not set. -/
  | unset (kind : Kind) (field : String)
  /-- The body of a template is no sequence. -/
  | bodyNotSequence
deriving DecidableEq

/-- The first node among `items` that names a parent template. -/
def firstParent? : List Field → Option Node
  | [] => none
  | .node n :: rest => if n.kind == .parent then some n else firstParent? rest
  | _ :: rest => firstParent? rest

/-- The items of a template's body. -/
def bodyItems (n : Node) : Except Malformed (List Field) :=
  match n.field? "body" with
  | none => .error (.unset n.kind "body")
  | some (.list items) => .ok items
  | some (.tuple items) => .ok items
  | some (.datum (.text _)) => .ok []
  | some (.datum (.object _)) => .ok []
  | some _ => .error .bodyNotSequence

/-- The literal target of the first `extends` that stands directly in a template's body: at most
one value. -/
def parents (n : Node) : Except Malformed (List Datum) := do
  if n.kind != .template then return []
  match firstParent? (← bodyItems n) with
  | none => return []
  | some p =>
    match p.field? "template" with
    | none => throw (.unset .parent "template")
    | some (.node t) =>
      if t.kind == .const then
        match t.field? "value" with
        | some v => return [v.toDatum]
        | none => throw (.unset .const "value")
      else return []
    | some _ => return []

/-- The parents of the templates embedded in a tree, in order. -/
def embedParents (n : Node) : Except Malformed (List Datum) := do
  return (← n.embedded.mapM parents).flatten

/-- Literal targets per selector, parents of embedded templates, and the tree's own parent. -/
structure Survey where
  collected : List (List Datum)
  embedParents : List Datum
  parents : List Datum

/-- The literal targets of the chosen nodes of a tree. A literal without a value cannot be read. -/
def walk (sel : Selector) (n : Node) : Except Malformed (List Datum) :=
  if hasBlankTarget sel n then .error (.unset .const "value") else .ok (collect sel n)

/-- Searches a tree once per selector. -/
def survey (selectors : List Selector) (n : Node) : Except Malformed Survey := do
  return {
    collected := ← selectors.mapM (walk · n)
    embedParents := ← embedParents n
    parents := ← parents n }

end Node

end Stencil
