import Stencil.Tree.Basic
import Stencil.Node.Basic

/-!
# Trees as labelled trees

The labelled form of expressions and statements, in which they are dumped and searched for
references. Lines are left out. An embed that still stands in a tree is shown as an inclusion of
nothing: only trees without embeds are meant to be shown.
-/

namespace Stencil

namespace Outline

def text (s : String) : Field := .datum (.text s)
def flag (b : Bool) : Field := .datum (.bool b)
def absent : Field := .datum .null

/-- A node whose fields are given in the order of its kind. -/
def node (kind : Kind) (fields : List Field) : Node :=
  .mk kind (kind.fields.zip fields) []

end Outline

open Outline

namespace UnaryOp

def kind : UnaryOp → Kind
  | not => .not
  | neg => .neg
  | pos => .pos

end UnaryOp

namespace BinaryOp

def kind : BinaryOp → Kind
  | add => .add
  | sub => .sub
  | mul => .mul
  | div => .div
  | floorDiv => .floorDiv
  | mod => .mod
  | pow => .pow
  | and => .and
  | or => .or

end BinaryOp

namespace Comparison

/-- The name of a comparison in the labelled form. -/
def label : Comparison → String
  | eq => "eq"
  | ne => "ne"
  | gt => "gt"
  | gteq => "gteq"
  | lt => "lt"
  | lteq => "lteq"
  | isIn => "in"
  | notIn => "notin"

end Comparison

namespace Expr

/-- The kind of an expression in the labelled form. -/
def kind : Expr → Kind
  | name _ _ => .name
  | const _ _ => .const
  | data _ _ => .data
  | tuple _ _ => .tuple
  | list _ _ => .list
  | dict _ _ => .dict
  | cond _ _ _ _ => .condition
  | filter _ _ _ _ => .filter
  | test _ _ _ _ => .test
  | call _ _ _ => .call
  | item _ _ _ => .getItem
  | member _ _ _ => .getAttribute
  | slice _ _ _ _ => .slice
  | concat _ _ => .concat
  | compare _ _ _ => .compare
  | binary _ op _ _ => op.kind
  | unary _ op _ => op.kind

/-- The labelled form of an embedded template's name. It is computed rather than literal, so that a
search for literal names passes it over. -/
def embedCall (key : String) : Node :=
  node .call [
    .node (node .extensionAttribute [
      text "pattern_inspector.engines.jinja.extensions.EmbedExtension",
      text "_embed_target"]),
    .list [.node (node .const [text key])],
    .list [], absent, absent]

mutual

/-- The labelled form of an expression. -/
def outline : Expr → Node
  | name _ id => node .name [text id, text "load"]
  | const _ v => node .const [.datum v]
  | data _ s => node .data [text s]
  | tuple _ items => node .tuple [.list (outlineList items), text "load"]
  | list _ items => node .list [.list (outlineList items)]
  | dict _ items => node .dict [.list (outlinePairs items)]
  | cond _ c v e => node .condition [.node c.outline, .node v.outline, outlineOption e]
  | filter _ s n args =>
    node .filter (outlineOption s :: text n :: outlineArgs args)
  | test _ s n args => node .test (.node s.outline :: text n :: outlineArgs args)
  | call _ f args => node .call (.node f.outline :: outlineArgs args)
  | item _ s i => node .getItem [.node s.outline, .node i.outline, text "load"]
  | member _ s n => node .getAttribute [.node s.outline, text n, text "load"]
  | slice _ a b c => node .slice [outlineOption a, outlineOption b, outlineOption c]
  | concat _ parts => node .concat [.list (outlineList parts)]
  | compare _ s ops => node .compare [.node s.outline, .list (outlineOperands ops)]
  | binary _ op l r => node op.kind [.node l.outline, .node r.outline]
  | unary _ op e => node op.kind [.node e.outline]

/-- The labelled forms of list items. -/
def outlineList : List Expr → List Field
  | [] => []
  | e :: es => .node e.outline :: outlineList es

/-- The labelled forms of the pairs of a dictionary. -/
def outlinePairs : List (Expr × Expr) → List Field
  | [] => []
  | (k, v) :: rest => .node (node .pair [.node k.outline, .node v.outline]) :: outlinePairs rest

/-- The labelled form of a part that may be missing. -/
def outlineOption : Option Expr → Field
  | none => absent
  | some e => .node e.outline

/-- The labelled forms of the operands of a comparison. -/
def outlineOperands : List (Comparison × Expr) → List Field
  | [] => []
  | (op, e) :: rest => .node (node .operand [text op.label, .node e.outline]) :: outlineOperands rest

/-- The labelled forms of named arguments. -/
def outlineNamed : List (String × Expr) → List Field
  | [] => []
  | (k, e) :: rest => .node (node .keyword [text k, .node e.outline]) :: outlineNamed rest

/-- The labelled forms of arguments. -/
def outlineArgs : Args → List Field
  | .mk positional named spread spreadNamed =>
    [.list (outlineList positional), .list (outlineNamed named), outlineOption spread,
      outlineOption spreadNamed]

end

end Expr

namespace Target

mutual

/-- The labelled form of a target; `use` tells a name that is stored from a parameter. -/
def outline (use : String) : Target → Node
  | name _ id => node .name [text id, text use]
  | member _ s n => node .attributeRef [text s, text n]
  | tuple _ items => node .tuple [.list (outlineList use items), text use]

/-- The labelled forms of the targets in a tuple. -/
def outlineList (use : String) : List Target → List Field
  | [] => []
  | t :: ts => .node (t.outline use) :: outlineList use ts

end

end Target

namespace ImportName

/-- The labelled form of an imported name. -/
def outline (n : ImportName) : Field :=
  match n.rename with
  | none => text n.name
  | some r => .tuple [text n.name, text r]

end ImportName

namespace Stmt

/-- The labelled forms of parameters. -/
def outlineParams (params : List String) : Field :=
  .list (params.map fun p => .node (node .name [text p, text "param"]))

mutual

/-- The labelled form of a statement. -/
def outline : Stmt → Node
  | output _ parts => node .output [.list (Expr.outlineList parts)]
  | extend _ p => node .parent [.node p.outline]
  | loop _ t i body orElse test recursive =>
    node .loop [.node (t.outline "store"), .node i.outline, .list (outlineList body),
      .list (outlineList orElse), Expr.outlineOption test, flag recursive]
  | branch _ test body elifs orElse =>
    node .branch [.node test.outline, .list (outlineList body), .list (outlineList elifs),
      .list (outlineList orElse)]
  | macroDef _ name params defaults body =>
    node .macroDef [text name, outlineParams params, .list (Expr.outlineList defaults),
      .list (outlineList body)]
  | callBlock _ _ callee args params defaults body =>
    node .callBlock [
      .node (node .call (.node callee.outline :: Expr.outlineArgs args)), outlineParams params,
      .list (Expr.outlineList defaults), .list (outlineList body)]
  | filterBlock _ filter body =>
    node .filterBlock [.list (outlineList body), .node filter.outline]
  | withBlock _ bindings body =>
    node .withBlock [
      .list (bindings.map fun b => .node (b.1.outline "param")),
      .list (bindings.map fun b => .node b.2.outline), .list (outlineList body)]
  | block _ name body isScoped isRequired =>
    node .block [text name, .list (outlineList body), flag isScoped, flag isRequired]
  | inclusion _ t withContext ignoreMissing =>
    node .inclusion [.node t.outline, flag withContext, flag ignoreMissing]
  | importModule _ t target withContext =>
    node .moduleImport [.node t.outline, text target, flag withContext]
  | importNames _ t names withContext =>
    node .nameImport [.node t.outline, .list (names.map ImportName.outline), flag withContext]
  | exprStmt _ e => node .exprStmt [.node e.outline]
  | assign _ t e => node .assign [.node (t.outline "store"), .node e.outline]
  | assignBlock _ t filter body =>
    node .assignBlock [.node (t.outline "store"), Expr.outlineOption filter,
      .list (outlineList body)]
  | autoescape _ v body =>
    node .scope [.list [.node (node .optionScope [
      .list [.node (node .keyword [text "autoescape", .node v.outline])],
      .list (outlineList body)])]]
  | continueLoop _ => node .continueLoop []
  | breakLoop _ => node .breakLoop []
  | embed _ _ _ => node .inclusion [absent, flag true, flag false]
  | embedded _ key => node .inclusion [.node (Expr.embedCall key), flag true, flag false]

/-- The labelled forms of a list of statements. -/
def outlineList : List Stmt → List Field
  | [] => []
  | s :: ss => .node s.outline :: outlineList ss

end

end Stmt

end Stencil
