import Stencil.Data.Basic

/-!
# Labelled trees

The form in which a parsed template is shown and searched: nodes of a fixed set of kinds, each kind
with a fixed order of fields. A field holds a node, a list, a tuple or a plain value, and may be
unset. A template's node also lists the templates embedded in it.
-/

namespace Stencil

/-- Node kinds: the template, then statements, expressions and parts of expressions. -/
inductive Kind where
  | template
  | output
  | parent
  | loop
  | branch
  | macroDef
  | callBlock
  | filterBlock
  | withBlock
  | block
  | inclusion
  | moduleImport
  | nameImport
  | exprStmt
  | assign
  | assignBlock
  | continueLoop
  | breakLoop
  | scope
  | overlayScope
  | optionScope
  | name
  | attributeRef
  | const
  | data
  | tuple
  | list
  | dict
  | condition
  | filter
  | test
  | call
  | getItem
  | getAttribute
  | slice
  | concat
  | compare
  | add
  | sub
  | mul
  | div
  | floorDiv
  | mod
  | pow
  | and
  | or
  | not
  | neg
  | pos
  | markSafe
  | extensionAttribute
  | pair
  | keyword
  | operand
deriving DecidableEq

namespace Kind

/-- The name under which a kind is shown. -/
def label : Kind → String
  | template => "Template"
  | output => "Output"
  | parent => "Extends"
  | loop => "For"
  | branch => "If"
  | macroDef => "Macro"
  | callBlock => "CallBlock"
  | filterBlock => "FilterBlock"
  | withBlock => "With"
  | block => "Block"
  | inclusion => "Include"
  | moduleImport => "Import"
  | nameImport => "FromImport"
  | exprStmt => "ExprStmt"
  | assign => "Assign"
  | assignBlock => "AssignBlock"
  | continueLoop => "Continue"
  | breakLoop => "Break"
  | scope => "Scope"
  | overlayScope => "OverlayScope"
  | optionScope => "ScopedEvalContextModifier"
  | name => "Name"
  | attributeRef => "NSRef"
  | const => "Const"
  | data => "TemplateData"
  | tuple => "Tuple"
  | list => "List"
  | dict => "Dict"
  | condition => "CondExpr"
  | filter => "Filter"
  | test => "Test"
  | call => "Call"
  | getItem => "Getitem"
  | getAttribute => "Getattr"
  | slice => "Slice"
  | concat => "Concat"
  | compare => "Compare"
  | add => "Add"
  | sub => "Sub"
  | mul => "Mul"
  | div => "Div"
  | floorDiv => "FloorDiv"
  | mod => "Mod"
  | pow => "Pow"
  | and => "And"
  | or => "Or"
  | not => "Not"
  | neg => "Neg"
  | pos => "Pos"
  | markSafe => "MarkSafe"
  | extensionAttribute => "ExtensionAttribute"
  | pair => "Pair"
  | keyword => "Keyword"
  | operand => "Operand"

/-- The fields of a kind, in their order. -/
def fields : Kind → List String
  | template => ["body"]
  | output => ["nodes"]
  | parent => ["template"]
  | loop => ["target", "iter", "body", "else_", "test", "recursive"]
  | branch => ["test", "body", "elif_", "else_"]
  | macroDef => ["name", "args", "defaults", "body"]
  | callBlock => ["call", "args", "defaults", "body"]
  | filterBlock => ["body", "filter"]
  | withBlock => ["targets", "values", "body"]
  | block => ["name", "body", "scoped", "required"]
  | inclusion => ["template", "with_context", "ignore_missing"]
  | moduleImport => ["template", "target", "with_context"]
  | nameImport => ["template", "names", "with_context"]
  | exprStmt => ["node"]
  | assign => ["target", "node"]
  | assignBlock => ["target", "filter", "body"]
  | continueLoop => []
  | breakLoop => []
  | scope => ["body"]
  | overlayScope => ["context", "body"]
  | optionScope => ["options", "body"]
  | name => ["name", "ctx"]
  | attributeRef => ["name", "attr"]
  | const => ["value"]
  | data => ["data"]
  | tuple => ["items", "ctx"]
  | list => ["items"]
  | dict => ["items"]
  | condition => ["test", "expr1", "expr2"]
  | filter => ["node", "name", "args", "kwargs", "dyn_args", "dyn_kwargs"]
  | test => ["node", "name", "args", "kwargs", "dyn_args", "dyn_kwargs"]
  | call => ["node", "args", "kwargs", "dyn_args", "dyn_kwargs"]
  | getItem => ["node", "arg", "ctx"]
  | getAttribute => ["node", "attr", "ctx"]
  | slice => ["start", "stop", "step"]
  | concat => ["nodes"]
  | compare => ["expr", "ops"]
  | add => ["left", "right"]
  | sub => ["left", "right"]
  | mul => ["left", "right"]
  | div => ["left", "right"]
  | floorDiv => ["left", "right"]
  | mod => ["left", "right"]
  | pow => ["left", "right"]
  | and => ["left", "right"]
  | or => ["left", "right"]
  | not => ["node"]
  | neg => ["node"]
  | pos => ["node"]
  | markSafe => ["expr"]
  | extensionAttribute => ["identifier", "name"]
  | pair => ["key", "value"]
  | keyword => ["key", "value"]
  | operand => ["op", "expr"]

/-- All kinds. -/
def all : List Kind := [
  template, output, parent, loop, branch, macroDef, callBlock, filterBlock, withBlock, block,
  inclusion, moduleImport, nameImport, exprStmt, assign, assignBlock, continueLoop,
  breakLoop, scope, overlayScope, optionScope, name, attributeRef, const, data, tuple, list,
  dict, condition, filter, test, call, getItem, getAttribute, slice, concat, compare, add,
  sub, mul, div, floorDiv, mod, pow, and, or, not, neg, pos, markSafe, extensionAttribute,
  pair, keyword, operand]

/-- The kind with the given name. -/
def ofLabel? (s : String) : Option Kind :=
  all.find? fun k => k.label == s

/-- The family that a kind belongs to. -/
inductive Family where
  | root
  | statement
  | expression
  | helper
deriving DecidableEq

def family : Kind → Family
  | template => .root
  | output | parent | loop | branch | macroDef | callBlock | filterBlock | withBlock | block
    | inclusion | moduleImport | nameImport | exprStmt | assign | assignBlock | continueLoop
    | breakLoop | scope | overlayScope | optionScope => .statement
  | pair | keyword | operand => .helper
  | _ => .expression

/-- The groups of expressions that have a name of their own. -/
inductive Group where
  | binary
  | unary
  | literal
  | filtering
deriving DecidableEq

/-- The group that a kind belongs to, if it belongs to one. -/
def group? : Kind → Option Group
  | add | sub | mul | div | floorDiv | mod | pow | and | or => some .binary
  | not | neg | pos => some .unary
  | const | data | tuple | list | dict => some .literal
  | filter | test => some .filtering
  | _ => none

end Kind

mutual

/-- A node: its kind, the fields that are set, in the order of the kind, and the templates embedded
in it. -/
inductive Node where
  | mk (kind : Kind) (fields : List (String × Field)) (embedded : List Node)

/-- The content of a field. -/
inductive Field where
  | node (n : Node)
  | list (items : List Field)
  | tuple (items : List Field)
  | datum (d : Datum)

end

namespace Node

def kind : Node → Kind
  | mk k _ _ => k

/-- The fields that are set. -/
def fields : Node → List (String × Field)
  | mk _ fs _ => fs

/-- The templates embedded in a template. -/
def embedded : Node → List Node
  | mk _ _ es => es

/-- The content of a field, if it is set. -/
def field? (n : Node) (name : String) : Option Field :=
  n.fields.lookup name

/-- A node with the given fields of its kind, put in order; fields of other names are left out. -/
def build (kind : Kind) (given : List (String × Field)) (embedded : List Node) : Node :=
  mk kind (kind.fields.filterMap fun f => (given.lookup f).map (f, ·)) embedded

end Node

mutual

/-- A field's content as a plain value. Lists and tuples become lists; a node has no plain value. -/
def Field.toDatum : Field → Datum
  | .node _ => .null
  | .list items => .list (toData items)
  | .tuple items => .list (toData items)
  | .datum d => d

/-- The plain values of list items. -/
def Field.toData : List Field → List Datum
  | [] => []
  | f :: fs => f.toDatum :: toData fs

end

end Stencil
