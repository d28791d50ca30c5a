import Stencil.Node.Basic

/-!
# The written form of a tree

A node is written as its kind with its fields in parentheses, a list in brackets, and anything else
as its literal. Line numbers are no part of it, so that equal parts of a template have equal forms
wherever they stand.
-/

namespace Stencil

namespace Field

/-- The literal of a tuple; one item is followed by a comma. -/
def tupleText : List String → String
  | [s] => "(" ++ s ++ ",)"
  | ss => "(" ++ Datum.commaJoin ss ++ ")"

end Field

namespace Node

mutual

/-- The written form of a node. -/
def dump : Node → String
  | .mk kind fields _ => "nodes." ++ kind.label ++ "(" ++ Datum.commaJoin (dumpFields fields) ++ ")"

/-- The written forms of a node's fields. -/
def dumpFields : List (String × Field) → List String
  | [] => []
  | (_, f) :: fs => dumpField f :: dumpFields fs

/-- The written form of a field's content. -/
def dumpField : Field → String
  | .node n => dump n
  | .list items => "[" ++ Datum.commaJoin (dumpItems items) ++ "]"
  | .tuple items => Field.tupleText (dumpItems items)
  | .datum d => d.literal

/-- The written forms of list items. -/
def dumpItems : List Field → List String
  | [] => []
  | f :: fs => dumpField f :: dumpItems fs

end

end Node

end Stencil
