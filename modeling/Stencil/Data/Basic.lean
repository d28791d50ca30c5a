import Stencil.Decimal.Shortest
import Stencil.Text.Quoted

/-!
# Plain data

Values as they come from settings, from a template's literals and from the data handed to a
template: null, booleans, integers of any size, floating point numbers, texts, lists, and objects
whose fields keep their order.
-/

namespace Stencil

/-- A plain value. -/
inductive Datum where
  | null
  | bool (b : Bool)
  | int (n : Int)
  | float (x : Binary64)
  | text (s : String)
  | list (items : List Datum)
  | object (fields : List (String × Datum))

namespace Datum

/-- The texts joined by commas, each after the first behind a blank. -/
def commaJoin (parts : List String) : String :=
  String.intercalate ", " parts

mutual

/-- The literal of a value: texts are quoted, also inside lists and objects. -/
def literal : Datum → String
  | null => "None"
  | bool true => "True"
  | bool false => "False"
  | int n => toString n
  | float x => x.text
  | text s => quote s
  | list items => "[" ++ commaJoin (literals items) ++ "]"
  | object fields => "\x7b" ++ commaJoin (fieldLiterals fields) ++ "\x7d"

/-- The literals of list items. -/
def literals : List Datum → List String
  | [] => []
  | d :: ds => literal d :: literals ds

/-- The literals of an object's fields. -/
def fieldLiterals : List (String × Datum) → List String
  | [] => []
  | (k, d) :: ds => (quote k ++ ": " ++ literal d) :: fieldLiterals ds

end

/-- The text of a value: a text stands for itself, anything else is written as its literal. -/
def display : Datum → String
  | text s => s
  | d => d.literal

/-- The value of a text, and `none` for any other value. -/
def text? : Datum → Option String
  | text s => some s
  | _ => none

end Datum

end Stencil
