import Stencil.Data.Basic
import Stencil.Environment.Options

/-!
# Values of a running template

Values that a template computes with. Lists can be changed in place, so a list is a reference to a
cell; the same holds for namespaces, cyclers, joiners, loops, iterators, macros and modules. All
other values are written out.
-/

namespace Stencil

/-- A line of a template, under the name of the template if it has one. -/
structure Position where
  host : Option String
  line : Nat
deriving DecidableEq

/-- A position as it is mentioned in messages. -/
def Position.text (p : Position) : String :=
  "line " ++ toString p.line ++ (match p.host with
    | some name => " in " ++ quote name
    | none => "")

/-- A description that mentions where in a template something happened. -/
inductive Note where
  /-- A condition without an alternative did not hold. -/
  | noAlternative (position : Position)
  /-- A template does not have a name that was imported from it. -/
  | notExported (module : Option String) (position : Position) (name : String)
deriving DecidableEq

def Note.text : Note → String
  | noAlternative position =>
    "the inline if-expression on " ++ position.text ++
      " evaluated to false and no else section was defined."
  | notExported module position name =>
    "the template " ++ module.elim "None" quote ++ " (imported on " ++ position.text ++
      ") does not export the requested name " ++ quote name

/-- Why a value is undefined. -/
inductive Missing where
  /-- A description of its own. -/
  | hint (text : String)
  /-- A description that is kept with the state, by its number. -/
  | noted (cell : Nat)
  | name (name : String)
  /-- No such attribute on a value of the described type. -/
  | member (owner : String) (name : String)
  /-- No such element, by its literal, in a value of the described type. -/
  | element (owner : String) (key : String)
deriving DecidableEq

namespace Missing

/-- The text of a description that is kept among others. -/
def noteText (notes : Array Note) (cell : Nat) : String :=
  (notes[cell]?.map Note.text).getD ""

def message (notes : Array Note) : Missing → String
  | hint t => t
  | noted cell => noteText notes cell
  | name n => quote n ++ " is undefined"
  | member owner n => quote owner ++ " has no attribute " ++ quote n
  | element owner k => owner ++ " has no element " ++ k

/-- How an undefined value prints where that is meant for debugging. -/
def debugText (notes : Array Note) : Missing → String
  | hint t => "\x7b\x7b undefined value printed: " ++ t ++ " \x7d\x7d"
  | noted cell => "\x7b\x7b undefined value printed: " ++ noteText notes cell ++ " \x7d\x7d"
  | name n => "\x7b\x7b " ++ n ++ " \x7d\x7d"
  | member owner n => "\x7b\x7b no such element: " ++ owner ++ "[" ++ quote n ++ "] \x7d\x7d"
  | element owner k => "\x7b\x7b no such element: " ++ owner ++ "[" ++ k ++ "] \x7d\x7d"

end Missing

/-- Functions that every template can call. -/
inductive GlobalFunction where
  | range | dict | makeSpace | cycler | joiner | lipsum
deriving DecidableEq

/-- A value. -/
inductive Value where
  | none
  | bool (b : Bool)
  | int (n : Int)
  | float (x : Binary64)
  /-- A text; `safe` text is not escaped again. -/
  | text (s : String) (safe : Bool)
  | tuple (items : List Value)
  | list (cell : Nat)
  /-- A dictionary, in order of insertion. -/
  | dict (entries : List (Value × Value))
  | range (start stop step : Int)
  /-- The items, keys or values of a dictionary, under the name of the view. -/
  | view (label : String) (items : List Value)
  | undefined (kind : UndefinedKind) (why : Missing)
  | function (f : GlobalFunction)
  /-- A method taken from a value. -/
  | method (receiver : Value) (name : String)
  | space (cell : Nat)
  | cycler (cell : Nat)
  | joiner (cell : Nat)
  | iterator (cell : Nat)
  | loop (cell : Nat)
  | macroRef (cell : Nat)
  | module (cell : Nat)
  /-- The definition of a block at some distance from the nearest one, in a context. -/
  | block (context : Nat) (name : String) (depth : Nat)
  /-- The blocks of a running template, by name. -/
  | self (context : Nat)
  /-- A slice used as a key. -/
  | slice (start stop step : Value)

namespace Value

instance : Inhabited Value := ⟨.none⟩

/-- Plain text. -/
def plain (s : String) : Value := .text s false

/-- Text that is not escaped again. -/
def safe (s : String) : Value := .text s true

/-- The type of a value, as it is called in messages. -/
def typeName : Value → String
  | none => "None"
  | bool _ => "bool object"
  | int _ => "int object"
  | float _ => "float object"
  | text _ false => "str object"
  | text _ true => "markupsafe.Markup object"
  | tuple _ => "tuple object"
  | list _ => "list object"
  | dict _ => "dict object"
  | range _ _ _ => "range object"
  | view label _ => label ++ " object"
  | undefined _ _ => "jinja2.runtime.Undefined object"
  | function .range => "type object"
  | function .dict => "type object"
  | function .lipsum => "function object"
  | function _ => "type object"
  | method _ _ => "builtin_function_or_method object"
  | space _ => "jinja2.utils.Namespace object"
  | cycler _ => "jinja2.utils.Cycler object"
  | joiner _ => "jinja2.utils.Joiner object"
  | iterator _ => "generator object"
  | loop _ => "jinja2.runtime.LoopContext object"
  | macroRef _ => "jinja2.runtime.Macro object"
  | module _ => "jinja2.environment.TemplateModule object"
  | block _ _ _ => "jinja2.runtime.BlockReference object"
  | self _ => "jinja2.runtime.TemplateReference object"
  | slice _ _ _ => "slice object"

/-- Whether a value is undefined. -/
def isUndefined : Value → Bool
  | undefined _ _ => true
  | _ => false

end Value

end Stencil
