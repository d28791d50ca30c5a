import Stencil.Render.Fault
import Stencil.Value.Basic
import Stencil.Scope.Analysis
import Stencil.Embed.Registry
import Stencil.Environment.Cache
import Stencil.Environment.Loader
import Stencil.Render.Log

/-!
# The state of running templates

Everything that a template can change while it runs, or that outlives a run: cells of mutable
values, the variables of running functions, contexts, loaded templates with their cache, and the
registry of embedded templates. A failure leaves the state as it was when it happened.
-/

namespace Stencil

/-- A loaded template is known by its name, and by how many of that name were loaded before it. -/
structure TemplateId where
  name : Option String
  version : Nat
deriving DecidableEq

/-- The definition of a block in a loaded template. -/
structure BlockDef where
  template : TemplateId
  name : String
deriving DecidableEq

/-- What names mean while a template runs, and which blocks are in force. -/
structure Context where
  /-- The data that the template was given. -/
  parent : List (String × Value)
  /-- What the template has assigned itself. -/
  vars : List (String × Value) := []
  /-- The assigned names that other templates can import. -/
  exported : List String := []
  name : Option String
  /-- The names of the globals of the template. -/
  globalKeys : List String
  /-- The definitions of each block, the nearest first. -/
  blocks : List (String × List BlockDef)
  /-- Whether text is escaped at present. -/
  autoescape : Bool

/-- The variables of a running function. Variables of lower levels belong to the function around
it. -/
structure Activation where
  base : Nat
  slots : List (Variable × Value) := []
  outer : Option Nat := none
  /-- The template that the running template extends. -/
  extended : Option TemplateId := none

/-- Where a statement or expression is evaluated. -/
structure Frame where
  scope : Scope
  activation : Nat
  context : Nat
  /-- The name of the template. -/
  host : Option String
  /-- Whether text is escaped, as far as the text of the template tells. -/
  autoescape : Bool
  /-- Whether only the running template can tell. -/
  volatile : Bool := false
  /-- Directly in the template or in conditionals only. -/
  toplevel : Bool := false
  /-- Directly in the template. -/
  rootlevel : Bool := false
  /-- Output is dropped once the template extends another. -/
  checked : Bool := false
  /-- The depth of the sink that the function at work writes to. -/
  stream : Nat := 0
  /-- The text that a filter without a subject works on. -/
  captured : Option Value := none

/-- Collected output. Only texts can be joined; anything else makes the whole unsound. -/
structure Sink where
  text : String := ""
  sound : Bool := true

/-- The parts of a loop that can be run again on another sequence. -/
structure LoopBody where
  target : Target
  body : List Stmt
  orElse : List Stmt
  test : Option Expr
  /-- Where the loop stands. -/
  frame : Frame

/-- The state of a loop. -/
structure LoopCell where
  /-- The sequence as given. -/
  source : Value
  iterator : Nat
  /-- One less than the number of items seen. -/
  index0 : Int := -1
  before : Option Value := none
  current : Option Value := none
  /-- An item that was looked at ahead of time; `some none` stands for the end. -/
  ahead : Option (Option Value) := none
  length : Option Nat := none
  lastChanged : Option (List Value) := none
  depth0 : Nat := 0
  recurse : Option LoopBody := none

/-- A macro with the place it was defined in. -/
structure MacroCell where
  name : Option String
  params : List String
  defaults : List Expr
  body : List Stmt
  /-- The frame of the body; its activation is that of the definition. -/
  frame : Frame
  usesCaller : Bool
  usesKwargs : Bool
  usesVarargs : Bool

/-- The result of running a template for import. -/
structure ModuleCell where
  name : Option String
  exports : List (String × Value)
  body : Sink

/-- How the items of a sequence are turned into others. -/
inductive Mapping where
  /-- An attribute by its path, with a value for undefined results. -/
  | member (path : List Value) (default : Value)
  | filter (name : Value) (args : List Value) (named : List (String × Value))

/-- Which items of a sequence are kept. -/
structure Selection where
  keep : Bool
  path : List Value
  /-- A test with its arguments; without one the item itself decides. -/
  test : Option (Value × List Value)
  named : List (String × Value)

/-- What an iterator has still to give. -/
inductive IteratorCell where
  | items (rest : List Value)
  /-- A list that may still change. -/
  | listFrom (cell position : Nat)
  | rangeFrom (next stop step : Int)
  /-- Fails when asked for an item. -/
  | failing (f : Fault)
  /-- Not started: an empty source gives nothing at all. -/
  | mapNew (source : Value) (how : Except Fault Mapping) (context : Nat)
  | mapRest (source : Nat) (how : Mapping) (context : Nat)
  | selectNew (source : Value) (how : Except Fault Selection) (context : Nat)
  | selectRest (source : Nat) (how : Selection) (context : Nat)
  | unique (source : Nat) (caseSensitive : Bool) (path : List Value) (seen : List Value)
  /-- The items of a loop that pass its test. -/
  | tested (source : Nat) (target : Target) (test : Expr) (frame : Frame)
  | loopItems (loop : Nat)

/-- A loaded template. -/
structure LoadedTemplate where
  tree : Template
  /-- Its blocks by name. -/
  blocks : List (String × List Stmt)
  /-- Globals given when it was loaded, besides those of the environment. -/
  globals : List (String × Value)
  origin : Origin
  /-- The module made of it without a context, once there is one. -/
  module : Option Nat := none

/-- The fixed part of an environment. -/
structure Environment where
  options : Options := {}
  flavour : Flavour := .configured
  loader : Loader := .absent
  /-- How many compiled embeds are kept. -/
  embedLimit : Nat := 512

/-- What outlives a run: the environment, its sources, and what was loaded from them. -/
structure Library where
  env : Environment := {}
  store : Store := {}
  templates : List (TemplateId × LoadedTemplate) := []
  cache : TemplateCache TemplateId := { capacity := 400 }
  registry : Registry TemplateId := {}

/-- What running templates work on. -/
structure Heap where
  contexts : Array Context := #[]
  activations : Array Activation := #[]
  lists : Array (List Value) := #[]
  spaces : Array (List (String × Value)) := #[]
  cyclers : Array (List Value × Nat) := #[]
  joiners : Array (Value × Bool) := #[]
  iterators : Array IteratorCell := #[]
  loops : Array LoopCell := #[]
  macros : Array MacroCell := #[]
  modules : Array ModuleCell := #[]
  /-- Descriptions of undefined values. -/
  notes : Array Note := #[]
  /-- Where output goes, innermost first. -/
  sinks : List Sink := []

/-- The state. -/
structure World extends Library, Heap

/-- A computation that may fail, changes the state, and notes events. -/
abbrev Run := ExceptT Fault (StateT World Log)

namespace Run

def accident {α : Type} (a : Accident) : Run α :=
  throw (.accident a)

def badType {α : Type} : Run α := accident .badType

/-- Notes an event. -/
def record (e : Event) : Run Unit :=
  liftM (Log.note e)

/-- What a computation gives from a state, and the state that it leaves. -/
def exec {α : Type} (x : Run α) (w : World) : Except Fault α × World :=
  (x.run.run w).value

/-- What happens while a computation runs from a state, the latest first. -/
def events {α : Type} (x : Run α) (w : World) : List Event :=
  (x.run.run w).events

/-! ## Cells -/

def newList (items : List Value) : Run Value := do
  let w ← get
  set { w with lists := w.lists.push items }
  return .list w.lists.size

def listItems (cell : Nat) : Run (List Value) := do
  return (← get).lists.getD cell []

def setList (cell : Nat) (items : List Value) : Run Unit :=
  modify fun w => { w with lists := w.lists.setIfInBounds cell items }

def newIterator (c : IteratorCell) : Run Nat := do
  let w ← get
  set { w with iterators := w.iterators.push c }
  return w.iterators.size

def iterator (cell : Nat) : Run IteratorCell := do
  return (← get).iterators.getD cell (.items [])

def setIterator (cell : Nat) (c : IteratorCell) : Run Unit :=
  modify fun w => { w with iterators := w.iterators.setIfInBounds cell c }

def newNote (n : Note) : Run Nat := do
  let w ← get
  set { w with notes := w.notes.push n }
  return w.notes.size

def newContext (c : Context) : Run Nat := do
  let w ← get
  set { w with contexts := w.contexts.push c }
  return w.contexts.size

def context (cell : Nat) : Run Context := do
  match (← get).contexts[cell]? with
  | some c => return c
  | none => accident .brokenInvariant

def modifyContext (cell : Nat) (f : Context → Context) : Run Unit :=
  modify fun w => { w with contexts := w.contexts.modify cell f }

def newActivation (a : Activation) : Run Nat := do
  let w ← get
  set { w with activations := w.activations.push a }
  return w.activations.size

/-- Adds a template under a new version of its name. -/
def newTemplate (name : Option String) (t : LoadedTemplate) : Run TemplateId := do
  let w ← get
  let id : TemplateId := ⟨name, w.templates.countP fun e => e.1.name == name⟩
  set { w with templates := (id, t) :: w.templates }
  return id

def template (id : TemplateId) : Run LoadedTemplate := do
  match (← get).templates.lookup id with
  | some t => return t
  | none => accident .brokenInvariant

def modifyTemplate (id : TemplateId) (f : LoadedTemplate → LoadedTemplate) : Run Unit :=
  modify fun w => { w with
    templates := w.templates.map fun e => if e.1 == id then (e.1, f e.2) else e }

/-! ## Variables -/

/-- A bound for the number of functions around an activation, itself included: each of them starts
at a lower level than the one inside it. -/
def nestingOf (w : World) (activation : Nat) : Nat :=
  (w.activations[activation]?.map (·.base)).getD 0 + 1

/-- The activation that holds a variable: `fuel` bounds the number of enclosing functions. -/
def holder (w : World) (v : Variable) : (fuel : Nat) → (activation : Nat) → Nat
  | 0, a => a
  | fuel + 1, a =>
    match w.activations[a]? with
    | some act => if act.base ≤ v.level then a else holder w v fuel (act.outer.getD a)
    | none => a

/-- The value of a variable, if it has one. -/
def readVariable (activation : Nat) (v : Variable) : Run (Option Value) := do
  let w ← get
  let a := holder w v (nestingOf w activation) activation
  return (w.activations[a]?).bind fun act => act.slots.lookup v

/-- Gives a variable a value, or takes its value away. -/
def setVariable (activation : Nat) (v : Variable) (value : Option Value) : Run Unit := do
  let w ← get
  let a := holder w v (nestingOf w activation) activation
  modify fun w => { w with
    activations := w.activations.modify a fun act =>
      let others := act.slots.filter (·.1 != v)
      { act with slots := match value with
        | some x => (v, x) :: others
        | none => others } }

/-! ## Output -/

/-- Changes the sink at a depth counted from the outermost. -/
def updateSink (sinks : List Sink) (depth : Nat) (f : Sink → Sink) : List Sink :=
  match sinks with
  | [] => []
  | s :: rest => if sinks.length == depth then f s :: rest else s :: updateSink rest depth f

/-- Appends text to a sink. -/
def Sink.add (s : Sink) (text : String) : Sink :=
  { s with text := s.text ++ text }

/-- Writes text to the innermost sink. -/
def write (text : String) : Run Unit :=
  modify fun w => { w with sinks := match w.sinks with
    | s :: rest => Sink.add s text :: rest
    | [] => [] }

/-- Writes collected output to the sink of the function at work. -/
def writeStream (depth : Nat) (out : Sink) : Run Unit :=
  modify fun w => { w with sinks := updateSink w.sinks depth fun s =>
    { text := s.text ++ out.text, sound := s.sound && out.sound } }

/-- Writes a value as it is: only texts can be written so. -/
def writeValue (v : Value) : Run Unit :=
  match v with
  | .text s _ => write s
  | _ => modify fun w => { w with sinks := match w.sinks with
    | s :: rest => { s with sound := false } :: rest
    | [] => [] }

/-- Runs a computation with a sink of its own, and gives what it wrote. -/
def collect (act : Run Unit) : Run Sink := do
  modify fun w => { w with sinks := {} :: w.sinks }
  act
  let w ← get
  match w.sinks with
  | s :: rest =>
    set { w with sinks := rest }
    return s
  | [] => return {}

/-- The joined text of collected output. -/
def joined (s : Sink) : Run String :=
  if s.sound then return s.text else badType

/-- Like `collect`, for a computation with a result. -/
def collectWith {α : Type} (act : Run α) : Run (α × Sink) := do
  modify fun w => { w with sinks := {} :: w.sinks }
  let a ← act
  let w ← get
  match w.sinks with
  | s :: rest =>
    set { w with sinks := rest }
    return (a, s)
  | [] => return (a, {})

/-- Runs a computation and gives the text that it wrote. -/
def capture (act : Run Unit) : Run String := do
  joined (← collect act)

/-! ## Undefined values -/

/-- Why a value is undefined, in words. -/
def describe (why : Missing) : Run String := do
  return why.message (← get).notes

/-- An undefined value of the environment's kind. -/
def undefined (why : Missing) : Run Value := do
  return .undefined (← get).env.options.undefinedKind why

end Run

end Stencil
