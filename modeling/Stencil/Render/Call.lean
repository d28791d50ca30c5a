import Stencil.Render.Loop
import Stencil.Render.Macro

/-!
# Calls

What calling a value does: the functions that every template has, methods of values, macros, blocks
and recursive loops.
-/

namespace Stencil

namespace Call

/-- The integer that an argument must be. -/
def integer (v : Value) : Run Int :=
  match v.integer? with
  | some n => return n
  | none => Run.badType

/-- A call that takes no named arguments. -/
def positional (named : Named) (act : Run Value) : Run Value :=
  if named.isEmpty then act else Run.badType

def range (args : List Value) : Run Value := do
  match args with
  | [stop] => return .range 0 (← integer stop) 1
  | [start, stop] => return .range (← integer start) (← integer stop) 1
  | [start, stop, step] =>
    let a ← integer start
    let b ← integer stop
    let s ← integer step
    if s == 0 then Run.accident .badValue else return .range a b s
  | _ => Run.badType

/-- The entries that a value gives for a dictionary: those of another one, or pairs. -/
def entriesOf (eng : Engine) (v : Value) : Run (List (Value × Value)) := do
  match v with
  | .dict entries => return entries
  | .undefined _ why => Run.failUndefined why
  | v =>
    (← Run.itemsOf eng v).mapM fun item => do
      match ← Run.itemsOf eng item with
      | [k, x] => return (k, x)
      | _ => Run.accident .badValue

/-- The entries that the positional arguments give for a dictionary. -/
def startOf (eng : Engine) (args : List Value) : Run (List (Value × Value)) :=
  match args with
  | [] => return []
  | [v] => entriesOf eng v
  | _ => Run.badType

/-- A dictionary made of at most one value and of named arguments. -/
def dict (eng : Engine) (args : List Value) (named : Named) : Run (List (Value × Value)) := do
  let start ← startOf eng args
  match ← Value.ofEntries (start ++ named.map fun n => (.plain n.1, n.2)) with
  | .dict entries => return entries
  | _ => return []

/-- A namespace with attributes like a dictionary. -/
def makeSpace (eng : Engine) (args : List Value) (named : Named) : Run Value := do
  let entries ← dict eng args named
  let attributes := entries.filterMap fun (k, v) => match k with
    | .text name _ => some (name, v)
    | _ => none
  let w ← get
  set { w with spaces := w.spaces.push attributes }
  return .space w.spaces.size

/-- A cycler needs something to cycle through. -/
def makeCycler (args : List Value) : Run Value := do
  if args.isEmpty then Run.accident .misuse
  else
    let w ← get
    set { w with cyclers := w.cyclers.push (args, 0) }
    return .cycler w.cyclers.size

def makeJoiner (args : List Value) (named : Named) : Run Value := do
  match ← Run.bindParams [⟨"sep", some (.plain ", ")⟩] args named with
  | [sep] =>
    let w ← get
    set { w with joiners := w.joiners.push (sep, false) }
    return .joiner w.joiners.size
  | _ => Run.badType

/-- A joiner gives nothing the first time, and its separator from then on. -/
def useJoiner (cell : Nat) : Run Value := do
  match (← get).joiners[cell]? with
  | some (sep, true) => return sep
  | some (sep, false) =>
    modify fun w => { w with joiners := w.joiners.setIfInBounds cell (sep, true) }
    return .plain ""
  | none => Run.badType

/-- A global function. -/
def function (eng : Engine) (f : GlobalFunction) (args : List Value) (named : Named) :
    Run Value := do
  match f with
  | .range => positional named (range args)
  | .dict => return .dict (← dict eng args named)
  | .makeSpace => makeSpace eng args named
  | .cycler => positional named (makeCycler args)
  | .joiner => makeJoiner args named
  | .lipsum => Run.accident .misuse

/-- The parts of a text between separators, or its words, at most some of them split off. -/
def parts (s : String) (sep : Value) (limit : Option Nat) : Run (List (List Char)) := do
  match sep with
  | .none =>
    return match limit with
      | some n => Text.wordsUpTo n s.toList
      | none => Text.words s.toList
  | .text sep _ =>
    if sep.isEmpty then Run.accident .badValue
    else return Text.splitFrom sep.toList (s.length + 1) limit s.toList
  | _ => Run.badType

/-- The parts of a text as a list. -/
def split (s : String) (safe : Bool) (args : List Value) (named : Named) : Run Value := do
  match ← Run.bindParams [⟨"sep", some .none⟩, ⟨"maxsplit", some (.int (-1))⟩] args named with
  | [sep, limit] =>
    let limit ← integer limit
    let found ← parts s sep (if limit < 0 then none else some limit.toNat)
    Run.newList (found.map fun cs => .text (String.ofList cs) safe)
  | _ => Run.badType

/-- The next item of a cycler. -/
def cycle (cell : Nat) : Run Value := do
  match (← get).cyclers[cell]? with
  | some (items, pos) =>
    modify fun w => { w with
      cyclers := w.cyclers.setIfInBounds cell (items, (pos + 1) % items.length) }
    return items.getD pos .none
  | none => Run.badType

/-- Whether values are those of the last time, if there was one. -/
def isRepeated (last : Option (List Value)) (args : List Value) : Run Bool :=
  match last with
  | some before => Value.equalLists before args
  | none => return false

/-- Whether the values differ from those of the last time. -/
def loopChanged (cell : Nat) (args : List Value) : Run Value := do
  match (← get).loops[cell]? with
  | none => Run.badType
  | some l =>
    if ← isRepeated l.lastChanged args then return .bool false
    else
      modify fun w => { w with
        loops := w.loops.modify cell fun l => { l with lastChanged := some args } }
      return .bool true

/-- The argument that belongs to the present turn of a loop. -/
def loopCycle (cell : Nat) (args : List Value) : Run Value := do
  match (← get).loops[cell]? with
  | none => Run.badType
  | some l =>
    if args.isEmpty then Run.badType
    else return args.getD (l.index0.fmod args.length).toNat .none

/-- A call that takes no arguments. -/
def alone (args : List Value) (named : Named) (act : Run Value) : Run Value :=
  positional named (if args.isEmpty then act else Run.badType)

/-- A method of a value. -/
def method (receiver : Value) (name : String) (args : List Value) (named : Named) : Run Value := do
  match receiver, name with
  | .dict entries, "get" => positional named do
    match args with
    | [key] => return (← Value.lookup key entries).getD .none
    | [key, default] => return (← Value.lookup key entries).getD default
    | _ => Run.badType
  | .dict entries, "items" => alone args named do
    return .view "dict_items" (entries.map fun (k, v) => .tuple [k, v])
  | .dict entries, "keys" => alone args named do
    return .view "dict_keys" (entries.map (·.1))
  | .dict entries, "values" => alone args named do
    return .view "dict_values" (entries.map (·.2))
  | .text s safe, "split" => split s safe args named
  | .list cell, "append" => positional named do
    match args with
    | [v] =>
      Run.setList cell ((← Run.listItems cell) ++ [v])
      return .none
    | _ => Run.badType
  | .cycler cell, "next" => alone args named (cycle cell)
  | .cycler cell, "reset" => alone args named do
    modify fun w => { w with cyclers := w.cyclers.modify cell fun c => (c.1, 0) }
    return .none
  | .loop cell, "cycle" => positional named (loopCycle cell args)
  | .loop cell, "changed" => positional named (loopChanged cell args)
  | _, _ => Run.accident .misuse

/-- Runs a block by reference; what it writes is safe if text is escaped in its context. -/
def block (eng : Engine) (context : Nat) (name : String) (depth : Nat) : Run Value := do
  let text ← Run.capture (eng.block name depth context)
  return .text text (← Run.context context).autoescape

/-- Calls a recursive loop again. -/
def loop (eng : Engine) (cell : Nat) (args : List Value) (named : Named) : Run Value := do
  match ← Run.bindParams [⟨"iterable", none⟩] args named with
  | [source] =>
    match (← get).loops[cell]? with
    | none => Run.badType
    | some l =>
      match l.recurse with
      | none => Run.badType
      | some body => Run.runRecursive eng body source (l.depth0 + 1)
  | _ => Run.badType

/-- Calls a value from a context. -/
def value (eng : Engine) (context : Nat) (callee : Value) (args : List Value) (named : Named) :
    Run Value := do
  match callee with
  | .function f => function eng f args named
  | .method receiver name => method receiver name args named
  | .joiner cell =>
    if args.isEmpty && named.isEmpty then useJoiner cell else Run.badType
  | .loop cell => loop eng cell args named
  | .macroRef cell =>
    match (← get).macros[cell]? with
    | some m => Run.callMacro eng m (← Run.context context).autoescape args named
    | none => Run.badType
  | .block ctx name depth =>
    if args.isEmpty && named.isEmpty then block eng ctx name depth else Run.badType
  | .undefined _ why => Run.failUndefined why
  | _ => Run.badType

end Call

end Stencil
