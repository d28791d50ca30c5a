import Stencil.Render.Engine
import Stencil.Text.Markup

/-!
# The text of values

A value prints as itself if it is text, as nothing if it is undefined (depending on the kind), and
as a literal otherwise. Inside lists, tuples and dictionaries every value is shown as a literal.
-/

namespace Stencil

namespace Run

/-- Fails with the message of an undefined value. -/
def failUndefined {α : Type} (why : Missing) : Run α :=
  do throw (.undefined (← describe why))

/-- Collects the rest of an iterator; `fuel` bounds the number of items. -/
def drainFrom (eng : Engine) (iterator : Nat) : (fuel : Nat) → (done : List Value) →
    Run (List Value)
  | 0, _ => accident .tooDeep
  | fuel + 1, done => do
    match ← eng.next iterator with
    | some v => drainFrom eng iterator fuel (v :: done)
    | none => return done.reverse

/-- The largest number of items that an iterator is followed for. -/
def itemLimit : Nat := 1000000

/-- The rest of an iterator as a list. -/
def drain (eng : Engine) (iterator : Nat) : Run (List Value) :=
  drainFrom eng iterator itemLimit []

end Run

/-- The numbers of a range. -/
def rangeItems (start stop step : Int) : List Int :=
  if step == 0 then []
  else
    let count := if step > 0 then (stop - start + step - 1).fdiv step
      else (start - stop - step - 1).fdiv (-step)
    (List.range count.toNat).map fun (i : Nat) => start + step * i

/-- How many numbers a range has. -/
def rangeLength (start stop step : Int) : Nat :=
  if step == 0 then 0
  else if step > 0 then ((stop - start + step - 1).fdiv step).toNat
  else ((start - stop - step - 1).fdiv (-step)).toNat

namespace LoopCell

/-- The length of a sequence that knows it. -/
def sizeOf? (v : Value) : Run (Option Nat) := do
  match v with
  | .text s _ => return some s.length
  | .tuple items => return some items.length
  | .view _ items => return some items.length
  | .dict entries => return some entries.length
  | .list cell => return some (← Run.listItems cell).length
  | .range a b s => return some (rangeLength a b s)
  | .undefined .strict why => Run.failUndefined why
  | .undefined _ _ => return some 0
  | _ => return none

/-- The number of items of a loop. If the sequence does not know it, the rest is collected. -/
def measure (eng : Engine) (cell : Nat) : Run Nat := do
  match (← get).loops[cell]? with
  | none => return 0
  | some l =>
    match l.length with
    | some n => return n
    | none =>
      let n ← match ← sizeOf? l.source with
        | some n => pure n
        | none => do
          let rest ← Run.drain eng l.iterator
          let it ← Run.newIterator (.items rest)
          modify fun w => { w with loops := w.loops.modify cell fun l => { l with iterator := it } }
          let pending := match l.ahead with
            | some (some _) => 1
            | _ => 0
          pure (rest.length + (l.index0 + 1).toNat + pending)
      modify fun w => { w with loops := w.loops.modify cell fun l => { l with length := some n } }
      return n

end LoopCell

namespace Value

/-- The literal of a value. -/
def literal (eng : Engine) : (fuel : Nat) → Value → Run String
  | 0, _ => Run.accident .tooDeep
  | fuel + 1, v => do
    match v with
    | .none => return "None"
    | .bool b => return if b then "True" else "False"
    | .int n => return toString n
    | .float x => return x.text
    | .text s false => return quote s
    | .text s true => return "Markup(" ++ quote s ++ ")"
    | .tuple items =>
      match ← items.mapM (literal eng fuel) with
      | [s] => return "(" ++ s ++ ",)"
      | ss => return "(" ++ Datum.commaJoin ss ++ ")"
    | .list cell => return "[" ++ Datum.commaJoin (← (← Run.listItems cell).mapM (literal eng fuel)) ++ "]"
    | .view label items =>
      return label ++ "([" ++ Datum.commaJoin (← items.mapM (literal eng fuel)) ++ "])"
    | .dict entries =>
      let parts ← entries.mapM fun (k, x) => do
        return (← literal eng fuel k) ++ ": " ++ (← literal eng fuel x)
      return "\x7b" ++ Datum.commaJoin parts ++ "\x7d"
    | .range a b s =>
      return "range(" ++ toString a ++ ", " ++ toString b ++
        (if s == 1 then ")" else ", " ++ toString s ++ ")")
    | .undefined _ _ => return "Undefined"
    | .space cell =>
      let attrs := (← get).spaces.getD cell []
      let parts ← attrs.mapM fun (k, x) => do return quote k ++ ": " ++ (← literal eng fuel x)
      return "<Namespace \x7b" ++ Datum.commaJoin parts ++ "\x7d>"
    | .loop cell =>
      let n ← LoopCell.measure eng cell
      let index := ((← get).loops[cell]?.map fun l => l.index0 + 1).getD 0
      return "<LoopContext " ++ toString index ++ "/" ++ toString n ++ ">"
    | .macroRef cell =>
      match ((← get).macros[cell]?).bind (·.name) with
      | some name => return "<Macro " ++ quote name ++ ">"
      | .none => return "<Macro anonymous>"
    | .module cell =>
      match ((← get).modules[cell]?).bind (·.name) with
      | some name => return "<TemplateModule " ++ quote name ++ ">"
      | .none => return "<TemplateModule memory>"
    | .self ctx =>
      Run.record (.reference ctx)
      match (← Run.context ctx).name with
      | some name => return "<TemplateReference " ++ quote name ++ ">"
      | .none => return "<TemplateReference None>"
    | .function .range => return "<class 'range'>"
    | .function .dict => return "<class 'dict'>"
    | .function .makeSpace => return "<class 'jinja2.utils.Namespace'>"
    | .function .cycler => return "<class 'jinja2.utils.Cycler'>"
    | .function .joiner => return "<class 'jinja2.utils.Joiner'>"
    | v => return "<" ++ v.typeName ++ ">"

/-- The literal of a value. -/
def repr (eng : Engine) (v : Value) : Run String :=
  literal eng valueDepth v

/-- The text of a value. -/
def str (eng : Engine) (v : Value) : Run String := do
  match v with
  | .text s _ => return s
  | .undefined .strict why => Run.failUndefined why
  | .undefined .debug why =>
    let w ← get
    return if w.env.options.undefinedKind == .debug then why.debugText w.notes else ""
  | .undefined _ _ => return ""
  | .module cell =>
    match (← get).modules[cell]? with
    | some m => Run.joined m.body
    | .none => return ""
  | v => repr eng v

/-- Whether a value has a markup form of its own. -/
def hasMarkup : Value → Bool
  | .text _ safe => safe
  | .module _ => true
  | .undefined .chainable _ => true
  | _ => false

/-- The text of a value as safe text: what has a markup form is taken as it is. -/
def escaped (eng : Engine) (v : Value) : Run String := do
  let s ← str eng v
  return if v.hasMarkup then s else Markup.escape s

/-- The value itself if it is text, and otherwise its text. -/
def soft (eng : Engine) (v : Value) : Run Value := do
  match v with
  | .text _ _ => return v
  | v => return .plain (← str eng v)

/-- Whether a value counts as true. -/
def truth (eng : Engine) (v : Value) : Run Bool := do
  match v with
  | .none => return false
  | .bool b => return b
  | .int n => return n != 0
  | .float x => return !x.isZero
  | .text s _ => return !s.isEmpty
  | .tuple items => return !items.isEmpty
  | .view _ items => return !items.isEmpty
  | .list cell => return !(← Run.listItems cell).isEmpty
  | .dict entries => return !entries.isEmpty
  | .range a b s => return rangeLength a b s != 0
  | .undefined .strict why => Run.failUndefined why
  | .undefined _ _ => return false
  | .loop cell => return (← LoopCell.measure eng cell) != 0
  | _ => return true

/-- A plain value as a value of a running template. -/
def ofDatum : (fuel : Nat) → Datum → Run Value
  | 0, _ => Run.accident .tooDeep
  | fuel + 1, d => do
    match d with
    | .null => return .none
    | .bool b => return .bool b
    | .int n => return .int n
    | .float x => return .float x
    | .text s => return .plain s
    | .list items => Run.newList (← items.mapM (ofDatum fuel))
    | .object fields =>
      return .dict (← fields.mapM fun (k, v) => do return (Value.plain k, ← ofDatum fuel v))

/-- The plain value of a literal, as far as it has one. -/
def toDatum : Value → Datum
  | .none => .null
  | .bool b => .bool b
  | .int n => .int n
  | .float x => .float x
  | .text s _ => .text s
  | .tuple items => .list (toData items)
  | _ => .null
where
  /-- The plain values of several values. -/
  toData : List Value → List Datum
    | [] => []
    | v :: vs => toDatum v :: toData vs

end Value

end Stencil
