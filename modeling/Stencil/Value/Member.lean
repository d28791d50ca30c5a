import Stencil.Value.Arithmetic

/-!
# Members, items and slices

`x.name` is an attribute of `x` or, failing that, its item `name`; `x[key]` is an item or, for a
text key, failing that an attribute. Where there is neither the result is undefined.
-/

namespace Stencil

namespace Value

/-- The methods of texts. -/
def textMethods : List String :=
  ["capitalize", "casefold", "center", "count", "encode", "endswith", "expandtabs", "find",
    "format", "format_map", "index", "isalnum", "isalpha", "isascii", "isdecimal", "isdigit",
    "isidentifier", "islower", "isnumeric", "isprintable", "isspace", "istitle", "isupper",
    "join", "ljust", "lower", "lstrip", "maketrans", "partition", "removeprefix", "removesuffix",
    "replace", "rfind", "rindex", "rjust", "rpartition", "rsplit", "rstrip", "split",
    "splitlines", "startswith", "strip", "swapcase", "title", "translate", "upper", "zfill"]

/-- The methods of safe texts besides those of all texts. -/
def safeMethods : List String := ["escape", "striptags", "unescape"]

def listMethods : List String :=
  ["append", "clear", "copy", "count", "extend", "index", "insert", "pop", "remove", "reverse",
    "sort"]

def tupleMethods : List String := ["count", "index"]

def dictMethods : List String :=
  ["clear", "copy", "fromkeys", "get", "items", "keys", "pop", "popitem", "setdefault", "update",
    "values"]

/-- The item that comes next, without taking it from the loop. -/
def peek (eng : Engine) (cell : Nat) : Run (Option Value) := do
  match (← get).loops[cell]? with
  | Option.none => return Option.none
  | some l =>
    match l.ahead with
    | some v => return v
    | Option.none =>
      let v ← eng.next l.iterator
      -- the end is not kept: the iterator would give it again
      modify fun w => { w with
        loops := w.loops.modify cell fun l => { l with ahead := v.map some } }
      return v

/-- An attribute of a loop. -/
def loopMember? (eng : Engine) (cell : Nat) (name : String) : Run (Option Value) := do
  match (← get).loops[cell]? with
  | Option.none => return Option.none
  | some l =>
    match name with
    | "index" => return some (.int (l.index0 + 1))
    | "index0" => return some (.int l.index0)
    | "revindex" => return some (.int ((← LoopCell.measure eng cell : Nat) - l.index0))
    | "revindex0" => return some (.int ((← LoopCell.measure eng cell : Nat) - (l.index0 + 1)))
    | "first" => return some (.bool (l.index0 == 0))
    | "last" => return some (.bool (← peek eng cell).isNone)
    | "length" => return some (.int (← LoopCell.measure eng cell : Nat))
    | "depth" => return some (.int (l.depth0 + 1 : Nat))
    | "depth0" => return some (.int (l.depth0 : Nat))
    | "previtem" =>
      if l.index0 == 0 then return some (← Run.undefined (.hint "there is no previous item"))
      else return some (l.before.getD .none)
    | "nextitem" =>
      match ← peek eng cell with
      | some v => return some v
      | Option.none => return some (← Run.undefined (.hint "there is no next item"))
    | "cycle" | "changed" => return some (.method (.loop cell) name)
    | _ => return Option.none

/-- The definitions of a block in a context. -/
def blockDefs (context : Nat) (name : String) : Run (List BlockDef) := do
  return ((← Run.context context).blocks.lookup name).getD []

/-- An attribute of a value. -/
def attribute? (eng : Engine) (v : Value) (name : String) : Run (Option Value) := do
  let method (methods : List String) : Run (Option Value) :=
    return if methods.contains name then some (.method v name) else Option.none
  match v with
  | .text _ false => method textMethods
  | .text _ true => method (textMethods ++ safeMethods)
  | .list _ => method listMethods
  | .tuple _ => method tupleMethods
  | .dict _ => method dictMethods
  | .space cell => return ((← get).spaces.getD cell []).lookup name
  | .cycler cell =>
    let (items, pos) := (← get).cyclers.getD cell ([], 0)
    match name with
    | "current" => return items[pos]?
    | "items" => return some (.tuple items)
    | "pos" => return some (.int (pos : Nat))
    | _ => method ["next", "reset"]
  | .joiner cell =>
    let (sep, used) := (← get).joiners.getD cell (.none, false)
    match name with
    | "sep" => return some sep
    | "used" => return some (.bool used)
    | _ => return Option.none
  | .loop cell => loopMember? eng cell name
  | .macroRef cell =>
    match (← get).macros[cell]? with
    | Option.none => return Option.none
    | some m =>
      match name with
      | "name" => return some (match m.name with
        | some n => .plain n
        | Option.none => .none)
      | "arguments" => return some (.tuple (m.params.map .plain))
      | "caller" => return some (.bool m.usesCaller)
      | "catch_kwargs" => return some (.bool m.usesKwargs)
      | "catch_varargs" => return some (.bool m.usesVarargs)
      | "explicit_caller" => return some (.bool (m.params.contains "caller"))
      | _ => return Option.none
  | .module cell =>
    match (← get).modules[cell]? with
    | Option.none => return Option.none
    | some m =>
      if name == "__name__" then
        return some (match m.name with
          | some n => .plain n
          | Option.none => .none)
      else return m.exports.lookup name
  | .block ctx n depth =>
    match name with
    | "super" =>
      if depth + 1 ≥ (← blockDefs ctx n).length then
        return some (← Run.undefined (.hint ("there is no parent block called " ++ quote n ++ ".")))
      else return some (.block ctx n (depth + 1))
    | "name" => return some (.plain n)
    | _ => return Option.none
  | .range a b s =>
    match name with
    | "start" => return some (.int a)
    | "stop" => return some (.int b)
    | "step" => return some (.int s)
    | _ => method ["count", "index"]
  | .int n =>
    match name with
    | "real" | "numerator" => return some (.int n)
    | "imag" => return some (.int 0)
    | "denominator" => return some (.int 1)
    | _ => method ["bit_count", "bit_length", "conjugate", "as_integer_ratio", "to_bytes"]
  | .float x =>
    match name with
    | "real" => return some (.float x)
    | "imag" => return some (.float .zero)
    | _ => method ["as_integer_ratio", "conjugate", "fromhex", "hex", "is_integer"]
  | _ => return Option.none

/-- A position in a sequence of the given length, counted from the end if negative. -/
def position? (length : Nat) (i : Int) : Option Nat :=
  let i := if i < 0 then i + length else i
  if 0 ≤ i && i < length then some i.toNat else Option.none

/-- The bounds of a slice of a sequence: first position, last position (excluded) and step. -/
def sliceBounds (length : Nat) (start stop : Option Int) (step : Int) : Int × Int :=
  let n : Int := length
  let low : Int := if step < 0 then -1 else 0
  let high : Int := if step < 0 then n - 1 else n
  let clamp (i : Int) : Int :=
    if i < 0 then max (i + n) low else min i high
  let first := match start with
    | some i => clamp i
    | Option.none => if step < 0 then high else low
  let last := match stop with
    | some i => clamp i
    | Option.none => if step < 0 then low else high
  (first, last)

/-- The items of a slice. -/
def sliceItems {α : Type} (items : Array α) (start stop : Option Int) (step : Int) : List α :=
  let (first, last) := sliceBounds items.size start stop step
  (rangeItems first last step).filterMap fun i => items[i.toNat]?

/-- A bound of a slice. -/
def bound (v : Value) : Run (Option Int) :=
  match v with
  | .none => return Option.none
  | v => match v.integer? with
    | some n => return some n
    | Option.none => Run.badType

/-- The part of a sequence between known bounds. -/
def between (v : Value) (start stop : Option Int) (step : Int) : Run Value := do
  match v with
  | .text s safe => return .text (String.ofList (sliceItems s.toList.toArray start stop step)) safe
  | .tuple items => return .tuple (sliceItems items.toArray start stop step)
  | .list cell => Run.newList (sliceItems (← Run.listItems cell).toArray start stop step)
  | .range a b s =>
    let (first, last) := sliceBounds (rangeLength a b s) start stop step
    return .range (a + first * s) (a + last * s) (s * step)
  | _ => Run.badType

/-- A slice of a sequence. -/
def sliceOf (v start stop step : Value) : Run Value := do
  match v with
  | .undefined .chainable _ => return v
  | .undefined _ why => Run.failUndefined why
  | .text _ _ | .list _ | .tuple _ | .range _ _ _ =>
    let start ← bound start
    let stop ← bound stop
    let step := (← bound step).getD 1
    if step == 0 then Run.accident .badValue else between v start stop step
  | _ => Run.badType

/-- The item of a sequence at the position that a key stands for. -/
def atIndex? (key : Value) (length : Nat) (get : Nat → Option Value) : Option Value :=
  key.integer?.bind fun i => (position? length i).bind get

/-- The item of a value: `none` if there is none, or if the value has no items of this kind. -/
def item? (v key : Value) : Run (Option Value) := do
  match v, key with
  | .text _ _, .slice a b c | .tuple _, .slice a b c | .list _, .slice a b c
  | .range _ _ _, .slice a b c => return some (← sliceOf v a b c)
  | .text s safe, _ =>
    let cs := s.toList.toArray
    return atIndex? key cs.size fun i => cs[i]?.map fun c => .text c.toString safe
  | .tuple items, _ => return atIndex? key items.length fun i => items[i]?
  | .list cell, _ =>
    let items ← Run.listItems cell
    return atIndex? key items.length fun i => items[i]?
  | .range a b s, _ =>
    return atIndex? key (rangeLength a b s) fun i => some (.int (a + s * i))
  | .dict entries, _ =>
    match key with
    | .list _ | .dict _ | .view _ _ | .slice _ _ _ => return Option.none
    | _ => lookup key entries
  | .self ctx, .text name _ =>
    match (← Run.context ctx).blocks.lookup name with
    | some _ => return some (.block ctx name 0)
    | Option.none => return Option.none
  | _, _ => return Option.none

/-- The undefined value for a missing attribute or item. -/
def missing (eng : Engine) (owner key : Value) : Run Value := do
  match key with
  | .text name _ => Run.undefined (.member owner.typeName name)
  | key => Run.undefined (.element owner.typeName (← repr eng key))

/-- `v.name`. -/
def getMember (eng : Engine) (v : Value) (name : String) : Run Value := do
  match v with
  | .undefined .chainable _ => return v
  | .undefined _ why => Run.failUndefined why
  | v =>
    match ← attribute? eng v name with
    | some x => return x
    | Option.none =>
      match ← item? v (.plain name) with
      | some x => return x
      | Option.none => missing eng v (.plain name)

/-- `v[key]`. -/
def getItem (eng : Engine) (v key : Value) : Run Value := do
  match v with
  | .undefined .chainable _ => return v
  | .undefined _ why => Run.failUndefined why
  | v =>
    match ← item? v key with
    | some x => return x
    | Option.none =>
      match key with
      | .text name _ =>
        match ← attribute? eng v name with
        | some x => return x
        | Option.none => missing eng v key
      | key => missing eng v key

end Value

end Stencil
