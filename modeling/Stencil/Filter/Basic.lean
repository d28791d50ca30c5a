import Stencil.Filter.Text
import Stencil.Filter.Json
import Stencil.Value.Convert

/-!
# Filters

What each filter makes of a value and its arguments. Filters that go through a sequence one item at
a time give an iterator and do their work when items are asked for.
-/

namespace Stencil

namespace Filter

/-- The names of all filters. -/
def known : List String :=
  ["abs", "attr", "batch", "capitalize", "center", "count", "d", "default", "dictsort", "e",
    "escape", "filesizeformat", "first", "float", "forceescape", "format", "groupby", "indent",
    "int", "items", "join", "last", "length", "list", "lower", "map", "max", "min", "pprint",
    "random", "reject", "rejectattr", "replace", "reverse", "round", "safe", "select",
    "selectattr", "slice", "sort", "string", "striptags", "sum", "title", "tojson", "trim",
    "truncate", "unique", "upper", "urlencode", "urlize", "wordcount", "wordwrap", "xmlattr"]

/-- Filters that work on the running context, so that their value is not known beforehand. -/
def contextual : List String :=
  ["map", "select", "reject", "selectattr", "rejectattr", "random"]

/-- An iterator that gives the items of a value, or fails when it is asked for one. -/
def lazily (make : Nat → IteratorCell) (v : Value) : Run Value := do
  let cell ← try
      let it ← Run.iterate v
      Run.newIterator (make it)
    catch f => Run.newIterator (.failing f)
  return .iterator cell

/-- The length of a value. -/
def length (eng : Engine) (v : Value) : Run Value := do
  match v with
  | .loop cell => return .int (← LoopCell.measure eng cell : Nat)
  | v =>
    match ← LoopCell.sizeOf? v with
    | some n => return .int (n : Nat)
    | none => Run.badType

/-- The items of a value in reverse, for values that allow it. -/
def backwards? (v : Value) : Run (Option (List Value)) := do
  match v with
  | .text s safe => return some (s.toList.reverse.map fun c => .text c.toString safe)
  | .list cell => return some (← Run.listItems cell).reverse
  | .tuple items => return some items.reverse
  | .view _ items => return some items.reverse
  | .dict entries => return some (entries.map (·.1)).reverse
  | .range a b s => return some ((rangeItems a b s).reverse.map .int)
  | .undefined .strict why => Run.failUndefined why
  | .undefined _ _ => return some []
  | _ => return none

def first (eng : Engine) (v : Value) : Run Value := do
  match ← eng.next (← Run.iterate v) with
  | some x => return x
  | none => Run.undefined (.hint "No first item, sequence was empty.")

def last (v : Value) : Run Value := do
  match ← backwards? v with
  | some (x :: _) => return x
  | some [] => Run.undefined (.hint "No last item, sequence was empty.")
  | none => Run.badType

def reverse (eng : Engine) (v : Value) : Run Value := do
  match v with
  | .text s safe => return .text (String.ofList s.toList.reverse) safe
  | v =>
    match ← backwards? v with
    | some items => return .iterator (← Run.newIterator (.items items))
    | none =>
      let items ← try Run.itemsOf eng v
        catch
          | .accident .badType => throw (.filterArgument "argument must be iterable")
          | f => throw f
      Run.newList items.reverse

/-- The integer that a value stands for, or a default. -/
def toInt (v default base : Value) : Run Value := do
  let viaFloat (s : String) : Value :=
    match Convert.float? s with
    | some x => if x.isNaN || x.isInfinite then default else .int x.truncate
    | none => default
  match v with
  | .text s _ =>
    match base.integer? with
    | some b =>
      match Convert.integer? b.toNat s with
      | some n => return .int n
      | none => return viaFloat s
    | none => return viaFloat s
  | .undefined _ why => Run.failUndefined why
  | v =>
    match v.numeric? with
    | some (.int n) => return .int n
    | some (.float x) =>
      if x.isNaN then return default
      else if x.isInfinite then Run.accident .overflow
      else return .int x.truncate
    | none => return default

/-- The floating point number that a value stands for, or a default. -/
def toFloat (v default : Value) : Run Value := do
  match v with
  | .text s _ => return (Convert.float? s).elim default .float
  | .undefined _ why => Run.failUndefined why
  | v =>
    match v.numeric? with
    | some (.int n) => return .float (← Value.toFloat n)
    | some (.float x) => return .float x
    | none => return default

/-- What values are sorted or told apart by. -/
def sortKey (eng : Engine) (caseSensitive : Bool) (path : List Value) (v : Value) : Run Value := do
  let key ← Value.atPath eng .none path v
  return if caseSensitive then key else key.foldCase

/-- Sorts values by keys; in reverse, equal ones keep their order too. -/
def sortByKeys (keyed : List (Value × Value)) (backwards : Bool) : Run (List Value) := do
  let less (a b : Value × Value) : Run Bool :=
    if backwards then Value.less b.1 a.1 else Value.less a.1 b.1
  return (← Run.sortBy less keyed).map (·.2)

/-- Sorts by one or more attributes. -/
def sort (eng : Engine) (v backwards caseSensitive path : Value) : Run Value := do
  let items ← Run.itemsOf eng v
  let caseSensitive ← Value.truth eng caseSensitive
  let paths := match path with
    | .text s _ => (s.splitOn ",").map fun p => Value.pathOf (.plain p)
    | p => [Value.pathOf p]
  let keyed ← items.mapM fun x => do
    let keys ← paths.mapM fun p => sortKey eng caseSensitive p x
    return (Value.tuple keys, x)
  Run.newList (← sortByKeys keyed (← Value.truth eng backwards))

/-- Whether entries of a dictionary are sorted by their values. -/
def sortsByValue (sortedBy : Value) : Run Bool :=
  match sortedBy with
  | .text "key" _ => return false
  | .text "value" _ => return true
  | _ => throw (.filterArgument "You can only sort by either \"key\" or \"value\"")

def dictsort (eng : Engine) (v caseSensitive sortedBy backwards : Value) : Run Value := do
  let byValue ← sortsByValue sortedBy
  match v with
  | .dict entries =>
    let caseSensitive ← Value.truth eng caseSensitive
    let keyed := entries.map fun (k, x) =>
      let key := if byValue then x else k
      (if caseSensitive then key else key.foldCase, Value.tuple [k, x])
    Run.newList (← sortByKeys keyed (← Value.truth eng backwards))
  | .undefined .chainable why => Run.failUndefined why
  | .undefined _ why => Run.failUndefined why
  | _ => Run.accident .noAttribute

/-- The better of the best item so far and another one, both with their keys. -/
def better (largest : Bool) (best other : Value × Value) : Run (Value × Value) := do
  let isBetter ← if largest then Value.less best.1 other.1 else Value.less other.1 best.1
  return if isBetter then other else best

/-- The smallest or largest item. -/
def extreme (eng : Engine) (largest : Bool) (v caseSensitive path : Value) : Run Value := do
  let caseSensitive ← Value.truth eng caseSensitive
  let path := Value.pathOf path
  match ← Run.itemsOf eng v with
  | [] => Run.undefined (.hint "No aggregated item, sequence was empty.")
  | x :: xs =>
    let start := (← sortKey eng caseSensitive path x, x)
    let best ← xs.foldlM (fun best y => do
      better largest best (← sortKey eng caseSensitive path y, y)) start
    return best.2

def sum (eng : Engine) (v path start : Value) : Run Value := do
  match start with
  | .text _ _ => Run.badType
  | start => (← Value.atPathOf eng path (← Run.itemsOf eng v)).foldlM Value.add start

/-- The pairs of a dictionary. -/
def items (v : Value) : Run Value := do
  let cell : IteratorCell := match v with
    | .dict entries => .items (entries.map fun (k, x) => .tuple [k, x])
    | .undefined _ _ => .items []
    | _ => .failing (.accident .badType)
  return .iterator (← Run.newIterator cell)

/-- How `map` turns items into others: by an attribute, or by a filter. -/
def mappingOf (args : List Value) (named : Named) : Except Fault Mapping :=
  match args, named.lookup "attribute" with
  | [], some path =>
    let default := (named.lookup "default").getD .none
    match named.filter (fun n => n.1 != "attribute" && n.1 != "default") with
    | [] => .ok (.member (Value.pathOf path) default)
    | (k, _) :: _ => .error (.filterArgument ("Unexpected keyword argument " ++ quote k))
  | [], none => .error (.filterArgument "map requires a filter argument")
  | name :: rest, _ => .ok (.filter name rest named)

/-- Which items `select` and its relatives keep. -/
def selectionOf (keep byAttribute : Bool) (args : List Value) (named : Named) :
    Except Fault Selection :=
  let build (path : List Value) (rest : List Value) : Selection :=
    { keep, path, named
      test := match rest with
        | [] => none
        | name :: args => some (name, args) }
  if byAttribute then
    match args with
    | [] => .error (.filterArgument "Missing parameter for attribute name")
    | a :: rest => .ok (build (Value.pathOf a) rest)
  else .ok (build [] args)

/-- Applies a filter. -/
def apply (eng : Engine) (site : Site) (name : String) (v : Value) (args : List Value)
    (named : Named) : Run Value := do
  let bind (params : List Param) : Run (List Value) := Run.bindParams params args named
  let noArgs : Run Unit := do discard (bind [])
  let select (keep byAttribute : Bool) : Run Value := do
    match site.context with
    | none => throw .notConstant
    | some ctx =>
      return .iterator (← Run.newIterator (.selectNew v (selectionOf keep byAttribute args named) ctx))
  match name with
  | "abs" => noArgs; Value.absolute v
  | "capitalize" => noArgs; mapText eng Text.capitalize v
  | "count" | "length" => noArgs; length eng v
  | "d" | "default" =>
    match ← bind [⟨"default_value", some (.plain "")⟩, ⟨"boolean", some (.bool false)⟩] with
    | [default, boolean] =>
      if v.isUndefined then return default
      else if ← Value.truth eng boolean then
        return if ← Value.truth eng v then v else default
      else return v
    | _ => Run.badType
  | "dictsort" =>
    match ← bind [⟨"case_sensitive", some (.bool false)⟩, ⟨"by", some (.plain "key")⟩,
        ⟨"reverse", some (.bool false)⟩] with
    | [c, b, r] => dictsort eng v c b r
    | _ => Run.badType
  | "e" | "escape" => noArgs; return .safe (← Value.escaped eng v)
  | "first" => noArgs; first eng v
  | "float" =>
    match ← bind [⟨"default", some (.float .zero)⟩] with
    | [d] => toFloat v d
    | _ => Run.badType
  | "indent" =>
    match ← bind [⟨"width", some (.int 4)⟩, ⟨"first", some (.bool false)⟩,
        ⟨"blank", some (.bool false)⟩] with
    | [w, f, b] => indent eng v w f b
    | _ => Run.badType
  | "int" =>
    match ← bind [⟨"default", some (.int 0)⟩, ⟨"base", some (.int 10)⟩] with
    | [d, b] => toInt v d b
    | _ => Run.badType
  | "items" => noArgs; items v
  | "join" =>
    match ← bind [⟨"d", some (.plain "")⟩, ⟨"attribute", some .none⟩] with
    | [d, a] => join eng site v d a
    | _ => Run.badType
  | "last" => noArgs; last v
  | "list" => noArgs; Run.newList (← Run.itemsOf eng v)
  | "lower" => noArgs; mapText eng Text.lower v
  | "map" =>
    match site.context with
    | none => throw .notConstant
    | some ctx =>
      return .iterator (← Run.newIterator (.mapNew v (mappingOf args named) ctx))
  | "max" | "min" =>
    match ← bind [⟨"case_sensitive", some (.bool false)⟩, ⟨"attribute", some .none⟩] with
    | [c, a] => extreme eng (name == "max") v c a
    | _ => Run.badType
  | "reject" => select false false
  | "rejectattr" => select false true
  | "replace" =>
    match ← bind [⟨"old", none⟩, ⟨"new", none⟩, ⟨"count", some .none⟩] with
    | [old, new, count] => replace eng site v old new count
    | _ => Run.badType
  | "reverse" => noArgs; reverse eng v
  | "safe" => noArgs; return .safe (← Value.str eng v)
  | "select" => select true false
  | "selectattr" => select true true
  | "sort" =>
    match ← bind [⟨"reverse", some (.bool false)⟩, ⟨"case_sensitive", some (.bool false)⟩,
        ⟨"attribute", some .none⟩] with
    | [r, c, a] => sort eng v r c a
    | _ => Run.badType
  | "string" => noArgs; Value.soft eng v
  | "striptags" => noArgs; return .plain (Markup.stripTags (← Value.str eng v))
  | "sum" =>
    match ← bind [⟨"attribute", some .none⟩, ⟨"start", some (.int 0)⟩] with
    | [a, s] => sum eng v a s
    | _ => Run.badType
  | "title" =>
    noArgs
    return .plain (String.ofList (titleFrom [] (← Value.str eng v).toList))
  | "tojson" =>
    match ← bind [⟨"indent", some .none⟩] with
    | [.none] => Json.forMarkup none v
    | [.text s _] => Json.forMarkup (some s) v
    | [n] =>
      match n.integer? with
      | some n => Json.forMarkup (some (String.ofList (List.replicate n.toNat ' '))) v
      | none => Run.badType
    | _ => Run.badType
  | "trim" =>
    match ← bind [⟨"chars", some .none⟩] with
    | [c] => trim eng v c
    | _ => Run.badType
  | "unique" =>
    match ← bind [⟨"case_sensitive", some (.bool false)⟩, ⟨"attribute", some .none⟩] with
    | [c, a] =>
      let caseSensitive ← Value.truth eng c
      lazily (fun it => .unique it caseSensitive (Value.pathOf a) []) v
    | _ => Run.badType
  | "upper" => noArgs; mapText eng Text.upper v
  | "wordcount" => noArgs; return .int (countWords false (← Value.str eng v).toList : Nat)
  | _ =>
    if known.contains name then Run.accident .misuse
    else throw (.runtime ("No filter named " ++ quote name ++ "."))

end Filter

end Stencil
