import Stencil.Render.Frame

/-!
# Iterators

Items are made when they are asked for: a filter that maps or selects items runs on one item at a
time, and so does the test of a loop.
-/

namespace Stencil

namespace Value

/-- A text in small letters, and any other value as it is. -/
def foldCase (v : Value) : Value :=
  match v with
  | .text s safe => .text (String.ofList (Text.lower s.toList)) safe
  | v => v

/-- The attribute of a value at the end of a path; an undefined result on the way is replaced by the
default, if there is one. -/
def atPath (eng : Engine) (default : Value) : List Value → Value → Run Value
  | [], v => return v
  | key :: keys, v => do
    let x ← getItem eng v key
    match x, default with
    | .undefined _ _, .none => atPath eng default keys x
    | .undefined _ _, d => atPath eng default keys d
    | x, _ => atPath eng default keys x

/-- Whether a text consists of digits. -/
def isDigits (s : String) : Bool :=
  !s.isEmpty && s.toList.all Char.isDecimal

/-- The number that digits form. -/
def ofDigits (s : String) : Int :=
  let n : Nat := s.toList.foldl (fun n c => n * 10 + (Char.digit? c).getD 0) 0
  n

/-- The path that an attribute stands for: a text is divided at its dots, and digits are numbers. -/
def pathOf (v : Value) : List Value :=
  match v with
  | .none => []
  | .text s _ => (s.splitOn ".").map fun part =>
    if isDigits part then .int (ofDigits part) else .plain part
  | v => [v]

/-- The attributes of several values at the end of a path; without a path, the values themselves. -/
def atPathOf (eng : Engine) (path : Value) (items : List Value) : Run (List Value) :=
  match path with
  | .none => return items
  | path => items.mapM (atPath eng .none (pathOf path))

end Value

namespace Run

/-- The name of a filter or test that is given as a value. -/
def calleeName (kind : String) (v : Value) (eng : Engine) : Run String := do
  match v with
  | .text s _ => return s
  | .undefined _ why =>
    throw (.runtime ("No " ++ kind ++ " named " ++ "Undefined. (" ++ (← describe why) ++
      "; did you forget to quote the callable name?)"))
  | v => throw (.runtime ("No " ++ kind ++ " named " ++ (← Value.repr eng v) ++ "."))

/-- Where a filter is applied to the items of a sequence. -/
def siteOf (context : Nat) : Run Site := do
  return ⟨some context, (← Run.context context).autoescape⟩

/-- Whether an item is selected. -/
def selects (eng : Engine) (context : Nat) (s : Selection) (item : Value) : Run Bool := do
  let v ← Value.atPath eng .none s.path item
  let passed ← match s.test with
    | none => Value.truth eng v
    | some (name, args) => do
      let name ← calleeName "test" name eng
      Value.truth eng (← eng.test (← siteOf context) name v args s.named)
  return passed == s.keep

/-- The item that a mapping makes of an item. -/
def mapped (eng : Engine) (context : Nat) (m : Mapping) (item : Value) : Run Value := do
  match m with
  | .member path default => Value.atPath eng default path item
  | .filter name args named =>
    let name ← calleeName "filter" name eng
    eng.filter (← siteOf context) name item args named

/-- The next item of a loop, which moves the loop on. -/
def advanceLoop (eng : Engine) (cell : Nat) : Run (Option Value) := do
  match (← get).loops[cell]? with
  | none => return none
  | some l =>
    let item ← match l.ahead with
      | some v => pure v
      | none => eng.next l.iterator
    match item with
    | none => return none
    | some v =>
      modify fun w => { w with loops := w.loops.modify cell fun l =>
        { l with ahead := none, index0 := l.index0 + 1, before := l.current, current := some v } }
      return some v

/-- Looks for the next item that a condition keeps; `fuel` bounds how many are passed over. -/
def nextKept (eng : Engine) (source : Nat) (keep : Value → Run Bool) : (fuel : Nat) →
    Run (Option Value)
  | 0 => accident .tooDeep
  | fuel + 1 => do
    match ← eng.next source with
    | none => return none
    | some v => if ← keep v then return some v else nextKept eng source keep fuel

/-- Whether an item differs from those that a unique iterator has given, of which it becomes one. -/
def isNew (eng : Engine) (cell source : Nat) (caseSensitive : Bool) (path : List Value) (v : Value) :
    Run Bool := do
  let key ← Value.atPath eng .none path v
  let key := if caseSensitive then key else key.foldCase
  Value.checkKey valueDepth key
  match ← iterator cell with
  | .unique _ _ _ seen =>
    if ← Value.member key seen then return false
    else
      setIterator cell (.unique source caseSensitive path (key :: seen))
      return true
  | _ => return true

/-- The next item of an iterator. -/
def nextItem (eng : Engine) (cell : Nat) : Run (Option Value) := do
  match ← iterator cell with
  | .items [] => return none
  | .items (v :: rest) =>
    setIterator cell (.items rest)
    return some v
  | .listFrom list pos =>
    match (← listItems list)[pos]? with
    | some v =>
      setIterator cell (.listFrom list (pos + 1))
      return some v
    | none =>
      setIterator cell (.items [])
      return none
  | .rangeFrom n stop step =>
    if (if step > 0 then n < stop else n > stop) && step != 0 then
      setIterator cell (.rangeFrom (n + step) stop step)
      return some (.int n)
    else return none
  | .failing f =>
    setIterator cell (.items [])
    throw f
  | .mapNew source how context =>
    setIterator cell (.items [])
    if ← Value.truth eng source then
      let how ← how
      let it ← iterate source
      setIterator cell (.mapRest it how context)
      eng.next cell
    else return none
  | .mapRest source how context =>
    match ← eng.next source with
    | none => return none
    | some v => return some (← mapped eng context how v)
  | .selectNew source how context =>
    setIterator cell (.items [])
    if ← Value.truth eng source then
      let how ← how
      let it ← iterate source
      setIterator cell (.selectRest it how context)
      eng.next cell
    else return none
  | .selectRest source how context =>
    nextKept eng source (selects eng context how) itemLimit
  | .unique source caseSensitive path _ =>
    nextKept eng source (isNew eng cell source caseSensitive path) itemLimit
  | .tested source target test frame =>
    let kept ← nextKept eng source (fun v => do
      assign eng frame target v
      Value.truth eng (← eng.expr frame test)) itemLimit
    match kept with
    | none => return none
    | some _ => return some (← targetValue frame valueDepth target)
  | .loopItems loop =>
    match ← advanceLoop eng loop with
    | none => return none
    | some v => return some (.tuple [v, .loop loop])

end Run

end Stencil
