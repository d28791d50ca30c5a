import Stencil.Value.Show

/-!
# Equality, order and membership

Numbers of all kinds are compared by their exact values, texts by code points, sequences item by
item. Values that have no order, and undefined values, cannot be compared by size.
-/

namespace Stencil

/-- A number as an integer or a floating point number. -/
inductive Numeric where
  | int (n : Int)
  | float (x : Binary64)

namespace Value

/-- The number that a value is; truth values are the numbers zero and one. -/
def numeric? : Value → Option Numeric
  | .bool b => some (.int (if b then 1 else 0))
  | .int n => some (.int n)
  | .float x => some (.float x)
  | _ => Option.none

end Value

namespace Numeric

/-- An integer against a floating point number. -/
def compareIntFloat (n : Int) (x : Binary64) : Option Ordering :=
  if x.isNaN then none
  else if x.isInfinite then some (if x.negative then .gt else .lt)
  else
    let (num, den) := x.toRatio
    some (compare (n * den) num)

/-- The order of two numbers, if they have one. -/
def order : Numeric → Numeric → Option Ordering
  | int a, int b => some (compare a b)
  | int a, float x => compareIntFloat a x
  | float x, int a => (compareIntFloat a x).map Ordering.swap
  | float x, float y =>
    if x.isNaN || y.isNaN then none
    else if x.eq y then some .eq
    else if x.lt y then some .lt else some .gt

end Numeric

namespace Value

/-- The values of two lists, pair by pair, as long as `same` holds; and whether all of them did and
the lists have the same length. -/
def allEqual (same : Value → Value → Run Bool) : List Value → List Value → Run Bool
  | [], [] => return true
  | a :: as, b :: bs => do
    if ← same a b then allEqual same as bs else return false
  | _, _ => return false

/-- The entry of a key. -/
def lookupBy (same : Value → Value → Run Bool) (key : Value) :
    List (Value × Value) → Run (Option Value)
  | [] => return Option.none
  | (k, v) :: rest => do
    if ← same k key then return some v else lookupBy same key rest

/-- Whether every entry has an equal one among others. -/
def entriesEqual (same : Value → Value → Run Bool) (others : List (Value × Value)) :
    List (Value × Value) → Run Bool
  | [] => return true
  | (k, v) :: rest => do
    match ← lookupBy same k others with
    | some v' => if ← same v v' then entriesEqual same others rest else return false
    | Option.none => return false

/-- Whether two values are equal. -/
def equalTo : (fuel : Nat) → Value → Value → Run Bool
  | 0, _, _ => Run.accident .tooDeep
  | fuel + 1, a, b => do
    match a, b with
    | .undefined .strict why, _ => Run.failUndefined why
    | _, .undefined .strict why => Run.failUndefined why
    | .undefined k _, .undefined k' _ => return k == k'
    | .none, .none => return true
    | .text s _, .text t _ => return s == t
    | .tuple xs, .tuple ys => allEqual (equalTo fuel) xs ys
    | .list c, .list c' =>
      if c == c' then return true
      else allEqual (equalTo fuel) (← Run.listItems c) (← Run.listItems c')
    | .dict xs, .dict ys =>
      if xs.length == ys.length then entriesEqual (equalTo fuel) ys xs else return false
    | .range a b c, .range a' b' c' => return rangeItems a b c == rangeItems a' b' c'
    | .view l xs, .view l' ys =>
      if l == l' then allEqual (equalTo fuel) xs ys else return false
    | .function f, .function f' => return f == f'
    | .space c, .space c' => return c == c'
    | .cycler c, .cycler c' => return c == c'
    | .joiner c, .joiner c' => return c == c'
    | .iterator c, .iterator c' => return c == c'
    | .loop c, .loop c' => return c == c'
    | .macroRef c, .macroRef c' => return c == c'
    | .module c, .module c' => return c == c'
    | a, b =>
      match a.numeric?, b.numeric? with
      | some x, some y => return x.order y == some .eq
      | _, _ => return false

/-- Whether two values are equal. -/
def equal (a b : Value) : Run Bool :=
  equalTo valueDepth a b

/-- Whether all values of two lists are equal. -/
def equalLists (as bs : List Value) : Run Bool :=
  allEqual equal as bs

/-- The order of the first two items that differ, or of the lengths. -/
def firstOrder (same : Value → Value → Run Bool) (ord : Value → Value → Run (Option Ordering)) :
    List Value → List Value → Run (Option Ordering)
  | [], [] => return some .eq
  | [], _ :: _ => return some .lt
  | _ :: _, [] => return some .gt
  | a :: as, b :: bs => do
    if ← same a b then firstOrder same ord as bs else ord a b

/-- The order of two values; `none` if they are numbers without one. -/
def orderOf : (fuel : Nat) → Value → Value → Run (Option Ordering)
  | 0, _, _ => Run.accident .tooDeep
  | fuel + 1, a, b => do
    match a, b with
    | .undefined _ why, _ => Run.failUndefined why
    | _, .undefined _ why => Run.failUndefined why
    | .text s _, .text t _ => return some (compare s t)
    | .tuple xs, .tuple ys => firstOrder equal (orderOf fuel) xs ys
    | .list c, .list c' =>
      firstOrder equal (orderOf fuel) (← Run.listItems c) (← Run.listItems c')
    | a, b =>
      match a.numeric?, b.numeric? with
      | some x, some y => return x.order y
      | _, _ => Run.badType

/-- The order of two values. -/
def order (a b : Value) : Run (Option Ordering) :=
  orderOf valueDepth a b

/-- Whether `a` comes before `b`. -/
def less (a b : Value) : Run Bool := do
  return (← order a b) == some .lt

/-- Whether a value can be a key: what can change cannot. -/
def checkKey : (fuel : Nat) → Value → Run Unit
  | 0, _ => Run.accident .tooDeep
  | fuel + 1, v => do
    match v with
    | .list _ | .dict _ | .view _ _ | .slice _ _ _ => Run.badType
    | .undefined .strict why => Run.failUndefined why
    | .tuple items => items.forM (checkKey fuel)
    | _ => return ()

/-- The entry of a dictionary. -/
def lookup (key : Value) (entries : List (Value × Value)) : Run (Option Value) := do
  checkKey valueDepth key
  lookupBy equal key entries

/-- A dictionary with an entry set, at its present place or at the end. -/
def insert (key value : Value) : List (Value × Value) → Run (List (Value × Value))
  | [] => return [(key, value)]
  | (k, v) :: rest => do
    if ← equal k key then return (k, value) :: rest
    else return (k, v) :: (← insert key value rest)

/-- A dictionary made of entries, of which later ones win. -/
def ofEntries (entries : List (Value × Value)) : Run Value := do
  let all ← entries.foldlM (fun acc (k, v) => do
    checkKey valueDepth k
    insert k v acc) []
  return .dict all

/-- Whether some value of a list is equal to `v`. -/
def member (v : Value) : List Value → Run Bool
  | [] => return false
  | x :: xs => do if ← equal x v then return true else member v xs

/-- Whether a piece occurs in a text. -/
def occurs (piece text : String) : Bool :=
  (Text.cut? piece.toList text.toList).isSome

end Value

end Stencil
