import Stencil.Value.Arithmetic

/-!
# Formatted text

A text with directives, each of which takes the next of the given values: `%s` its text, `%r` its
literal, `%d` and `%i` an integer. Two percent signs stand for one. Safe text escapes what is put
into it.
-/

namespace Stencil

namespace Value

/-- The text that a directive makes of a value. -/
def directive (eng : Engine) (safe : Bool) (c : Char) (v : Value) : Run String := do
  if c == 's' then
    if safe then escaped eng v else str eng v
  else if c == 'r' then
    let s ← repr eng v
    return if safe then Markup.escape s else s
  else if c == 'd' || c == 'i' then
    match v.numeric? with
    | some (.int n) => return toString n
    | some (.float x) => return toString x.truncate
    | Option.none => Run.badType
  else Run.accident .badValue

/-- Fills in the directives of a text, and gives the values that are left. -/
def fill (eng : Engine) (safe : Bool) : (args : List Value) → (done : List Char) → List Char →
    Run (List Char × List Value)
  | args, done, [] => return (done.reverse, args)
  | _, _, ['%'] => Run.accident .badValue
  | args, done, '%' :: c :: cs => do
    if c == '%' then fill eng safe args ('%' :: done) cs
    else match args with
      | v :: args =>
        let s ← directive eng safe c v
        fill eng safe args (s.toList.reverse ++ done) cs
      | [] => Run.badType
  | args, done, c :: cs => fill eng safe args (c :: done) cs

/-- Whether a value can stand for named values, so that it need not be used up. -/
def isLookup : Value → Bool
  | .dict _ | .list _ | .range _ _ _ | .undefined _ _ | .self _ => true
  | _ => false

/-- The text with its directives filled in; all values must be used. -/
def format (eng : Engine) (s : String) (safe : Bool) (arg : Value) : Run Value := do
  let args := match arg with
    | .tuple items => items
    | v => [v]
  let (cs, rest) ← fill eng safe args [] s.toList
  if rest.isEmpty || arg.isLookup then return .text (String.ofList cs) safe
  else Run.badType

end Value

end Stencil
