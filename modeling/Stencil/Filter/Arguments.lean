import Stencil.Render.Iterator

/-!
# Arguments

Positional and named arguments matched with the parameters of a filter, test or function.
-/

namespace Stencil

/-- A parameter, with its default value if it has one. -/
structure Param where
  name : String
  default : Option Value := none

namespace Run

/-- The values of parameters, in order. Every argument must belong to a parameter, none to the same
one twice, and every parameter without a default must be given. -/
def bindParams : List Param → List Value → Named → Run (List Value)
  | [], [], [] => return []
  | [], _, _ => badType
  | p :: ps, v :: vs, named => do
    if named.any (fun n => n.1 == p.name) then badType
    else return v :: (← bindParams ps vs named)
  | p :: ps, [], named => do
    match named.lookup p.name, p.default with
    | some v, _ =>
      return v :: (← bindParams ps [] (named.filter fun n => n.1 != p.name))
    | none, some d => return d :: (← bindParams ps [] named)
    | none, none => badType

end Run

end Stencil
