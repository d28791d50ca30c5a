import Stencil.Render.Fault

/-!
# Failed inspections

An error of the template language that ends an inspection is reported with the name of the template
under inspection. All other failures are passed on as they are.
-/

namespace Stencil

/-- An inspection that failed, with the name of the template and the error behind it. -/
structure InspectionError where
  name : Datum
  cause : Fault

namespace InspectionError

def message (e : InspectionError) : String :=
  "Jinja error thrown during inspection of " ++ e.name.display ++ ": " ++ e.cause.message

/-- The line that the error concerns, if it is known. -/
def line? (e : InspectionError) : Option Nat :=
  e.cause.line?

end InspectionError

/-- How an operation on an environment fails. -/
inductive Failure where
  | fault (f : Fault)
  | inspection (e : InspectionError)

namespace Failure

/-- The failure of an inspection. -/
def ofInspection (name : Datum) (f : Fault) : Failure :=
  if f.isTemplateError then .inspection ⟨name, f⟩ else .fault f

end Failure

end Stencil
