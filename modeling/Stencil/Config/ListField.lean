import Stencil.Data.Basic
import Stencil.Text.Search

/-!
# List-valued settings

A list setting is a list, or a text of items divided by commas. A text that starts with a bracket
is left as it is: it is the written form of a list, which is decoded elsewhere.
-/

namespace Stencil.ListField

/-- The trimmed parts of a text between commas, without the empty ones. -/
def items (cs : List Char) : List (List Char) :=
  ((Text.splitAtChar ',' cs).map Text.trim).filter fun part => !part.isEmpty

/-- The list that a setting's value stands for; a value that is neither list nor text is refused,
and handed back as the error. -/
def parse : Datum → Except Datum Datum
  | .text s =>
    if s.toList.head? == some '[' then .ok (.text s)
    else .ok (.list ((items s.toList).map fun part => .text (String.ofList part)))
  | .list vs => .ok (.list vs)
  | v => .error v

end Stencil.ListField
