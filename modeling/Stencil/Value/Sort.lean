import Stencil.Value.Compare

/-!
# Sorting

A stable sort by a comparison that may fail.
-/

namespace Stencil.Run

/-- Inserts `x` in front of the first item that comes after it. -/
def insertSorted {α : Type} (less : α → α → Run Bool) (x : α) : List α → Run (List α)
  | [] => return [x]
  | y :: ys => do
    if ← less x y then return x :: y :: ys
    else return y :: (← insertSorted less x ys)

/-- The items in order; those that are equal stay as they were. -/
def sortBy {α : Type} (less : α → α → Run Bool) (items : List α) : Run (List α) :=
  items.foldlM (fun sorted x => insertSorted less x sorted) []

end Stencil.Run
