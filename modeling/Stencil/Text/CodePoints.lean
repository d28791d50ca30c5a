/-!
# Sets of code points

A set of code points is written as the increasing list of the points at which membership changes,
starting outside the set: `[10, 20]` holds exactly the points from 10 up to, and without, 20.
-/

namespace Stencil.CodePoints

/-- Whether `c` lies in the set that changes membership at the given points. -/
def contains : List Nat → Nat → Bool
  | [], _ => false
  | b :: bs, c => if c < b then false else !contains bs c

@[simp] theorem contains_nil (c : Nat) : contains [] c = false := rfl

/-- Below its first boundary a set has no member. -/
theorem contains_of_lt {b c : Nat} (bs : List Nat) (h : c < b) : contains (b :: bs) c = false := by
  simp [contains, h]

/-- One interval holds the points between its ends. -/
theorem contains_interval (lo hi c : Nat) :
    contains [lo, hi] c = (decide (lo ≤ c) && decide (c < hi)) := by
  by_cases h : c < lo
  · simp [contains, h, Nat.not_le.mpr h]
  · simp [contains, h, Nat.not_lt.mp h]

end Stencil.CodePoints
