/-!
# The template cache

Loaded templates by name, the one used longest ago first. The cache holds nothing, at most a given
number of templates, or any number.
-/

namespace Stencil

/-- Cached entries of type `α` by name. -/
structure TemplateCache (α : Type) where
  /-- Nothing is kept if zero, and everything if negative. -/
  capacity : Int
  entries : List (String × α) := []

namespace TemplateCache

variable {α : Type}

/-- The entry of a name; in a bounded cache it becomes the one used last. -/
def get (c : TemplateCache α) (name : String) : Option (α × TemplateCache α) :=
  (c.entries.lookup name).map fun a =>
    if c.capacity > 0 then
      (a, { c with entries := c.entries.filter (·.1 != name) ++ [(name, a)] })
    else (a, c)

/-- Puts an entry in as the one used last, in the place of the one used longest ago if the cache is
full. -/
def put (c : TemplateCache α) (name : String) (a : α) : TemplateCache α :=
  if c.capacity == 0 then c
  else
    let others := c.entries.filter (·.1 != name)
    let room :=
      if others.length == c.entries.length && c.capacity > 0 &&
          decide (c.capacity ≤ c.entries.length) then
        others.drop 1
      else others
    { c with entries := room ++ [(name, a)] }

end TemplateCache

end Stencil
