import Stencil.Render.Machine
import Stencil.Inspect.Linked

/-!
# Pattern data

The data of a pattern is what its info block writes. The block may be defined by the template itself
or by one it extends; the definition nearest to the template counts. Ancestors are found by literal
`extends` in the sources, and the chain ends where a name comes again.
-/

namespace Stencil

namespace Inspect

/-- The literal parent of a loaded template, read off its present source. A template without a name
has none. -/
def parent? (id : TemplateId) : Run (Option Datum) := do
  match id.name with
  | none => return none
  | some name =>
    let source ← Load.find name
    let p ← Load.parse (some name) source.code
    match (p.template.outline []).parents with
    | .ok (d :: _) => return some d
    | _ => return none

/-- Puts the blocks of all ancestors of `current` behind those of a context. The names in `seen` are
those of the templates met so far; every step adds one that has a source, so that `fuel` need not be
larger than the number of sources. -/
def addAncestors (eng : Engine) (context : Nat) : (fuel : Nat) → (seen : List String) →
    (current : TemplateId) → Run Unit
  | 0, _, _ => Run.accident .tooDeep
  | fuel + 1, seen, current => do
    match ← parent? current with
    | none | some .null => return ()
    | some (.text name) =>
      if seen.contains name then return ()
      let id ← Load.template eng [] (.plain name)
      Run.record (.attachment id.name)
      Run.appendBlocks context id
      addAncestors eng context fuel (name :: seen) id
    | some d =>
      let id ← Load.template eng [] (← Value.ofDatum valueDepth d)
      Run.record (.attachment id.name)
      Run.appendBlocks context id
      addAncestors eng context fuel seen id

/-- What the info block of a loaded template writes; `none` if there is no such block. -/
def dataOf (eng : Engine) (infoBlock : String) (id : TemplateId) : Run (Option String) := do
  let context ← Run.freshContext id []
  let store := (← get).store
  addAncestors eng context (store.named.length + store.files.length + 2)
    id.name.toList id
  if (← Value.blockDefs context infoBlock).isEmpty then return none
  return some (← Run.capture (eng.block infoBlock 0 context))

/-- The pattern data of a template that is loaded by name. -/
def data (eng : Engine) (infoBlock name : String) : Run (Option String) := do
  dataOf eng infoBlock (← Load.template eng [] (.plain name))

end Inspect

end Stencil
