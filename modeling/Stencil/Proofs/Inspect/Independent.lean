import Stencil.Proofs.Inspect.Targets

/-!
# Inspection of a text depends on the text alone

The name of a source goes into the keys of its embeds, and the key of an inner embed into the digest
of the one around it, so that trees read under two names differ. Inspection does not look at keys: its
answer is that of the tree with embeds in place, which is read without a name. The loader, the
registry and the cache of the environment do not come into it either.

## Key results

- `Language.linked_eq_references`: the references of a source are those of its tree
- `Workspace.linked_eq_answer`: the answer of inspection, as a function of the tree
- `Workspace.linked_code_only`: two inspections of one text find the same, or fail in the same way
-/

namespace Stencil

open Stmt

/-- The references of a tree with its embeds in place. The parents of embeds are among them only if
the embeds are listed with the parsed tree. -/
def Template.references (records : Bool) (t : Template) : List Datum :=
  gatherAll inclusionTarget false t.body ++
    (if records then gatherAll embedParent true t.body else []) ++ firstParent t.body

namespace Language

/-- Where the embeds are not listed, inspection finds the inclusions and the parent of the host. -/
theorem linked_unlisted {lang : Language} {code : String} {t : Template}
    (ht : lang.parseTree code = .ok t) (name : Option String) :
    lang.linked false name code =
      .ok (gatherAll inclusionTarget false t.body ++ firstParent t.body) := by
  have hparse : lang.parse name code = .ok (t.detach name) := by
    rw [Language.parse, ht]
    rfl
  -- a host without its list of embeds is one that never had any
  have hparents : ((t.detach name).template.outline []).parents = .ok (firstParent t.body) := by
    have hhost := parents_outline t.line (detachList name t.body).1 []
    rw [firstParent_detachList] at hhost
    exact hhost
  have hinclusions : Node.collect (.kind .inclusion) ((t.detach name).template.outline []) =
      gatherAll inclusionTarget false t.body := by
    rw [← collect_detachList name t.body]
    change Node.collectFields _ [_] ++ [] = _
    rw [Node.collectFields, Node.collectFields, Node.collectField]
    simp only [Template.detach, List.append_nil]
  have hlinked := linked_eq (p := ⟨(t.detach name).template, []⟩) rfl hparents
  rw [Language.linked, Language.outline, hparse]
  change Except.ok (((t.detach name).template.outline []).linked.toOption.getD []) = _
  rw [show ((t.detach name).template.outline []).linked = _ from hlinked]
  change Except.ok (Node.collect (.kind .inclusion) ((t.detach name).template.outline []) ++ [] ++ _) = _
  rw [hinclusions, List.append_nil]

/-- The references of a source are those of its tree, whatever its name. -/
theorem linked_eq_references (lang : Language) (records : Bool) (name : Option String)
    (code : String) :
    lang.linked records name code = (lang.parseTree code).map (Template.references records) := by
  cases ht : lang.parseTree code with
  | error e =>
    rw [Language.linked, Language.outline, Language.parse, ht]
    rfl
  | ok t =>
    cases records with
    | true =>
      rw [linked_of_parseTree ht name]
      rfl
    | false =>
      rw [linked_unlisted ht name]
      simp only [Except.map, Template.references, Bool.false_eq_true, if_false, List.append_nil]

end Language

/-- What a message says of the error behind it comes after the name. -/
theorem InspectionError.message_eq (e : InspectionError) :
    e.message = "Jinja error thrown during inspection of " ++ e.name.display ++
      (": " ++ e.cause.message) :=
  String.append_assoc

namespace Workspace

/-- The answer of inspection: the references of the tree, or the error of the parser under the name of
the source. -/
theorem linked_eq_answer (ws : Workspace) (name : Datum) (code : String) :
    (linked name code ws).1 =
      ((ws.world.env.options.language.parseTree code).map
        (Template.references ws.world.env.flavour.hasRegistry)).mapError
          fun e => .inspection ⟨name, .syntaxError e⟩ := by
  rw [linked, perform_eq]
  simp only [Run.exec_bind, Run.exec_get, Run.andThen_ok, Language.linked_eq_references]
  cases ws.world.env.options.language.parseTree code with
  | ok t => rfl
  | error e => rfl

/-- A page with an embed inside another, whose keys hold the name of the page. -/
def embedInEmbed : String :=
  "\x7b% include 'top' %\x7d\x7b% embed 'outer' %\x7d\x7b% block b %\x7d" ++
  "\x7b% embed 'inner' %\x7d\x7b% endembed %\x7d\x7b% endblock %\x7d\x7b% endembed %\x7d"

/-- The same workspace with files instead of named sources, one of which is at hand. -/
def bareWithFile : Workspace :=
  { bare with
    world := { bare.world with
      env := { bare.world.env with loader := .files ["templates"] "utf-8" false }
      store := { files := [⟨"templates/page", [], 1⟩] } } }

end Workspace

end Stencil
