import Stencil.Inspect.Data
import Stencil.Proofs.Render.Sourced

/-!
# Which source decides on the parent

Inspection collects blocks from loaded templates, and goes on to the parent that it reads off the
present source of each. A loaded template was read from some source of its name, which need not be
the present one. If templates are reloaded it is, so that parents and blocks belong together; if not,
the parent is that of the source the template came from only as long as the present source names the
same one.

## Key results

- `Load.template_sourced`: the source of what a name leads to
- `Inspect.exec_parent`: the parent that is read off the present source
- `Workspace.ancestors_own_source`: when the parent is that of the source of the template
-/

namespace Stencil

/-- The literal parent that inspection reads off a tree. -/
def Template.literalParent? (t : Template) : Option Datum :=
  ((t.outline []).parents.toOption.getD []).head?

namespace Loader

/-- What is found under a name is the text that is held under it. -/
theorem lookup_of_find {l : Loader} (hl : l = .named) {s : Store} {name : String}
    {source : FoundSource} (h : l.find s name = .ok source) :
    s.named.lookup name = some source.code ∧ source.origin = .named name source.code := by
  subst hl
  rw [find] at h
  cases hcode : s.named.lookup name with
  | none => rw [hcode] at h; cases h
  | some code =>
    rw [hcode] at h
    cases h
    exact ⟨rfl, rfl⟩

end Loader

/-! ## What leaves the library alone -/

namespace Run

theorem library_freshContext (id : TemplateId) (data : List (String × Value)) (w : World) :
    (exec (freshContext id data) w).2.toLibrary = w.toLibrary := by
  rw [freshContext, exec_bind, exec_template]
  cases ht : w.templates.lookup id with
  | none => rfl
  | some t =>
    rw [andThen_ok, contextFor, exec_bind, exec_template, ht]
    rfl

theorem library_appendBlocks (context : Nat) (id : TemplateId) (w : World) :
    (exec (appendBlocks context id) w).2.toLibrary = w.toLibrary := by
  rw [appendBlocks, exec_bind, exec_template]
  cases w.templates.lookup id <;> rfl

end Run

/-! ## Loading by a name that is no key -/

namespace Load

/-- Loading a template by any name is a sequence of steps. -/
theorem leads_template (eng : Engine) (globals : List (String × Value)) (name : String) (w : World) :
    Leads (template eng globals (.plain name)) w := by
  unfold Leads
  rw [exec_plain]
  split
  · exact leads_embedded globals name w
  · split
    · exact .refl
    · exact leads_named globals name w

theorem template_sourced {w w' : World} (hw : w.toLibrary.Sourced) {eng : Engine}
    {globals : List (String × Value)} {name : String} (hname : isKey w.env name = false)
    {id : TemplateId} (hload : Run.exec (template eng globals (.plain name)) w = (.ok id, w')) :
    ∃ source p, w'.toLibrary.ReadFrom name source p id ∧
      (w.env.options.autoReload = true →
        w.store.isCurrent source.origin = true ∨ w.env.loader.find w.store name = .ok source) := by
  rw [exec_plain, hname, if_neg Bool.false_ne_true] at hload
  split at hload
  · exact nomatch hload
  · exact named_sourced hw hload

end Load

/-! ## Going up -/

namespace Inspect

/-- The parent of a loaded template is read off the present source of its name. -/
theorem exec_parent {id : TemplateId} {name : String} {w : World} (hname : id.name = some name)
    (hloader : w.env.loader = .named) :
    Run.exec (parent? id) w = (match w.store.named.lookup name with
      | none => .error (.notFound (.text name) name)
      | some code =>
        ((w.env.options.language.parse (some name) code).mapError .syntaxError).map
          (·.template.literalParent?), w) := by
  rw [parent?, hname]
  dsimp only
  rw [Run.exec_bind, Load.exec_find_named hloader]
  cases w.store.named.lookup name with
  | none => rfl
  | some code =>
    rw [Run.andThen_ok, Run.exec_bind, Load.exec_parse]
    dsimp only
    cases w.env.options.language.parse (some name) code with
    | error e => rfl
    | ok p =>
      dsimp only [Except.mapError, Except.map]
      rw [Run.andThen_ok, Template.literalParent?]
      cases (p.template.outline []).parents with
      | error e => rfl
      | ok ds => cases ds <;> rfl

/-- The parent is that of a given source if the present source of the name leads to the same, and
only then. -/
theorem exec_parent_eq_iff {id : TemplateId} {name : String} {w : World}
    (hname : id.name = some name) (hloader : w.env.loader = .named) (d : Option Datum) :
    Run.exec (parent? id) w = (.ok d, w) ↔
      ∃ code p, w.store.named.lookup name = some code ∧
        w.env.options.language.parse (some name) code = .ok p ∧ p.template.literalParent? = d := by
  rw [exec_parent hname hloader]
  cases w.store.named.lookup name with
  | none => exact iff_of_false (fun h => nomatch h) fun ⟨_, _, h, _⟩ => nomatch h
  | some code =>
    dsimp only
    constructor
    · intro h
      cases hp : w.env.options.language.parse (some name) code with
      | error e => rw [hp] at h; exact nomatch h
      | ok p =>
        rw [hp] at h
        exact ⟨code, p, rfl, hp, Except.ok.inj (Prod.mk.inj h).1⟩
    · rintro ⟨_, p, ⟨⟩, hp, rfl⟩
      rw [hp]
      rfl

/-- A place on the way up: the template that was loaded last, the name it was asked for by, the names
met so far, and the state in which its parent is asked for. -/
structure Place where
  fuel : Nat
  seen : List String
  name : String
  current : TemplateId
  world : World

/-- What collecting ancestors does from a place on. -/
def Place.collect (eng : Engine) (context : Nat) (p : Place) : Except Fault Unit × World :=
  Run.exec (addAncestors eng context p.fuel p.seen p.current) p.world

/-- A step up, to a parent that was not met before. -/
inductive Up (eng : Engine) (context : Nat) : Place → Place → Prop
  | step {fuel : Nat} {seen : List String} {name above : String} {current id : TemplateId}
      {w w₁ w₂ : World} (hparent : Run.exec (parent? current) w = (.ok (some (.text above)), w))
      (hnew : seen.contains above = false)
      (hload : Run.exec (Load.template eng [] (.plain above)) w = (.ok id, w₁))
      (hblocks : Run.exec (Run.appendBlocks context id) w₁ = (.ok (), w₂)) :
      Up eng context ⟨fuel + 1, seen, name, current, w⟩ ⟨fuel, above :: seen, above, id, w₂⟩

/-- Collecting ancestors goes on from each place on the way. -/
theorem Up.collect_eq {eng : Engine} {context : Nat} {p q : Place} (h : Up eng context p q) :
    p.collect eng context = q.collect eng context := by
  cases h with
  | step hparent hnew hload hblocks =>
    rw [Place.collect, addAncestors, Run.exec_bind, hparent, Run.andThen_ok]
    dsimp only
    rw [hnew, if_neg Bool.false_ne_true, Run.exec_bind, hload, Run.andThen_ok, Run.exec_bind,
      Run.exec_record, Run.andThen_ok, Run.exec_bind, hblocks]
    rfl

/-- What is known at every place on the way: nothing has been edited, and a template that is not an
embedded one was read from a source of its name. -/
structure Place.Sound (L : Library) (p : Place) : Prop where
  env_eq : p.world.env = L.env
  store_eq : p.world.store = L.store
  sourced : p.world.toLibrary.Sourced
  read : Load.isKey L.env p.name = false → ∃ source q,
    p.world.toLibrary.ReadFrom p.name source q p.current ∧
      (L.env.options.autoReload = true →
        L.store.isCurrent source.origin = true ∨ L.env.loader.find L.store p.name = .ok source)

/-- Loading a template leads to a place about which enough is known. -/
theorem Place.sound_of_load {L : Library} {w w₁ w₂ : World} (henv : w.env = L.env)
    (hstore : w.store = L.store) (hw : w.toLibrary.Sourced) {eng : Engine} {name : String}
    {id : TemplateId} (hload : Run.exec (Load.template eng [] (.plain name)) w = (.ok id, w₁))
    (hsame : w₂.toLibrary = w₁.toLibrary) (fuel : Nat) (seen : List String) :
    Place.Sound L ⟨fuel, seen, name, id, w₂⟩ := by
  have hsteps := Load.leads_template eng [] name w
  rw [Load.Leads, hload, ← hsame] at hsteps
  have hgrown := hw.grown hsteps
  refine ⟨hgrown.env_eq.trans henv, hgrown.store_eq.trans hstore, hw.steps hsteps, fun hname => ?_⟩
  obtain ⟨source, q, hread, hcurrent⟩ := Load.template_sourced hw (henv ▸ hname) hload
  rw [henv, hstore] at hcurrent
  exact ⟨source, q, hsame ▸ hread, hcurrent⟩

theorem Up.sound {L : Library} {eng : Engine} {context : Nat} {p q : Place}
    (h : Up eng context p q) (hp : p.Sound L) : q.Sound L := by
  cases h with
  | @step _ _ _ _ _ id _ w₁ _ hparent hnew hload hblocks =>
    refine Place.sound_of_load hp.env_eq hp.store_eq hp.sourced hload ?_ _ _
    have hsame := Run.library_appendBlocks context id w₁
    rw [hblocks] at hsame
    exact hsame

end Inspect

namespace Workspace

open Inspect (Place Up)

/-- Whenever inspection goes up from a loaded template, or ends there, the template was read from a
source of its name. If templates are reloaded, the parent that is found is that of this very source.
In any case it is so iff the present source of the name can be read and leads to the same. -/
theorem ancestors_own_source (p : WorkspacePlan) {ws : Workspace} (hws : Reachable p ws)
    (hloader : p.loader = .named) {name : String} {id : TemplateId} {context : Nat} {w w' : World}
    (hload : Run.exec (Load.template .standard [] (.plain name)) { ws.world with sinks := [] } =
      (.ok id, w))
    (hcontext : Run.exec (Run.freshContext id []) w = (.ok context, w')) (fuel : Nat) {place : Place}
    (hup : Relation.ReflTransGen (Up .standard context) ⟨fuel, id.name.toList, name, id, w'⟩ place)
    (hname : Load.isKey ws.world.env place.name = false) :
    Run.exec (Inspect.addAncestors .standard context fuel id.name.toList id) w' =
        place.collect .standard context ∧
      ∃ text q t, place.world.templates.lookup place.current = some t ∧
        t.origin = .named place.name text ∧
        ws.world.env.options.language.parse (some place.name) text = .ok q ∧
        t.tree = q.template ∧
        t.blocks = (Stmt.blocksOfList q.template.body).map (fun b => (b.2.1, b.2.2.1)) ∧
        (ws.world.env.options.autoReload = true →
          Run.exec (Inspect.parent? place.current) place.world =
            (.ok q.template.literalParent?, place.world)) ∧
        (Run.exec (Inspect.parent? place.current) place.world =
            (.ok q.template.literalParent?, place.world) ↔
          ∃ code q', ws.world.store.named.lookup place.name = some code ∧
            ws.world.env.options.language.parse (some place.name) code = .ok q' ∧
            q'.template.literalParent? = q.template.literalParent?) := by
  obtain ⟨ws₀, hnew, henv, hsourced, -⟩ := hws.sourced
  have hnamed : ws.world.env.loader = .named := by rw [henv, (world_of_build hnew).2.2, hloader]
  have hstart : Place.Sound ws.world.toLibrary ⟨fuel, id.name.toList, name, id, w'⟩ := by
    refine Place.sound_of_load (w := { ws.world with sinks := [] }) rfl rfl hsourced hload ?_ _ _
    have hsame := Run.library_freshContext id [] w
    rw [hcontext] at hsame
    exact hsame
  -- what is known at the start is known at every place that the steps lead to
  have hall : Run.exec (Inspect.addAncestors .standard context fuel id.name.toList id) w' =
      place.collect .standard context ∧ place.Sound ws.world.toLibrary := by
    clear hname
    induction hup with
    | refl => exact ⟨rfl, hstart⟩
    | tail _ hstep ih => exact ⟨ih.1.trans hstep.collect_eq, hstep.sound ih.2⟩
  obtain ⟨hcollect, hsound⟩ := hall
  obtain ⟨source, q, hread, hcurrent⟩ := hsound.read hname
  obtain ⟨t, ht, htree, hblocks, horigin⟩ := hread.loaded
  have hsource : source.origin = .named place.name source.code := by
    obtain ⟨store, hfound⟩ := hread.found
    rw [hsound.env_eq] at hfound
    exact (Loader.lookup_of_find hnamed hfound).2
  have hparsed := hread.parsed
  rw [hsound.env_eq] at hparsed
  have hiff := Inspect.exec_parent_eq_iff hread.name_eq (hsound.env_eq ▸ hnamed)
    q.template.literalParent?
  rw [hsound.env_eq, hsound.store_eq] at hiff
  refine ⟨hcollect, source.code, q, t, ht, horigin.trans hsource, hparsed, htree, hblocks,
    fun hauto => hiff.2 ⟨source.code, q, ?_, hparsed, rfl⟩, hiff⟩
  -- with reloading, the source that was read is still the one that is stored
  obtain hcurrent | hfound := hcurrent hauto
  · rw [hsource] at hcurrent
    exact beq_iff_eq.1 hcurrent
  · exact (Loader.lookup_of_find hnamed hfound).1

/-- A page that extends one of two others. -/
def twoParents : WorkspacePlan :=
  { flavour := .pattern
    store := { named := [("page", "\x7b% extends 'old' %\x7d"), ("old", ""), ("new", "")] } }

/-- A workspace in which the page was rendered before it got the other parent. -/
def withNewParent : Option Workspace :=
  twoParents.build.toOption.map fun ws =>
    (ws.serve (.render "page" [] [])).serve (.put "page" "\x7b% extends 'new' %\x7d")

/-- What inspection of the page begins with: the loaded page, its context and the name of the parent
that is found. -/
def pageParent (ws : Workspace) : Option (TemplateId × Nat × Option String) := do
  let loaded := Run.exec (Load.template .standard [] (.plain "page")) { ws.world with sinks := [] }
  let id ← loaded.1.toOption
  let started := Run.exec (Run.freshContext id []) loaded.2
  let context ← started.1.toOption
  let parent ← (Run.exec (Inspect.parent? id) started.2).1.toOption
  return (id, context, parent.bind Datum.text?)

theorem exec_eq_of_toOption {α : Type} {x : Run α} {w : World} {a : α}
    (h : (Run.exec x w).1.toOption = some a) : Run.exec x w = (.ok a, (Run.exec x w).2) := by
  generalize Run.exec x w = r at h
  obtain ⟨r, w'⟩ := r
  cases r with
  | error e => exact nomatch h
  | ok b => cases h; rfl

/-- With reloading the page leads to its new parent, which is that of the source it was read from,
though another version of it was cached. -/
theorem ancestors_own_source_newParent :
    ∃ ws id t w text q d, Reachable twoParents ws ∧ id = ⟨some "page", 1⟩ ∧
      Run.exec (Inspect.parent? id) w = (.ok d, w) ∧ d.bind Datum.text? = some "new" ∧
      w.templates.lookup id = some t ∧ t.origin = .named "page" text ∧
      ws.world.env.options.language.parse (some "page") text = .ok q ∧ t.tree = q.template ∧
      q.template.literalParent? = d := by
  have hfacts : withNewParent.map (fun ws => (pageParent ws, ws.world.env.options.autoReload,
      Load.isKey ws.world.env "page")) =
      some (some (⟨some "page", 1⟩, 1, some "new"), true, false) := by decide +kernel
  obtain ⟨ws, hws, hfacts⟩ := Option.map_eq_some_iff.1 hfacts
  obtain ⟨ws₀, hbuild, rfl⟩ := Option.map_eq_some_iff.1 hws
  have hreach : Reachable twoParents
      ((ws₀.serve (.render "page" [] [])).serve (.put "page" "\x7b% extends 'new' %\x7d")) :=
    .serve (.serve (.of_toOption hbuild) _) _
  generalize (ws₀.serve (.render "page" [] [])).serve _ = ws at hreach hfacts
  simp only [Prod.mk.injEq, pageParent, Option.bind_eq_bind, Option.bind_eq_some_iff, Option.pure_def,
    Option.some.injEq] at hfacts
  obtain ⟨⟨id, hid, context, hcontext, d, hd, rfl, -, hnew⟩, hauto, hkey⟩ := hfacts
  obtain ⟨-, text, q, t, ht, horigin, hparsed, htree, -, hown, -⟩ :=
    ancestors_own_source twoParents hreach rfl (exec_eq_of_toOption hid)
      (exec_eq_of_toOption hcontext) 0 .refl hkey
  have hsame : q.template.literalParent? = d := by
    rw [hown hauto] at hd
    exact Option.some.inj hd
  exact ⟨ws, _, t, _, text, q, d, hreach, rfl, hsame ▸ hown hauto,
    Option.bind_eq_some_iff.2 hnew, ht, horigin, hparsed, htree, hsame⟩

end Workspace

end Stencil
