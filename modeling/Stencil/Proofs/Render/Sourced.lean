import Stencil.Proofs.Render.Growth
import Stencil.Proofs.Workspace.Requests

/-!
# Where cached templates come from

A cached template was read from a source of its name, at some time. Whether this is the present
source is another matter: it is looked at when the template is asked for, and only if the environment
reloads templates. What is loaded by its name is therefore known to come from a source of this name,
and with reloading from one that is current.

## Key results

- `Library.Sourced.step`: every step keeps what is known of cached templates
- `Workspace.Reachable.sourced`: so it holds in every reachable workspace
- `Load.named_cases`: where a template comes from that is loaded by its name
- `Load.named_sourced`: the source of such a template
-/

namespace Stencil

variable {α : Type}

/-! ## The cache -/

namespace TemplateCache

/-- An entry that is used was there, and so was all that is there afterwards. -/
theorem mem_of_get {c c' : TemplateCache α} {name : String} {a : α}
    (h : c.get name = some (a, c')) :
    (name, a) ∈ c.entries ∧ ∀ e ∈ c'.entries, e ∈ c.entries := by
  obtain ⟨b, hb, heq⟩ := Option.map_eq_some_iff.1 h
  have hmem := mem_of_lookup hb
  split at heq
  · obtain ⟨rfl, rfl⟩ := Prod.mk.inj heq
    refine ⟨hmem, fun e he => ?_⟩
    obtain he | he := List.mem_append.1 he
    · exact (List.mem_filter.1 he).1
    · exact List.mem_singleton.1 he ▸ hmem
  · obtain ⟨rfl, rfl⟩ := Prod.mk.inj heq
    exact ⟨hmem, fun _ he => he⟩

/-- An entry is new or was there before. -/
theorem mem_put {c : TemplateCache α} {name : String} {a : α} {e : String × α}
    (h : e ∈ (c.put name a).entries) : e = (name, a) ∨ e ∈ c.entries := by
  rw [put] at h
  split at h
  · exact .inr h
  · obtain h | h := List.mem_append.1 h
    · refine .inr ?_
      split at h
      · exact (List.mem_filter.1 (List.mem_of_mem_drop h)).1
      · exact (List.mem_filter.1 h).1
    · exact .inl (List.mem_singleton.1 h)

end TemplateCache

/-! ## Sources of templates -/

namespace Library

variable {K L L' : Library}

/-- A loaded template that was read from a source of its name. -/
structure ReadFrom (L : Library) (name : String) (source : FoundSource) (p : Parsed)
    (id : TemplateId) : Prop where
  name_eq : id.name = some name
  /-- It was a source of this name at some time. -/
  found : ∃ store, L.env.loader.find store name = .ok source
  parsed : L.env.options.language.parse (some name) source.code = .ok p
  loaded : ∃ t, L.templates.lookup id = some t ∧ t.tree = p.template ∧
    t.blocks = (Stmt.blocksOfList p.template.body).map (fun b => (b.2.1, b.2.2.1)) ∧
    t.origin = source.origin

theorem ReadFrom.grown {name : String} {source : FoundSource} {p : Parsed} {id : TemplateId}
    (h : K.ReadFrom name source p id) (hgrown : Grown K L) : L.ReadFrom name source p id where
  name_eq := h.name_eq
  found := by rw [hgrown.env_eq]; exact h.found
  parsed := by rw [hgrown.env_eq]; exact h.parsed
  loaded := by
    obtain ⟨t, ht, htree, hblocks, horigin⟩ := h.loaded
    obtain ⟨t', ht', htree', hblocks', horigin'⟩ := hgrown.lookup ht
    exact ⟨t', ht', htree'.trans htree, hblocks'.trans hblocks, horigin'.trans horigin⟩

/-- A template that has just been read from the source of its name. -/
theorem readFrom_found {name : String} {source : FoundSource} {p : Parsed}
    (hgives : L.Gives name source p) (globals : List (String × Value))
    (cache : TemplateCache TemplateId) :
    ReadFrom { L with
        templates := (L.nextId (some name), .ofTree p.template globals source.origin) :: L.templates
        cache } name source p (L.nextId (some name)) where
  name_eq := rfl
  found := ⟨L.store, hgives.1⟩
  parsed := hgives.2
  loaded := ⟨_, by rw [List.lookup_cons, beq_self_eq_true], rfl, rfl, rfl⟩

/-- Every cached template was read from a source of the name under which it is kept. -/
structure Sourced (L : Library) : Prop where
  numbered : L.Numbered
  cached : ∀ e ∈ L.cache.entries, ∃ source p, L.ReadFrom e.1 source p e.2

/-- Every step keeps what is known of cached templates. -/
theorem Sourced.step (h : L.Sourced) (hstep : Step L L') : L'.Sourced := by
  have hgrown := Grown.step h.numbered hstep
  have hkept : ∀ e ∈ L.cache.entries, ∃ source p, L'.ReadFrom e.1 source p e.2 := by
    intro e he
    obtain ⟨source, p, hread⟩ := h.cached e he
    exact ⟨source, p, hread.grown hgrown⟩
  refine ⟨h.numbered.step hstep, fun e he => ?_⟩
  cases hstep with
  | use hget => exact hkept e ((TemplateCache.mem_of_get hget).2 e he)
  | register _ => exact hkept e he
  | change _ _ _ => exact hkept e he
  | given _ _ _ => exact hkept e he
  | @found name source p globals hgives _ =>
    obtain rfl | he := TemplateCache.mem_put he
    · exact ⟨source, p, readFrom_found hgives globals _⟩
    · exact hkept e he

theorem Sourced.steps (h : L.Sourced) (hsteps : Steps L L') : L'.Sourced :=
  hsteps.keep (fun _ _ hL hstep => hL.step hstep) h

theorem Sourced.grown (h : L.Sourced) (hsteps : Steps L L') : Grown L L' :=
  h.numbered.grown hsteps

end Library

/-! ## Reachable workspaces -/

/-- In an environment, every cached template was read from a source of its name, and every loaded one
has passed the check. -/
def sourcedIn (env : Environment) : Invariant where
  Stage := Unit
  le _ _ := True
  le_refl _ := trivial
  le_trans _ _ := trivial
  holds _ L := L.env = env ∧ L.Sourced ∧ L.Checked

theorem keeps_of_leads {env : Environment} {x : Run α} (h : ∀ w, Load.Leads x w) :
    (sourcedIn env).Keeps x :=
  fun _ w ⟨henv, hsourced, hchecked⟩ => ⟨(), trivial, (hsourced.grown (h w)).env_eq.trans henv,
    hsourced.steps (h w), hchecked.steps (h w)⟩

/-- Other sources do not matter for what was read before. -/
theorem Library.Sourced.edit {L : Library} (h : L.Sourced) (store : Store) :
    Library.Sourced { L with store } where
  numbered := h.numbered
  cached e he := by
    obtain ⟨source, p, hread⟩ := h.cached e he
    exact ⟨source, p, hread.name_eq, hread.found, hread.parsed, hread.loaded⟩

theorem service_sourcedIn (env : Environment) : (sourcedIn env).Service where
  named globals name := keeps_of_leads (Load.leads_named globals name)
  embedded globals key := keeps_of_leads (Load.leads_embedded globals key)
  module id m := keeps_of_leads
    (Load.leads_modifyTemplate id (f := fun t => { t with module := some m }) fun _ => ⟨rfl, rfl, rfl⟩)
  source code := keeps_of_leads (Load.leads_ofSource none code [])
  compile host code := keeps_of_leads (Load.leads_source host code)
  write _ _ h := ⟨⟨h.1, h.2.1.edit _, h.2.2⟩, ⟨h.1, h.2.1.edit _, h.2.2⟩⟩
  set _ _ h := ⟨⟨h.1, h.2.1.edit _, h.2.2⟩, ⟨h.1, h.2.1.edit _, h.2.2⟩⟩

namespace Workspace

theorem sourced_of_build {p : WorkspacePlan} {ws : Workspace} (h : p.build = .ok ws) :
    ws.world.toLibrary.Sourced ∧ ws.world.toLibrary.Checked := by
  have htemplates : ws.world.templates = [] := by rw [(world_of_build h).1]
  refine ⟨⟨fun e he => ?_, fun e he => ?_⟩, fun e he => ?_⟩
  · rw [htemplates] at he
    exact nomatch he
  · rw [cache_of_build h] at he
    exact nomatch he
  · rw [htemplates] at he
    exact nomatch he

/-- What requests do to a workspace keeps all that is known of its library. -/
theorem Reachable.kept_sourced {p : WorkspacePlan} {ws : Workspace} (h : Reachable p ws) :
    ∃ ws₀, p.build = .ok ws₀ ∧ (sourcedIn ws₀.world.env).Kept () ws := by
  obtain ⟨ws₀, hnew, hws₀⟩ := h.origin
  have hstart (ws : Workspace) (hws : p.build = .ok ws) :
      (sourcedIn ws₀.world.env).holds () ws.world.toLibrary := by
    rw [hws₀ ws hws]
    exact ⟨rfl, sourced_of_build hnew⟩
  obtain ⟨_, -, hkept⟩ := (service_sourcedIn ws₀.world.env).kept hstart h
  exact ⟨ws₀, hnew, hkept⟩

/-- Every reachable workspace has the environment of a new one, what it has cached was read from
sources, and what it has loaded has passed the check. -/
theorem Reachable.sourced {p : WorkspacePlan} {ws : Workspace} (h : Reachable p ws) :
    ∃ ws₀, p.build = .ok ws₀ ∧ ws.world.env = ws₀.world.env ∧ ws.world.toLibrary.Sourced ∧
      ws.world.toLibrary.Checked := by
  obtain ⟨ws₀, hnew, hkept⟩ := h.kept_sourced
  exact ⟨ws₀, hnew, hkept.holds⟩

end Workspace

/-! ## Loading by name -/

namespace Load

open Library (ReadFrom Sourced)

/-- What is read from the source of a name comes from the present one. -/
theorem fresh_sourced {w w' : World} {globals : List (String × Value)} {name : String}
    {id : TemplateId} (hload : Run.exec (fresh globals name) w = (.ok id, w')) :
    ∃ source p, w'.toLibrary.ReadFrom name source p id ∧
      w.env.loader.find w.store name = .ok source := by
  obtain ⟨source, p, hgives⟩ | ⟨f, hfails⟩ := gives_or_fails globals name w
  · rw [exec_fresh hgives globals] at hload
    cases hverdict : verdict w.env p.template with
    | error f => rw [hverdict] at hload; cases hload
    | ok _ =>
      rw [hverdict] at hload
      cases hload
      exact ⟨source, p, Library.readFrom_found
        (L := { w.toLibrary with registry := w.registered (some name) p.embeds }) hgives globals _,
        hgives.1⟩
  · cases hfails.symm.trans hload

/-- A template is handed out from the cache, which it is with reloading only if its source is still
current, or it is read anew. -/
theorem named_cases {w : World} (hw : w.toLibrary.Sourced) (globals : List (String × Value))
    (name : String) :
    (∃ id cache t, w.cache.get name = some (id, cache) ∧ w.templates.lookup id = some t ∧
      (w.env.options.autoReload = true → w.store.isCurrent t.origin = true) ∧
      Run.exec (named globals name) w =
        Run.exec (do addGlobals id globals; return id) { w with cache }) ∨
    ∃ cache, (∀ e ∈ cache.entries, e ∈ w.cache.entries) ∧
      Run.exec (named globals name) w = Run.exec (fresh globals name) { w with cache } := by
  rw [named, Run.exec_bind, Run.exec_get, Run.andThen_ok]
  cases hget : w.cache.get name with
  | none => exact .inr ⟨w.cache, fun _ he => he, rfl⟩
  | some entry =>
    obtain ⟨id, cache⟩ := entry
    obtain ⟨hmem, hentries⟩ := TemplateCache.mem_of_get hget
    obtain ⟨source, p, hread⟩ := hw.cached _ hmem
    obtain ⟨t, ht, -, -, -⟩ := hread.loaded
    -- what is cached is loaded, so that only its source is in question
    have htemplate : Run.exec (Run.template id) { w with cache } = (.ok t, { w with cache }) := by
      rw [Run.exec_template]
      dsimp only
      rw [ht]
    dsimp only
    rw [Run.exec_bind, Run.exec_modify, Run.andThen_ok, Run.exec_bind, Run.exec_get, Run.andThen_ok,
      Run.exec_bind, htemplate, Run.andThen_ok, Run.exec_ite]
    split
    · rename_i hcurrent
      refine .inl ⟨id, cache, t, rfl, ht, fun hauto => ?_, rfl⟩
      simpa [hauto] using hcurrent
    · exact .inr ⟨cache, hentries, rfl⟩

/-- What is loaded by its name was read from a source of this name; if templates are reloaded this
source is still current, or was looked up just now. -/
theorem named_sourced {w w' : World} (hw : w.toLibrary.Sourced) {globals : List (String × Value)}
    {name : String} {id : TemplateId} (hload : Run.exec (named globals name) w = (.ok id, w')) :
    ∃ source p, w'.toLibrary.ReadFrom name source p id ∧
      (w.env.options.autoReload = true →
        w.store.isCurrent source.origin = true ∨ w.env.loader.find w.store name = .ok source) := by
  have hsteps := leads_named globals name w
  rw [Leads, hload] at hsteps
  obtain ⟨i, cache, t, hget, ht, hcurrent, hexec⟩ | ⟨cache, -, hexec⟩ := named_cases hw globals name
  · rw [hexec] at hload
    cases hload
    obtain ⟨source, p, hread⟩ := hw.cached _ (TemplateCache.mem_of_get hget).1
    obtain ⟨t', ht', -, -, horigin⟩ := hread.loaded
    cases ht.symm.trans ht'
    exact ⟨source, p, hread.grown (hw.grown hsteps), fun hauto => .inl (horigin ▸ hcurrent hauto)⟩
  · rw [hexec] at hload
    obtain ⟨source, p, hread, hfind⟩ := fresh_sourced hload
    exact ⟨source, p, hread, fun _ => .inr hfind⟩

end Load

end Stencil
