import Mathlib.Logic.Relation
import Stencil.Proofs.Embed.Registration
import Stencil.Proofs.Render.Keeping

/-!
# How a library grows

Loading a template changes a library in a few ways only, which `Library.Step` lists: the cache notes
that a template was used, the registry changes, something about a loaded template other than its
tree is remembered, or a new template is made that has passed the check. What every step keeps is
kept by every load.

## Key results

- `Load.leads_named`, `Load.leads_embedded`: loading is a sequence of steps
- `Load.exec_fresh`: what reading a template from its source gives
- `Library.Numbered.step`, `Library.Grown.step`: loaded templates stay what they are
-/

namespace Stencil

variable {α β : Type}

/-- A template that has just been loaded. -/
def LoadedTemplate.ofTree (tree : Template) (globals : List (String × Value)) (origin : Origin) :
    LoadedTemplate :=
  { tree, blocks := (Stmt.blocksOfList tree.body).map fun b => (b.2.1, b.2.2.1), globals, origin }

namespace Library

/-- The identity of the next template that is loaded under a name. -/
def nextId (L : Library) (name : Option String) : TemplateId :=
  ⟨name, L.templates.countP fun e => e.1.name == name⟩

/-- The registry after a compilation; only some environments have one. -/
def registered (L : Library) (host : Option String) (embeds : List Embedded) : Registry TemplateId :=
  if L.env.flavour.hasRegistry then L.registry.register host embeds else L.registry

/-- The source of a name can be read and gives a tree. -/
def Gives (L : Library) (name : String) (source : FoundSource) (p : Parsed) : Prop :=
  L.env.loader.find L.store name = .ok source ∧
    L.env.options.language.parse (some name) source.code = .ok p

/-- The ways in which loading changes a library. -/
inductive Step (L : Library) : Library → Prop
  | use {name : String} {id : TemplateId} {cache : TemplateCache TemplateId}
      (h : L.cache.get name = some (id, cache)) : Step L { L with cache }
  | register (registry : Registry TemplateId) : Step L { L with registry }
  | change (id : TemplateId) (f : LoadedTemplate → LoadedTemplate)
      (hf : ∀ t, (f t).tree = t.tree ∧ (f t).blocks = t.blocks ∧ (f t).origin = t.origin) :
      Step L { L with templates := L.templates.map fun e => if e.1 == id then (e.1, f e.2) else e }
  | given (name : Option String) {tree : Template} (globals : List (String × Value))
      (hverdict : Load.verdict L.env tree = .ok ()) :
      Step L { L with
        templates := (L.nextId name, .ofTree tree globals .given) :: L.templates }
  | found {name : String} {source : FoundSource} {p : Parsed} (globals : List (String × Value))
      (hgives : L.Gives name source p) (hverdict : Load.verdict L.env p.template = .ok ()) :
      Step L { L with
        templates := (L.nextId (some name), .ofTree p.template globals source.origin) :: L.templates
        cache := L.cache.put name (L.nextId (some name)) }

/-- A sequence of changes. -/
abbrev Steps : Library → Library → Prop :=
  Relation.ReflTransGen Step

end Library

/-! ## Loading -/

namespace Load

/-- A computation that changes the library of a state by steps. -/
def Leads (x : Run α) (w : World) : Prop :=
  Library.Steps w.toLibrary (Run.exec x w).2.toLibrary

theorem Leads.bind {x : Run α} {f : α → Run β} {w : World} (hx : Leads x w)
    (hf : ∀ a w', Run.exec x w = (.ok a, w') → Leads (f a) w') : Leads (x >>= f) w := by
  unfold Leads at hx ⊢
  rw [Run.exec_bind]
  generalize hr : Run.exec x w = r at hx
  obtain ⟨r, w₁⟩ := r
  cases r with
  | error e => exact hx
  | ok a => exact hx.trans (hf a w₁ hr)

theorem Leads.of_unchanged {x : Run α} {w : World}
    (h : (Run.exec x w).2.toLibrary = w.toLibrary) : Leads x w := by
  unfold Leads
  rw [h]

/-- A compilation changes the registry at most, and gives the verdict of the check. -/
theorem exec_compile_eq (host : Option String) (p : Parsed) (w : World) :
    Run.exec (compile host p) w =
      (verdict w.env p.template, { w with registry := w.registered host p.embeds }) := by
  simp only [compile, Run.exec_bind, Run.exec_get, Run.andThen_ok, Run.exec_ite, Run.exec_modify,
    Library.registered]
  cases w.env.flavour.hasRegistry <;> cases verdict w.env p.template <;> rfl

/-- Reads the template of a name from its source, and keeps it in the cache. -/
def fresh (globals : List (String × Value)) (name : String) : Run TemplateId := do
  let source ← find name
  let id ← ofSource (some name) source.code globals source.origin
  modify fun w => { w with cache := w.cache.put name id }
  return id

/-- What reading a template from its source gives, if the source can be read: the verdict of the
check decides. -/
theorem exec_fresh {w : World} {name : String} {source : FoundSource} {p : Parsed}
    (h : w.toLibrary.Gives name source p) (globals : List (String × Value)) :
    Run.exec (fresh globals name) w =
      Run.andThen (verdict w.env p.template,
          { w with registry := w.registered (some name) p.embeds }) fun _ w =>
        (.ok (w.nextId (some name)), { w with
          templates := (w.nextId (some name), .ofTree p.template globals source.origin) ::
            w.templates
          cache := w.cache.put name (w.nextId (some name)) }) := by
  have hcompile := exec_compile_eq (some name) p w
  obtain ⟨source', hfind, hexec⟩ | ⟨e, f, hfind, -⟩ := exec_find name w
  · cases h.1.symm.trans hfind
    rw [fresh, Run.exec_bind, hexec, Run.andThen_ok, Run.exec_bind, exec_ofSource, h.2]
    change Run.andThen (Run.exec (compile (some name) p >>= _) w) _ = _
    rw [Run.exec_bind, hcompile]
    cases verdict w.env p.template <;> rfl
  · cases h.1.symm.trans hfind

/-- A source that cannot be parsed gives nothing, and changes nothing. -/
theorem exec_fresh_of_malformed {w : World} {name : String} {source : FoundSource} {e : SyntaxError}
    (hfind : w.env.loader.find w.store name = .ok source)
    (hparse : w.env.options.language.parse (some name) source.code = .error e)
    (globals : List (String × Value)) :
    Run.exec (fresh globals name) w = (.error (.syntaxError e), w) := by
  obtain ⟨source', hfind', hexec⟩ | ⟨_, _, hfind', -⟩ := exec_find name w
  · cases hfind.symm.trans hfind'
    rw [fresh, Run.exec_bind, hexec, Run.andThen_ok, Run.exec_bind, exec_ofSource, hparse]
    rfl
  · cases hfind.symm.trans hfind'

/-- Either the source of a name is found and parsed, or reading it fails and changes nothing. -/
theorem gives_or_fails (globals : List (String × Value)) (name : String) (w : World) :
    (∃ source p, w.toLibrary.Gives name source p) ∨
      ∃ f, Run.exec (fresh globals name) w = (.error f, w) := by
  obtain ⟨source, hfind, hexec⟩ | ⟨e, f, hfind, hexec⟩ := exec_find name w
  · cases hparse : w.env.options.language.parse (some name) source.code with
    | ok p => exact .inl ⟨source, p, hfind, hparse⟩
    | error e => exact .inr ⟨.syntaxError e, exec_fresh_of_malformed hfind hparse globals⟩
  · refine .inr ⟨f, ?_⟩
    rw [fresh, Run.exec_bind, hexec]
    rfl

theorem leads_fresh (globals : List (String × Value)) (name : String) (w : World) :
    Leads (fresh globals name) w := by
  obtain ⟨source, p, hgives⟩ | ⟨f, hfails⟩ := gives_or_fails globals name w
  · unfold Leads
    rw [exec_fresh hgives globals]
    -- the embeds are registered even if the template is refused afterwards
    have hregister : Library.Steps w.toLibrary
        { w with registry := w.registered (some name) p.embeds }.toLibrary := .single (.register _)
    cases hverdict : verdict w.env p.template with
    | error f => exact hregister
    | ok _ => exact hregister.tail (.found globals hgives hverdict)
  · exact .of_unchanged (by rw [hfails])

theorem leads_modifyTemplate (id : TemplateId) {f : LoadedTemplate → LoadedTemplate}
    (hf : ∀ t, (f t).tree = t.tree ∧ (f t).blocks = t.blocks ∧ (f t).origin = t.origin)
    (w : World) : Leads (Run.modifyTemplate id f) w :=
  .single (.change id f hf)

theorem leads_addGlobals (id : TemplateId) (globals : List (String × Value)) (w : World) :
    Leads (addGlobals id globals) w :=
  leads_modifyTemplate id (f := fun t => { t with
    globals := globals.foldl (fun all g => Run.setNamed g.1 g.2 all) t.globals })
    (fun _ => ⟨rfl, rfl, rfl⟩) w

theorem leads_kept (id : TemplateId) (globals : List (String × Value)) (w : World) :
    Leads (do addGlobals id globals; return id) w :=
  (leads_addGlobals id globals w).bind fun _ _ _ => .of_unchanged rfl

/-- Loading a template by its name is a sequence of steps. -/
theorem leads_named (globals : List (String × Value)) (name : String) (w : World) :
    Leads (named globals name) w := by
  refine Leads.bind (.of_unchanged rfl) fun _ _ hget => ?_
  cases hget
  cases hcache : w.cache.get name with
  | none => exact leads_fresh globals name w
  | some entry =>
    obtain ⟨id, cache⟩ := entry
    dsimp only
    -- a hit is moved to the front before it is known to be current
    refine Leads.bind (.single (.use hcache)) fun _ _ hmodify => ?_
    cases hmodify
    refine Leads.bind (.of_unchanged rfl) fun _ _ hget => ?_
    cases hget
    refine Leads.bind (.of_unchanged ?_) fun t w' ht => ?_
    · rw [Run.exec_template]
    split
    · exact leads_kept id globals w'
    · exact leads_fresh globals name w'

theorem leads_compile (host : Option String) (p : Parsed) (w : World) : Leads (compile host p) w := by
  unfold Leads
  rw [exec_compile_eq]
  exact .single (.register _)

theorem leads_source (host : Option String) (code : String) (w : World) :
    Leads (do compile host (← parse host code)) w :=
  Leads.bind (.of_unchanged (by rw [exec_parse])) fun p w' _ => leads_compile host p w'

/-- A template that is not found by a name is made if it passes the check. -/
theorem leads_instantiate {name : Option String} {p : Parsed} {w w' : World}
    (h : Run.exec (compile name p) w = (.ok (), w')) (globals : List (String × Value)) :
    Leads (instantiate name p.template globals .given) w' := by
  rw [exec_compile_eq] at h
  obtain ⟨hverdict, rfl⟩ := Prod.mk.inj h
  exact .single (.given name globals hverdict)

theorem leads_ofSource (name : Option String) (code : String) (globals : List (String × Value))
    (w : World) : Leads (ofSource name code globals .given) w := by
  refine Leads.bind (.of_unchanged rfl) fun _ w₀ _ => ?_
  refine Leads.bind (.of_unchanged (by rw [exec_parse])) fun p w₁ _ => ?_
  exact (leads_compile name p w₁).bind fun _ w₂ hcompile => leads_instantiate hcompile globals

/-- The ways in which loading an embedded template ends: it is kept in compiled form, there is none
under the key, or its tree is compiled, which the check refuses or not. -/
inductive EmbedLoad (globals : List (String × Value)) (key : String) (w : World) :
    Except Fault TemplateId × World → Prop
  | kept {id : TemplateId} {registry : Registry TemplateId}
      (hfetch : w.registry.fetch key = some (id, registry)) :
      EmbedLoad globals key w (Run.exec (do addGlobals id globals; return id) { w with registry })
  | missing (hfetch : w.registry.fetch key = none) (htree : w.registry.tree? key = none) :
      EmbedLoad globals key w (.error (.notFound (.text key) key), w)
  | refused {tree : Template} {f : Fault} (hfetch : w.registry.fetch key = none)
      (htree : w.registry.tree? key = some tree) (hverdict : verdict w.env tree = .error f) :
      EmbedLoad globals key w (.error f, { w with registry := w.registered (some key) [] })
  | compiled {tree : Template} (hfetch : w.registry.fetch key = none)
      (htree : w.registry.tree? key = some tree) (hverdict : verdict w.env tree = .ok ()) :
      EmbedLoad globals key w (.ok (w.nextId (some key)), { w with
        templates := (w.nextId (some key), .ofTree tree globals .given) :: w.templates
        registry := Registry.keep (w.registered (some key) []) w.env.embedLimit key
          (w.nextId (some key)) })

/-- What loading an embedded template gives and leaves behind. -/
theorem exec_embedded (globals : List (String × Value)) (key : String) (w : World) :
    EmbedLoad globals key w (Run.exec (embedded globals key) w) := by
  rw [embedded, Run.exec_bind, Run.exec_get, Run.andThen_ok]
  cases hfetch : w.registry.fetch key with
  | some entry => exact .kept hfetch
  | none =>
    dsimp only
    rw [Run.exec_bind, Run.exec_get, Run.andThen_ok]
    cases htree : w.registry.tree? key with
    | none => exact .missing hfetch htree
    | some tree =>
      dsimp only
      rw [Run.exec_bind, exec_compile_eq]
      dsimp only
      cases hverdict : verdict w.env tree with
      | error f => exact .refused hfetch htree hverdict
      | ok _ => exact .compiled hfetch htree hverdict

/-- Loading an embedded template is a sequence of steps. -/
theorem leads_embedded (globals : List (String × Value)) (key : String) (w : World) :
    Leads (embedded globals key) w := by
  have hload := exec_embedded globals key w
  unfold Leads
  generalize Run.exec (embedded globals key) w = result at hload
  have hregister : Library.Steps w.toLibrary
      { w with registry := w.registered (some key) [] }.toLibrary := .single (.register _)
  cases hload with
  | @kept id registry _ =>
    exact .trans (.single (.register registry)) (leads_kept id globals { w with registry })
  | missing _ _ => exact .refl
  | refused _ _ _ => exact hregister
  | compiled _ _ hverdict =>
    exact (hregister.tail (.given (some key) globals hverdict)).tail (.register _)

end Load

/-! ## What every step keeps -/

namespace Library

variable {K L L' : Library}

/-- Every version of a name is lower than the number of templates loaded under it. -/
def Numbered (L : Library) : Prop :=
  ∀ e ∈ L.templates, e.1.version < L.templates.countP fun d => d.1.name == e.1.name

/-- Every loaded template has passed the check and has the blocks of its tree. -/
def Checked (L : Library) : Prop :=
  ∀ e ∈ L.templates, Load.verdict L.env e.2.tree = .ok () ∧
    e.2.blocks = (Stmt.blocksOfList e.2.tree.body).map fun b => (b.2.1, b.2.2.1)

/-- A library that has grown from another: the sources are the same, and what was loaded then is
still there. -/
structure Grown (K L : Library) : Prop where
  env_eq : L.env = K.env
  store_eq : L.store = K.store
  lookup : ∀ {id : TemplateId} {t : LoadedTemplate}, K.templates.lookup id = some t →
    ∃ t', L.templates.lookup id = some t' ∧ t'.tree = t.tree ∧ t'.blocks = t.blocks ∧
      t'.origin = t.origin

theorem Grown.refl (L : Library) : Grown L L :=
  ⟨rfl, rfl, fun h => ⟨_, h, rfl, rfl, rfl⟩⟩

theorem Grown.trans (h : Grown K L) (h' : Grown L L') : Grown K L' where
  env_eq := h'.env_eq.trans h.env_eq
  store_eq := h'.store_eq.trans h.store_eq
  lookup ht := by
    obtain ⟨t₁, ht₁, htree, hblocks, horigin⟩ := h.lookup ht
    obtain ⟨t₂, ht₂, htree', hblocks', horigin'⟩ := h'.lookup ht₁
    exact ⟨t₂, ht₂, htree'.trans htree, hblocks'.trans hblocks, horigin'.trans horigin⟩

theorem Grown.gives (h : Grown K L) {name : String} {source : FoundSource} {p : Parsed} :
    L.Gives name source p ↔ K.Gives name source p := by
  rw [Gives, Gives, h.env_eq, h.store_eq]

/-- A changed template is found where it was before. -/
theorem lookup_change (id : TemplateId) (f : LoadedTemplate → LoadedTemplate)
    (templates : List (TemplateId × LoadedTemplate)) (i : TemplateId) :
    (templates.map fun e => if e.1 == id then (e.1, f e.2) else e).lookup i =
      (templates.lookup i).map fun t => if i == id then f t else t := by
  induction templates with
  | nil => rfl
  | cons e es ih =>
    obtain ⟨j, t⟩ := e
    have hhead : (if j == id then (j, f t) else (j, t)) = (j, if j == id then f t else t) := by
      split <;> rfl
    rw [List.map_cons]
    dsimp only
    rw [hhead, List.lookup_cons, List.lookup_cons]
    cases hij : i == j with
    | true => rw [eq_of_beq hij]; rfl
    | false => exact ih

/-- A template that is loaded already is not the next one. -/
theorem Numbered.lookup_next (h : L.Numbered) {name : Option String} {id : TemplateId}
    {t : LoadedTemplate} (ht : L.templates.lookup id = some t) (u : LoadedTemplate) :
    ((L.nextId name, u) :: L.templates).lookup id = some t := by
  rw [List.lookup_cons]
  have hne : (id == L.nextId name) = false := by
    refine beq_false_of_ne fun heq => ?_
    have hlt := h _ (mem_of_lookup ht)
    rw [heq] at hlt
    exact Nat.lt_irrefl _ hlt
  rw [hne]
  exact ht

theorem Numbered.next (h : L.Numbered) (name : Option String) (u : LoadedTemplate) :
    ∀ e ∈ (L.nextId name, u) :: L.templates, e.1.version <
      ((L.nextId name, u) :: L.templates).countP fun d => d.1.name == e.1.name := by
  intro e he
  rw [List.countP_cons]
  rcases List.mem_cons.1 he with rfl | he
  · have hself : ((L.nextId name).name == (L.nextId name).name) = true := beq_self_eq_true _
    rw [if_pos hself]
    exact Nat.lt_succ_self _
  · exact Nat.lt_of_lt_of_le (h e he) (Nat.le_add_right _ _)

/-- Numbers stay in order in every step. -/
theorem Numbered.step (h : L.Numbered) (hstep : Step L L') : L'.Numbered := by
  cases hstep with
  | use _ => exact h
  | register _ => exact h
  | change id f _ =>
    intro e he
    obtain ⟨d, hd, rfl⟩ := List.mem_map.1 he
    rw [List.countP_map]
    have hname (c : TemplateId × LoadedTemplate) :
        (if c.1 == id then (c.1, f c.2) else c).1 = c.1 := by split <;> rfl
    simp only [Function.comp_def, hname]
    exact h d hd
  | given name globals _ => exact h.next name _
  | found globals _ _ => exact h.next _ _

/-- What was loaded is still there after every step. -/
theorem Grown.step (h : L.Numbered) (hstep : Step L L') : Grown L L' := by
  cases hstep with
  | use _ => exact ⟨rfl, rfl, fun ht => ⟨_, ht, rfl, rfl, rfl⟩⟩
  | register _ => exact ⟨rfl, rfl, fun ht => ⟨_, ht, rfl, rfl, rfl⟩⟩
  | change id f hf =>
    refine ⟨rfl, rfl, fun {i t} ht => ⟨if i == id then f t else t, ?_, ?_⟩⟩
    · rw [lookup_change, ht]
      rfl
    · split
      · exact hf t
      · exact ⟨rfl, rfl, rfl⟩
  | given name globals _ => exact ⟨rfl, rfl, fun ht => ⟨_, h.lookup_next ht _, rfl, rfl, rfl⟩⟩
  | found globals _ _ => exact ⟨rfl, rfl, fun ht => ⟨_, h.lookup_next ht _, rfl, rfl, rfl⟩⟩

/-- A template must pass the check in every step that makes one. -/
theorem Checked.step (h : L.Checked) (hstep : Step L L') : L'.Checked := by
  cases hstep with
  | use _ => exact h
  | register _ => exact h
  | change id f hf =>
    intro e he
    obtain ⟨d, hd, rfl⟩ := List.mem_map.1 he
    split
    · obtain ⟨htree, hblocks, -⟩ := hf d.2
      rw [htree, hblocks]
      exact h d hd
    · exact h d hd
  | given name globals hverdict => exact List.forall_mem_cons.2 ⟨⟨hverdict, rfl⟩, h⟩
  | found globals _ hverdict => exact List.forall_mem_cons.2 ⟨⟨hverdict, rfl⟩, h⟩

/-- What every step keeps is kept by a sequence of steps. -/
theorem Steps.keep {P : Library → Prop} (hstep : ∀ L L', P L → Step L L' → P L') (h : Steps L L')
    (hL : P L) : P L' := by
  induction h with
  | refl => exact hL
  | tail _ hs ih => exact hstep _ _ ih hs

theorem Numbered.steps (h : L.Numbered) (hsteps : Steps L L') : L'.Numbered :=
  hsteps.keep (fun _ _ hL hstep => hL.step hstep) h

theorem Checked.steps (h : L.Checked) (hsteps : Steps L L') : L'.Checked :=
  hsteps.keep (fun _ _ hL hstep => hL.step hstep) h

/-- A library has grown after a sequence of steps. -/
theorem Numbered.grown (h : L.Numbered) (hsteps : Steps L L') : Grown L L' := by
  have hboth : L'.Numbered ∧ Grown L L' :=
    hsteps.keep (P := fun M => M.Numbered ∧ Grown L M)
      (fun M M' hM hstep => ⟨hM.1.step hstep, hM.2.trans (Grown.step hM.1 hstep)⟩)
      ⟨h, Grown.refl L⟩
  exact hboth.2

end Library

end Stencil
