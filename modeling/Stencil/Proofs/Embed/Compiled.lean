import Stencil.Proofs.Embed.Visits
import Stencil.Proofs.Render.Sourced

/-!
# Compiled embeds

A compiled embed is kept under its key for as long as its tree is registered there. A tree that is
registered stays as it is, and when it is forgotten the compiled embed is forgotten with it. So what
is kept under a key never goes stale: it is the compilation of the tree that is registered now, in
whichever order hosts were edited, keys dropped and embeds loaded.

## Key results

- `Registry.trims_register`: a compilation only takes compiled embeds away
- `Load.compiled_embedded`: what a key leads to was compiled under it
- `Workspace.Reachable.current`: a compiled embed is the compilation of the registered tree
-/

namespace Stencil

namespace Registry

variable {α : Type} {r s t : Registry α}

/-- Compiled embeds were only taken away, and those that are left have the trees they had. -/
def Trims (r s : Registry α) : Prop :=
  ∀ e ∈ s.compiled, e ∈ r.compiled ∧ ∀ t, r.tree? e.1 = some t → s.tree? e.1 = some t

theorem Trims.refl (r : Registry α) : Trims r r :=
  fun _ he => ⟨he, fun _ ht => ht⟩

theorem Trims.trans (h : Trims r s) (h' : Trims s t) : Trims r t := by
  intro e he
  obtain ⟨hs, htree⟩ := h' e he
  obtain ⟨hr, htree'⟩ := h e hs
  exact ⟨hr, fun u hu => htree u (htree' u hu)⟩

/-- A compilation takes a compiled embed away if it takes its tree. -/
theorem trims_register (r : Registry α) (host : Option String) (embeds : List Embedded) :
    Trims r (r.register host embeds) := by
  intro e he
  obtain ⟨hmem, hfresh⟩ := (mem_compiled_register r host embeds e).1 he
  exact ⟨hmem, fun t ht => tree?_register_of_some ht hfresh⟩

theorem trims_fetch {key : String} {a : α} (h : r.fetch key = some (a, s)) : Trims r s := by
  obtain ⟨hmem, rfl⟩ := fetch_eq_some h
  refine fun e he => ⟨?_, fun t ht => ht⟩
  obtain he | he := List.mem_append.1 he
  · exact (mem_drop.1 he).1
  · rw [List.mem_singleton.1 he]
    exact hmem

end Registry

namespace Library

open Registry (Trims)

variable {K L : Library}

/-- A loaded template that a tree was compiled to under a name. -/
def CompiledFrom (L : Library) (name : String) (tree : Template) (id : TemplateId) : Prop :=
  id.name = some name ∧ ∃ t, L.templates.lookup id = some t ∧ t.tree = tree ∧
    t.blocks = (Stmt.blocksOfList tree.body).map fun b => (b.2.1, b.2.2.1)

/-- Every compiled embed is the compilation of the tree that is registered under its key. -/
def Current (L : Library) : Prop :=
  ∀ e ∈ L.registry.compiled, ∃ tree, L.registry.tree? e.1 = some tree ∧ L.CompiledFrom e.1 tree e.2

theorem CompiledFrom.grown {name : String} {tree : Template} {id : TemplateId}
    (h : K.CompiledFrom name tree id) (hgrown : Grown K L) : L.CompiledFrom name tree id := by
  obtain ⟨hname, t, ht, htree, hblocks⟩ := h
  obtain ⟨t', ht', htree', hblocks', -⟩ := hgrown.lookup ht
  exact ⟨hname, t', ht', htree'.trans htree, hblocks'.trans hblocks⟩

theorem Current.trims (h : K.Current) (hgrown : Grown K L) (htrims : Trims K.registry L.registry) :
    L.Current := by
  intro e he
  obtain ⟨hmem, hkept⟩ := htrims e he
  obtain ⟨tree, htree, hcompiled⟩ := h e hmem
  exact ⟨tree, hkept tree htree, hcompiled.grown hgrown⟩

theorem trims_registered (L : Library) (host : Option String) (embeds : List Embedded) :
    Trims L.registry (L.registered host embeds) := by
  rw [registered]
  split
  · exact Registry.trims_register _ _ _
  · exact .refl _

end Library

variable {α β : Type}

namespace Load

open Library (Current)

/-! ## Loading -/

/-- A computation that only takes compiled embeds away. -/
def Trims (x : Run α) (w : World) : Prop :=
  Registry.Trims w.registry (Run.exec x w).2.registry

theorem Trims.of_unchanged {x : Run α} {w : World}
    (h : (Run.exec x w).2.registry = w.registry) : Trims x w := by
  rw [Trims, h]
  exact .refl _

theorem Trims.bind {x : Run α} {f : α → Run β} {w : World} (hx : Trims x w)
    (hf : ∀ a w', Trims (f a) w') : Trims (x >>= f) w := by
  unfold Trims at hx ⊢
  rw [Run.exec_bind]
  generalize Run.exec x w = r at hx
  obtain ⟨r, w₁⟩ := r
  cases r with
  | error e => exact hx
  | ok a => exact hx.trans (hf a w₁)

theorem trims_compile (host : Option String) (p : Parsed) (w : World) : Trims (compile host p) w := by
  rw [Trims, exec_compile_eq]
  exact w.trims_registered host p.embeds

theorem trims_source (host : Option String) (code : String) (w : World) :
    Trims (do compile host (← parse host code)) w :=
  Trims.bind (.of_unchanged (by rw [exec_parse])) fun p => trims_compile host p

theorem trims_ofSource (name : Option String) (code : String) (globals : List (String × Value))
    (origin : Origin) (w : World) : Trims (ofSource name code globals origin) w := by
  refine Trims.bind (.of_unchanged rfl) fun _ w => ?_
  refine Trims.bind (.of_unchanged (by rw [exec_parse])) fun p w => ?_
  exact (trims_compile name p w).bind fun _ _ => .of_unchanged rfl

theorem trims_fresh (globals : List (String × Value)) (name : String) (w : World) :
    Trims (fresh globals name) w := by
  refine Trims.bind (.of_unchanged ?_) fun source w => ?_
  · obtain ⟨_, -, hexec⟩ | ⟨_, _, -, hexec⟩ := exec_find name w <;> rw [hexec]
  · exact (trims_ofSource _ _ _ _ w).bind fun _ _ => .of_unchanged rfl

theorem trims_named (globals : List (String × Value)) (name : String) (w : World) :
    Trims (named globals name) w := by
  refine Trims.bind (.of_unchanged rfl) fun w₀ w => ?_
  split
  · exact trims_fresh globals name w
  · refine Trims.bind (.of_unchanged rfl) fun _ w => Trims.bind (.of_unchanged rfl) fun _ w => ?_
    refine Trims.bind (.of_unchanged (by rw [Run.exec_template])) fun t w => ?_
    split
    · exact .of_unchanged rfl
    · exact trims_fresh globals name w

/-- The compilation of an embed leaves the tree of the embed where it is. -/
theorem tree?_registered_self {env : Environment} {cs : List Compilation} {L : Library}
    (h : L.Reached env cs) {key : String} {tree : Template} (ht : L.registry.tree? key = some tree) :
    Registry.tree? (L.registered (some key) []) key = some tree := by
  rw [Library.registered]
  split
  · exact Registry.tree?_register_of_some ht (h.registry.sound.not_stale_self key [])
  · exact ht

/-- An embed that is loaded is kept as the compilation of its tree. -/
theorem current_embedded {env : Environment} {cs : List Compilation} {w : World}
    (hreached : w.toLibrary.Reached env cs) (hnumbered : w.toLibrary.Numbered)
    (h : w.toLibrary.Current) (globals : List (String × Value)) (key : String) :
    (Run.exec (embedded globals key) w).2.toLibrary.Current := by
  have hgrown := hnumbered.grown (leads_embedded globals key w)
  have hload := exec_embedded globals key w
  generalize Run.exec (embedded globals key) w = result at hgrown hload ⊢
  cases hload with
  | kept hf => exact h.trims hgrown (Registry.trims_fetch hf)
  | missing _ _ => exact h
  | refused _ _ _ => exact h.trims hgrown (w.trims_registered (some key) [])
  | @compiled tree hf ht hverdict =>
    have hfetch : Registry.fetch (w.registered (some key) []) key = none := by
      rw [Library.registered]
      split
      · exact Registry.fetch_register_eq_none hf _ _
      · exact hf
    -- the last one that is kept is the new one, and the others were kept before
    intro e he
    dsimp only at he
    rw [Registry.keep_of_fetch_eq_none hfetch] at he
    obtain he | he := List.mem_append.1 (List.mem_of_mem_drop he)
    · obtain ⟨hmem, hkept⟩ := w.trims_registered (some key) [] e he
      obtain ⟨tree', htree', hfrom⟩ := h e hmem
      exact ⟨tree', hkept tree' htree', hfrom.grown hgrown⟩
    · rw [List.mem_singleton.1 he]
      exact ⟨tree, tree?_registered_self hreached ht, rfl, .ofTree tree globals .given,
        List.lookup_cons_self, rfl, rfl⟩

/-- An embed that is loaded is the compilation of some tree under its key. -/
theorem compiled_embedded {w w' : World} (hnumbered : w.toLibrary.Numbered)
    (h : w.toLibrary.Current) {globals : List (String × Value)} {key : String} {id : TemplateId}
    (hload : Run.exec (embedded globals key) w = (.ok id, w')) :
    ∃ tree, w'.toLibrary.CompiledFrom key tree id := by
  have hgrown := hnumbered.grown (leads_embedded globals key w)
  have hcases := exec_embedded globals key w
  rw [hload] at hgrown hcases
  generalize hresult : ((.ok id, w') : Except Fault TemplateId × World) = result at hcases
  cases hcases with
  -- what was handed out was kept as the compilation of its tree
  | kept hf =>
    cases hresult
    obtain ⟨tree, -, hfrom⟩ := h _ (Registry.fetch_eq_some hf).1
    exact ⟨tree, hfrom.grown hgrown⟩
  | missing _ _ => cases hresult
  | refused _ _ _ => cases hresult
  | @compiled tree _ _ _ =>
    cases hresult
    exact ⟨tree, rfl, .ofTree tree globals .given, List.lookup_cons_self, rfl, rfl⟩

end Load

/-! ## Reachable workspaces -/

/-- The registry has a history, and compiled embeds are current. -/
def currentIn (env : Environment) : Invariant where
  Stage := Unit
  le _ _ := True
  le_refl _ := trivial
  le_trans _ _ := trivial
  holds _ L := (∃ cs, L.Reached env cs) ∧ L.Numbered ∧ L.Current

theorem keeps_of_trims {env : Environment} {x : Run α} {made : Library → List Compilation}
    (hcompiles : Run.Compiles env x made) (hleads : ∀ w, Load.Leads x w)
    (htrims : ∀ w, Load.Trims x w) : (currentIn env).Keeps x := by
  rintro _ w ⟨⟨cs, hreached⟩, hnumbered, hcurrent⟩
  exact ⟨(), trivial, ⟨_, hcompiles w cs hreached⟩, hnumbered.steps (hleads w),
    hcurrent.trims (hnumbered.grown (hleads w)) (htrims w)⟩

theorem holds_store {env : Environment} {L : Library} (h : (currentIn env).holds () L)
    (store : Store) : (currentIn env).holds () { L with store } := by
  obtain ⟨⟨cs, hreached⟩, hnumbered, hcurrent⟩ := h
  exact ⟨⟨cs, hreached.env_eq, hreached.registry⟩, hnumbered, hcurrent⟩

theorem service_currentIn {env : Environment} (hreg : env.flavour.hasRegistry = true) :
    (currentIn env).Service where
  named globals name := keeps_of_trims (Load.compiles_named hreg globals name)
    (Load.leads_named globals name) (Load.trims_named globals name)
  embedded globals key := by
    rintro _ w ⟨⟨cs, hreached⟩, hnumbered, hcurrent⟩
    exact ⟨(), trivial, ⟨_, Load.compiles_embedded hreg globals key w cs hreached⟩,
      hnumbered.steps (Load.leads_embedded globals key w),
      Load.current_embedded hreached hnumbered hcurrent globals key⟩
  module id m := keeps_of_trims (Run.quiet_modifyTemplate id _).compiles
    (Load.leads_modifyTemplate id (f := fun t => { t with module := some m }) fun _ => ⟨rfl, rfl, rfl⟩)
    fun _ => .of_unchanged rfl
  source code := keeps_of_trims (Load.compiles_ofSource hreg none code [] .given)
    (Load.leads_ofSource none code []) (Load.trims_ofSource none code [] .given)
  compile host code := keeps_of_trims (Load.compiles_source hreg host code)
    (Load.leads_source host code) (Load.trims_source host code)
  write _ _ h := ⟨holds_store h _, holds_store h _⟩
  set _ _ h := ⟨holds_store h _, holds_store h _⟩

/-- In every reachable workspace the registry has a history, and compiled embeds are current. -/
theorem Workspace.Reachable.currentIn {p : WorkspacePlan} {ws : Workspace} (h : Reachable p ws)
    (hreg : ws.world.env.flavour.hasRegistry = true) :
    (currentIn ws.world.env).holds () ws.world.toLibrary := by
  obtain ⟨ws₀, hnew, henv, -⟩ := h.sourced
  obtain ⟨ws₁, hnew₁, hws₁⟩ := h.origin
  have hempty (ws' : Workspace) (hws' : p.build = .ok ws') :
      (Stencil.currentIn ws.world.env).holds () ws'.world.toLibrary := by
    rw [henv, hws₁ ws₀ hnew, ← hws₁ ws' hws']
    refine ⟨⟨[], Library.reached_of_build hws'⟩, fun e he => ?_, fun e he => ?_⟩
    · rw [(world_of_build hws').1] at he
      exact nomatch he
    · rw [(world_of_build hws').1] at he
      exact nomatch he
  obtain ⟨_, -, hkept⟩ := (service_currentIn hreg).kept hempty h
  exact hkept.holds

/-- In every reachable workspace, what is kept under a key is the compilation of the tree that is
registered under it. -/
theorem Workspace.Reachable.current {p : WorkspacePlan} (hreg : p.flavour.hasRegistry = true)
    {ws : Workspace} (h : Reachable p ws) : ws.world.toLibrary.Current := by
  obtain ⟨ws₀, hnew, henv, -⟩ := h.sourced
  have hflavour : ws.world.env.flavour = p.flavour := henv ▸ (world_of_build hnew).2.1
  exact (h.currentIn (hflavour ▸ hreg)).2.2

end Stencil
