import Stencil.Proofs.Embed.Registration
import Stencil.Proofs.Inspect.Literal
import Stencil.Proofs.Simulation.Machine

/-!
# Rendering looks at linked templates only

The templates that can be reached from one by following what inspection finds are all that rendering
it can load, as long as the sources on the way name templates literally. So it does not matter what
other sources there are.

Two runs over stores that agree on a set of names are compared by the simulation `ClosedUnder.sim`.
The libraries of the two runs are the same but for their stores. The set is closed under what the
sources in it can ask for; a second `extends` in a body is of no concern, because a template that is
known to extend another fails there before it loads anything.
-/

namespace Stencil

open Stmt

/-- Two stores agree on a set of names that is closed under what its sources ask for. -/
structure ClosedUnder (env : Environment) (R : String → Prop) (s s' : Store) : Prop where
  registry : env.flavour.hasRegistry = true
  loader : env.loader = .named
  agree : ∀ n, R n → s'.named.lookup n = s.named.lookup n
  host : ∀ {n code p}, R n → s.named.lookup n = some code →
    env.options.language.parse (some n) code = .ok p → RootWithin R p.template.body
  embeds : ∀ {n code p}, R n → s.named.lookup n = some code →
    env.options.language.parse (some n) code = .ok p → ∀ e ∈ p.embeds, RootWithin R e.template.body

/-- A loaded template that asks for templates of a set only. -/
structure LoadedTemplate.Within (R : String → Prop) (t : LoadedTemplate) : Prop where
  root : RootWithin R t.tree.body
  blocks : t.blocks = (Stmt.blocksOfList t.tree.body).map fun b => (b.2.1, b.2.2.1)
  origin : t.origin = .given ∨ ∃ n text, t.origin = .named n text ∧ R n

/-- Libraries over two stores that are the same otherwise, and whose templates ask for templates of a
set only. -/
structure Library.Overlay (env : Environment) (R : String → Prop) (s s' : Store)
    (L L' : Library) : Prop where
  env_left : L.env = env
  env_right : L'.env = env
  store_left : L.store = s
  store_right : L'.store = s'
  templates : L'.templates = L.templates
  cache : L'.cache = L.cache
  registry : L'.registry = L.registry
  within : ∀ e ∈ L.templates, e.2.Within R
  trees : ∀ e ∈ L.registry.trees, RootWithin R e.2.body

/-- What is known of running functions: which there are, and which of them belong to a template that
extends another. -/
structure Marks where
  live : Nat → Prop
  marked : Nat → Prop

namespace Marks

def le (k l : Marks) : Prop :=
  (∀ a, k.live a → l.live a) ∧ ∀ a, k.marked a → l.marked a

end Marks

namespace ClosedUnder

variable {env : Environment} {R : String → Prop} {s s' : Store}

/-- Two runs over stores that agree on a set of names. -/
def sim (_ : ClosedUnder env R s s') : Simulation where
  Stage := Marks
  le := Marks.le
  le_refl _ := ⟨fun _ h => h, fun _ h => h⟩
  le_trans h h' := ⟨fun a ha => h'.1 a (h.1 a ha), fun a ha => h'.2 a (h.2 a ha)⟩
  line l l' := l' = l
  line_refl _ := rfl
  host h h' := h' = h
  slot a := a
  slot_injective h := h
  loose := False
  bad _ := False
  missing _ := True
  pins _ := none
  holds _ := none
  live k := k.live
  live_mono h _ ha := h.1 _ ha
  marked k := k.marked
  marked_mono h _ ha := h.2 _ ha
  dynamic := False
  names := R
  library _ := Library.Overlay env R s s'
  same _ i i' := i' = i
  same_mono _ _ _ h := h
  shared _ := True
  tag _ key key' := key' = key
  tag_mono _ _ _ h := h
  child _ _ _ := False
  child_mono _ _ _ h := h
  root _ ss ss' := ss' = ss ∧ RootWithin R ss
  root_mono _ _ _ h := h
  grow k n := ⟨⟨fun a => k.live a ∨ a = n, k.marked⟩, ⟨fun _ => .inl, fun _ h => h⟩, .inr rfl,
    fun _ h => h.imp_right Nat.le_of_eq, fun _ h => h, fun h => h⟩
  library_options h := by rw [h.env_left, h.env_right]
  library_flavour h := by rw [h.env_left, h.env_right]
  library_loader h := by rw [h.env_left, h.env_right]
  library_capacity h := by rw [h.cache]
  same_host h := by rw [h]
  same_shared h _ := by rw [h]
  reference := Simulation.reference_of_eq
  debug _ _ := ⟨fun _ _ h => h, fun _ _ h => h⟩

variable (c : ClosedUnder env R s s')

/-! ## Trees -/

mutual

theorem stmtRel_of_within {k : Marks} {top : Option (Nat × Nat)} :
    (t : Stmt) → t.Within R → c.sim.StmtRel k top t t
  | .output _ es, _ => .output rfl (.refl c.sim.line_refl es)
  | .exprStmt _ e, _ => .exprStmt rfl (.refl c.sim.line_refl e)
  | .assign _ t e, _ => .assign rfl (.refl c.sim.line_refl t) (.refl c.sim.line_refl e)
  | .continueLoop _, _ => .continueLoop rfl
  | .breakLoop _, _ => .breakLoop rfl
  | .embedded _ _, _ => .embedded rfl rfl
  | .inclusion _ e _ _, h => by
    simp only [Within] at h
    obtain ⟨el, n, rfl, hn⟩ := h
    exact .inclusion rfl (.inr ⟨el, el, n, rfl, hn, rfl, rfl⟩) _ _
  | .extend _ _, h | .importModule _ _ _ _, h | .importNames _ _ _ _, h | .embed _ _ _, h => by
    simp only [Within] at h
  | .loop _ t e body orElse test recursive, h => by
    simp only [Within] at h
    exact .loop rfl (.refl c.sim.line_refl t) (.refl c.sim.line_refl e)
      (stmtsRel_of_within body h.1) (stmtsRel_of_within orElse h.2)
      (.refl c.sim.line_refl test) recursive
  | .branch _ e body elifs orElse, h => by
    simp only [Within] at h
    exact .branch rfl (.refl c.sim.line_refl e) (stmtsRel_of_within body h.1)
      (stmtsRel_of_within elifs h.2.1) (stmtsRel_of_within orElse h.2.2)
  | .macroDef _ name params defaults body, h => by
    simp only [Within] at h
    exact .macroDef rfl name params (.refl c.sim.line_refl defaults) (stmtsRel_of_within body h)
  | .callBlock _ _ e args params defaults body, h => by
    simp only [Within] at h
    exact .callBlock rfl rfl (.refl c.sim.line_refl e) (.refl c.sim.line_refl args) params
      (.refl c.sim.line_refl defaults) (stmtsRel_of_within body h)
  | .filterBlock _ e body, h => by
    simp only [Within] at h
    exact .filterBlock rfl (.refl c.sim.line_refl e) (stmtsRel_of_within body h)
  | .withBlock _ bs body, h => by
    simp only [Within] at h
    refine .withBlock rfl (List.forall₂_same.2 fun b _ => ?_) (stmtsRel_of_within body h)
    exact ⟨.refl c.sim.line_refl b.1, .refl c.sim.line_refl b.2⟩
  | .block _ name body isScoped isRequired, h => by
    simp only [Within] at h
    exact .block rfl name (stmtsRel_of_within body h) isScoped isRequired
  | .assignBlock _ t o body, h => by
    simp only [Within] at h
    exact .assignBlock rfl (.refl c.sim.line_refl t) (.refl c.sim.line_refl o)
      (stmtsRel_of_within body h)
  | .autoescape _ e body, h => by
    simp only [Within] at h
    exact .autoescape rfl (.refl c.sim.line_refl e) (stmtsRel_of_within body h)

theorem stmtsRel_of_within {k : Marks} {top : Option (Nat × Nat)} :
    (ts : List Stmt) → AllWithin R ts → c.sim.StmtsRel k top ts ts
  | [], _ => .nil
  | t :: ts, h => by
    simp only [AllWithin] at h
    exact .cons (stmtRel_of_within t h.1) (stmtsRel_of_within ts h.2)

end

/-- An `extends` does the same wherever it fails before it loads a template. -/
theorem stmtsRel_of_marked {k : Marks} {top : Option (Nat × Nat)}
    (hmarked : ∀ a context, top = some (a, context) → k.marked a) (ts : List Stmt)
    (h : ∀ t ∈ ts, t.Within R ∨ ∃ l e, t = .extend l e) : c.sim.StmtsRel k top ts ts := by
  induction ts with
  | nil => exact .nil
  | cons t ts ih =>
    refine .cons ?_ (ih fun u hu => h u (List.mem_cons_of_mem _ hu))
    obtain ht | ⟨l, e, rfl⟩ := h t List.mem_cons_self
    · exact stmtRel_of_within c t ht
    · exact .extend rfl (.refl c.sim.line_refl e) fun a context htop =>
        ⟨rfl, rfl, .inr (hmarked a context htop)⟩

theorem stmtsRel_of_root {k : Marks} {ts : List Stmt} (h : RootWithin R ts) :
    c.sim.StmtsRel k none ts ts := by
  cases h with
  | plain h => exact stmtsRel_of_within c ts h
  | extending pre l el hpre hs hpost =>
    refine (stmtsRel_of_within c pre hpre).append (.cons ?_ ?_)
    · exact .extend rfl (.refl c.sim.line_refl _) fun _ _ htop => nomatch htop
    · exact stmtsRel_of_marked c (fun _ _ htop => by cases htop) _ hpost

theorem templateRel_of_within {k : Marks} {t : LoadedTemplate} (h : t.Within R) :
    c.sim.TemplateRel k t t where
  body := ⟨rfl, h.root⟩
  stmts := stmtsRel_of_root c h.root
  blocks := by
    rw [h.blocks, Keyed, List.forall₂_map_left_iff, List.forall₂_map_right_iff]
    exact (stmtsRel_of_root c h.root).blocks.imp fun _ _ hb => ⟨hb.2.1, hb.2.2.1⟩
  globals := rfl
  module := rfl

/-! ## Registering and compiling -/

theorem agree_verdict (t : Template) :
    c.sim.Agree
      (do match Load.verdict (← get).env t with
        | .ok () => return ()
        | .error f => throw f : Run Unit)
      (do match Load.verdict (← get).env t with
        | .ok () => return ()
        | .error f => throw f) := by
  refine Simulation.Agree.read_bind fun _ w w' hw => ?_
  rw [hw.library.env_left, hw.library.env_right]
  split
  · exact .pure _
  · exact .throw (.refl _ fun _ _ _ => trivial)

theorem agree_compile (host : Option String) {p : Parsed}
    (h : ∀ e ∈ p.embeds, RootWithin R e.template.body) :
    c.sim.Agree (Load.compile host p) (Load.compile host p) := by
  refine Simulation.Agree.read_bind fun _ w w' hw => ?_
  rw [c.sim.library_flavour hw.library]
  split
  · refine Simulation.Agree.bind (Simulation.Agree.update fun _ w w' hw => ?_) fun _ =>
      agree_verdict c p.template
    refine { hw with library := { hw.library with registry := ?_, trees := fun x hx => ?_ } }
    · exact congrArg (·.register host p.embeds) hw.library.registry
    · obtain hx | ⟨e, he, hx⟩ := Registry.mem_trees_register hx
      · exact hw.library.trees x hx
      · rw [hx]
        exact h e he
  · exact agree_verdict c p.template

theorem agree_instantiate (name : Option String) {tree : Template} (hroot : RootWithin R tree.body)
    (globals : List (String × Value)) {origin : Origin}
    (horigin : origin = .given ∨ ∃ n text, origin = .named n text ∧ R n) :
    c.sim.Agree (Load.instantiate name tree globals origin)
      (Load.instantiate name tree globals origin) :=
  Simulation.Agree.replace fun _ w w' hw => by
    refine ⟨{ hw with library := { hw.library with templates := ?_, within := ?_ } }, ?_⟩
    · rw [hw.library.templates]
    · exact List.forall_mem_cons.2 ⟨⟨hroot, rfl, horigin⟩, hw.library.within⟩
    · rw [hw.library.templates]

/-! ## Loading -/

/-- A change of a loaded template that leaves its tree, its blocks and its origin alone. -/
theorem agree_modifyTemplate (id : TemplateId) {f : LoadedTemplate → LoadedTemplate}
    (hf : ∀ t, t.Within R → (f t).Within R) :
    c.sim.Agree (Run.modifyTemplate id f) (Run.modifyTemplate id f) :=
  Simulation.Agree.update fun _ w w' hw => by
    refine { hw with library := { hw.library with templates := ?_, within := fun x hx => ?_ } }
    · rw [hw.library.templates]
    · obtain ⟨e, he, rfl⟩ := List.mem_map.1 hx
      split
      · exact hf _ (hw.library.within e he)
      · exact hw.library.within e he

theorem agree_addGlobals (id : TemplateId) (globals : List (String × Value)) :
    c.sim.Agree (Load.addGlobals id globals) (Load.addGlobals id globals) :=
  agree_modifyTemplate c id fun _ h => ⟨h.root, h.blocks, h.origin⟩

theorem sim_found {k : Marks} {n : String} (hn : R n) :
    c.sim.Sim k (Load.find n) (Load.find n) fun _ a b => b = a ∧ s.named.lookup n = some a.code ∧
      a.origin = .named n a.code := by
  refine Simulation.Sim.read_bind fun w w' hw => ?_
  rw [hw.library.env_left, hw.library.env_right, hw.library.store_left, hw.library.store_right,
    c.loader]
  simp only [Loader.find, c.agree n hn]
  cases s.named.lookup n with
  | none => exact Simulation.Sim.throw (.notFound trivial _)
  | some code => exact Simulation.Sim.pure ⟨rfl, rfl, rfl⟩

/-- A name of the set is read from its source on both sides. -/
theorem sim_fresh {k : Marks} {n : String} (hn : R n) (globals : List (String × Value)) :
    c.sim.Sim k
      (do
        let source ← Load.find n
        let id ← Load.ofSource (some n) source.code globals source.origin
        modify fun w => { w with cache := w.cache.put n id }
        return id : Run TemplateId)
      (do
        let source ← Load.find n
        let id ← Load.ofSource (some n) source.code globals source.origin
        modify fun w => { w with cache := w.cache.put n id }
        return id) fun _ a b => b = a := by
  refine (sim_found c hn).bind fun l _ a b hab => ?_
  -- both stores have the same source under this name, which is parsed in the same way
  obtain ⟨rfl, hcode, horigin⟩ := hab
  refine Simulation.Sim.bind (U := fun _ i i' => i' = i) ?_ fun m _ i i' hi => ?_
  · refine Simulation.Sim.record_bind (.inr ?_)
    refine Simulation.Sim.bind (U := fun _ p p' => p' = p ∧
      env.options.language.parse (some n) b.code = .ok p) ?_ fun m _ p p' hp => ?_
    · refine Simulation.Sim.read_bind fun w w' hw => ?_
      rw [hw.library.env_left, hw.library.env_right]
      cases hp : env.options.language.parse (some n) b.code with
      | ok p => exact Simulation.Sim.pure ⟨rfl, rfl⟩
      | error e => exact Simulation.Sim.throw (.refl _ nofun)
    · obtain ⟨rfl, hp⟩ := hp
      refine Simulation.Sim.agree_bind (agree_compile c _ (c.embeds hn hcode hp)) fun _ _ _ => ?_
      exact agree_instantiate c _ (c.host hn hcode hp) globals (.inr ⟨n, _, horigin, hn⟩) _
  · subst hi
    refine Simulation.Sim.update_bind (fun w w' hw => ?_) (Simulation.Sim.pure rfl)
    exact { hw with library := { hw.library with cache := by rw [hw.library.cache] } }

include c in
/-- Whether a loaded template is current is the same for both stores. -/
theorem isCurrent_eq {t : LoadedTemplate} (h : t.Within R) :
    s'.isCurrent t.origin = s.isCurrent t.origin := by
  obtain horigin | ⟨n, text, horigin, hn⟩ := h.origin
  · rw [horigin]
    rfl
  · rw [horigin, Store.isCurrent, Store.isCurrent, c.agree n hn]

theorem sim_templateWithin {k : Marks} (id : TemplateId) :
    c.sim.Sim k (Run.template id) (Run.template id) fun _ t t' => t' = t ∧ t.Within R := by
  refine Simulation.Sim.read_bind fun w w' hw => ?_
  rw [hw.library.templates]
  cases ht : w.templates.lookup id with
  | none => exact Simulation.Sim.accident _
  | some t => exact Simulation.Sim.pure ⟨rfl, hw.library.within _ (mem_of_lookup ht)⟩

/-- A name of the set leads to the same template over both stores. -/
theorem sim_named {k : Marks} {n : String} (hn : R n) (globals : List (String × Value)) :
    c.sim.Sim k (Load.named globals n) (Load.named globals n) fun _ a b => b = a := by
  refine Simulation.Sim.read_bind fun w w' hw => ?_
  rw [hw.library.cache]
  split
  · exact sim_fresh c hn globals
  · refine Simulation.Sim.update_bind (fun w w' hw => ?_) (Simulation.Sim.read_bind fun w w' hw => ?_)
    · exact { hw with library := { hw.library with cache := rfl } }
    refine (sim_templateWithin c _).bind fun l _ t t' ht => ?_
    obtain ⟨rfl, ht⟩ := ht
    rw [hw.library.env_left, hw.library.env_right, hw.library.store_left, hw.library.store_right,
      isCurrent_eq c ht]
    split
    · exact Simulation.Sim.agree_bind (agree_addGlobals c _ globals) fun _ _ _ =>
        Simulation.Sim.pure rfl
    · exact sim_fresh c hn globals

theorem sim_embedded {k : Marks} (key : String) (globals : List (String × Value)) :
    c.sim.Sim k (Load.embedded globals key) (Load.embedded globals key) fun _ a b => b = a := by
  refine Simulation.Sim.read_bind fun w w' hw => ?_
  rw [hw.library.registry]
  split
  · rename_i id registry hfetch
    refine Simulation.Sim.update_bind (fun w₁ w₁' hw₁ => ?_) ?_
    -- a hit reorders what is compiled, and leaves the trees
    · refine { hw₁ with library := { hw₁.library with registry := rfl, trees := ?_ } }
      rw [Registry.fetch, Option.map_eq_some_iff] at hfetch
      obtain ⟨_, -, h⟩ := hfetch
      cases h
      exact hw.library.trees
    · exact Simulation.Sim.agree_bind (agree_addGlobals c _ globals) fun _ _ _ =>
        Simulation.Sim.pure rfl
  · refine Simulation.Sim.read_bind fun w w' hw => ?_
    rw [hw.library.registry]
    cases htree : w.registry.tree? key with
    | none => exact Simulation.Sim.throw (.notFound trivial _)
    | some tree =>
      -- every registered tree keeps to the set, and so does what is compiled from it
      have hroot := hw.library.trees _ (mem_of_lookup htree)
      refine Simulation.Sim.agree_bind (agree_compile c _ fun e he => nomatch he) fun _ _ _ => ?_
      refine Simulation.Sim.agree_bind (agree_instantiate c _ hroot globals (.inl rfl))
        fun _ _ id => ?_
      refine Simulation.Sim.update_bind (fun w w' hw => ?_) (Simulation.Sim.pure rfl)
      refine { hw with library := { hw.library with registry := ?_, trees := hw.library.trees } }
      change w'.registry.keep w'.env.embedLimit key id = w.registry.keep w.env.embedLimit key id
      rw [hw.library.registry, hw.library.env_left, hw.library.env_right]

theorem laws : c.sim.Laws where
  template {k L L' i i'} hL hi := by
    cases hi
    rw [hL.templates]
    cases ht : L.templates.lookup i with
    | none => exact .inl ⟨rfl, rfl⟩
    | some t => exact .inr ⟨t, t, rfl, rfl, templateRel_of_within c (hL.within _ (mem_of_lookup ht))⟩
  named hs := .inr <| (sim_named c (hs.resolve_left id) []).imp fun _ _ _ _ h =>
    ⟨h, congrArg TemplateId.name h, .inr ⟨h, trivial⟩⟩
  embedded _ _ := .inr <| (sim_embedded c _ []).imp fun _ _ _ _ h =>
    ⟨h, congrArg TemplateId.name h, .inr ⟨h, trivial⟩⟩
  tag {k key key' eng eng'} htag := by
    cases htag
    refine Simulation.Sim.read_bind fun w w' hw => ?_
    rw [hw.library.env_left, hw.library.env_right, c.registry]
    exact sim_embedded c key []
  child h := h.elim
  missing h := h.elim
  module _ _ := agree_modifyTemplate c _ fun _ h => ⟨h.root, h.blocks, h.origin⟩

/-! ## Bodies of templates -/

/-- That a running template extends another is known from then on. -/
theorem sim_setMarked {k : Marks} {a : Nat} (ha : k.live a) (id : TemplateId) :
    c.sim.Sim k (Run.setExtended a id) (Run.setExtended a id) fun l _ _ => l.marked a := by
  intro w w' hw
  let l : Marks := ⟨k.live, fun i => k.marked i ∨ i = a⟩
  have hl : c.sim.le k l := ⟨fun _ h => h, fun _ h => .inl h⟩
  have hset := hw.modifyActivation a (f := fun act => { act with extended := some id })
    (fun _ => rfl) (fun _ => rfl) (fun _ _ => rfl) (fun _ _ _ => .inr rfl) (.inl rfl)
  refine .inr (.done hl (hset.later hl hset.library hset.live ?_) (.inr rfl))
  rintro i (hi | rfl)
  · exact hset.marked i hi
  · have hi : i < w.activations.size := hw.live i ha
    refine ⟨{ w.activations[i] with extended := some id }, ?_, rfl⟩
    change (w.activations.modify i _)[i]? = _
    rw [Array.getElem?_modify, if_pos rfl, Array.getElem?_eq_getElem hi]
    rfl

/-- The body of a template does the same over both stores: at its first `extends` the name is one of
the set, and after it no other template can be extended. -/
theorem agreeFrom_runBody {eng eng' : Engine} (h : c.sim.EngRel eng eng') {k : Marks} {f : Frame}
    (hlive : k.live f.activation) {ss : List Stmt} (hss : RootWithin R ss) :
    c.sim.AgreeFrom k (Run.runStmts eng f ss) (Run.runStmts eng' f ss) := by
  intro l hl
  replace hlive : l.live f.activation := hl.1 _ hlive
  let top : Option (Nat × Nat) := some (f.activation, f.context)
  have htop : f.toplevel = true → top = some (f.activation, f.context) := fun _ => rfl
  cases hss with
  | plain hss =>
    exact (Simulation.agreeFrom_runStmts c.laws h f rfl hlive htop
      (stmtsRel_of_within c ss hss)).now
  | @extending pre post l₀ el n hpre hn hpost =>
    have hfirst := (Simulation.agreeFrom_runStmts c.laws h f rfl hlive htop
      (stmtsRel_of_within c pre hpre)).now
    rw [Run.runStmts_append, Run.runStmts_append]
    refine hfirst.bind fun l₁ hl₁ flow flow' hflow => ?_
    subst hflow
    cases flow' with
    -- only if the statements before it come to their end is the template extended
    | breakLoop => exact Simulation.Sim.pure rfl
    | continueLoop => exact Simulation.Sim.pure rfl
    | next =>
      have hextends : c.sim.Extends l₁ top (.const el (.text n)) (.const el (.text n)) :=
        fun _ _ _ => ⟨rfl, rfl, .inl (.inr ⟨el, el, n, rfl, hn, rfl, rfl⟩)⟩
      have hmark := Simulation.sim_runExtend c.laws h f rfl htop hextends
        (P := fun m => m.marked f.activation) (fun _ _ hm h => hm.2 _ h)
        fun m id hm _ _ => sim_setMarked c (hm.1 _ (hl₁.1 _ hlive)) id
      rw [Run.runStmts, Run.runStmts, Run.runStmt, Run.runStmt, Run.andNext, Run.andNext,
        bind_assoc, bind_assoc]
      refine hmark.bind fun m hm _ _ hmarked => ?_
      rw [pure_bind, pure_bind]
      refine (Simulation.agreeFrom_runStmts c.laws h f rfl (hm.1 _ (hl₁.1 _ hlive)) htop
        (stmtsRel_of_marked c (fun a context ha => ?_) post hpost)).now
      obtain ⟨rfl, rfl⟩ := Prod.mk.inj (Option.some.inj ha)
      exact hmarked

theorem ownLaw : c.sim.OwnLaw := by
  intro k i i' context eng eng' h hi _
  cases hi
  refine (sim_templateWithin c i).bind fun l _ t t' ht => Simulation.Sim.read_bind fun w w' hw => ?_
  obtain ⟨rfl, ht⟩ := ht
  refine (Simulation.sim_newActivation _ rfl (by rintro _ ⟨⟩)).bind fun l₁ hl₁ a a' ha => ?_
  obtain ⟨rfl, -, hlive⟩ := ha
  have hstmts := stmtsRel_of_root c (k := l₁) ht.root
  have hframe : Run.ownFrame w' i t'.tree.body a' context =
      c.sim.frame (Run.ownFrame w i t'.tree.body a' context) i.name :=
    Simulation.ownFrame_eq hw (stmtsRel_of_root c ht.root) a' context
  rw [hframe]
  refine (Simulation.agreeFrom_runTop hstmts (agreeFrom_runBody c h hlive ht.root)).now.bind
    fun l₂ _ _ _ _ => ?_
  exact Simulation.sim_extendedBy a'

end ClosedUnder

end Stencil
