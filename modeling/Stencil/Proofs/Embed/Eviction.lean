import Stencil.Proofs.Embed.Apart
import Stencil.Proofs.Workspace.Answers

/-!
# Which embeds are kept

Compiled embeds are kept to save work. Two workspaces that keep different numbers of them are asked
the same: one of them may use an embed that it has kept where the other compiles it again, so that
they go on with different templates. These come from the same tree, and as long as nothing is done
with them for which it matters which of them they are, no answer tells the workspaces apart.

## Main definitions

- `Simulation.evicting`: two runs that keep different embeds

## Main statements

- `Simulation.evicting_exact`: two such workspaces give the same answers
-/

namespace Stencil

/-- Whether a source is compiled under a key. -/
def Event.compilesKey : Event → Bool
  | .compilation name => name.any Embed.isKey
  | _ => false

/-- An event in which a key is the name of a source, or of a template that is extended or asked for
its module. -/
def Event.ofKey : Event → Bool
  | .compilation name | .attachment name => name.any Embed.isKey
  | .request _ | .reference _ => false

theorem Registry.register_congr {α : Type} {r s : Registry α} (htrees : s.trees = r.trees)
    (hhosts : s.hosts = r.hosts) (host : Option String) (embeds : List Embedded) :
    (s.register host embeds).trees = (r.register host embeds).trees ∧
      (s.register host embeds).hosts = (r.register host embeds).hosts := by
  obtain ⟨trees, hosts, compiled⟩ := r
  obtain ⟨_, _, compiled'⟩ := s
  cases htrees
  cases hhosts
  cases host <;> exact ⟨rfl, rfl⟩

namespace Library

/-- Two libraries that differ in which embeds they have kept. -/
structure Matches (pairs : TemplateId → TemplateId → Prop) (L L' : Library) : Prop where
  env_eq : L'.env = { L.env with embedLimit := L'.env.embedLimit }
  store_eq : L'.store = L.store
  cache_eq : L'.cache = L.cache
  plain_eq : L'.plain = L.plain
  trees_eq : L'.registry.trees = L.registry.trees
  hosts_eq : L'.registry.hosts = L.registry.hosts
  left : L.Apart
  right : L'.Apart
  paired : ∀ i i', pairs i i' → i.isEmbed = true ∧ i'.isEmbed = true ∧
    ∃ t, L.templates.lookup i = some t ∧ L'.templates.lookup i' = some t

variable {pairs : TemplateId → TemplateId → Prop} {K K' L L' : Library}

/-- Nothing is loaded and registered yet. -/
theorem matches_new (env : Environment) (limit : Nat) (store : Store) (capacity : Int) :
    Matches (fun _ _ => False) { env, store, cache := { capacity } }
      { env := { env with embedLimit := limit }, store, cache := { capacity } } where
  env_eq := rfl
  store_eq := rfl
  cache_eq := rfl
  plain_eq := rfl
  trees_eq := rfl
  hosts_eq := rfl
  left := apart_new env store capacity
  right := apart_new _ store capacity
  paired _ _ h := h.elim

theorem Matches.lookup_eq (h : Matches pairs L L') {id : TemplateId} (hid : id.isEmbed = false) :
    L'.templates.lookup id = L.templates.lookup id := by
  rw [← lookup_plain L' hid, h.plain_eq, lookup_plain L hid]

theorem Matches.tree?_eq (h : Matches pairs L L') (key : String) :
    L'.registry.tree? key = L.registry.tree? key := by
  rw [Registry.tree?, h.trees_eq]
  rfl

/-- Templates are cached that were not loaded under a key. -/
theorem Matches.recache (h : Matches pairs L L') {cache : TemplateCache TemplateId}
    (hcache : ∀ e ∈ cache.entries, e.2.isEmbed = false) :
    Matches pairs { L with cache } { L' with cache } :=
  { h with
    cache_eq := rfl
    left := h.left.recache hcache
    right := h.right.recache hcache }

theorem Matches.edit (h : Matches pairs L L') (store : Store) :
    Matches pairs { L with store } { L' with store } :=
  { h with
    store_eq := rfl
    left := h.left.edit store
    right := h.right.edit store }

/-- A source is compiled that is not compiled under a key. -/
theorem Matches.register (h : Matches pairs L L') {host : Option String}
    (hhost : host.any Embed.isKey = false) {embeds : List Embedded}
    (hembeds : ∀ e ∈ embeds, Embed.isKey e.key = true) :
    Matches pairs { L with registry := L.registry.register host embeds }
      { L' with registry := L'.registry.register host embeds } :=
  { h with
    trees_eq := (Registry.register_congr h.trees_eq h.hosts_eq host embeds).1
    hosts_eq := (Registry.register_congr h.trees_eq h.hosts_eq host embeds).2
    left := h.left.register hhost hembeds
    right := h.right.register hhost hembeds }

/-- A template is made that is not loaded under a key. -/
theorem Matches.make (h : Matches pairs L L') {name : Option String}
    (hname : name.any Embed.isKey = false) (t : LoadedTemplate) :
    Matches pairs { L with templates := (L.nextId name, t) :: L.templates }
      { L' with templates := (L'.nextId name, t) :: L'.templates } :=
  { h with
    plain_eq := by
      have hplain := h.plain_eq
      have hid : L'.nextId name = L.nextId name := by
        rw [L'.nextId_plain hname, L.nextId_plain hname, hplain]
      rw [plain, plain] at hplain ⊢
      rw [List.filter_cons, List.filter_cons, hplain, hid]
    left := h.left.make name t
    right := h.right.make name t
    paired := fun i i' hi => by
      obtain ⟨hkey, hkey', u, hu, hu'⟩ := h.paired i i' hi
      exact ⟨hkey, hkey', u, h.left.numbered.lookup_next hu t, h.right.numbered.lookup_next hu' t⟩ }

/-- Embeds that are loaded on both sides are paired. -/
theorem Matches.load (h : Matches pairs K K') (hL : SameButEmbeds K L) (hL' : SameButEmbeds K' L')
    {i i' : TemplateId} (hi : i.isEmbed = true) (hi' : i'.isEmbed = true) {t : LoadedTemplate}
    (ht : L.templates.lookup i = some t) (ht' : L'.templates.lookup i' = some t) :
    Matches (fun j j' => pairs j j' ∨ j = i ∧ j' = i') L L' where
  env_eq := by rw [hL'.env_eq, hL.env_eq]; exact h.env_eq
  store_eq := by rw [hL'.store_eq, hL.store_eq, h.store_eq]
  cache_eq := by rw [hL'.cache_eq, hL.cache_eq, h.cache_eq]
  plain_eq := by rw [hL'.plain_eq, hL.plain_eq, h.plain_eq]
  trees_eq := by rw [hL'.trees_eq, hL.trees_eq, h.trees_eq]
  hosts_eq := by rw [hL'.hosts_eq, hL.hosts_eq, h.hosts_eq]
  left := hL.apart
  right := hL'.apart
  paired := by
    rintro j j' (hj | ⟨rfl, rfl⟩)
    · obtain ⟨hkey, hkey', u, hu, hu'⟩ := h.paired j j' hj
      exact ⟨hkey, hkey', u, hL.lookup hu, hL'.lookup hu'⟩
    · exact ⟨hi, hi', t, ht, ht'⟩

end Library

namespace Simulation

open Library (Matches)

/-- Two runs that keep different embeds. A stage tells which embeds were loaded side by side, and
below which number functions are known to run. -/
def evicting : Simulation where
  Stage := (TemplateId → TemplateId → Prop) × Nat
  le k l := (∀ i i', k.1 i i' → l.1 i i') ∧ k.2 ≤ l.2
  le_refl k := ⟨fun _ _ h => h, Nat.le_refl k.2⟩
  le_trans h h' := ⟨fun i i' hi => h'.1 i i' (h.1 i i' hi), Nat.le_trans h.2 h'.2⟩
  line l l' := l' = l
  line_refl _ := rfl
  host h h' := h' = h
  slot a := a
  slot_injective h := h
  loose := False
  bad e := e.ofKey = true
  missing _ := True
  pins _ := none
  holds _ := none
  live k a := a < k.2
  live_mono h _ ha := Nat.lt_of_lt_of_le ha h.2
  marked _ _ := False
  marked_mono _ _ h := h
  dynamic := True
  names _ := True
  library k := Matches k.1
  same k i i' := i'.name = i.name ∧ (i.isEmbed = false ∧ i' = i ∨ i.isEmbed = true ∧ k.1 i i')
  same_mono h _ _ hi := ⟨hi.1, hi.2.imp_right fun hp => ⟨hp.1, h.1 _ _ hp.2⟩⟩
  shared i := i.isEmbed = false
  tag _ key key' := key' = key
  tag_mono _ _ _ h := h
  child _ _ _ := False
  child_mono _ _ _ h := h
  root _ ss ss' := ss' = ss
  root_mono _ _ _ h := h
  grow k n := ⟨(k.1, max k.2 (n + 1)), ⟨fun _ _ h => h, Nat.le_max_left ..⟩, by omega, by omega,
    fun _ h => h, fun h => h⟩
  library_options h := by rw [h.env_eq]
  library_flavour h := by rw [h.env_eq]
  library_loader h := by rw [h.env_eq]
  library_capacity h := by rw [h.cache_eq]
  same_host h := h.1
  same_shared := by
    rintro k i j s ⟨hname, ⟨-, rfl⟩ | ⟨hembed, -⟩⟩ hs
    · rfl
    · refine iff_of_false ?_ ?_
      · rintro rfl
        rw [hs] at hembed
        exact nomatch hembed
      · rintro rfl
        rw [TemplateId.isEmbed, hname] at hs
        rw [TemplateId.isEmbed, hs] at hembed
        exact nomatch hembed
  reference := .inl fun _ _ h => h
  debug _ _ := ⟨fun _ _ h => h, fun _ _ h => h⟩

variable {α : Type} {k : evicting.Stage}

/-! ## Verdicts -/

/-- The check does not look at how many embeds are kept. -/
theorem verdict_embedLimit (env : Environment) (limit : Nat) (t : Template) :
    Load.verdict { env with embedLimit := limit } t = Load.verdict env t := by
  let S : Simulation := { evicting with bad := fun _ => False, reference := reference_of_eq }
  have hnew : S.Rel (fun _ _ => False, 0) { env } { env := { env with embedLimit := limit } } := by
    exact rel_new (Library.matches_new env limit {} 400) (fun _ => rfl) Nat.not_lt_zero
      (fun _ h => h) (fun _ => rfl) fun _ => rfl
  have hbody : S.StmtsRel (fun _ _ => False, 0) none t.body t.body :=
    .refl trivial (fun _ => rfl) t.body fun _ => nowhere
  have hcheck := agree_checkTemplate (engRel_ofConstants Engine.callDepth) hbody
  exact (hcheck _).result_eq (fun _ h => h) (fun h => h) (fun _ _ h => h) (fun _ _ h => h) hnew

theorem verdict_eq {L L' : Library} {pairs : TemplateId → TemplateId → Prop}
    (h : Matches pairs L L') (t : Template) : Load.verdict L'.env t = Load.verdict L.env t := by
  rw [h.env_eq]
  exact verdict_embedLimit L.env _ t

/-! ## Loading by name -/

/-- The libraries of corresponding states may change in the same way. -/
theorem agree_library (g : Library → Library)
    (h : ∀ pairs L L', Matches pairs L L' → Matches pairs (g L) (g L')) :
    evicting.Agree (modify fun w => { w with toLibrary := g w.toLibrary })
      (modify fun w => { w with toLibrary := g w.toLibrary }) :=
  .update fun k _ _ hw => { hw with library := h k.1 _ _ hw.library }

theorem agree_templateOf {id : TemplateId} (hid : id.isEmbed = false) :
    evicting.Agree (Run.template id) (Run.template id) := by
  refine .read_bind fun k w w' hw => ?_
  have hlibrary : Matches k.1 w.toLibrary w'.toLibrary := hw.library
  rw [hlibrary.lookup_eq hid]
  split
  · exact .pure _
  · exact .accident _

/-- A template that was not loaded under a key is changed on both sides. -/
theorem agree_modifyTemplate {id : TemplateId} (hid : id.isEmbed = false)
    {f : LoadedTemplate → LoadedTemplate}
    (hf : ∀ t, (f t).tree = t.tree ∧ (f t).blocks = t.blocks ∧ (f t).origin = t.origin) :
    evicting.Agree (Run.modifyTemplate id f) (Run.modifyTemplate id f) := by
  refine agree_library (fun L => { L with
    templates := L.templates.map fun e => if e.1 == id then (e.1, f e.2) else e }) ?_
  intro pairs L L' h
  exact {
    h with
    plain_eq := by
      have hplain := h.plain_eq
      rw [Library.plain, Library.plain] at hplain ⊢
      rw [Library.plain_change, Library.plain_change, hplain]
    left := h.left.change hid f hf
    right := h.right.change hid f hf
    paired := fun i i' hi => by
      obtain ⟨hkey, hkey', t, ht, ht'⟩ := h.paired i i' hi
      exact ⟨hkey, hkey', t, (Library.lookup_change_embed _ hid hkey f).trans ht,
        (Library.lookup_change_embed _ hid hkey' f).trans ht'⟩ }

theorem agree_addGlobals {id : TemplateId} (hid : id.isEmbed = false) :
    evicting.Agree (Load.addGlobals id []) (Load.addGlobals id []) :=
  agree_modifyTemplate hid fun _ => ⟨rfl, rfl, rfl⟩

/-- A template is made that is not loaded under a key. -/
theorem agree_instantiate {name : Option String} (hname : name.any Embed.isKey = false)
    (tree : Template) (globals : List (String × Value)) (origin : Origin) :
    evicting.Sim k (Load.instantiate name tree globals origin)
      (Load.instantiate name tree globals origin) fun _ i i' => i' = i ∧ i.name = name := by
  refine Sim.replace fun w w' hw => ?_
  have h : Matches k.1 w.toLibrary w'.toLibrary := hw.library
  have hid : w'.nextId name = w.nextId name := by
    rw [w'.nextId_plain hname, w.nextId_plain hname, h.plain_eq]
  have hmade := h.make hname (.ofTree tree globals origin)
  exact ⟨k, evicting.le_refl k, { hw with library := hmade }, hid, rfl⟩

/-- A source is read first. -/
theorem sim_parse_bind {β : Type} {V : evicting.Stage → β → β → Prop} {host : Option String}
    {code : String} {f f' : Parsed → Run β}
    (h : ∀ p, (∀ e ∈ p.embeds, Embed.isKey e.key = true) → evicting.Sim k (f p) (f' p) V) :
    evicting.Sim k (Load.parse host code >>= f) (Load.parse host code >>= f') V := by
  intro w w' hw
  have hoptions := evicting.library_options hw.library
  rw [Run.events_bind, Run.exec_bind, Run.exec_bind, Load.exec_parse, Load.exec_parse, hoptions]
  cases hp : w.env.options.language.parse host code with
  | error e => exact .inr (.failed (evicting.le_refl k) hw (.refl _ nofun))
  | ok p =>
    obtain ⟨e, he, hbad⟩ | ho := h p (Language.isKey_of_parse hp) w w' hw
    · exact .inl ⟨e, List.mem_append_left _ he, hbad⟩
    · exact .inr ho

theorem agree_verdict (t : Template) :
    evicting.Agree
      (do
        match Load.verdict (← get).env t with
        | .ok () => return ()
        | .error f => throw f)
      (do
        match Load.verdict (← get).env t with
        | .ok () => return ()
        | .error f => throw f) := by
  refine .read_bind fun k w w' hw => ?_
  rw [verdict_eq hw.library]
  split
  · exact .pure _
  · exact .throw (.refl _ fun _ _ _ => trivial)

/-- A source is compiled that is not compiled under a key. -/
theorem agree_compile {host : Option String} (hhost : host.any Embed.isKey = false) {p : Parsed}
    (hp : ∀ e ∈ p.embeds, Embed.isKey e.key = true) :
    evicting.Agree (Load.compile host p) (Load.compile host p) := by
  refine .read_bind fun k w w' hw => ?_
  rw [evicting.library_flavour hw.library]
  split
  · refine Agree.bind ?_ fun _ => agree_verdict p.template
    exact agree_library (fun L => { L with registry := L.registry.register host p.embeds })
      fun pairs L L' h => h.register hhost hp
  · exact agree_verdict p.template

theorem agree_ofSource (name : Option String) (code : String) (origin : Origin) :
    evicting.Sim k (Load.ofSource name code [] origin) (Load.ofSource name code [] origin)
      fun _ i i' => i' = i ∧ i.name = name ∧ name.any Embed.isKey = false := by
  refine Sim.record_bind ?_
  cases hname : name.any Embed.isKey with
  | true => exact .inl hname
  | false =>
    refine .inr (sim_parse_bind fun p hp => ?_)
    refine Sim.agree_bind (agree_compile hname hp) fun l _ _ => ?_
    exact (agree_instantiate hname p.template [] origin).imp fun _ _ _ _ hi => ⟨hi.1, hi.2, rfl⟩

theorem sim_fresh (name : String) :
    evicting.Sim k (Load.fresh [] name) (Load.fresh [] name)
      fun _ i i' => i' = i ∧ i.isEmbed = false := by
  have hstore : ∀ {k L L'}, evicting.library k L L' → L'.store = L.store := fun h => h.store_eq
  refine Sim.agree_bind (agree_findSource hstore (fun _ => trivial) name) fun l _ source => ?_
  refine (agree_ofSource (some name) source.code source.origin).bind fun l' _ i i' hi => ?_
  obtain ⟨rfl, hname, hkey⟩ := hi
  have hembed : i'.isEmbed = false := by rw [TemplateId.isEmbed, hname, hkey]
  refine Sim.agree_bind (agree_library (fun L => { L with cache := L.cache.put name i' }) ?_)
    fun _ _ _ => Sim.pure ⟨rfl, hembed⟩
  intro pairs L L' h
  rw [h.cache_eq]
  refine h.recache fun e he => ?_
  obtain rfl | he := TemplateCache.mem_put he
  · exact hembed
  · exact h.left.cached e he

/-- A name leads to the same template on both sides. -/
theorem sim_named (name : String) :
    evicting.Sim k (Load.named [] name) (Load.named [] name)
      fun _ i i' => i' = i ∧ i.isEmbed = false := by
  refine Sim.read_bind fun w w' hw => ?_
  have h : Matches k.1 w.toLibrary w'.toLibrary := hw.library
  rw [h.cache_eq]
  cases hget : w.cache.get name with
  | none => exact sim_fresh name
  | some entry =>
    obtain ⟨id, cache⟩ := entry
    -- the cache holds no embeds, so that both sides hand out the same template
    have hembed : id.isEmbed = false := h.left.cached _ (TemplateCache.mem_of_get hget).1
    have hcache : ∀ e ∈ cache.entries, e.2.isEmbed = false :=
      fun e he => h.left.cached e ((TemplateCache.mem_of_get hget).2 e he)
    refine Sim.agree_bind (agree_library (fun L => { L with cache })
      fun _ _ _ h => h.recache hcache) fun l _ _ => ?_
    refine Sim.read_bind fun v v' hv => ?_
    have hv : Matches l.1 v.toLibrary v'.toLibrary := hv.library
    refine Sim.agree_bind (agree_templateOf hembed) fun l' _ t => ?_
    rw [hv.env_eq, hv.store_eq]
    split
    · exact Sim.agree_bind (agree_addGlobals hembed) fun _ _ _ => Sim.pure ⟨rfl, hembed⟩
    · exact sim_fresh name

/-! ## Loading embeds -/

/-- An embed that is loaded comes from the same tree on both sides. -/
theorem sim_embedded (key : String) :
    evicting.Sim k (Load.embedded [] key) (Load.embedded [] key)
      fun l i i' => evicting.same l i i' ∧ i.isEmbed = true := by
  intro w w' hw
  have h : Matches k.1 w.toLibrary w'.toLibrary := hw.library
  right
  obtain ⟨hnone, hexec⟩ | ⟨tree, htree, hloads⟩ := Load.embedded_apart h.left key
  -- registered or not, it is so on both sides
  · obtain ⟨-, hexec'⟩ | ⟨tree', htree', -⟩ := Load.embedded_apart h.right key
    · rw [hexec, hexec']
      exact .failed (evicting.le_refl k) hw (.refl _ fun _ _ _ => trivial)
    · rw [h.tree?_eq, hnone] at htree'
      exact nomatch htree'
  · obtain ⟨hnone', -⟩ | ⟨tree', htree', hloads'⟩ := Load.embedded_apart h.right key
    · rw [h.tree?_eq, htree] at hnone'
      exact nomatch hnone'
    rw [h.tree?_eq, htree] at htree'
    cases htree'
    rw [verdict_eq h] at hloads'
    obtain ⟨f, hverdict, hexec⟩ | ⟨hverdict, i, L, hexec, hL, hname, ht⟩ := hloads
    · obtain ⟨f', hverdict', hexec'⟩ | ⟨hverdict', -⟩ := hloads'
      · cases hverdict.symm.trans hverdict'
        rw [hexec, hexec']
        exact .failed (evicting.le_refl k) hw (.refl _ fun _ _ _ => trivial)
      · exact nomatch hverdict.symm.trans hverdict'
    · obtain ⟨f', hverdict', -⟩ | ⟨-, i', L', hexec', hL', hname', ht'⟩ := hloads'
      · exact nomatch hverdict.symm.trans hverdict'
      have hkey : Embed.isKey key = true := h.left.keyed _ (mem_of_lookup htree)
      have hi : i.isEmbed = true := by rw [TemplateId.isEmbed, hname]; exact hkey
      have hi' : i'.isEmbed = true := by rw [TemplateId.isEmbed, hname']; exact hkey
      -- the two compilations of one tree are paired from now on
      let l : evicting.Stage := (fun j j' => k.1 j j' ∨ j = i ∧ j' = i', k.2)
      have hl : evicting.le k l := ⟨fun _ _ => .inl, Nat.le_refl _⟩
      have hloaded : evicting.library l L L' := h.load hL hL' hi hi' ht ht'
      rw [hexec, hexec']
      refine .done hl (hw.later hl hloaded hw.live fun _ h => h.elim) ⟨⟨?_, .inr ⟨hi, ?_⟩⟩, hi⟩
      · rw [hname, hname']
      · exact .inr ⟨rfl, rfl⟩

/-! ## The simulation -/

theorem loaded_evicting {l : evicting.Stage} {i i' : TemplateId}
    (h : i' = i ∧ i.isEmbed = false) : evicting.Loaded l i i' where
  same := ⟨congrArg TemplateId.name h.1, .inl ⟨h.2, h.1⟩⟩
  name_eq := congrArg TemplateId.name h.1
  common := .inr h

theorem loaded_embed {l : evicting.Stage} {i i' : TemplateId}
    (h : evicting.same l i i' ∧ i.isEmbed = true) : evicting.Loaded l i i' where
  same := h.1
  name_eq := h.1.1
  common := .inl h.2

theorem evicting_laws : evicting.Laws where
  template {k L L' i i'} hL hi := by
    have h : Matches k.1 L L' := hL
    -- a template does the same as itself, and so does one with the same tree
    have hself (t : LoadedTemplate) : evicting.TemplateRel k t t := {
      body := rfl
      stmts := .refl trivial (fun _ => rfl) _ fun _ => nowhere
      blocks := List.forall₂_same.2 fun _ _ => ⟨rfl, .refl trivial (fun _ => rfl) _ fun _ => nowhere⟩
      globals := rfl
      module := rfl }
    obtain ⟨-, ⟨hplain, rfl⟩ | ⟨-, hpair⟩⟩ := hi
    · rw [h.lookup_eq hplain]
      cases L.templates.lookup i' with
      | none => exact .inl ⟨rfl, rfl⟩
      | some t => exact .inr ⟨t, t, rfl, rfl, hself t⟩
    · obtain ⟨-, -, t, ht, ht'⟩ := h.paired i i' hpair
      exact .inr ⟨t, t, ht, ht', hself t⟩
  named _ := .inr ((sim_named _).imp fun _ _ _ _ => loaded_evicting)
  embedded _ _ := .inr ((sim_embedded _).imp fun _ _ _ _ => loaded_embed)
  tag {k key key' eng eng'} htag := by
    cases htag
    refine Sim.read_bind fun w w' hw => ?_
    rw [evicting.library_flavour hw.library]
    split
    · exact (sim_embedded key).imp fun _ _ _ _ => And.left
    · refine Sim.read_bind fun w w' hw => ?_
      rw [evicting.library_loader hw.library]
      split
      · exact Sim.throw .noLoader
      · exact Sim.record_bind (.inr ((sim_named key).imp fun _ _ _ _ hi => (loaded_evicting hi).same))
  child h := h.elim
  missing _ _ := trivial
  module m hid := agree_modifyTemplate hid fun _ => ⟨rfl, rfl, rfl⟩

theorem evicting_ownLaw : evicting.OwnLaw := by
  refine ownLaw_of_extends evicting_laws fun {k ss ss'} hroot a c hpin hhold => ?_
  cases hroot
  exact .refl trivial (fun _ => rfl) ss fun _ _ _ _ => ⟨rfl, rfl⟩

/-- Two workspaces that keep different embeds give the same answers. -/
theorem evicting_exact : evicting.Exact where
  laws := evicting_laws
  own := evicting_ownLaw
  dynamic := trivial
  store h := Matches.store_eq h
  deep h := h
  host_eq _ _ h := h
  line_eq _ _ h := h
  source code := (agree_ofSource none code .given).imp fun _ _ i i' hi =>
    loaded_evicting ⟨hi.1, by rw [TemplateId.isEmbed, hi.2.1]; rfl⟩
  compile host code := by
    cases hhost : host.any Embed.isKey with
    | true => exact .inl hhost
    | false => exact .inr fun k => sim_parse_bind fun p hp => agree_compile hhost hp k
  edit store h := Matches.edit h store

end Simulation

/-! ## Workspaces that keep different numbers of embeds -/

namespace Workspace

theorem reachable_serveAll {p : WorkspacePlan} {ws : Workspace} (h : Reachable p ws)
    (rs : List Request) : Reachable p (serveAll rs ws) := by
  induction rs generalizing ws with
  | nil => exact h
  | cons r rs ih => exact ih (h.serve r)

/-- Workspaces of the same plan, but for how many embeds are kept, correspond to each other. -/
theorem beside_embedLimit {p : WorkspacePlan} {m n : Nat} {ws ws' : Workspace}
    (hws : WorkspacePlan.build { p with embedLimit := m } = .ok ws)
    (hws' : WorkspacePlan.build { p with embedLimit := n } = .ok ws') :
    Simulation.evicting.Beside (fun _ _ => False, 0) ws ws' := by
  obtain ⟨options, hoptions, rfl⟩ := exists_of_build hws
  obtain ⟨options', hoptions', rfl⟩ := exists_of_build hws'
  cases hoptions.symm.trans hoptions'
  refine ⟨?_, rfl, rfl, rfl⟩
  exact Simulation.rel_new (Library.matches_new _ n p.store options.cacheSize) (fun _ => rfl)
    Nat.not_lt_zero (fun _ h => h) (fun _ => rfl) fun _ => rfl

/-- A page with an embed. -/
def cards : WorkspacePlan where
  flavour := .pattern
  store := { named := [("card", "[\x7b% block a %\x7d\x7b% endblock %\x7d]"),
    ("page", "\x7b% embed 'card' %\x7d\x7b% block a %\x7dx\x7b% endblock %\x7d\x7b% endembed %\x7d")] }

def renderTwice : List Request :=
  [.render "page" [] [], .render "page" [] []]

/-- A page whose embed extends first itself, by its key, and then another template. Its block writes
the block above it, and the second time it does not. -/
def selfExtending : WorkspacePlan where
  flavour := .pattern
  store := { named := [
    ("base", "\x7b% block a %\x7dB\x7b% endblock %\x7d"),
    ("page", "\x7b% set k = cycler('__embed__:page#1d7c5108f3eadf62b3e2fe9965489577', 'base') %\x7d" ++
      "\x7b% set c = cycler(1, 1, 0) %\x7d\x7b% embed k.next() %\x7d" ++
      "\x7b% block a %\x7dx\x7b% if c.next() %\x7d\x7b\x7b super() \x7d\x7d\x7b% endif %\x7d" ++
      "\x7b% endblock %\x7d\x7b% endembed %\x7d")] }

theorem answers_render {ws : Workspace} {name text : String}
    (h : (render name [] [] ws).1.toOption = some text) :
    answers [.render name [] []] ws = [.text text] := by
  rw [answers, answers, answer]
  cases hr : (render name [] [] ws).1 with
  | error f => rw [hr] at h; cases h
  | ok s => rw [hr] at h; cases h; rfl

end Workspace

end Stencil
