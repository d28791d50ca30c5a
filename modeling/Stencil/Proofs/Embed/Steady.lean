import Mathlib.Data.List.Perm.Subperm
import Stencil.Proofs.Embed.Apart
import Stencil.Proofs.Environment.Path
import Stencil.Proofs.Tree.Regular

/-!
# Sources that stay as they are

As long as no source is changed and the cache has room for all templates that are asked for, every
template is read once: what a library holds under a name is what the source of this name gives, and
what is registered under a key is an embed of one of the sources. Keys tell embeds apart if digests
do not collide, so that the tree under a key is the one that was meant but for lines.

## Main definitions

- `Sources.Steady`: all that a library holds was read from the sources at hand, each of them once
- `Sources.Reading`: what reading the source of a name changes

## Key results

- `Sources.Steady.named`: what loading a template by its name gives and changes
- `Sources.Told.alike`: embeds with the same key differ in lines only
-/

namespace Stencil

/-! ## A cache with room -/

namespace TemplateCache

variable {α : Type} {c c' : TemplateCache α} {name : String} {a : α}

theorem filter_eq_drop (name : String) (entries : List (String × α)) :
    entries.filter (·.1 != name) = Registry.drop [name] entries := by
  rw [Registry.drop]
  refine List.filter_congr fun e _ => ?_
  rw [List.contains_cons, List.contains_nil, Bool.or_false]
  rfl

/-- Every name leads to the same entry after one of them was used. -/
theorem lookup_get (h : c.get name = some (a, c')) (n : String) :
    c'.entries.lookup n = c.entries.lookup n := by
  obtain ⟨b, hb, heq⟩ := Option.map_eq_some_iff.1 h
  split at heq
  · obtain ⟨rfl, rfl⟩ := Prod.mk.inj heq
    rw [filter_eq_drop]
    by_cases hn : n = name
    · subst hn
      rw [hb]
      exact Registry.lookup_append_single n b _ (Registry.lookup_drop_self n c.entries)
    · rw [Registry.lookup_append_of_ne _ b hn]
      exact Registry.lookup_drop_of_not_mem [name] c.entries (by simpa using hn)
  · obtain ⟨rfl, rfl⟩ := Prod.mk.inj heq
    rfl

theorem capacity_get (h : c.get name = some (a, c')) : c'.capacity = c.capacity := by
  obtain ⟨b, -, heq⟩ := Option.map_eq_some_iff.1 h
  split at heq <;> obtain ⟨rfl, rfl⟩ := Prod.mk.inj heq <;> rfl

/-- Using an entry leaves the names distinct. -/
theorem nodup_get (h : c.get name = some (a, c')) (hc : (c.entries.map (·.1)).Nodup) :
    (c'.entries.map (·.1)).Nodup := by
  obtain ⟨b, -, heq⟩ := Option.map_eq_some_iff.1 h
  split at heq
  · obtain ⟨rfl, rfl⟩ := Prod.mk.inj heq
    have hrest : ((c.entries.filter (·.1 != name)).map (·.1)).Nodup :=
      hc.sublist (List.filter_sublist.map _)
    rw [List.map_append, List.nodup_append]
    refine ⟨hrest, by simp, fun x hx y hy hxy => ?_⟩
    obtain ⟨e, he, rfl⟩ := List.mem_map.1 hx
    rw [List.map_singleton, List.mem_singleton] at hy
    have hne := (List.mem_filter.1 he).2
    rw [hxy, hy] at hne
    simp at hne
  · obtain ⟨rfl, rfl⟩ := Prod.mk.inj heq
    exact hc

/-- A new entry comes last where there is room for it. -/
theorem put_of_room (hnew : c.entries.lookup name = none)
    (hroom : c.capacity < 0 ∨ (c.entries.length : Int) < c.capacity) (a : α) :
    c.put name a = { c with entries := c.entries ++ [(name, a)] } := by
  have hothers : c.entries.filter (·.1 != name) = c.entries := by
    rw [List.filter_eq_self]
    intro e he
    have hne := List.lookup_eq_none_iff.1 hnew e he
    rw [bne_iff_ne] at hne ⊢
    exact hne.symm
  have hzero : (c.capacity == 0) = false := by
    rw [beq_eq_false_iff_ne]
    omega
  have hfull : (c.capacity > 0 && decide (c.capacity ≤ c.entries.length)) = false := by
    rw [Bool.and_eq_false_iff, decide_eq_false_iff_not, decide_eq_false_iff_not]
    omega
  rw [put, hzero, if_neg Bool.false_ne_true]
  dsimp only
  rw [hothers, Bool.and_assoc, hfull, Bool.and_false, if_neg Bool.false_ne_true]

end TemplateCache

/-- Looking for a name ends in the same way in two states in which the same is found. -/
theorem Load.exec_find_both {w w' : World} {name : String} (henv : w'.env = w.env)
    (hfind : w'.env.loader.find w'.store name = w.env.loader.find w.store name) :
    (∃ source, w.env.loader.find w.store name = .ok source ∧
        Run.exec (find name) w = (.ok source, w) ∧ Run.exec (find name) w' = (.ok source, w')) ∨
      ∃ f, Run.exec (find name) w = (.error f, w) ∧ Run.exec (find name) w' = (.error f, w') := by
  simp only [find, Run.exec_bind, Run.exec_get, Run.andThen_ok, Run.exec_ite]
  rw [hfind, henv]
  split
  · exact .inr ⟨_, rfl, rfl⟩
  · cases w.env.loader.find w.store name with
    | ok source => exact .inl ⟨source, rfl, rfl, rfl⟩
    | error e => cases e <;> exact .inr ⟨_, rfl, rfl⟩

/-! ## Sources at hand -/

/-- The sources at hand in an environment, and the names that may be asked for. -/
structure Sources where
  env : Environment
  store : Store
  names : List String

namespace Sources

variable {S : Sources} {K L : Library} {name : String} {source : FoundSource} {p : Parsed}

/-- The source of a name can be read and gives a tree. -/
def Gives (S : Sources) (name : String) (source : FoundSource) (p : Parsed) : Prop :=
  S.env.loader.find S.store name = .ok source ∧
    S.env.options.language.parse (some name) source.code = .ok p

/-- The source of a name is found and parsed to a tree, with its embeds. -/
def Written (S : Sources) (name : String) (source : FoundSource) (t : Template) : Prop :=
  S.env.loader.find S.store name = .ok source ∧
    S.env.options.language.parseTree source.code = .ok t

/-- An embed of one of the sources that may be asked for. -/
def Embeds (S : Sources) (e : Embedded) : Prop :=
  ∃ name ∈ S.names, ∃ source p, S.Gives name source p ∧ e ∈ p.embeds

/-- Digests do not collide on the written forms of the embeds, and the numbers in these are told
apart by their texts. -/
structure Told (S : Sources) : Prop where
  digest : ∀ {d e : Embedded}, S.Embeds d → S.Embeds e →
    Md5.hexDigest d.template.dump = Md5.hexDigest e.template.dump →
      d.template.dump = e.template.dump
  numbers : ∀ {d e : Embedded}, S.Embeds d → S.Embeds e →
    Binary64.Told d.template.floats e.template.floats

theorem Written.gives {t : Template} (h : S.Written name source t) :
    S.Gives name source (t.detach (some name)) := by
  refine ⟨h.1, ?_⟩
  rw [Language.parse, h.2]
  rfl

theorem Gives.written (h : S.Gives name source p) :
    ∃ t, S.Written name source t ∧ p = t.detach (some name) := by
  obtain ⟨t, ht, hp⟩ := Language.detach_of_parse h.2
  exact ⟨t, ⟨h.1, ht⟩, hp⟩

theorem Gives.unique (h : S.Gives name source p) {source' : FoundSource} {p' : Parsed}
    (h' : S.Gives name source' p') : source' = source ∧ p' = p := by
  cases h.1.symm.trans h'.1
  cases h.2.symm.trans h'.2
  exact ⟨rfl, rfl⟩

theorem Gives.isKey (h : S.Gives name source p) : ∀ e ∈ p.embeds, Embed.isKey e.key = true :=
  Language.isKey_of_parse h.2

/-- Embeds with the same key differ in lines only. -/
theorem Told.alike (h : S.Told) {d e : Embedded} (hd : S.Embeds d) (he : S.Embeds e)
    (hkey : d.key = e.key) : d.template.Alike e.template := by
  have hdump := h.digest hd he
  have hnumbers := h.numbers hd he
  obtain ⟨name, -, source, p, hp, hd⟩ := hd
  obtain ⟨name', -, source', p', hp', he⟩ := he
  obtain ⟨t, -, rfl⟩ := Language.detach_of_parse hp.2
  obtain ⟨t', -, rfl⟩ := Language.detach_of_parse hp'.2
  rw [Stmt.key_detachList _ t.body d hd, Stmt.key_detachList _ t'.body e he,
    Embed.key_eq_iff] at hkey
  exact (Embedded.dump_eq_iff hd he hnumbers).1 (hdump hkey.2)

/-- A template that was read from its source. -/
structure Holds (L : Library) (source : FoundSource) (p : Parsed) (id : TemplateId) : Prop where
  verdict : Load.verdict L.env p.template = .ok ()
  embeds : ∀ e ∈ p.embeds, ∃ t, L.registry.tree? e.key = some t
  lookup : ∃ module, L.templates.lookup id =
    some { LoadedTemplate.ofTree p.template [] source.origin with module }

/-- All that a library holds was read from the sources at hand, each of them once, and there is room
for all that may be asked for. -/
structure Steady (S : Sources) (L : Library) : Prop where
  env_eq : L.env = S.env
  store_eq : L.store = S.store
  apart : L.Apart
  trees : ∀ x ∈ L.registry.trees, ∃ e, S.Embeds e ∧ x = (e.key, e.template)
  recorded : ∀ name, ∀ key ∈ L.registry.keysOf name,
    ∃ source p, S.Gives name source p ∧ ∃ e ∈ p.embeds, e.key = key
  distinct : (L.cache.entries.map (·.1)).Nodup
  asked : ∀ x ∈ L.cache.entries, x.1 ∈ S.names
  room : L.cache.capacity < 0 ∨ (S.names.length : Int) ≤ L.cache.capacity
  loaded : ∀ x ∈ L.templates, x.1.isEmbed = false →
    ∃ name, x.1 = ⟨some name, 0⟩ ∧ L.cache.entries.lookup name = some x.1
  cached : ∀ {name : String} {id : TemplateId}, L.cache.entries.lookup name = some id →
    id = ⟨some name, 0⟩ ∧ ∃ source p, S.Gives name source p ∧ Holds L source p id

namespace Steady

theorem gives (h : S.Steady L) : L.Gives name source p ↔ S.Gives name source p := by
  rw [Library.Gives, Gives, h.env_eq, h.store_eq]

/-- The tree that is registered under the key of an embed is that of the embed, but for lines. -/
theorem alike (h : S.Steady L) (htold : S.Told) {e : Embedded} (he : S.Embeds e) {t : Template}
    (ht : L.registry.tree? e.key = some t) : e.template.Alike t := by
  obtain ⟨d, hd, heq⟩ := h.trees _ (mem_of_lookup ht)
  obtain ⟨hkey, rfl⟩ := Prod.mk.inj heq
  exact htold.alike he hd hkey

/-- No source lacks embeds that it had when it was compiled before. -/
theorem not_stale (h : S.Steady L) (hgives : S.Gives name source p) (key : String) :
    ¬ L.registry.Stale (some name) p.embeds key := by
  rintro ⟨n, hn, hkey, hlost⟩
  cases hn
  obtain ⟨source', p', hgives', e, he, rfl⟩ := h.recorded _ key hkey
  obtain ⟨-, rfl⟩ := hgives.unique hgives'
  exact hlost e he rfl

/-! ## Steps -/

/-- The embeds of a source are registered, and what was registered stays. -/
theorem tree?_registered (h : S.Steady L) (hreg : S.env.flavour.hasRegistry = true)
    (hgives : S.Gives name source p) :
    (∀ key t, L.registry.tree? key = some t →
        Registry.tree? (L.registered (some name) p.embeds) key = some t) ∧
      ∀ e ∈ p.embeds, ∃ t, Registry.tree? (L.registered (some name) p.embeds) e.key = some t := by
  rw [Library.registered, h.env_eq, hreg, if_pos rfl]
  refine ⟨fun _ _ ht => Registry.tree?_register_of_some ht (h.not_stale hgives _), fun e he => ?_⟩
  rw [← Registry.holds_iff_tree?, Registry.holds_register_iff]
  exact .inr ⟨e, he, rfl⟩

/-- The embeds of a source are registered. -/
theorem register (h : S.Steady L) (hreg : S.env.flavour.hasRegistry = true)
    (hgives : S.Gives name source p) (hname : Embed.isKey name = false) (hasked : name ∈ S.names) :
    S.Steady { L with registry := L.registered (some name) p.embeds } := by
  have htrees := (h.tree?_registered hreg hgives).1
  have hregistered : L.registered (some name) p.embeds = L.registry.register (some name) p.embeds := by
    rw [Library.registered, h.env_eq, hreg, if_pos rfl]
  rw [hregistered] at htrees ⊢
  exact {
    h with
    apart := by
      have hhost : (some name).any Embed.isKey = false := hname
      exact h.apart.register hhost hgives.isKey
    trees := fun x hx => by
      obtain hx | ⟨e, he, rfl⟩ := Registry.mem_trees_register hx
      · exact h.trees x hx
      · exact ⟨e, ⟨name, hasked, source, p, hgives, he⟩, rfl⟩
    recorded := fun n key hkey => by
      rw [Registry.mem_keysOf_register] at hkey
      split at hkey
      -- the latest compilation of this name is the present one
      · rename_i heq
        exact heq ▸ ⟨source, p, hgives, hkey⟩
      · exact h.recorded n key hkey
    cached := fun hid => by
      obtain ⟨heq, source', p', hgives', hverdict, hembeds, hlookup⟩ := h.cached hid
      refine ⟨heq, source', p', hgives', hverdict, fun e he => ?_, hlookup⟩
      obtain ⟨t, ht⟩ := hembeds e he
      exact ⟨t, htrees _ t ht⟩ }

/-- An embed is loaded. -/
theorem embed (h : S.Steady K) (hL : Library.SameButEmbeds K L) : S.Steady L where
  env_eq := hL.env_eq.trans h.env_eq
  store_eq := hL.store_eq.trans h.store_eq
  apart := hL.apart
  trees := hL.trees_eq ▸ h.trees
  recorded n key hkey := h.recorded n key (by rwa [Registry.keysOf, hL.hosts_eq] at hkey)
  distinct := hL.cache_eq ▸ h.distinct
  asked := hL.cache_eq ▸ h.asked
  room := hL.cache_eq ▸ h.room
  loaded x hx hembed := by
    have hplain : x ∈ L.plain := List.mem_filter.2 ⟨hx, by rw [hembed]; rfl⟩
    rw [hL.plain_eq] at hplain
    rw [hL.cache_eq]
    exact h.loaded x (List.mem_filter.1 hplain).1 hembed
  cached hid := by
    rw [hL.cache_eq] at hid
    obtain ⟨heq, source, p, hgives, hverdict, hembeds, module, hlookup⟩ := h.cached hid
    refine ⟨heq, source, p, hgives, hL.env_eq ▸ hverdict, fun e he => ?_, module, hL.lookup hlookup⟩
    rw [Registry.tree?, hL.trees_eq]
    exact hembeds e he

/-- A template is used that was read before. -/
theorem use (h : S.Steady L) {id : TemplateId} {cache : TemplateCache TemplateId}
    (hget : L.cache.get name = some (id, cache)) : S.Steady { L with cache } :=
  have hlookup := TemplateCache.lookup_get hget
  { h with
    apart := h.apart.recache fun e he => h.apart.cached e ((TemplateCache.mem_of_get hget).2 e he)
    distinct := TemplateCache.nodup_get hget h.distinct
    asked := fun e he => h.asked e ((TemplateCache.mem_of_get hget).2 e he)
    room := by
      dsimp only
      rw [TemplateCache.capacity_get hget]
      exact h.room
    loaded := fun x hx hembed => by
      obtain ⟨n, hid, hcached⟩ := h.loaded x hx hembed
      exact ⟨n, hid, (hlookup n).trans hcached⟩
    cached := fun {n _} hid => by
      obtain ⟨heq, source, p, hgives, hholds⟩ := h.cached ((hlookup n).symm.trans hid)
      exact ⟨heq, source, p, hgives, { hholds with }⟩ }

/-- A name that is asked for and not yet cached fits into the cache. -/
theorem length_lt (h : S.Steady L) (hname : name ∈ S.names)
    (hnew : L.cache.entries.lookup name = none) :
    L.cache.entries.length < S.names.length := by
  have hfresh : name ∉ L.cache.entries.map (·.1) := by
    intro hmem
    obtain ⟨e, he, rfl⟩ := List.mem_map.1 hmem
    simpa using List.lookup_eq_none_iff.1 hnew e he
  have hnodup : (name :: L.cache.entries.map (·.1)).Nodup := List.nodup_cons.2 ⟨hfresh, h.distinct⟩
  have hsubset : name :: L.cache.entries.map (·.1) ⊆ S.names := by
    refine List.cons_subset.2 ⟨hname, fun n hn => ?_⟩
    obtain ⟨e, he, rfl⟩ := List.mem_map.1 hn
    exact h.asked e he
  have hle := (List.subperm_of_subset hnodup hsubset).length_le
  rw [List.length_cons, List.length_map] at hle
  omega

/-- The number of a template that is read for the first time. -/
theorem nextId_eq (h : S.Steady L) (hname : Embed.isKey name = false)
    (hnew : L.cache.entries.lookup name = none) : L.nextId (some name) = ⟨some name, 0⟩ := by
  have hnone : (L.templates.countP fun e => e.1.name == some name) = 0 := by
    rw [List.countP_eq_zero]
    intro e he heq
    rw [beq_iff_eq] at heq
    have hembed : e.1.isEmbed = false := by
      rw [TemplateId.isEmbed, heq]
      exact hname
    obtain ⟨n, hid, hcached⟩ := h.loaded e he hembed
    rw [hid] at heq
    cases heq
    rw [hnew] at hcached
    cases hcached
  rw [Library.nextId, hnone]

/-- A template is read that passes the check. -/
theorem read (h : S.Steady L) (hgives : S.Gives name source p)
    (hname : Embed.isKey name = false) (hasked : name ∈ S.names)
    (hnew : L.cache.entries.lookup name = none)
    (hembeds : ∀ e ∈ p.embeds, ∃ t, L.registry.tree? e.key = some t)
    (hverdict : Load.verdict L.env p.template = .ok ()) :
    S.Steady { L with
      templates := (⟨some name, 0⟩, .ofTree p.template [] source.origin) :: L.templates
      cache := { L.cache with entries := L.cache.entries ++ [(name, ⟨some name, 0⟩)] } } := by
  have hid := h.nextId_eq hname hnew
  have hmade := h.apart.make (some name) (.ofTree p.template [] source.origin)
  rw [hid] at hmade
  have hlt := h.length_lt hasked hnew
  -- the new entry is found under this name, and the others under theirs as before
  have hself : (L.cache.entries ++ [(name, (⟨some name, 0⟩ : TemplateId))]).lookup name =
      some ⟨some name, 0⟩ := Registry.lookup_append_single name _ _ hnew
  have hother {n : String} (hn : n ≠ name) :
      (L.cache.entries ++ [(name, (⟨some name, 0⟩ : TemplateId))]).lookup n =
        L.cache.entries.lookup n := Registry.lookup_append_of_ne _ _ hn
  exact {
    env_eq := h.env_eq
    store_eq := h.store_eq
    trees := h.trees
    recorded := h.recorded
    room := h.room
    apart := hmade.recache fun e he => by
      obtain he | he := List.mem_append.1 he
      · exact h.apart.cached e he
      · rw [List.mem_singleton.1 he]
        exact hname
    distinct := by
      rw [List.map_append, List.map_singleton, List.nodup_append]
      refine ⟨h.distinct, by simp, fun n hn n' hn' heq => ?_⟩
      obtain ⟨e, he, rfl⟩ := List.mem_map.1 hn
      rw [List.mem_singleton] at hn'
      have hne := List.lookup_eq_none_iff.1 hnew e he
      simp [heq, hn'] at hne
    asked := List.forall_mem_append.2 ⟨h.asked, List.forall_mem_singleton.2 hasked⟩
    loaded := List.forall_mem_cons.2 ⟨fun _ => ⟨name, rfl, hself⟩, fun x hx hembed => by
      obtain ⟨n, hxid, hcached⟩ := h.loaded x hx hembed
      have hn : n ≠ name := by
        rintro rfl
        rw [hnew] at hcached
        cases hcached
      exact ⟨n, hxid, (hother hn).trans hcached⟩⟩
    cached := fun {n id} hcached => by
      by_cases hn : n = name
      · subst hn
        rw [hself] at hcached
        cases hcached
        exact ⟨rfl, source, p, hgives, hverdict, hembeds, none, List.lookup_cons_self⟩
      · rw [hother hn] at hcached
        obtain ⟨rfl, source', p', hgives', hverdict', hembeds', module, hlookup⟩ := h.cached hcached
        have hkept : ((L.nextId (some name), .ofTree p.template [] source.origin) ::
            L.templates).lookup _ = _ := h.apart.numbered.lookup_next hlookup _
        rw [hid] at hkept
        exact ⟨rfl, source', p', hgives', hverdict', hembeds', module, hkept⟩ }

/-- The module of a template that is no embed is remembered. -/
theorem remember (h : S.Steady L) {id : TemplateId} (hid : id.isEmbed = false) (m : Nat) :
    S.Steady { L with
      templates := L.templates.map fun e =>
        if e.1 == id then (e.1, { e.2 with module := some m }) else e } :=
  { h with
    apart := h.apart.change hid (fun t => { t with module := some m }) fun _ => ⟨rfl, rfl, rfl⟩
    loaded := fun x hx hembed => by
      obtain ⟨e, he, rfl⟩ := List.mem_map.1 hx
      have hsame : (if e.1 == id then (e.1, { e.2 with module := some m }) else e).1 = e.1 := by
        split <;> rfl
      rw [hsame] at hembed ⊢
      exact h.loaded e he hembed
    cached := fun {_ i} hcached => by
      obtain ⟨heq, source, p, hgives, hverdict, hembeds, module, hlookup⟩ := h.cached hcached
      have hchanged := Library.lookup_change id (fun t => { t with module := some m }) L.templates i
      refine ⟨heq, source, p, hgives, hverdict, hembeds, if i == id then some m else module, ?_⟩
      refine hchanged.trans ?_
      rw [hlookup]
      split <;> rfl }

end Steady

/-! ## Loading by name -/

/-- A library after the template of a name was loaded. -/
structure Reading (S : Sources) (name : String) (source : FoundSource) (p : Parsed)
    (K L : Library) : Prop where
  steady : S.Steady L
  trees : ∀ key t, K.registry.tree? key = some t → L.registry.tree? key = some t
  capacity_eq : L.cache.capacity = K.cache.capacity
  cached : L.cache.entries.lookup name = some ⟨some name, 0⟩
  others : ∀ n, n ≠ name → L.cache.entries.lookup n = K.cache.entries.lookup n
  kept : ∀ id t, K.templates.lookup id = some t → L.templates.lookup id = some t
  new : K.cache.entries.lookup name = none → L.templates.lookup ⟨some name, 0⟩ =
    some (.ofTree p.template [] source.origin)

/-- What a source that can be read but does not pass the check leaves behind. -/
structure Rejecting (S : Sources) (K L : Library) : Prop where
  steady : S.Steady L
  trees : ∀ key t, K.registry.tree? key = some t → L.registry.tree? key = some t
  cache_eq : L.cache = K.cache
  templates_eq : L.templates = K.templates

/-- A library after some loading: what was loaded and registered is still there. -/
structure Later (S : Sources) (K L : Library) : Prop where
  steady : S.Steady L
  trees : ∀ key t, K.registry.tree? key = some t → L.registry.tree? key = some t
  capacity_eq : L.cache.capacity = K.cache.capacity
  kept : ∀ id t, K.templates.lookup id = some t → L.templates.lookup id = some t

theorem Later.refl (h : S.Steady L) : S.Later L L :=
  ⟨h, fun _ _ ht => ht, rfl, fun _ _ ht => ht⟩

theorem Reading.later (h : S.Reading name source p K L) : S.Later K L :=
  { h with }

theorem Rejecting.later (h : S.Rejecting K L) : S.Later K L where
  steady := h.steady
  trees := h.trees
  capacity_eq := by rw [h.cache_eq]
  kept id t ht := by rwa [h.templates_eq]

theorem Steady.later (h : S.Steady K) (hL : Library.SameButEmbeds K L) : S.Later K L where
  steady := h.embed hL
  trees key t ht := by
    rw [Registry.tree?, hL.trees_eq]
    exact ht
  capacity_eq := by rw [hL.cache_eq]
  kept _ _ ht := hL.lookup ht

/-- What is there under a name was there before, unless it was just read. -/
theorem Reading.lookup_before (h : S.Reading name source p K L) (hK : S.Steady K) {n : String}
    (hn : Embed.isKey n = false) {t : LoadedTemplate}
    (ht : L.templates.lookup ⟨some n, 0⟩ = some t) :
    K.templates.lookup ⟨some n, 0⟩ = some t ∨
      n = name ∧ K.cache.entries.lookup name = none ∧
        t = .ofTree p.template [] source.origin := by
  -- what was cached before is still the same
  have hbefore {id : TemplateId} (hcached : K.cache.entries.lookup n = some id) :
      K.templates.lookup ⟨some n, 0⟩ = some t := by
    obtain ⟨rfl, source', p', -, -, -, module, hlookup⟩ := hK.cached hcached
    have hkept := h.kept _ _ hlookup
    rw [ht] at hkept
    rw [hlookup, hkept]
  by_cases hname : n = name
  · subst hname
    cases hcached : K.cache.entries.lookup n with
    | some id => exact .inl (hbefore hcached)
    | none =>
      rw [h.new hcached] at ht
      exact .inr ⟨rfl, rfl, (Option.some.inj ht).symm⟩
  · obtain ⟨m, hid, hcached⟩ := h.steady.loaded _ (mem_of_lookup ht) hn
    cases hid
    rw [h.others n hname] at hcached
    exact .inl (hbefore hcached)

namespace Steady

/-- A name whose source cannot be read leads to no template. -/
theorem not_cached (h : S.Steady L) (hnone : ∀ source p, ¬ S.Gives name source p) :
    L.cache.entries.lookup name = none := by
  cases hcached : L.cache.entries.lookup name with
  | none => rfl
  | some id =>
    obtain ⟨-, source, p, hgives, -⟩ := h.cached hcached
    exact absurd hgives (hnone source p)

/-- A cached template is handed out. -/
theorem exec_cached {w : World} (h : S.Steady w.toLibrary) (hgives : S.Gives name source p)
    {id : TemplateId} (hcached : w.cache.entries.lookup name = some id) :
    ∃ L, Run.exec (Load.named [] name) w = (.ok ⟨some name, 0⟩, { w with toLibrary := L }) ∧
      S.Reading name source p w.toLibrary L := by
  obtain ⟨rfl, source', p', hgives', hverdict, hembeds, module, hlookup⟩ := h.cached hcached
  obtain ⟨rfl, rfl⟩ := hgives.unique hgives'
  obtain ⟨cache, hget⟩ : ∃ cache, w.cache.get name = some (⟨some name, 0⟩, cache) := by
    rw [TemplateCache.get, hcached]
    by_cases hbounded : w.cache.capacity > 0
    · exact ⟨_, congrArg some (if_pos hbounded)⟩
    · exact ⟨_, congrArg some (if_neg hbounded)⟩
  -- a hit reorders the cache, which shows in no lookup
  have hlookups := TemplateCache.lookup_get hget
  have hcurrent : (!w.env.options.autoReload || w.store.isCurrent source'.origin) = true := by
    rw [h.store_eq, Loader.isCurrent_of_find hgives.1, Bool.or_true]
  refine ⟨{ w.toLibrary with cache }, ?_, h.use hget, fun _ _ ht => ht,
    TemplateCache.capacity_get hget, (hlookups name).trans hcached, fun n _ => hlookups n,
    fun _ _ ht => ht, fun hnew => ?_⟩
  · have htemplate : Run.exec (Run.template ⟨some name, 0⟩) { w with cache } =
        (.ok { LoadedTemplate.ofTree p'.template [] source'.origin with module },
          { w with cache }) := by
      rw [Run.exec_template]
      dsimp only
      rw [hlookup]
    rw [Load.named, Run.exec_bind, Run.exec_get, Run.andThen_ok, hget]
    dsimp only
    rw [Run.exec_bind, Run.exec_modify, Run.andThen_ok, Run.exec_bind, Run.exec_get, Run.andThen_ok,
      Run.exec_bind, htemplate, Run.andThen_ok]
    rw [Run.exec_ite]
    exact (if_pos hcurrent).trans (Load.exec_addGlobals_nil _ _)
  · rw [hnew] at hcached
    cases hcached

/-- A name without a source that can be read is refused for what is wrong with it. -/
theorem exec_unread {w : World} (hnew : w.cache.entries.lookup name = none) :
    Run.exec (Load.named [] name) w = Run.exec (Load.fresh [] name) w := by
  rw [Load.named, Run.exec_bind, Run.exec_get, Run.andThen_ok, TemplateCache.get, hnew]
  rfl

/-- A name whose source cannot be read is refused in the same way wherever this source is found. -/
theorem exec_unreadable {S' : Sources} {w w' : World} (h : S.Steady w.toLibrary)
    (h' : S'.Steady w'.toLibrary) (henv : S'.env = S.env)
    (hfind : S'.env.loader.find S'.store name = S.env.loader.find S.store name)
    (hnone : ∀ source p, ¬ S.Gives name source p) :
    ∃ f, Run.exec (Load.named [] name) w = (.error f, w) ∧
      Run.exec (Load.named [] name) w' = (.error f, w') := by
  have hnone' : ∀ source p, ¬ S'.Gives name source p := by
    intro source p hgives
    refine hnone source p ⟨hfind.symm.trans hgives.1, ?_⟩
    rw [← henv]
    exact hgives.2
  rw [exec_unread (h.not_cached hnone), exec_unread (h'.not_cached hnone')]
  have hstore : w'.env.loader.find w'.store name = w.env.loader.find w.store name := by
    rw [h.env_eq, h.store_eq, h'.env_eq, h'.store_eq]
    exact hfind
  obtain ⟨source, hsource, -, -⟩ | ⟨f, hexec, hexec'⟩ :=
    Load.exec_find_both (h'.env_eq.trans (henv.trans h.env_eq.symm)) hstore
  · -- the source is found on both sides, and has no tree
    cases hp : S.env.options.language.parse (some name) source.code with
    | ok p =>
      rw [h.env_eq, h.store_eq] at hsource
      exact absurd ⟨hsource, hp⟩ (hnone source p)
    | error e =>
      refine ⟨.syntaxError e, Load.exec_fresh_of_malformed hsource ?_ [],
        Load.exec_fresh_of_malformed (hstore.trans hsource) ?_ []⟩
      · rw [h.env_eq, hp]
      · rw [h'.env_eq, henv, hp]
  · refine ⟨f, ?_, ?_⟩
    · rw [Load.fresh, Run.exec_bind, hexec]
      rfl
    · rw [Load.fresh, Run.exec_bind, hexec']
      rfl

/-- What loading a template by its name gives and changes: the check decides. -/
theorem named {w : World} (h : S.Steady w.toLibrary) (hreg : S.env.flavour.hasRegistry = true)
    (hgives : S.Gives name source p) (hname : Embed.isKey name = false) (hasked : name ∈ S.names) :
    (∃ f L, Load.verdict S.env p.template = .error f ∧
        Run.exec (Load.named [] name) w = (.error f, { w with toLibrary := L }) ∧
        S.Rejecting w.toLibrary L) ∨
      Load.verdict S.env p.template = .ok () ∧ ∃ L,
        Run.exec (Load.named [] name) w = (.ok ⟨some name, 0⟩, { w with toLibrary := L }) ∧
        S.Reading name source p w.toLibrary L := by
  cases hcached : w.cache.entries.lookup name with
  | some id =>
    obtain ⟨-, source', p', hgives', hholds⟩ := h.cached hcached
    obtain ⟨rfl, rfl⟩ := hgives.unique hgives'
    exact .inr ⟨h.env_eq ▸ hholds.verdict, h.exec_cached hgives hcached⟩
  | none =>
    obtain ⟨htrees, hembeds⟩ := h.tree?_registered hreg hgives
    have hregistered := h.register hreg hgives hname hasked
    rw [exec_unread hcached, Load.exec_fresh (h.gives.2 hgives), ← h.env_eq]
    cases hverdict : Load.verdict w.env p.template with
    | error f => exact .inl ⟨f, _, rfl, rfl, hregistered, htrees, rfl, rfl⟩
    | ok _ =>
      have hid := hregistered.nextId_eq hname hcached
      -- there is room for one more, since this name has not been asked for
      have hroom : w.cache.capacity < 0 ∨ (w.cache.entries.length : Int) < w.cache.capacity := by
        have hlt : w.cache.entries.length < S.names.length := h.length_lt hasked hcached
        have hnames := h.room
        omega
      have hput := TemplateCache.put_of_room hcached hroom (⟨some name, 0⟩ : TemplateId)
      have hread := hregistered.read hgives hname hasked hcached hembeds hverdict
      refine .inr ⟨rfl, _, ?_, hread, htrees, rfl, ?_, ?_, ?_, ?_⟩
      · rw [Run.andThen_ok]
        dsimp only at hid ⊢
        rw [hid, hput]
      · exact Registry.lookup_append_single name _ _ hcached
      · exact fun n hn => Registry.lookup_append_of_ne _ _ hn
      · intro i t ht
        have hkept : ((Library.nextId _ (some name), .ofTree p.template [] source.origin) ::
            w.templates).lookup i = some t := hregistered.apart.numbered.lookup_next ht _
        rwa [hid] at hkept
      · exact fun _ => List.lookup_cons_self

end Steady

end Sources

end Stencil
