import Stencil.Proofs.Embed.Closed
import Stencil.Proofs.Embed.Compiled
import Stencil.Proofs.Render.Sourced

/-!
# Embeds beside other templates

Where no source is compiled under a key, what was loaded under keys comes from the registry alone,
and what was loaded under other names does not. Loading an embed is then the same as compiling the
tree that is registered under its key, whether it was kept in compiled form or not; nothing else
changes by it, apart from which embeds are kept.

## Main definitions

- `Library.Apart`: templates that were loaded under keys come from the registry

## Key results

- `Load.embedded_apart`: what loading an embed gives and leaves behind
-/

namespace Stencil

/-- Whether a name is a key. -/
def Embed.isKey (name : String) : Bool :=
  Text.startsWith name.toList keyStart.toList

/-- Whether a template was loaded under a key. -/
def TemplateId.isEmbed (id : TemplateId) : Bool :=
  id.name.any Embed.isKey

/-- Every embed is recorded under a key. -/
theorem Language.isKey_of_parse {lang : Language} {host : Option String} {code : String} {p : Parsed}
    (hp : lang.parse host code = .ok p) : ∀ e ∈ p.embeds, Embed.isKey e.key = true := by
  obtain ⟨t, -, rfl⟩ := Language.detach_of_parse hp
  intro e he
  rw [Embed.isKey, Stmt.key_detachList host t.body e he]
  exact Embed.startsWith_key host _

namespace Library

variable {K L : Library}

/-- The templates that were not loaded under a key. -/
def plain (L : Library) : List (TemplateId × LoadedTemplate) :=
  L.templates.filter fun e => !e.1.isEmbed

/-- Templates that were loaded under keys come from the registry, and others do not. -/
structure Apart (L : Library) : Prop where
  numbered : L.Numbered
  keyed : ∀ e ∈ L.registry.trees, Embed.isKey e.1 = true
  unhosted : ∀ e ∈ L.registry.hosts, Embed.isKey e.1 = false
  cached : ∀ e ∈ L.cache.entries, e.2.isEmbed = false
  compiled : ∀ e ∈ L.registry.compiled, ∃ tree, L.registry.tree? e.1 = some tree ∧
    e.2.name = some e.1 ∧ L.templates.lookup e.2 = some (.ofTree tree [] .given) ∧
    Load.verdict L.env tree = .ok ()

/-! ## Templates that were not loaded under a key -/

theorem lookup_plain (L : Library) {id : TemplateId} (h : id.isEmbed = false) :
    L.plain.lookup id = L.templates.lookup id := by
  rw [plain]
  induction L.templates with
  | nil => rfl
  | cons e es ih =>
    rw [List.filter_cons, List.lookup_cons]
    split
    · rw [List.lookup_cons, ih]
    · rename_i hembed
      have hne : (id == e.1) = false := by
        refine beq_false_of_ne ?_
        rintro rfl
        exact hembed (by rw [h]; rfl)
      rw [hne, ih]

theorem nextId_plain (L : Library) {name : Option String} (h : name.any Embed.isKey = false) :
    L.nextId name = ⟨name, L.plain.countP fun e => e.1.name == name⟩ := by
  rw [nextId, plain, List.countP_filter]
  congr 1
  refine List.countP_congr fun e _ => ?_
  rw [Bool.and_eq_true, beq_iff_eq]
  refine ⟨fun hname => ⟨hname, ?_⟩, And.left⟩
  rw [TemplateId.isEmbed, hname, h]
  rfl

/-- A change of a template that was not loaded under a key. -/
theorem plain_change (templates : List (TemplateId × LoadedTemplate)) (id : TemplateId)
    (f : LoadedTemplate → LoadedTemplate) :
    (templates.map fun e => if e.1 == id then (e.1, f e.2) else e).filter
        (fun e => !e.1.isEmbed) =
      (templates.filter fun e => !e.1.isEmbed).map
        fun e => if e.1 == id then (e.1, f e.2) else e := by
  rw [List.filter_map]
  congr 1
  refine List.filter_congr fun e _ => ?_
  rw [Function.comp]
  split <;> rfl

theorem lookup_change_embed (templates : List (TemplateId × LoadedTemplate)) {id i : TemplateId}
    (hid : id.isEmbed = false) (hi : i.isEmbed = true) (f : LoadedTemplate → LoadedTemplate) :
    (templates.map fun e => if e.1 == id then (e.1, f e.2) else e).lookup i = templates.lookup i := by
  have hne : (i == id) = false := by
    refine beq_false_of_ne ?_
    rintro rfl
    rw [hid] at hi
    cases hi
  rw [lookup_change, hne]
  exact Option.map_id'

/-! ## What keeps embeds apart -/

/-- Nothing is loaded and registered yet. -/
theorem apart_new (env : Environment) (store : Store) (capacity : Int) :
    Apart { env, store, cache := { capacity } } where
  numbered _ he := nomatch he
  keyed _ he := nomatch he
  unhosted _ he := nomatch he
  cached _ he := nomatch he
  compiled _ he := nomatch he

theorem Apart.edit (h : L.Apart) (store : Store) : Apart { L with store } :=
  { h with }

/-- Templates are cached that were not loaded under a key. -/
theorem Apart.recache (h : L.Apart) {cache : TemplateCache TemplateId}
    (hcache : ∀ e ∈ cache.entries, e.2.isEmbed = false) : Apart { L with cache } :=
  { h with cached := hcache }

/-- A template that was not loaded under a key is changed. -/
theorem Apart.change (h : L.Apart) {id : TemplateId} (hid : id.isEmbed = false)
    (f : LoadedTemplate → LoadedTemplate)
    (hf : ∀ t, (f t).tree = t.tree ∧ (f t).blocks = t.blocks ∧ (f t).origin = t.origin) :
    Apart { L with templates := L.templates.map fun e => if e.1 == id then (e.1, f e.2) else e } where
  numbered := h.numbered.step (.change id f hf)
  keyed := h.keyed
  unhosted := h.unhosted
  cached := h.cached
  compiled e he := by
    obtain ⟨tree, htree, hname, hlookup, hverdict⟩ := h.compiled e he
    have hkey : e.2.isEmbed = true := by
      rw [TemplateId.isEmbed, hname]
      exact h.keyed _ (mem_of_lookup htree)
    exact ⟨tree, htree, hname, (lookup_change_embed _ hid hkey f).trans hlookup, hverdict⟩

/-- A template is made. -/
theorem Apart.make (h : L.Apart) (name : Option String) (t : LoadedTemplate) :
    Apart { L with templates := (L.nextId name, t) :: L.templates } where
  numbered := h.numbered.next name t
  keyed := h.keyed
  unhosted := h.unhosted
  cached := h.cached
  compiled e he := by
    obtain ⟨tree, htree, hname, hlookup, hverdict⟩ := h.compiled e he
    exact ⟨tree, htree, hname, h.numbered.lookup_next hlookup t, hverdict⟩

/-- A source is compiled that is not compiled under a key. -/
theorem Apart.register (h : L.Apart) {host : Option String} (hhost : host.any Embed.isKey = false)
    {embeds : List Embedded} (hembeds : ∀ e ∈ embeds, Embed.isKey e.key = true) :
    Apart { L with registry := L.registry.register host embeds } where
  numbered := h.numbered
  keyed e he := by
    obtain he | ⟨d, hd, rfl⟩ := Registry.mem_trees_register he
    · exact h.keyed e he
    · exact hembeds d hd
  unhosted e he := by
    cases host with
    | none => exact h.unhosted e he
    | some name =>
      obtain he | he := List.mem_append.1 he
      · exact h.unhosted e (Registry.mem_drop.1 he).1
      -- the new entry is that of the host itself, which is no key
      · split at he
        · exact nomatch he
        · rw [List.mem_singleton.1 he]
          exact hhost
  cached := h.cached
  compiled e he := by
    -- what is still compiled is still registered, with the same tree
    obtain ⟨hmem, hkept⟩ := Registry.trims_register L.registry host embeds e he
    obtain ⟨tree, htree, hrest⟩ := h.compiled e hmem
    exact ⟨tree, hkept tree htree, hrest⟩

/-- The compilation of an embed changes no registration. -/
theorem Apart.registered_self (h : L.Apart) {key : String} (hkey : Embed.isKey key = true) :
    L.registered (some key) [] = L.registry := by
  have hne : ∀ e ∈ L.registry.hosts, e.1 ≠ key := by
    rintro e he rfl
    rw [h.unhosted e he] at hkey
    cases hkey
  have hkeys : L.registry.keysOf key = [] := by
    rw [Registry.keysOf, List.lookup_eq_none_iff.2 fun e he => by simpa using (hne e he).symm]
    rfl
  have hdrop : Registry.drop [key] L.registry.hosts = L.registry.hosts :=
    List.filter_eq_self.2 fun e he => by simpa using hne e he
  rw [registered]
  split
  · simp [Registry.register, Registry.replaceHost, hkeys, hdrop, Registry.drop_nil]
  · rfl

/-- What loading an embed leaves as it is. -/
structure SameButEmbeds (K L : Library) : Prop where
  env_eq : L.env = K.env
  store_eq : L.store = K.store
  cache_eq : L.cache = K.cache
  plain_eq : L.plain = K.plain
  trees_eq : L.registry.trees = K.registry.trees
  hosts_eq : L.registry.hosts = K.registry.hosts
  lookup : ∀ {id t}, K.templates.lookup id = some t → L.templates.lookup id = some t
  apart : L.Apart

/-- A compiled embed is used. -/
theorem Apart.fetch (h : L.Apart) {key : String} {id : TemplateId} {registry : Registry TemplateId}
    (hfetch : L.registry.fetch key = some (id, registry)) :
    SameButEmbeds L { L with registry } := by
  have htrims := Registry.trims_fetch hfetch
  obtain ⟨-, rfl⟩ := Registry.fetch_eq_some hfetch
  exact ⟨rfl, rfl, rfl, rfl, rfl, rfl, fun ht => ht,
    { h with compiled := fun e he => h.compiled e (htrims e he).1 }⟩

/-- An embed is compiled and kept. -/
theorem Apart.keep (h : L.Apart) {key : String} (hfetch : L.registry.fetch key = none)
    {tree : Template} (htree : L.registry.tree? key = some tree)
    (hverdict : Load.verdict L.env tree = .ok ()) (max : Nat) :
    SameButEmbeds L { L with
      templates := (L.nextId (some key), .ofTree tree [] .given) :: L.templates
      registry := L.registry.keep max key (L.nextId (some key)) } where
  env_eq := rfl
  store_eq := rfl
  cache_eq := rfl
  plain_eq := by
    have hkey : (L.nextId (some key)).isEmbed = true := h.keyed _ (mem_of_lookup htree)
    -- the new template is an embed, which plain templates leave out
    rw [plain, List.filter_cons, hkey]
    rfl
  trees_eq := rfl
  hosts_eq := rfl
  lookup ht := h.numbered.lookup_next ht _
  apart := {
    h.make (some key) (.ofTree tree [] .given) with
    compiled := fun e he => by
      dsimp only at he
      rw [Registry.keep_of_fetch_eq_none hfetch] at he
      obtain he | he := List.mem_append.1 (List.mem_of_mem_drop he)
      · exact (h.make (some key) (.ofTree tree [] .given)).compiled e he
      · rw [List.mem_singleton.1 he]
        exact ⟨tree, htree, rfl, List.lookup_cons_self, hverdict⟩ }

end Library

namespace Load

open Library (SameButEmbeds)

/-- No globals change nothing. -/
theorem exec_addGlobals_nil (id : TemplateId) (w : World) :
    Run.exec (do addGlobals id []; return id) w = (.ok id, w) := by
  have hsame : (w.templates.map fun e => if e.1 == id then (e.1, e.2) else e) = w.templates := by
    refine (List.map_congr_left fun e _ => ?_).trans (List.map_id _)
    split <;> rfl
  change (_, ({ w with templates := w.templates.map fun e => if e.1 == id then (e.1, e.2) else e } :
    World)) = _
  rw [hsame]

/-- Loading an embed is the same as compiling the tree that is registered under its key: what the
check says of it decides. -/
theorem embedded_apart {w : World} (hw : w.toLibrary.Apart) (key : String) :
    (w.registry.tree? key = none ∧
        Run.exec (embedded [] key) w = (.error (.notFound (.text key) key), w)) ∨
      ∃ tree, w.registry.tree? key = some tree ∧
        ((∃ f, verdict w.env tree = .error f ∧ Run.exec (embedded [] key) w = (.error f, w)) ∨
          verdict w.env tree = .ok () ∧ ∃ id L,
            Run.exec (embedded [] key) w = (.ok id, { w with toLibrary := L }) ∧
            SameButEmbeds w.toLibrary L ∧ id.name = some key ∧
            L.templates.lookup id = some (.ofTree tree [] .given)) := by
  have hload := exec_embedded [] key w
  have hself {tree : Template} (htree : w.registry.tree? key = some tree) :
      w.registered (some key) [] = w.registry := hw.registered_self (hw.keyed _ (mem_of_lookup htree))
  generalize Run.exec (embedded [] key) w = result at hload ⊢
  cases hload with
  | @kept id registry hfetch =>
    -- what is kept was compiled from the tree that is registered now
    obtain ⟨tree, htree, hname, hlookup, hverdict⟩ :=
      hw.compiled _ (Registry.fetch_eq_some hfetch).1
    exact .inr ⟨tree, htree, .inr ⟨hverdict, id, _, exec_addGlobals_nil id _, hw.fetch hfetch,
      hname, hlookup⟩⟩
  | missing _ htree => exact .inl ⟨htree, rfl⟩
  | @refused tree f _ htree hverdict =>
    rw [hself htree]
    exact .inr ⟨tree, htree, .inl ⟨f, hverdict, rfl⟩⟩
  | @compiled tree hfetch htree hverdict =>
    rw [hself htree]
    exact .inr ⟨tree, htree, .inr ⟨hverdict, _, _, rfl,
      hw.keep hfetch htree hverdict w.env.embedLimit, rfl, List.lookup_cons_self⟩⟩

end Load

end Stencil
