import Stencil.Proofs.Embed.Visits
import Stencil.Proofs.Simulation.Check
import Stencil.Proofs.Tree.Dump

/-!
# Following embeds

The place of an embed names its key. Where it leads is up to the registry: a tree that was
registered under the key before, perhaps by another source, stays. As long as digests do not collide
such a tree has the same written form, hence the same places, so that following places from a tree
that was just compiled never leads to a key that is not registered.

## Key results

- `Load.verdict_ne_notFound`: checking a template never fails for want of a template
- `Load.template_ne_notFound`: a registered key is never reported as missing
- `Registry.Follows.mem_embeds`: where following places leads
- `Workspace.compile_closed`: places and embeds after a compilation
-/

namespace Stencil

/-! ## Registered keys can be loaded -/

namespace Load

/-- Nothing is asked of a library. -/
def anyLibrary : Invariant where
  Stage := Unit
  le _ _ := True
  le_refl _ := trivial
  le_trans _ _ := trivial
  holds _ _ := True

/-- A run beside itself that does not look for templates. -/
def withoutLoading : Simulation :=
  { anyLibrary.self with missing := fun _ => False }

/-- Checking a template never fails for want of a template. -/
theorem verdict_ne_notFound (env : Environment) (t : Template) (message : Datum)
    (display : String) : verdict env t ≠ .error (.notFound message display) := by
  intro h
  have hbody : withoutLoading.StmtsRel ((), 0) none t.body t.body :=
    .refl trivial (fun _ => rfl) t.body fun _ => Simulation.nowhere
  have hnew : withoutLoading.Rel ((), 0) { env } { env } :=
    Simulation.rel_new ⟨rfl, trivial⟩ (fun _ => rfl) Nat.not_lt_zero (fun _ h => h) (fun _ => rfl)
      fun _ => rfl
  have hcheck := Simulation.agree_checkTemplate
    (Simulation.engRel_ofConstants Engine.callDepth) hbody ((), 0) _ _ hnew
  -- the check of a tree is that of the same tree where nothing can be loaded
  obtain ⟨_, -, hbad⟩ | ho := hcheck
  · exact hbad
  rw [verdict] at h
  generalize Run.exec (Check.template _ t) { env } = r at h ho
  obtain ⟨r, w⟩ := r
  cases h
  cases ho with
  | failed _ _ hf =>
    cases hf with
    | notFound hm => exact hm

/-- A registered key is never reported as missing. -/
theorem embedded_ne_notFound {w : World} {key : String} (hkey : w.registry.Holds key)
    (globals : List (String × Value)) (message : Datum) (display : String) :
    (Run.exec (embedded globals key) w).1 ≠ .error (.notFound message display) := by
  have hload := exec_embedded globals key w
  generalize Run.exec (embedded globals key) w = result at hload
  intro h
  cases hload with
  | kept _ => cases h
  | missing _ htree =>
    obtain ⟨t, ht⟩ := (Registry.holds_iff_tree? w.registry key).1 hkey
    cases ht.symm.trans htree
  | @refused tree f _ _ hverdict =>
    cases h
    exact verdict_ne_notFound w.env tree message display hverdict
  | compiled _ _ _ => cases h

theorem template_ne_notFound {w : World} (hreg : w.env.flavour.hasRegistry = true) {key : String}
    (hkey : w.registry.Holds key)
    (hstart : Text.startsWith key.toList Embed.keyStart.toList = true) (eng : Engine)
    (globals : List (String × Value)) (message : Datum) (display : String) :
    (Run.exec (template eng globals (.plain key)) w).1 ≠ .error (.notFound message display) := by
  rw [exec_template eng globals key w hreg, if_pos hstart]
  exact embedded_ne_notFound hkey globals message display

end Load

theorem Text.strip?_append (piece cs : List Char) : strip? piece (piece ++ cs) = some cs := by
  induction piece with
  | nil => rfl
  | cons p ps ih => rw [List.cons_append, strip?, if_pos (beq_self_eq_true p), ih]

theorem Embed.startsWith_key (host : Option String) (dump : String) :
    Text.startsWith (key host dump).toList keyStart.toList = true := by
  rw [toList_key, Text.startsWith, Text.strip?_append]
  rfl

/-! ## Following places -/

/-- The written form of a recorded embed shows its places. -/
theorem Compilation.Read.showsKeys {lang : Language} {c : Compilation} (h : c.Read lang)
    {e : Embedded} (he : e ∈ c.embeds) : Stmt.ShowsKeys e := by
  obtain hnone | ⟨t, -, -, hembeds⟩ := h
  · rw [hnone] at he
    exact absurd he List.not_mem_nil
  · rw [hembeds] at he
    exact Stmt.showsKeys_detachList c.host t.body e he

namespace Registry

variable {α : Type} {lang : Language} {max : Nat} {cs : List Compilation} {r : Registry α}

/-- The keys that following places leads to from a tree, through the trees of a registry. -/
inductive Follows (r : Registry α) (t : Template) : String → Prop
  | here {key : String} (h : key ∈ t.keys) : Follows r t key
  | through {key next : String} {u : Template} (h : Follows r t key)
      (hu : r.tree? key = some u) (hnext : next ∈ u.keys) : Follows r t next

/-- The digest of an embed stands for its written form, among the trees of a registry and some other
embeds. -/
def Distinguished (r : Registry α) (embeds : List Embedded) : Prop :=
  ∀ e ∈ embeds, ∀ u, ((∃ key, (key, u) ∈ r.trees) ∨ ∃ d ∈ embeds, d.template = u) →
    Md5.hexDigest u.dump = Md5.hexDigest e.template.dump → u.dump = e.template.dump

/-- Following places from a tree that was just compiled leads to embeds of the same source only. -/
theorem Follows.mem_embeds (h : Reached lang max cs r) {host : Option String} {code : String}
    {p : Parsed} (hp : lang.parse host code = .ok p) (hdigest : r.Distinguished p.embeds)
    {key : String} (hkey : (r.register host p.embeds).Follows p.template key) :
    ∃ e ∈ p.embeds, e.key = key := by
  obtain ⟨t, ht, rfl⟩ := Language.detach_of_parse hp
  have hplaces := Stmt.places_detachList host (Language.keys_parseTree ht)
  have hnew := Reached.compile h hp
  have hread := hnew.sound.read
  induction hkey with
  | here hkey => exact List.mem_map.1 (hplaces.subset (List.mem_append_left _ hkey))
  | @through key next u _ hu hnext ih =>
    obtain ⟨e, he, hekey⟩ := ih
    obtain ⟨c, hc, d, hd, hdkey, rfl⟩ := hnew.recorded (mem_of_lookup hu)
    -- the tree under the key has the digest of the recorded one, hence the same places
    have hdkeys := (hread c hc).key_eq hd
    have hekeys := (hread _ List.mem_cons_self).key_eq he
    rw [hdkey, ← hekey, hekeys, Embed.key_eq_iff] at hdkeys
    have hinvolved : (∃ key, (key, d.template) ∈ r.trees) ∨
        ∃ d' ∈ (t.detach host).embeds, d'.template = d.template :=
      (mem_trees_register (mem_of_lookup hu)).imp (fun hr => ⟨key, hr⟩)
        fun ⟨d', hd', heq⟩ => ⟨d', hd', (Prod.mk.inj heq).2.symm⟩
    have hdump := hdigest e he d.template hinvolved hdkeys.2.symm
    have hkeys := Embedded.keys_eq_of_dump_eq ((hread c hc).showsKeys hd)
      ((hread _ List.mem_cons_self).showsKeys he) hdump
    rw [hkeys] at hnext
    refine List.mem_map.1 (hplaces.subset (List.mem_append_right _ ?_))
    exact List.mem_flatMap.2 ⟨e, he, hnext⟩

end Registry

namespace Workspace

/-- After a source was compiled: the places in its tree and in the embeds recorded with it are those
of the embeds, each as often as it is recorded; an embed holds places of earlier ones only; and as
long as digests do not collide, following places from its tree through the registry leads to
registered keys only, none of which is reported as missing. -/
theorem compile_closed (p : WorkspacePlan) {ws : Workspace} (hreg : p.flavour.hasRegistry = true)
    (hws : Reachable p ws) (host : Option String) (code : String)
    (hok : (compile host host code ws).1 = .ok ()) :
    ∃ q, ws.world.env.options.language.parse host code = .ok q ∧
      (q.template.keys ++ q.embeds.flatMap (·.template.keys)).Perm (q.embeds.map (·.key)) ∧
      Embedded.Nested q.embeds ∧
      (ws.world.registry.Distinguished q.embeds →
        ∀ key, (compile host host code ws).2.world.registry.Follows q.template key →
          (compile host host code ws).2.world.registry.Holds key ∧
          ∀ eng globals message display,
            (Run.exec (Load.template eng globals (.plain key))
              (compile host host code ws).2.world).1 ≠ .error (.notFound message display)) := by
  obtain ⟨hreg', cs, hreached⟩ := hws.history hreg
  cases hq : ws.world.env.options.language.parse host code with
  | error e =>
    rw [compile_of_parse_error hq] at hok
    exact nomatch hok
  | ok q =>
    obtain ⟨t, ht, rfl⟩ := Language.detach_of_parse hq
    have hnone := Language.keys_parseTree ht
    refine ⟨_, rfl, Stmt.places_detachList host hnone, Stmt.nested_detachList host t.body hnone, ?_⟩
    intro hdigest key hkey
    rw [compile_of_parse hq hreg'] at hkey ⊢
    -- wherever the places lead, an embed of this source has been recorded with the key
    obtain ⟨e, he, rfl⟩ := hkey.mem_embeds hreached.registry hq hdigest
    have hheld : (ws.world.registry.register host (t.detach host).embeds).Holds e.key :=
      (Registry.holds_register_iff _ _ _ _).2 (.inr ⟨e, he, rfl⟩)
    refine ⟨hheld, fun eng globals message display => ?_⟩
    have hstart : Text.startsWith e.key.toList Embed.keyStart.toList = true := by
      rw [Stmt.key_detachList host t.body e he]
      exact Embed.startsWith_key host _
    apply Load.template_ne_notFound
    · exact hreg'
    · exact hheld
    · exact hstart

/-- A page with a single embed. -/
def onlyEmbed : String := "\x7b% embed 'card' %\x7d\x7b% endembed %\x7d"

/-- The key of the only embed of a page is followed from the page, and can be loaded. -/
theorem compile_closed_onlyEmbed :
    ∃ ws q key, WorkspacePlan.build { flavour := .pattern } = .ok ws ∧
      ws.world.env.options.language.parse (some "page") onlyEmbed = .ok q ∧
      (compile (some "page") (some "page") onlyEmbed ws).2.world.registry.Follows q.template key ∧
      (compile (some "page") (some "page") onlyEmbed ws).2.world.registry.Holds key := by
  let p : WorkspacePlan := { flavour := .pattern }
  let ws := p.build.toOption.get rfl
  have hws : p.build = .ok ws := rfl
  have hcompiles : (compile (some "page") (some "page") onlyEmbed ws).1.toOption = some () := by
    decide +kernel
  have hok : (compile (some "page") (some "page") onlyEmbed ws).1 = .ok () := by
    cases hc : (compile (some "page") (some "page") onlyEmbed ws).1 with
    | ok _ => rfl
    | error f => rw [hc] at hcompiles; exact nomatch hcompiles
  obtain ⟨q, hq, -, -, hclosed⟩ := compile_closed p rfl (.new hws) (some "page") onlyEmbed hok
  have hone : ((ws.world.env.options.language.parse (some "page") onlyEmbed).toOption.map
      fun q => (q.embeds.length, q.template.keys.length)) = some (1, 1) := by decide +kernel
  rw [hq] at hone
  obtain ⟨hembeds, hkeys⟩ := Prod.mk.inj (Option.some.inj hone)
  -- there is only one embed, so that no two can be confused
  have hdigest : ws.world.registry.Distinguished q.embeds := by
    obtain ⟨e, hall⟩ := List.length_eq_one_iff.1 hembeds
    rintro d hd u (⟨key, hu⟩ | ⟨d', hd', rfl⟩) -
    · exact nomatch hu
    · rw [hall, List.mem_singleton] at hd hd'
      rw [hd, hd']
  obtain ⟨key, hkey⟩ := List.exists_mem_of_length_pos (hkeys ▸ Nat.one_pos)
  exact ⟨ws, q, key, hws, hq, .here hkey, (hclosed hdigest key (.here hkey)).1⟩

end Workspace

end Stencil
