import Stencil.Proofs.Embed.Visits

/-!
# Hosts and the embeds of other hosts

A compilation forgets the embeds that its host had before and lacks now. What a host has are the
keys of its latest compilation, and every key carries the label of its host, so that a compilation
leaves the embeds of hosts with other labels alone. Labels differ for hosts that differ, apart from
one case: a source without a name, a host with an empty name and a host called `<string>` all have
the same label, and so can lose embeds to each other.

## Key results

- `Embed.hostLabel_eq_iff`: which hosts have the same label
- `Registry.Reached.tree?_register`: what becomes of a registered tree in a compilation
- `Workspace.compile_keeps_embeds`: a compilation leaves the embeds of other labels alone
-/

namespace Stencil

namespace Embed

/-- Hosts that share the label of sources without a name. -/
def IsUnnamed (host : Option String) : Prop :=
  host = none ∨ host = some "" ∨ host = some "<string>"

theorem hostLabel_of_isUnnamed {host : Option String} (h : IsUnnamed host) :
    hostLabel host = "<string>" := by
  obtain rfl | rfl | rfl := h <;> rfl

theorem isUnnamed_or_hostLabel (host : Option String) :
    IsUnnamed host ∨ ∃ name, host = some name ∧ hostLabel host = name ∧ name ≠ "<string>" := by
  cases host with
  | none => exact .inl (.inl rfl)
  | some name =>
    by_cases hempty : name = ""
    · exact .inl (.inr (.inl (congrArg some hempty)))
    by_cases hstring : name = "<string>"
    · exact .inl (.inr (.inr (congrArg some hstring)))
    · refine .inr ⟨name, rfl, ?_, hstring⟩
      rw [hostLabel, if_neg]
      rwa [String.isEmpty_iff]

/-- Which hosts have the same label. -/
theorem hostLabel_eq_iff (host host' : Option String) :
    hostLabel host = hostLabel host' ↔ host = host' ∨ IsUnnamed host ∧ IsUnnamed host' := by
  constructor
  · intro h
    obtain hun | ⟨name, rfl, hname, hne⟩ := isUnnamed_or_hostLabel host
    · obtain hun' | ⟨name', rfl, hname', hne'⟩ := isUnnamed_or_hostLabel host'
      · exact .inr ⟨hun, hun'⟩
      · exact absurd (hname'.symm.trans (h.symm.trans (hostLabel_of_isUnnamed hun))) hne'
    · obtain hun' | ⟨name', rfl, hname', -⟩ := isUnnamed_or_hostLabel host'
      · exact absurd (hname.symm.trans (h.trans (hostLabel_of_isUnnamed hun'))) hne
      · exact .inl (congrArg some (hname.symm.trans (h.trans hname')))
  · rintro (rfl | ⟨h, h'⟩)
    · rfl
    · rw [hostLabel_of_isUnnamed h, hostLabel_of_isUnnamed h']

end Embed

namespace Registry

variable {α : Type} {lang : Language} {max : Nat} {cs : List Compilation} {r : Registry α}

/-- A host loses a key iff its latest compilation recorded it and the present one does not. -/
theorem Reached.stale_iff (h : Reached lang max cs r) (host : String) (embeds : List Embedded)
    (key : String) :
    r.Stale (some host) embeds key ↔
      (∃ c, Compilation.latest cs host = some c ∧ key ∈ c.keys) ∧ ∀ e ∈ embeds, e.key ≠ key := by
  rw [← h.sound.mem_keysOf_iff host key]
  constructor
  · rintro ⟨name, hname, hk, hnone⟩
    cases hname
    exact ⟨hk, hnone⟩
  · rintro ⟨hk, hnone⟩
    exact ⟨host, rfl, hk, hnone⟩

/-- Keys of other labels are not stale. -/
theorem Reached.not_stale_of_label (h : Reached lang max cs r) {c : Compilation} (hc : c ∈ cs)
    {key : String} (hk : key ∈ c.keys) {host : String}
    (hlabel : Embed.hostLabel c.host ≠ Embed.hostLabel (some host)) (embeds : List Embedded) :
    ¬ r.Stale (some host) embeds key := by
  rintro ⟨name, hname, hstale, -⟩
  cases hname
  obtain ⟨e, he, rfl⟩ := Compilation.mem_keys.1 hk
  obtain ⟨dump, hdump⟩ := h.sound.exists_dump_of_mem_keysOf hstale
  rw [(h.sound.read c hc).key_eq he, Embed.key_eq_iff] at hdump
  exact hlabel hdump.1

end Registry

namespace Workspace

/-- What a compilation under a name does to a tree that is registered: the tree is dropped iff the
source can be read, lacks it, and the latest compilation under this name had it; otherwise it stays
as it is. So it stays if it was recorded for any other host, unless both hosts go by the label of
sources without a name. -/
theorem compile_keeps_embeds (p : WorkspacePlan) {ws : Workspace}
    (hreg : p.flavour.hasRegistry = true) (hws : Reachable p ws) :
    ∃ cs, Library.Reached ws.world.env cs ws.world.toLibrary ∧
      ∀ host code key t, ws.world.registry.tree? key = some t →
        ((compile (some host) (some host) code ws).2.world.registry.tree? key = none ↔
          ∃ q c, ws.world.env.options.language.parse (some host) code = .ok q ∧
            Compilation.latest cs host = some c ∧ key ∈ c.keys ∧ ∀ e ∈ q.embeds, e.key ≠ key) ∧
        ((compile (some host) (some host) code ws).2.world.registry.tree? key = none ∨
          (compile (some host) (some host) code ws).2.world.registry.tree? key = some t) ∧
        ∀ c ∈ cs, key ∈ c.keys → c.host ≠ some host →
          ¬ (Embed.IsUnnamed c.host ∧ Embed.IsUnnamed (some host)) →
          (compile (some host) (some host) code ws).2.world.registry.tree? key = some t := by
  obtain ⟨hreg', cs, hreached⟩ := hws.history hreg
  refine ⟨cs, hreached, fun host code key t ht => ?_⟩
  have hregistry := hreached.registry
  cases hq : ws.world.env.options.language.parse (some host) code with
  | error e =>
    rw [compile_of_parse_error hq]
    refine ⟨⟨fun hnone => ?_, ?_⟩, .inr ht, fun _ _ _ _ _ => ht⟩
    · rw [ht] at hnone
      exact nomatch hnone
    · rintro ⟨q, c, hq', -⟩
      exact nomatch hq'
  | ok q =>
    rw [compile_of_parse hq hreg']
    have hstale := hregistry.stale_iff host q.embeds key
    -- registering drops what is stale, and leaves the tree of every other key as it is
    by_cases hs : ws.world.registry.Stale (some host) q.embeds key
    · have hdropped := Registry.tree?_register_of_stale hs
      obtain ⟨⟨c, hlatest, hk⟩, hnone⟩ := hstale.1 hs
      refine ⟨⟨fun _ => ⟨q, c, rfl, hlatest, hk, hnone⟩, fun _ => hdropped⟩, .inl hdropped, ?_⟩
      intro d hd hkd hhost hun
      -- a key that another label has recorded is never stale for this one
      refine absurd hs (hregistry.not_stale_of_label hd hkd (fun hlabel => ?_) q.embeds)
      exact ((Embed.hostLabel_eq_iff _ _).1 hlabel).elim hhost hun
    · have hkept := Registry.tree?_register_of_some ht hs
      refine ⟨⟨fun hnone => ?_, ?_⟩, .inr hkept, fun _ _ _ _ _ => hkept⟩
      · rw [hkept] at hnone
        exact nomatch hnone
      · rintro ⟨q', c, hq', hlatest, hk, hnone⟩
        cases hq'
        exact absurd (hstale.2 ⟨⟨c, hlatest, hk⟩, hnone⟩) hs

/-- A workspace in which a page with one embed was compiled. -/
def compiledPage : WorkspacePlan × Request :=
  ({ flavour := .pattern }, .compile (some "page") "\x7b% embed 'card' %\x7d\x7b% endembed %\x7d")

/-- Another page may be compiled without any effect on the embed of the first. -/
theorem compile_keeps_embeds_otherPage :
    ∃ ws ws' key t, compiledPage.1.build = .ok ws ∧ ws.serve compiledPage.2 = ws' ∧
      ws'.world.registry.tree? key = some t ∧
      (compile (some "other") (some "other") "x" ws').2.world.registry.tree? key = some t := by
  let ws := compiledPage.1.build.toOption.get rfl
  have hws : compiledPage.1.build = .ok ws := rfl
  have hkeys : (ws.serve compiledPage.2).world.registry.trees.length = 1 ∧
      (ws.serve compiledPage.2).world.registry.keysOf "other" = [] := by decide +kernel
  have hreach : Reachable compiledPage.1 (ws.serve compiledPage.2) := .serve (.new hws) _
  obtain ⟨cs, hreached, hkept⟩ := compile_keeps_embeds compiledPage.1 rfl hreach
  obtain ⟨⟨key, u⟩, hu⟩ := List.exists_mem_of_length_pos (hkeys.1 ▸ Nat.one_pos)
  obtain ⟨t, ht⟩ := (Registry.holds_iff_tree? _ key).1 ⟨u, hu⟩
  obtain ⟨hiff, hone, -⟩ := hkept "other" "x" key t ht
  refine ⟨ws, _, key, t, hws, rfl, ht, hone.resolve_left fun hnone => ?_⟩
  obtain ⟨_, c, -, hlatest, hk, -⟩ := hiff.1 hnone
  have hmem := (hreached.registry.sound.mem_keysOf_iff "other" key).2 ⟨c, hlatest, hk⟩
  rw [hkeys.2] at hmem
  exact nomatch hmem

end Workspace

end Stencil
