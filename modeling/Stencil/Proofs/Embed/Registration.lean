import Stencil.Proofs.Render.Keeping
import Stencil.Proofs.Workspace.Operations

/-!
# Registration and failing compilations

Compiling a source registers the templates embedded in it before the source is checked. A source
that cannot be read leaves the registry alone; one that can be read and fails the check does not. A
failing compilation changes nothing exactly if the embeds of the failing source are all registered
already, and are those that its host had before.

## Key results

- `addTrees_eq_self_iff`: registering trees changes nothing iff all their keys are taken
- `mem_keysOf_register`: the keys of a host after a registration
- `register_same_iff`: when a registration changes nothing
- `exec_compile_registry`: a compilation registers its embeds whatever its outcome
-/

namespace Stencil

theorem mem_of_lookup {α β : Type} [BEq α] [LawfulBEq α] {entries : List (α × β)} {a : α} {b : β}
    (h : entries.lookup a = some b) : (a, b) ∈ entries := by
  obtain ⟨_, _, rfl, -⟩ := List.lookup_eq_some_iff.1 h
  exact List.mem_append_right _ List.mem_cons_self

namespace Registry

variable {α : Type}

/-- Two registries hold the same: the same trees, the same compiled embeds, and the same keys for
every host. -/
structure Same (r s : Registry α) : Prop where
  trees : r.trees = s.trees
  compiled : r.compiled = s.compiled
  hosts : ∀ host key, key ∈ r.keysOf host ↔ key ∈ s.keysOf host

/-- A key is registered. -/
def Holds (r : Registry α) (key : String) : Prop :=
  ∃ t, (key, t) ∈ r.trees

/-! ## Trees -/

theorem any_key_eq_true_iff {β : Type} (entries : List (String × β)) (key : String) :
    entries.any (·.1 == key) = true ↔ ∃ b, (key, b) ∈ entries := by
  rw [List.any_eq_true]
  constructor
  · rintro ⟨⟨k, b⟩, hmem, hk⟩
    rw [beq_iff_eq] at hk
    exact ⟨b, hk ▸ hmem⟩
  · rintro ⟨b, hmem⟩
    exact ⟨(key, b), hmem, beq_self_eq_true key⟩

/-- A tree is added at the end or not at all. -/
theorem addTree_eq_append (trees : List (String × Template)) (e : Embedded) :
    addTree trees e = trees ++ (if trees.any (·.1 == e.key) then [] else [(e.key, e.template)]) := by
  rw [addTree]
  split
  · rw [List.append_nil]
  · rfl

theorem addTrees_extends (embeds : List Embedded) (trees : List (String × Template)) :
    trees <+: embeds.foldl addTree trees := by
  induction embeds generalizing trees with
  | nil => exact List.prefix_rfl
  | cons e es ih =>
    have hone : trees <+: addTree trees e := by
      rw [addTree_eq_append]
      exact List.prefix_append _ _
    exact hone.trans (ih (addTree trees e))

/-- Registering trees changes nothing iff all their keys are taken. -/
theorem addTrees_eq_self_iff (embeds : List Embedded) (trees : List (String × Template)) :
    embeds.foldl addTree trees = trees ↔ ∀ e ∈ embeds, ∃ t, (e.key, t) ∈ trees := by
  induction embeds with
  | nil => simp
  | cons e es ih =>
    rw [List.foldl_cons, List.forall_mem_cons, ← any_key_eq_true_iff]
    cases hany : trees.any (·.1 == e.key) with
    | true =>
      have hkept : addTree trees e = trees := by rw [addTree, if_pos hany]
      rw [hkept, ih]
      exact ⟨fun h => ⟨rfl, h⟩, fun h => h.2⟩
    | false =>
      -- the list has grown, and adding further trees cannot undo that
      have hgrown : addTree trees e = trees ++ [(e.key, e.template)] := by
        rw [addTree, hany]
        rfl
      refine iff_of_false (fun heq => ?_) fun h => Bool.false_ne_true h.1
      have hle := (addTrees_extends es (addTree trees e)).length_le
      rw [heq, hgrown, List.length_append, List.length_singleton] at hle
      omega

theorem mem_addTrees {embeds : List Embedded} {trees : List (String × Template)}
    {x : String × Template} (h : x ∈ embeds.foldl addTree trees) :
    x ∈ trees ∨ ∃ e ∈ embeds, x = (e.key, e.template) := by
  induction embeds generalizing trees with
  | nil => exact .inl h
  | cons e es ih =>
    obtain hx | ⟨d, hd, hx⟩ := ih h
    · rw [addTree_eq_append, List.mem_append] at hx
      obtain hx | hx := hx
      · exact .inl hx
      · split at hx
        · exact nomatch hx
        · exact .inr ⟨e, List.mem_cons_self, List.mem_singleton.1 hx⟩
    · exact .inr ⟨d, List.mem_cons_of_mem _ hd, hx⟩

/-! ## Hosts -/

theorem lookup_append_of_ne {β : Type} (entries : List (String × β)) {key other : String} (b : β)
    (h : key ≠ other) : (entries ++ [(other, b)]).lookup key = entries.lookup key := by
  induction entries with
  | nil => simp [List.lookup_cons, beq_false_of_ne h]
  | cons e es ih =>
    rw [List.cons_append, List.lookup_cons, List.lookup_cons, ih]

theorem lookup_drop_of_not_mem {β : Type} (keys : List String) (entries : List (String × β))
    {key : String} (h : key ∉ keys) : (drop keys entries).lookup key = entries.lookup key := by
  induction entries with
  | nil => rfl
  | cons e es ih =>
    rw [drop, List.filter_cons, List.lookup_cons]
    cases hk : key == e.1 with
    | true =>
      rw [beq_iff_eq] at hk
      have hkept : (!keys.contains e.1) = true := by simpa [← hk] using h
      rw [if_pos hkept, List.lookup_cons, hk, beq_self_eq_true]
    | false =>
      split
      · rw [List.lookup_cons, hk]
        exact ih
      · exact ih

theorem lookup_drop_self {β : Type} (key : String) (entries : List (String × β)) :
    (drop [key] entries).lookup key = none := by
  induction entries with
  | nil => rfl
  | cons e es ih =>
    rw [drop, List.filter_cons]
    split
    · rename_i hne
      have hk : (key == e.1) = false := by
        simp only [List.contains_cons, List.contains_nil, Bool.or_false, Bool.not_eq_true',
          beq_eq_false_iff_ne] at hne
        exact beq_false_of_ne fun h => hne h.symm
      rw [List.lookup_cons, hk]
      exact ih
    · exact ih

theorem lookup_append_single {β : Type} (key : String) (b : β) (entries : List (String × β))
    (h : entries.lookup key = none) : (entries ++ [(key, b)]).lookup key = some b := by
  induction entries with
  | nil => simp
  | cons e es ih =>
    rw [List.lookup_cons] at h
    rw [List.cons_append, List.lookup_cons]
    cases hk : key == e.1 with
    | true => rw [hk] at h; exact nomatch h
    | false => rw [hk] at h; exact ih h

/-- Recording the keys of a host gives it these keys. -/
theorem keysOf_replaceHost_self (r : Registry α) (host : String) (keys : List String) :
    (r.replaceHost host keys).keysOf host = keys := by
  have hnone := lookup_drop_self host r.hosts
  rw [keysOf, replaceHost]
  cases keys with
  | nil => simp [hnone]
  | cons k ks =>
    have hsome := lookup_append_single host (k :: ks) _ hnone
    simp [hsome]

/-- Recording the keys of a host leaves all others alone. -/
theorem keysOf_replaceHost_of_ne (r : Registry α) {host other : String} (keys : List String)
    (h : other ≠ host) : (r.replaceHost host keys).keysOf other = r.keysOf other := by
  have hdrop := lookup_drop_of_not_mem [host] r.hosts (show other ∉ [host] by simpa using h)
  cases keys with
  | nil => simp [keysOf, replaceHost, hdrop]
  | cons k ks =>
    have happ := lookup_append_of_ne (drop [host] r.hosts) (k :: ks) h
    simp [keysOf, replaceHost, happ, hdrop]

/-! ## Registration -/

theorem mem_eraseDups_keys (embeds : List Embedded) (key : String) :
    key ∈ (embeds.map (·.key)).eraseDups ↔ ∃ e ∈ embeds, e.key = key := by
  rw [List.mem_eraseDups, List.mem_map]

/-- The keys of a host after a registration under a name: those of the embeds for this host, and
what they were for any other. -/
theorem mem_keysOf_register (r : Registry α) (host : String) (embeds : List Embedded)
    (other key : String) :
    key ∈ (r.register (some host) embeds).keysOf other ↔
      if other = host then ∃ e ∈ embeds, e.key = key else key ∈ r.keysOf other := by
  change key ∈ (r.replaceHost host (embeds.map (·.key)).eraseDups).keysOf other ↔ _
  split
  · rename_i h
    rw [h, keysOf_replaceHost_self, mem_eraseDups_keys]
  · rename_i h
    rw [keysOf_replaceHost_of_ne r _ h]

/-- A tree that is registered after a compilation was there before, or is in the source. -/
theorem mem_trees_register {r : Registry α} {host : Option String} {embeds : List Embedded}
    {x : String × Template} (h : x ∈ (r.register host embeds).trees) :
    x ∈ r.trees ∨ ∃ e ∈ embeds, x = (e.key, e.template) := by
  refine (mem_addTrees h).imp_left fun hx => ?_
  cases host with
  | none => exact hx
  | some name => exact (List.mem_filter.1 hx).1

theorem drop_nil {β : Type} (entries : List (String × β)) : drop [] entries = entries := by
  rw [drop, List.filter_eq_self]
  intro e _
  rfl

/-- A registration without a name changes nothing iff all keys are taken. -/
theorem register_none_same_iff (r : Registry α) (embeds : List Embedded) :
    (r.register none embeds).Same r ↔ ∀ e ∈ embeds, r.Holds e.key := by
  constructor
  · intro h
    exact (addTrees_eq_self_iff embeds r.trees).1 h.trees
  · intro h
    exact ⟨(addTrees_eq_self_iff embeds r.trees).2 h, rfl, fun _ _ => Iff.rfl⟩

/-- A registration under a name changes nothing iff all keys are taken and the host had exactly
these keys. -/
theorem register_some_same_iff (r : Registry α) (host : String) (embeds : List Embedded) :
    (r.register (some host) embeds).Same r ↔
      (∀ e ∈ embeds, r.Holds e.key) ∧ ∀ key, key ∈ r.keysOf host ↔ ∃ e ∈ embeds, e.key = key := by
  -- with the same keys nothing is stale, so that nothing is dropped
  have hfresh : (∀ key, key ∈ r.keysOf host ↔ ∃ e ∈ embeds, e.key = key) →
      (r.keysOf host).filter (fun k => !((embeds.map (·.key)).eraseDups).contains k) = [] := by
    intro hkeys
    rw [List.filter_eq_nil_iff]
    intro k hk
    have hmem := (mem_eraseDups_keys embeds k).2 ((hkeys k).1 hk)
    rw [List.contains_iff_mem.2 hmem]
    exact Bool.false_ne_true
  constructor
  · intro h
    have hkeys : ∀ key, key ∈ r.keysOf host ↔ ∃ e ∈ embeds, e.key = key := by
      intro key
      rw [← h.hosts host key, mem_keysOf_register, if_pos rfl]
    have htrees := h.trees
    simp only [register, replaceHost, hfresh hkeys, drop_nil] at htrees
    exact ⟨(addTrees_eq_self_iff embeds r.trees).1 htrees, hkeys⟩
  · rintro ⟨htaken, hkeys⟩
    refine ⟨?_, ?_, ?_⟩
    · simp only [register, replaceHost, hfresh hkeys, drop_nil]
      exact (addTrees_eq_self_iff embeds r.trees).2 htaken
    · simp only [register, replaceHost, hfresh hkeys, drop_nil]
    · intro other key
      rw [mem_keysOf_register]
      split
      · rename_i h
        rw [h, hkeys key]
      · rfl

/-- When a registration changes nothing. -/
theorem register_same_iff (r : Registry α) (host : Option String) (embeds : List Embedded) :
    (r.register host embeds).Same r ↔
      (∀ e ∈ embeds, r.Holds e.key) ∧
        ∀ h, host = some h → ∀ key, key ∈ r.keysOf h ↔ ∃ e ∈ embeds, e.key = key := by
  cases host with
  | none =>
    rw [register_none_same_iff]
    exact ⟨fun h => ⟨h, fun _ hn => nomatch hn⟩, fun h => h.1⟩
  | some name =>
    rw [register_some_same_iff]
    refine and_congr_right fun _ => ⟨?_, fun h => h name rfl⟩
    rintro h other ⟨⟩
    exact h

end Registry

namespace Load

/-- A compilation registers the embeds and gives the verdict of the check. -/
theorem exec_compile (host : Option String) (p : Parsed) (w : World)
    (h : w.env.flavour.hasRegistry = true) :
    Run.exec (compile host p) w =
      (verdict w.env p.template, { w with registry := w.registry.register host p.embeds }) := by
  simp only [compile, Run.exec_bind, Run.exec_get, Run.andThen_ok, h, if_true, Run.exec_modify]
  cases verdict w.env p.template <;> rfl

/-- What a compilation does to the registry does not depend on its outcome. -/
theorem exec_compile_registry (host : Option String) (p : Parsed) (w : World)
    (h : w.env.flavour.hasRegistry = true) :
    (Run.exec (compile host p) w).2.registry = w.registry.register host p.embeds := by
  rw [exec_compile host p w h]

end Load

namespace Workspace

/-- A source that can be read is registered, and the verdict of the check is given. -/
theorem compile_of_parse {ws : Workspace} {host : Option String} {code : String} {q : Parsed}
    (hq : ws.world.env.options.language.parse host code = .ok q)
    (hreg : ws.world.env.flavour.hasRegistry = true) :
    compile host host code ws =
      ((Load.verdict ws.world.env q.template).mapError .fault,
        { ws with world := { ws.world with
          sinks := []
          registry := ws.world.registry.register host q.embeds } }) := by
  rw [compile, perform_eq, Run.exec_bind, Load.exec_parse, hq]
  change ((Run.exec (Load.compile host q) _).1.mapError _,
    ({ ws with world := (Run.exec (Load.compile host q) _).2 } : Workspace)) = _
  rw [Load.exec_compile host q { ws.world with sinks := [] } hreg]

/-- A source that cannot be read changes nothing. -/
theorem compile_of_parse_error {ws : Workspace} {host : Option String} {code : String}
    {e : SyntaxError} (he : ws.world.env.options.language.parse host code = .error e) :
    compile host host code ws =
      (.error (.fault (.syntaxError e)), { ws with world := { ws.world with sinks := [] } }) := by
  rw [compile, perform_eq, Run.exec_bind, Load.exec_parse, he]
  rfl

/-- A compilation fails at one of two stages. If the source cannot be read the registry stays as it
is. If it can be read but fails the check, the registry holds the same as before if and only if all
embeds of the source are registered already and are those that its host had before. -/
theorem compile_error_registry (ws : Workspace) (host : Option String) (code : String)
    (f : Failure) (hreg : ws.world.env.flavour.hasRegistry = true)
    (hfail : (compile host host code ws).1 = .error f) :
    (∃ e, ws.world.env.options.language.parse host code = .error e ∧
        f = .fault (.syntaxError e) ∧
        (compile host host code ws).2.world.registry = ws.world.registry) ∨
      ∃ p c, ws.world.env.options.language.parse host code = .ok p ∧
        Load.verdict ws.world.env p.template = .error c ∧ f = .fault c ∧
        ((compile host host code ws).2.world.registry.Same ws.world.registry ↔
          (∀ e ∈ p.embeds, ws.world.registry.Holds e.key) ∧
            ∀ h, host = some h →
              ∀ key, key ∈ ws.world.registry.keysOf h ↔ ∃ e ∈ p.embeds, e.key = key) := by
  cases hp : ws.world.env.options.language.parse host code with
  | error e =>
    rw [compile_of_parse_error hp] at hfail ⊢
    cases hfail
    exact .inl ⟨e, rfl, rfl, rfl⟩
  | ok p =>
    -- the embeds are registered by now, and the check may still fail
    rw [compile_of_parse hp hreg] at hfail ⊢
    cases hv : Load.verdict ws.world.env p.template with
    | ok _ =>
      rw [hv] at hfail
      exact nomatch hfail
    | error c =>
      rw [hv] at hfail
      cases hfail
      exact .inr ⟨p, c, rfl, hv, rfl, Registry.register_same_iff ws.world.registry host p.embeds⟩

/-- A workspace in which a template with one embed has been rendered. -/
def withOneEmbed : Workspace :=
  (render "page" [] []
    { world := {
        env := {
          flavour := .pattern
          loader := .named
          options := { language := { extensions := { embedTag := true } } } }
        store := { named := [("card", "[\x7b% block a %\x7d\x7b% endblock %\x7d]"),
          ("page", "\x7b% embed 'card' %\x7d\x7b% block a %\x7dx\x7b% endblock %\x7d\x7b% endembed %\x7d")] } }
      settings := {}
      usesFiles := false
      infoBlock := "patterninfo" }).2

/-- An edit of the page that drops its embed and uses an unknown filter fails to compile, and the
embed is gone nevertheless. -/
theorem compile_error_registry_unknownFilter :
    ∃ f, (compile (some "page") (some "page") "\x7b\x7b x|nope \x7d\x7d" withOneEmbed).1 = .error f ∧
      ¬ (compile (some "page") (some "page") "\x7b\x7b x|nope \x7d\x7d" withOneEmbed).2.world.registry.Same
        withOneEmbed.world.registry := by
  have hfacts : withOneEmbed.world.env.flavour.hasRegistry = true ∧
      (compile (some "page") (some "page") "\x7b\x7b x|nope \x7d\x7d" withOneEmbed).1.toOption.isNone = true ∧
      (withOneEmbed.world.env.options.language.parse (some "page")
        "\x7b\x7b x|nope \x7d\x7d").toOption.map (fun p => p.embeds.length) = some 0 ∧
      (withOneEmbed.world.registry.keysOf "page").length = 1 := by decide +kernel
  obtain ⟨hreg, hfail, hread, hkeys⟩ := hfacts
  cases hc : (compile (some "page") (some "page") "\x7b\x7b x|nope \x7d\x7d" withOneEmbed).1 with
  | ok _ => rw [hc] at hfail; exact nomatch hfail
  | error f =>
    refine ⟨f, rfl, fun hsame => ?_⟩
    obtain ⟨e, he, -⟩ | ⟨p, _, hp, -, -, hiff⟩ := compile_error_registry _ _ _ f hreg hc
    · rw [he] at hread
      exact nomatch hread
    · -- the failing source has no embeds, but the page had one
      rw [hp] at hread
      have hnone : p.embeds = [] := List.length_eq_zero_iff.1 (Option.some.inj hread)
      obtain ⟨key, hkey⟩ := List.exists_mem_of_length_pos (hkeys ▸ Nat.one_pos)
      obtain ⟨e, he, -⟩ := ((hiff.1 hsame).2 "page" rfl key).1 hkey
      rw [hnone] at he
      exact absurd he List.not_mem_nil

end Workspace

end Stencil
