import Stencil.Proofs.Embed.Key
import Stencil.Proofs.Embed.Registration
import Stencil.Proofs.Tree.Detach

/-!
# The registry over time

A registry changes in two ways: a source is compiled under a name or without one, or an embedded
template is loaded, which compiles its tree under its own key. `Registry.Reached` says which
registries such changes lead to, and keeps the compilations that led there. What a registry holds is
then a matter of its history.

## Key results

- `Reached.sound`: what holds of every registry that is reached
- `Sound.mem_keysOf_iff`: the keys of a host are those of its latest compilation
- `Reached.recorded`: where a registered tree comes from
-/

namespace Stencil

/-- A source that was read: the host it was compiled for, and what is embedded in it. -/
structure Compilation where
  host : Option String
  embeds : List Embedded

namespace Compilation

/-- The keys that a compilation recorded. -/
def keys (c : Compilation) : List String :=
  (c.embeds.map (·.key)).eraseDups

theorem mem_keys {c : Compilation} {key : String} : key ∈ c.keys ↔ ∃ e ∈ c.embeds, e.key = key :=
  Registry.mem_eraseDups_keys c.embeds key

/-- What is noted for a host with the keys of a compilation: nothing if there are none. -/
def listed (c : Compilation) : Option (List String) :=
  if c.keys.isEmpty then none else some c.keys

theorem getD_listed (c : Compilation) : c.listed.getD [] = c.keys := by
  rw [listed]
  split
  · rename_i h
    exact (List.isEmpty_iff.1 h).symm
  · rfl

/-- The latest compilation under a name, in a history with the latest first. -/
def latest (cs : List Compilation) (host : String) : Option Compilation :=
  cs.find? (·.host == some host)

theorem latest_cons (c : Compilation) (cs : List Compilation) (host : String) :
    latest (c :: cs) host = if c.host = some host then some c else latest cs host := by
  rw [latest, List.find?_cons]
  split
  · rename_i h
    rw [if_pos (beq_iff_eq.1 h)]
  · rename_i h
    rw [if_neg (fun heq => by rw [heq, beq_self_eq_true] at h; exact nomatch h)]
    rfl

theorem mem_of_latest {cs : List Compilation} {host : String} {c : Compilation}
    (h : latest cs host = some c) : c ∈ cs ∧ c.host = some host :=
  ⟨List.mem_of_find?_eq_some h, by simpa using List.find?_some h⟩

/-- A compilation of a source that could be read, or of a tree in which nothing is embedded any
more. -/
def Read (lang : Language) (c : Compilation) : Prop :=
  c.embeds = [] ∨ ∃ t code, lang.parseTree code = .ok t ∧ c.embeds = (t.detach c.host).embeds

/-! ## Keys of parsed sources -/

theorem read_of_parse {lang : Language} {host : Option String} {code : String} {p : Parsed}
    (h : lang.parse host code = .ok p) : (⟨host, p.embeds⟩ : Compilation).Read lang := by
  obtain ⟨t, ht, rfl⟩ := Language.detach_of_parse h
  exact .inr ⟨t, code, ht, rfl⟩

/-- Every key of a compilation was made for its host from the tree that it stands for. -/
theorem Read.key_eq {lang : Language} {c : Compilation} (h : c.Read lang) {e : Embedded}
    (he : e ∈ c.embeds) : e.key = Embed.key c.host e.template.dump := by
  obtain hnone | ⟨t, -, -, hembeds⟩ := h
  · rw [hnone] at he
    cases he
  · rw [hembeds] at he
    exact Stmt.key_detachList c.host t.body e he

end Compilation

namespace Registry

variable {α : Type}

/-! ## What the operations do to the parts of a registry -/

theorem holds_iff_tree? (r : Registry α) (key : String) :
    r.Holds key ↔ ∃ t, r.tree? key = some t := by
  constructor
  · rintro ⟨t, ht⟩
    cases hl : r.tree? key with
    | some u => exact ⟨u, rfl⟩
    | none => exact absurd (List.lookup_eq_none_iff.1 hl _ ht) (by simp)
  · rintro ⟨t, ht⟩
    exact ⟨t, mem_of_lookup ht⟩

/-- The keys that a host loses when it is compiled anew. -/
def Stale (r : Registry α) (host : Option String) (embeds : List Embedded) (key : String) : Prop :=
  ∃ name, host = some name ∧ key ∈ r.keysOf name ∧ ∀ e ∈ embeds, e.key ≠ key

theorem mem_drop {β : Type} {keys : List String} {entries : List (String × β)} {e : String × β} :
    e ∈ drop keys entries ↔ e ∈ entries ∧ e.1 ∉ keys := by
  simp [drop]

theorem mem_stale_iff (r : Registry α) (name : String) (embeds : List Embedded) (key : String) :
    key ∈ (r.keysOf name).filter (fun k => !((embeds.map (·.key)).eraseDups).contains k) ↔
      r.Stale (some name) embeds key := by
  simp [Stale]

theorem mem_addTrees_iff (embeds : List Embedded) (trees : List (String × Template))
    (key : String) :
    (∃ t, (key, t) ∈ embeds.foldl addTree trees) ↔
      (∃ t, (key, t) ∈ trees) ∨ ∃ e ∈ embeds, e.key = key := by
  induction embeds generalizing trees with
  | nil => simp
  | cons e es ih =>
    -- one embed adds its key, unless a tree is registered under it already
    have hone : (∃ t, (key, t) ∈ addTree trees e) ↔ (∃ t, (key, t) ∈ trees) ∨ e.key = key := by
      rw [addTree]
      split
      · rename_i hany
        rw [any_key_eq_true_iff] at hany
        constructor
        · exact .inl
        · rintro (h | rfl)
          · exact h
          · exact hany
      · simp only [List.mem_append, List.mem_singleton, Prod.mk.injEq, exists_or]
        rw [exists_and_left, eq_comm]
        exact or_congr_right (and_iff_left ⟨_, rfl⟩)
    rw [List.foldl_cons, ih, hone]
    simp [or_assoc]

/-- What is registered after a compilation: what the source holds, and what was registered before
and is not stale. -/
theorem holds_register_iff (r : Registry α) (host : Option String) (embeds : List Embedded)
    (key : String) :
    (r.register host embeds).Holds key ↔
      (r.Holds key ∧ ¬ r.Stale host embeds key) ∨ ∃ e ∈ embeds, e.key = key := by
  refine (mem_addTrees_iff embeds _ key).trans (or_congr_left ?_)
  cases host with
  | none => simp [Holds, Stale]
  | some name =>
    simp only [replaceHost, mem_drop, mem_stale_iff]
    exact exists_and_right

/-- A compiled embed is dropped iff it is stale. -/
theorem mem_compiled_register (r : Registry α) (host : Option String) (embeds : List Embedded)
    (e : String × α) :
    e ∈ (r.register host embeds).compiled ↔ e ∈ r.compiled ∧ ¬ r.Stale host embeds e.1 := by
  cases host with
  | none => simp [register, Stale]
  | some name =>
    simp only [register, replaceHost, mem_drop, mem_stale_iff]

theorem length_compiled_register_le (r : Registry α) (host : Option String)
    (embeds : List Embedded) : (r.register host embeds).compiled.length ≤ r.compiled.length := by
  cases host with
  | none => exact Nat.le_refl _
  | some name => exact List.length_filter_le _ _

theorem lookup_relisted {hosts : List (String × List String)} (host name : String)
    (keys : List String) :
    (drop [host] hosts ++ (if keys.isEmpty then [] else [(host, keys)])).lookup name =
      if host = name then (if keys.isEmpty then none else some keys) else hosts.lookup name := by
  by_cases heq : host = name
  · subst heq
    have hnone := lookup_drop_self host hosts
    cases keys with
    | nil => simp [hnone]
    | cons k ks => simp [lookup_append_single host (k :: ks) _ hnone]
  · have hdrop := lookup_drop_of_not_mem [host] hosts (show name ∉ [host] by simpa using Ne.symm heq)
    cases keys with
    | nil => simp [heq, hdrop]
    | cons k ks => simp [heq, lookup_append_of_ne _ (k :: ks) (Ne.symm heq), hdrop]

/-- The keys recorded for a name after a compilation; a host without embeds is not listed. -/
theorem lookup_hosts_register (r : Registry α) (c : Compilation) (name : String) :
    (r.register c.host c.embeds).hosts.lookup name =
      if c.host = some name then c.listed else r.hosts.lookup name := by
  obtain ⟨host, embeds⟩ := c
  cases host with
  | none => rfl
  | some host =>
    simp only [Option.some.injEq]
    exact lookup_relisted host name _

theorem mem_keysOf_register_iff (r : Registry α) (c : Compilation) (name key : String) :
    key ∈ (r.register c.host c.embeds).keysOf name ↔
      if c.host = some name then key ∈ c.keys else key ∈ r.keysOf name := by
  rw [keysOf, lookup_hosts_register]
  split
  · rw [Compilation.getD_listed]
  · rfl

theorem lookup_prefix {β : Type} {l l' : List (String × β)} (h : l <+: l') {key : String} {b : β}
    (hb : l.lookup key = some b) : l'.lookup key = some b := by
  obtain ⟨rest, rfl⟩ := h
  obtain ⟨pre, post, rfl, hpre⟩ := List.lookup_eq_some_iff.1 hb
  exact List.lookup_eq_some_iff.2 ⟨pre, post ++ rest, by simp, hpre⟩

/-- A registered tree stays as it is for as long as it is registered. -/
theorem tree?_register_of_some {r : Registry α} {host : Option String} {embeds : List Embedded}
    {key : String} {t : Template} (ht : r.tree? key = some t) (hs : ¬ r.Stale host embeds key) :
    (r.register host embeds).tree? key = some t := by
  refine lookup_prefix (addTrees_extends embeds _) ?_
  cases host with
  | none => exact ht
  | some name =>
    simp only [replaceHost]
    rw [lookup_drop_of_not_mem]
    · exact ht
    · rw [mem_stale_iff]
      exact hs

theorem tree?_register_of_stale {r : Registry α} {host : Option String} {embeds : List Embedded}
    {key : String} (hs : r.Stale host embeds key) : (r.register host embeds).tree? key = none := by
  cases hl : (r.register host embeds).tree? key with
  | none => rfl
  | some t =>
    have hheld := (holds_iff_tree? _ key).2 ⟨t, hl⟩
    obtain ⟨_, -, -, hnone⟩ := id hs
    obtain ⟨-, hn⟩ | ⟨e, he, rfl⟩ := (holds_register_iff r host embeds key).1 hheld
    · exact absurd hs hn
    · exact absurd rfl (hnone e he)

/-! ## Compiled embeds -/

/-- Using a compiled embed changes its place only. -/
theorem fetch_eq_some {r s : Registry α} {key : String} {a : α} (h : r.fetch key = some (a, s)) :
    (key, a) ∈ r.compiled ∧ s = { r with compiled := drop [key] r.compiled ++ [(key, a)] } := by
  rw [fetch, Option.map_eq_some_iff] at h
  obtain ⟨b, hb, heq⟩ := h
  obtain ⟨rfl, rfl⟩ := Prod.mk.inj heq
  exact ⟨mem_of_lookup hb, rfl⟩

theorem length_drop_lt {β : Type} {key : String} {b : β} {l : List (String × β)}
    (h : (key, b) ∈ l) : (drop [key] l).length < l.length := by
  rw [drop]
  exact List.length_filter_lt_length_iff_exists.2 ⟨_, h, by simp⟩

/-- Keeping a compiled embed puts it behind all others, of which the first may have to go. -/
theorem keep_of_fetch_eq_none {r : Registry α} {key : String} (h : r.fetch key = none) (max : Nat)
    (a : α) :
    (r.keep max key a).compiled =
      (r.compiled ++ [(key, a)]).drop (if r.compiled.length + 1 > max then 1 else 0) := by
  have hnew : r.compiled.any (·.1 == key) = false := by
    rw [fetch, Option.map_eq_none_iff, List.lookup_eq_none_iff] at h
    rw [List.any_eq_false]
    intro e he hk
    have := h e he
    simp_all
  have hlen : (r.compiled ++ [(key, a)]).length = r.compiled.length + 1 := by simp
  simp only [keep, hnew, Bool.false_eq_true, if_false, hlen]
  split
  · rfl
  · rw [List.drop_zero]

end Registry

/-! ## Histories -/

namespace Registry

variable {α : Type} {lang : Language} {max : Nat}

/-- The registries that compilations and loads lead to from an empty one, each with the compilations
on the way, the latest first. Loading a compiled embed compiles nothing; any other load of a
registered embed compiles its tree under its own key, and keeps it if it passes the check. -/
inductive Reached (lang : Language) (max : Nat) : List Compilation → Registry α → Prop
  | empty : Reached lang max [] {}
  | compile {cs : List Compilation} {r : Registry α} {host : Option String} {code : String}
      {p : Parsed} (h : Reached lang max cs r) (hp : lang.parse host code = .ok p) :
      Reached lang max (⟨host, p.embeds⟩ :: cs) (r.register host p.embeds)
  | fetch {cs : List Compilation} {r s : Registry α} {key : String} {a : α}
      (h : Reached lang max cs r) (hf : r.fetch key = some (a, s)) : Reached lang max cs s
  | load {cs : List Compilation} {r : Registry α} {key : String} {t : Template}
      (h : Reached lang max cs r) (hf : r.fetch key = none) (ht : r.tree? key = some t) :
      Reached lang max (⟨some key, []⟩ :: cs) (r.register (some key) [])
  | keep {cs : List Compilation} {r : Registry α} {key : String} {t : Template}
      (h : Reached lang max cs r) (hf : r.fetch key = none) (ht : r.tree? key = some t) (a : α) :
      Reached lang max (⟨some key, []⟩ :: cs) ((r.register (some key) []).keep max key a)

/-- What holds of a registry with a given history. -/
structure Sound (lang : Language) (max : Nat) (cs : List Compilation) (r : Registry α) : Prop where
  /-- Every registered key belongs to a host, or was recorded without a name. -/
  owned : ∀ key, r.Holds key →
    (∃ host, key ∈ r.keysOf host) ∨ ∃ c ∈ cs, c.host = none ∧ key ∈ c.keys
  /-- A host has the keys of its latest compilation, and is not listed without any. -/
  hosts : ∀ host, r.hosts.lookup host =
    (Compilation.latest cs host).bind Compilation.listed
  /-- Compiled embeds are registered. -/
  compiled : ∀ e ∈ r.compiled, r.Holds e.1
  length_le : r.compiled.length ≤ max
  read : ∀ c ∈ cs, c.Read lang

namespace Sound

variable {cs : List Compilation} {r : Registry α}

theorem empty : Sound lang max [] ({} : Registry α) where
  owned := fun _ ⟨_, h⟩ => nomatch h
  hosts _ := rfl
  compiled := fun _ h => nomatch h
  length_le := Nat.zero_le _
  read := fun _ h => nomatch h

/-- The keys of a host are those of its latest compilation. -/
theorem mem_keysOf_iff (h : Sound lang max cs r) (host key : String) :
    key ∈ r.keysOf host ↔ ∃ c, Compilation.latest cs host = some c ∧ key ∈ c.keys := by
  rw [keysOf, h.hosts host]
  cases Compilation.latest cs host with
  | none => simp
  | some c => simp [Compilation.getD_listed]

/-- The keys of a host carry its label. -/
theorem exists_dump_of_mem_keysOf (h : Sound lang max cs r) {host key : String}
    (hk : key ∈ r.keysOf host) : ∃ dump, key = Embed.key (some host) dump := by
  obtain ⟨c, hc, hkey⟩ := (h.mem_keysOf_iff host key).1 hk
  obtain ⟨hmem, hhost⟩ := Compilation.mem_of_latest hc
  obtain ⟨e, he, rfl⟩ := Compilation.mem_keys.1 hkey
  exact ⟨e.template.dump, hhost ▸ (h.read c hmem).key_eq he⟩

theorem not_stale_self (h : Sound lang max cs r) (key : String) (embeds : List Embedded) :
    ¬ r.Stale (some key) embeds key := by
  rintro ⟨name, hname, hk, -⟩
  cases hname
  obtain ⟨dump, hdump⟩ := h.exists_dump_of_mem_keysOf hk
  exact Embed.key_ne_host key dump hdump.symm

/-- A compilation keeps a registry sound. -/
theorem register (h : Sound lang max cs r) {c : Compilation} (hc : c.Read lang) :
    Sound lang max (c :: cs) (r.register c.host c.embeds) where
  owned key hkey := by
    obtain ⟨hold, hfresh⟩ | hnew := (holds_register_iff r _ _ key).1 hkey
    · obtain ⟨host, hk⟩ | ⟨d, hd, hnone, hk⟩ := h.owned key hold
      · refine .inl ⟨host, (mem_keysOf_register_iff r c host key).2 ?_⟩
        split
        · rename_i heq
          -- a key of the compiled host that is not stale is one of the new ones
          refine Classical.byContradiction fun hno => hfresh ⟨host, heq, hk, fun e he hek => ?_⟩
          exact hno (Compilation.mem_keys.2 ⟨e, he, hek⟩)
        · exact hk
      · exact .inr ⟨d, List.mem_cons_of_mem _ hd, hnone, hk⟩
    · have hmem : key ∈ c.keys := Compilation.mem_keys.2 hnew
      cases hhost : c.host with
      | none => exact .inr ⟨c, List.mem_cons_self, hhost, hmem⟩
      | some host =>
        refine .inl ⟨host, hhost ▸ (mem_keysOf_register_iff r c host key).2 ?_⟩
        rwa [if_pos hhost]
  hosts host := by
    rw [lookup_hosts_register, Compilation.latest_cons]
    split
    · rfl
    · exact h.hosts host
  compiled e he := by
    obtain ⟨hmem, hfresh⟩ := (mem_compiled_register r _ _ e).1 he
    exact (holds_register_iff r _ _ e.1).2 (.inl ⟨h.compiled e hmem, hfresh⟩)
  length_le := Nat.le_trans (length_compiled_register_le r _ _) h.length_le
  read := List.forall_mem_cons.2 ⟨hc, h.read⟩

/-- Using a compiled embed keeps a registry sound. -/
theorem fetch (h : Sound lang max cs r) {s : Registry α} {key : String} {a : α}
    (hf : r.fetch key = some (a, s)) : Sound lang max cs s := by
  obtain ⟨hmem, rfl⟩ := fetch_eq_some hf
  refine { h with compiled := fun e he => ?_, length_le := ?_ }
  · obtain he | he := List.mem_append.1 he
    · exact h.compiled e (mem_drop.1 he).1
    · rw [List.mem_singleton.1 he]
      exact h.compiled _ hmem
  · have hlt := length_drop_lt hmem
    have hle := h.length_le
    change (drop [key] r.compiled ++ [(key, a)]).length ≤ max
    rw [List.length_append, List.length_singleton]
    omega

/-- Keeping the compiled form of a registered embed keeps a registry sound. -/
theorem keep (h : Sound lang max cs r) {key : String} (hf : r.fetch key = none) (hkey : r.Holds key)
    (a : α) : Sound lang max cs (r.keep max key a) := by
  have hcompiled := keep_of_fetch_eq_none hf max a
  refine { h with compiled := fun e he => ?_, length_le := ?_ }
  · rw [hcompiled] at he
    obtain he | he := List.mem_append.1 (List.mem_of_mem_drop he)
    · exact h.compiled e he
    · rw [List.mem_singleton.1 he]
      exact hkey
  · have hle := h.length_le
    rw [hcompiled, List.length_drop, List.length_append, List.length_singleton]
    split <;> omega

end Sound

theorem fetch_register_eq_none {r : Registry α} {key : String} (h : r.fetch key = none)
    (host : Option String) (embeds : List Embedded) : (r.register host embeds).fetch key = none := by
  rw [Registry.fetch, Option.map_eq_none_iff, List.lookup_eq_none_iff] at h ⊢
  exact fun e he => h e ((mem_compiled_register r host embeds e).1 he).1

/-- Every registry that is reached is sound. -/
theorem Reached.sound {cs : List Compilation} {r : Registry α} (h : Reached lang max cs r) :
    Sound lang max cs r := by
  induction h with
  | empty => exact .empty
  | compile _ hp ih => exact ih.register (Compilation.read_of_parse hp)
  | fetch _ hf ih => exact ih.fetch hf
  | load _ _ _ ih => exact ih.register (c := ⟨some _, []⟩) (.inl rfl)
  | @keep cs r key t _ hf ht a ih =>
    have hloaded := ih.register (c := ⟨some key, []⟩) (.inl rfl)
    refine hloaded.keep (fetch_register_eq_none hf _ _) ?_ a
    exact (holds_register_iff r _ _ key).2
      (.inl ⟨(holds_iff_tree? r key).2 ⟨t, ht⟩, ih.not_stale_self key []⟩)

/-- Every registered tree was recorded under its key by a compilation. -/
theorem Reached.recorded {cs : List Compilation} {r : Registry α} (h : Reached lang max cs r)
    {key : String} {t : Template} (ht : (key, t) ∈ r.trees) :
    ∃ c ∈ cs, ∃ e ∈ c.embeds, e.key = key ∧ e.template = t := by
  have hregister : ∀ {r : Registry α} {c : Compilation} {cs : List Compilation},
      ((key, t) ∈ r.trees → ∃ c ∈ cs, ∃ e ∈ c.embeds, e.key = key ∧ e.template = t) →
      (key, t) ∈ (r.register c.host c.embeds).trees →
      ∃ d ∈ c :: cs, ∃ e ∈ d.embeds, e.key = key ∧ e.template = t := by
    intro r c cs ih hmem
    obtain hold | ⟨e, he, heq⟩ := mem_trees_register hmem
    · obtain ⟨d, hd, hrest⟩ := ih hold
      exact ⟨d, List.mem_cons_of_mem _ hd, hrest⟩
    · exact ⟨c, List.mem_cons_self, e, he, (Prod.mk.inj heq).1.symm, (Prod.mk.inj heq).2.symm⟩
  induction h with
  | empty => exact nomatch ht
  | compile _ _ ih => exact hregister (c := ⟨_, _⟩) ih ht
  | fetch _ hf ih =>
    obtain ⟨-, rfl⟩ := fetch_eq_some hf
    exact ih ht
  | load _ _ _ ih => exact hregister (c := ⟨some _, []⟩) ih ht
  | keep _ _ _ _ ih => exact hregister (c := ⟨some _, []⟩) ih ht

end Registry

end Stencil
