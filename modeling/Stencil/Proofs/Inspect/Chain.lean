import Mathlib.Data.List.Chain
import Stencil.Proofs.Inspect.Lineage

/-!
# Chains of parents

Each source names at most one parent literally, so that from a name there is only one way up. It may
lead into a cycle; an ascent is a way up that meets no name twice. There are at most as many names on
it as there are sources, since different parents are named by different texts: so there is a longest
ascent, and all others are its beginnings.

## Main definitions

- `Library.ParentOf`: the parent that the present source of a name names
- `Library.Ascent`: distinct names, each the parent of the one before it
- `Library.Longest`: the ascent that all others are beginnings of

## Key results

- `Library.Ascent.length_le`: an ascent is not longer than there are sources
- `Library.longest_of_top`: an ascent that cannot go on is the longest
- `Library.exists_longest`: there is a longest ascent from every name
-/

namespace Stencil

/-! ## Sequences of successors -/

section Successors

variable {α : Type} {R : α → α → Prop} {a : α} {l l' : List α}

/-- Where everything has at most one successor, one of two sequences begins with the other. -/
theorem prefix_or_prefix_of_isChain (hR : ∀ {a b c}, R a b → R a c → b = c)
    (h : (a :: l).IsChain R) (h' : (a :: l').IsChain R) : l <+: l' ∨ l' <+: l := by
  induction l generalizing a l' with
  | nil => exact .inl List.nil_prefix
  | cons b l ih =>
    cases l' with
    | nil => exact .inr List.nil_prefix
    | cons c l' =>
      rw [List.isChain_cons_cons] at h h'
      have hbc : b = c := hR h.1 h'.1
      subst hbc
      obtain hprefix | hprefix := ih h.2 h'.2
      · exact .inl (List.prefix_cons_inj b |>.2 hprefix)
      · exact .inr (List.prefix_cons_inj b |>.2 hprefix)

/-- Whatever stands in a sequence behind its start is the successor of something. -/
theorem exists_rel_of_isChain (h : (a :: l).IsChain R) {b : α} (hb : b ∈ l) : ∃ c, R c b := by
  induction l generalizing a with
  | nil => exact nomatch hb
  | cons c l ih =>
    rw [List.isChain_cons_cons] at h
    obtain rfl | hb := List.mem_cons.1 hb
    · exact ⟨a, h.1⟩
    · exact ih h.2 hb

/-- The last of a sequence of which the start is given. -/
theorem getLast?_cons_eq (a : α) (l : List α) : (a :: l).getLast? = some (l.getLastD a) := by
  rw [List.getLast?_cons, List.getLastD_eq_getLast?]

end Successors

/-- The parent that a text names literally. -/
def Language.parentOfText? (lang : Language) (code : String) : Option String :=
  (lang.parseTree code).toOption.bind fun t => (Stmt.firstParent t.body).head?.bind Datum.text?

namespace Library

variable {L : Library} {a b c start above : String} {names names' : List String}

/-- The present source of a name extends another template by its literal name. -/
def ParentOf (L : Library) (name above : String) : Prop :=
  ∃ t, L.Reads name t ∧ t.literalParent? = some (.text above)

theorem ParentOf.unique (h : L.ParentOf a b) (h' : L.ParentOf a c) : b = c := by
  obtain ⟨t, ht, hb⟩ := h
  obtain ⟨t', ht', hc⟩ := h'
  have hsame : t = t' := ht.unique ht'
  subst hsame
  rw [hb] at hc
  cases hc
  rfl

/-- All names that present sources name as parents. -/
def parents (L : Library) : List String :=
  (L.env.loader.texts L.store).filterMap L.env.options.language.parentOfText?

theorem length_parents_le (L : Library) :
    L.parents.length ≤ L.store.named.length + L.store.files.length :=
  Nat.le_trans (List.length_filterMap_le _ _) (Loader.length_texts_le _ _)

theorem ParentOf.mem_parents (h : L.ParentOf a b) : b ∈ L.parents := by
  obtain ⟨t, ⟨source, p, ⟨hfind, hparse⟩, hp⟩, hparent⟩ := h
  obtain ⟨s, hs, rfl⟩ := Language.detach_of_parse hparse
  refine List.mem_filterMap.2 ⟨source.code, Loader.code_mem_texts hfind, ?_⟩
  -- taking out the embeds keeps the parent of the host
  have hfirst : (Stmt.firstParent s.body).head? = some (.text b) := by
    rw [← hp, Template.literalParent_eq] at hparent
    rwa [show (s.detach (some a)).template.body = (Stmt.detachList (some a) s.body).1 from rfl,
      Stmt.firstParent_detachList] at hparent
  simp only [Language.parentOfText?, hs, Except.toOption, Option.bind_some, hfirst, Datum.text?]

/-- Distinct names from a start on, each the literal parent of the one before it. -/
structure Ascent (L : Library) (start : String) (names : List String) : Prop where
  linked : (start :: names).IsChain L.ParentOf
  distinct : (start :: names).Nodup

/-- The longest ascent from a start: every other one is a beginning of it. -/
def Longest (L : Library) (start : String) (names : List String) : Prop :=
  L.Ascent start names ∧ ∀ names', L.Ascent start names' → names' <+: names

namespace Ascent

theorem nil (L : Library) (start : String) : L.Ascent start [] :=
  ⟨.singleton start, List.nodup_singleton start⟩

/-- An ascent goes on to a parent that it has not met. -/
theorem concat (h : L.Ascent start names) (hparent : L.ParentOf (names.getLastD start) above)
    (hnew : above ∉ start :: names) : L.Ascent start (names ++ [above]) where
  linked := by
    rw [← List.cons_append]
    refine h.linked.append (.singleton above) fun last hlast first hfirst => ?_
    rw [getLast?_cons_eq] at hlast
    cases hlast
    cases hfirst
    exact hparent
  distinct := by
    rw [← List.cons_append, List.nodup_append]
    refine ⟨h.distinct, List.nodup_singleton above, fun name hname other hother heq => ?_⟩
    rw [List.mem_singleton.1 hother] at heq
    exact hnew (heq ▸ hname)

/-- What follows a beginning of an ascent is the parent of its last name. -/
theorem parentOf_last (h : L.Ascent start (names ++ above :: names')) :
    L.ParentOf (names.getLastD start) above := by
  have hlinked := h.linked
  rw [← List.cons_append, List.isChain_append] at hlinked
  exact hlinked.2.2 _ (getLast?_cons_eq start names) _ rfl

theorem prefix_or_prefix (h : L.Ascent start names) (h' : L.Ascent start names') :
    names <+: names' ∨ names' <+: names :=
  prefix_or_prefix_of_isChain (R := L.ParentOf) ParentOf.unique h.linked h'.linked

/-- An ascent is not longer than there are sources. -/
theorem length_le (h : L.Ascent start names) :
    names.length ≤ L.store.named.length + L.store.files.length := by
  have hsubset : names ⊆ L.parents := by
    intro name hname
    obtain ⟨below, hbelow⟩ := exists_rel_of_isChain h.linked hname
    exact hbelow.mem_parents
  have hnodup : names.Nodup := (List.nodup_cons.1 h.distinct).2
  exact Nat.le_trans (List.subperm_of_subset hnodup hsubset).length_le L.length_parents_le

end Ascent

/-- An ascent is the longest if its last name has no parent that was not met before. -/
theorem longest_of_top (h : L.Ascent start names)
    (htop : ∀ above, L.ParentOf (names.getLastD start) above → above ∈ start :: names) :
    L.Longest start names := by
  refine ⟨h, fun names' h' => ?_⟩
  obtain hprefix | ⟨rest, rfl⟩ := h'.prefix_or_prefix h
  · exact hprefix
  · cases rest with
    | nil => simp only [List.append_nil, List.prefix_refl]
    | cons above rest =>
      -- the other ascent would go on to a name that it has met
      have hmet := htop above h'.parentOf_last
      have hdistinct := h'.distinct
      rw [← List.cons_append, List.nodup_append] at hdistinct
      exact absurd rfl (hdistinct.2.2 above hmet above List.mem_cons_self)

/-- Every ascent goes on to a longest one. -/
theorem Ascent.exists_longest {names : List String} (h : L.Ascent start names) :
    ∃ names', L.Longest start names' := by
  by_cases htop : ∀ above, L.ParentOf (names.getLastD start) above → above ∈ start :: names
  · exact ⟨names, longest_of_top h htop⟩
  · obtain ⟨above, htop⟩ := not_forall.1 htop
    obtain ⟨hparent, hnew⟩ := Classical.not_imp.1 htop
    have hnext := h.concat hparent hnew
    have hlength : (names ++ [above]).length = names.length + 1 := List.length_append
    have hbound := hnext.length_le
    exact hnext.exists_longest
termination_by L.store.named.length + L.store.files.length - names.length
decreasing_by omega

/-- There is a longest ascent from every name. -/
theorem exists_longest (L : Library) (start : String) : ∃ names, L.Longest start names :=
  (Ascent.nil L start).exists_longest

theorem Longest.unique (h : L.Longest start names) (h' : L.Longest start names') : names = names' :=
  (h'.2 names h.1).eq_of_length_le (h.2 names' h'.1).length_le

end Library

end Stencil
