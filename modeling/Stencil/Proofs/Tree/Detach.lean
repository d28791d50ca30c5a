import Stencil.Proofs.Tree.Written

/-!
# Embeds and the places they leave

Taking the embeds out of a tree leaves a place for each of them, with its key, in the host or in
another embed. No place is lost or made twice, and an embed stands behind all those whose places it
holds.

## Key results

- `Stmt.perm_detachList`: the places are those of the embeds that were taken out
- `Stmt.nested_detachList`: an embed holds places of embeds that were taken out before it
-/

namespace Stencil

/-- The keys of the embeds that were taken out of a template. -/
def Template.keys (t : Template) : List String :=
  Stmt.keys t.body

/-- Every embed holds places of earlier ones only. -/
def Embedded.Nested (es : List Embedded) : Prop :=
  ∀ (i : Nat) (e : Embedded), es[i]? = some e → ∀ key ∈ e.template.keys,
    ∃ j < i, ∃ d, es[j]? = some d ∧ d.key = key

namespace Embedded

theorem nested_nil : Nested [] := by
  intro i e he
  simp at he

theorem nested_append {es fs : List Embedded} (hes : Nested es) (hfs : Nested fs) :
    Nested (es ++ fs) := by
  intro i e he key hkey
  rw [List.getElem?_append] at he
  split at he
  · obtain ⟨j, hj, d, hd, hdkey⟩ := hes i e he key hkey
    exact ⟨j, hj, d, by rwa [List.getElem?_append_left (by omega)], hdkey⟩
  · obtain ⟨j, hj, d, hd, hdkey⟩ := hfs _ e he key hkey
    refine ⟨es.length + j, by omega, d, ?_, hdkey⟩
    rw [List.getElem?_append_right (by omega), Nat.add_sub_cancel_left]
    exact hd

/-- An embed may follow those whose places it holds. -/
theorem nested_concat {es : List Embedded} (hes : Nested es) {e : Embedded}
    (he : e.template.keys ⊆ es.map (·.key)) : Nested (es ++ [e]) := by
  intro i d hd key hkey
  rw [List.getElem?_append] at hd
  split at hd
  · obtain ⟨j, hj, c, hc, hckey⟩ := hes i d hd key hkey
    exact ⟨j, hj, c, by rwa [List.getElem?_append_left (by omega)], hckey⟩
  · rename_i hi
    rw [List.getElem?_singleton] at hd
    split at hd
    · cases hd
      obtain ⟨c, hc, hckey⟩ := List.mem_map.1 (he hkey)
      obtain ⟨j, hj, rfl⟩ := List.mem_iff_getElem.1 hc
      exact ⟨j, by omega, es[j], by rw [List.getElem?_append_left hj, List.getElem?_eq_getElem hj], hckey⟩
    · exact nomatch hd

end Embedded

namespace Stmt

/-- Parts that are put together on both sides. -/
theorem perm_join {as bs cs ds as' bs' cs' ds' : List String} (h : (as ++ cs).Perm (bs ++ ds))
    (h' : (as' ++ cs').Perm (bs' ++ ds')) :
    (as ++ as' ++ (cs ++ cs')).Perm (bs ++ bs' ++ (ds ++ ds')) := by
  rw [List.perm_iff_count] at h h' ⊢
  intro key
  have hkey := h key
  have hkey' := h' key
  simp only [List.count_append] at hkey hkey' ⊢
  omega

mutual

/-- The places that a statement has without its embeds, and those inside them, are the ones it had
before and those of the embeds. -/
theorem perm_detach (host : Option String) : (s : Stmt) →
    (gather place true (s.detach host).1 ++ (s.detach host).2.flatMap (·.template.keys)).Perm
      (gather place true s ++ (s.detach host).2.map (·.key))
  | loop _ _ _ body orElse _ _ => by
    simp only [detach, gather, place, List.append_nil, List.flatMap_append, List.map_append]
    exact perm_join (perm_detachList host body) (perm_detachList host orElse)
  | branch _ _ body elifs orElse => by
    simp only [detach, gather, place, List.append_nil, List.flatMap_append, List.map_append]
    exact perm_join (perm_join (perm_detachList host body) (perm_detachList host elifs))
      (perm_detachList host orElse)
  | macroDef _ _ _ _ body | callBlock _ _ _ _ _ _ body | filterBlock _ _ body
  | withBlock _ _ body | block _ _ body _ _ | assignBlock _ _ _ body | autoescape _ _ body => by
    simp only [detach, gather, place, List.append_nil]
    exact perm_detachList host body
  | embed l parent body => by
    have hbody := perm_detachList host body
    simp only [detach, gather, place, List.append_nil, if_true, List.nil_append,
      List.flatMap_append, List.map_append, List.flatMap_singleton, List.map_singleton,
      Template.keys, keys_cons]
    -- the place of the embed stands for the whole of it
    rw [List.perm_iff_count] at hbody ⊢
    intro key
    have hkey := hbody key
    simp only [List.count_append, Template.keys, keys] at hkey ⊢
    omega
  | output _ _ | extend _ _ | inclusion _ _ _ _ | importModule _ _ _ _ | importNames _ _ _ _
  | exprStmt _ _ | assign _ _ _ | continueLoop _ | breakLoop _ | embedded _ _ => by
    simp [detach]

theorem perm_detachList (host : Option String) : (ss : List Stmt) →
    (keys (detachList host ss).1 ++ (detachList host ss).2.flatMap (·.template.keys)).Perm
      (keys ss ++ (detachList host ss).2.map (·.key))
  | [] => by simp [detachList]
  | s :: ss => by
    simp only [detachList, keys_cons, List.flatMap_append, List.map_append]
    exact perm_join (perm_detach host s) (perm_detachList host ss)

end

/-- The places in statements without embeds, and those inside the embeds, are those of the embeds,
if nothing was taken out before. -/
theorem places_detachList (host : Option String) {ss : List Stmt} (h : keys ss = []) :
    (keys (detachList host ss).1 ++ (detachList host ss).2.flatMap (·.template.keys)).Perm
      ((detachList host ss).2.map (·.key)) := by
  have hperm := perm_detachList host ss
  rwa [h, List.nil_append] at hperm

mutual

theorem nested_detach (host : Option String) : (s : Stmt) → gather place true s = [] →
    Embedded.Nested (s.detach host).2
  | loop _ _ _ body orElse _ _, h => by
    simp only [gather, place, List.append_nil, List.append_eq_nil_iff] at h
    exact Embedded.nested_append (nested_detachList host body h.1) (nested_detachList host orElse h.2)
  | branch _ _ body elifs orElse, h => by
    simp only [gather, place, List.append_nil, List.append_eq_nil_iff] at h
    exact Embedded.nested_append (Embedded.nested_append (nested_detachList host body h.1.1)
      (nested_detachList host elifs h.1.2)) (nested_detachList host orElse h.2)
  | macroDef _ _ _ _ body, h | callBlock _ _ _ _ _ _ body, h | filterBlock _ _ body, h
  | withBlock _ _ body, h | block _ _ body _ _, h | assignBlock _ _ _ body, h
  | autoescape _ _ body, h => by
    simp only [gather, place, List.append_nil] at h
    exact nested_detachList host body h
  | embed l parent body, h => by
    simp only [gather, place, List.append_nil, if_true] at h
    refine Embedded.nested_concat (nested_detachList host body h) ?_
    -- the places in the body are those of the inner embeds
    intro key hkey
    refine (places_detachList host h).subset (List.mem_append_left _ ?_)
    simpa [Template.keys, gather, place] using hkey
  | output _ _, _ | extend _ _, _ | inclusion _ _ _ _, _ | importModule _ _ _ _, _
  | importNames _ _ _ _, _ | exprStmt _ _, _ | assign _ _ _, _ | continueLoop _, _
  | breakLoop _, _ | embedded _ _, _ => by
    simp only [detach]
    exact Embedded.nested_nil

/-- Every embed holds places of embeds that were taken out before it. -/
theorem nested_detachList (host : Option String) : (ss : List Stmt) → keys ss = [] →
    Embedded.Nested (detachList host ss).2
  | [], _ => Embedded.nested_nil
  | s :: ss, h => by
    rw [keys_cons, List.append_eq_nil_iff] at h
    exact Embedded.nested_append (nested_detach host s h.1) (nested_detachList host ss h.2)

end

end Stmt

/-- A source that could be read was detached for its host. -/
theorem Language.detach_of_parse {lang : Language} {host : Option String} {code : String}
    {p : Parsed} (h : lang.parse host code = .ok p) :
    ∃ t, lang.parseTree code = .ok t ∧ p = t.detach host := by
  rw [Language.parse] at h
  cases ht : lang.parseTree code with
  | error e => rw [ht] at h; cases h
  | ok t => rw [ht] at h; exact ⟨t, rfl, (Except.ok.inj h).symm⟩

end Stencil
