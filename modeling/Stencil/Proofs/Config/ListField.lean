import Mathlib.Data.List.DropRight
import Stencil.Config.ListField

/-!
# Lists written with commas

A text without an opening bracket is divided at its commas; blanks around the parts do not count, and
neither do parts with nothing in them. What is left are items, and a text that is made of items by
joining them is divided into them again.

## Main definitions

- `ListField.IsItem`: what a part of a list can be

## Key results

- `ListField.items_append`: a comma between two texts is a border between their items
- `ListField.items_join`: items that were joined are found again
- `ListField.parse_normal`: the laws of list settings that are written as texts
-/

namespace Stencil

namespace Text

/-! ## Dividing a text -/

theorem splitAtChar_nil (sep : Char) : splitAtChar sep [] = [[]] := rfl

theorem splitAtChar_cons (sep c : Char) (cs : List Char) :
    splitAtChar sep (c :: cs) =
      if c == sep then [] :: splitAtChar sep cs
      else match splitAtChar sep cs with
        | part :: parts => (c :: part) :: parts
        | [] => [[c]] :=
  rfl

theorem splitAtChar_ne_nil (sep : Char) (cs : List Char) : splitAtChar sep cs ≠ [] := by
  cases cs with
  | nil => simp [splitAtChar_nil]
  | cons c cs =>
    rw [splitAtChar_cons]
    split
    · simp
    · split <;> simp

/-- The parts of two texts with a separator between them are those of the one and of the other. -/
theorem splitAtChar_append (sep : Char) (as bs : List Char) :
    splitAtChar sep (as ++ sep :: bs) = splitAtChar sep as ++ splitAtChar sep bs := by
  induction as with
  | nil => simp [splitAtChar_nil, splitAtChar_cons]
  | cons c cs ih =>
    rw [List.cons_append, splitAtChar_cons, splitAtChar_cons, ih]
    split
    · rfl
    · cases hparts : splitAtChar sep cs with
      | nil => exact absurd hparts (splitAtChar_ne_nil sep cs)
      | cons part parts => rfl

theorem splitAtChar_of_not_mem {sep : Char} {cs : List Char} (h : sep ∉ cs) :
    splitAtChar sep cs = [cs] := by
  induction cs with
  | nil => rfl
  | cons c cs ih =>
    rw [List.mem_cons, not_or] at h
    have hne : (c == sep) = false := beq_false_of_ne (Ne.symm h.1)
    rw [splitAtChar_cons, hne, ih h.2]
    rfl

theorem not_mem_of_mem_splitAtChar {sep : Char} {cs part : List Char}
    (h : part ∈ splitAtChar sep cs) : sep ∉ part := by
  induction cs generalizing part with
  | nil =>
    rw [splitAtChar_nil, List.mem_singleton] at h
    rw [h]
    exact List.not_mem_nil
  | cons c cs ih =>
    rw [splitAtChar_cons] at h
    split at h
    · obtain rfl | h := List.mem_cons.1 h
      · exact List.not_mem_nil
      · exact ih h
    · rename_i hc
      cases hparts : splitAtChar sep cs with
      | nil => exact absurd hparts (splitAtChar_ne_nil sep cs)
      | cons first rest =>
        rw [hparts] at h ih
        obtain rfl | h := List.mem_cons.1 h
        · -- the first part gets one more character, which is no separator
          rw [List.mem_cons, not_or]
          exact ⟨fun heq => hc (beq_iff_eq.2 heq.symm), ih List.mem_cons_self⟩
        · exact ih (List.mem_cons_of_mem _ h)

/-! ## Trimming -/

theorem trimEnd_eq (cs : List Char) : trimEnd cs = cs.rdropWhile Char.isBlank := rfl

theorem mem_of_mem_trim {c : Char} {cs : List Char} (h : c ∈ trim cs) : c ∈ cs := by
  rw [trim, trimEnd_eq] at h
  exact (List.dropWhile_sublist _).subset ((List.rdropWhile_prefix _ _).subset h)

end Text

namespace ListField

/-- What a part of a list can be: it is not empty, holds no comma, and has no blank at its start or
end. -/
structure IsItem (part : List Char) : Prop where
  ne_nil : part ≠ []
  no_comma : ',' ∉ part
  first : Char.isBlank (part.head ne_nil) = false
  last : Char.isBlank (part.getLast ne_nil) = false

theorem IsItem.trim_eq {part : List Char} (h : IsItem part) : Text.trim part = part := by
  obtain ⟨hne, -, hfirst, hlast⟩ := h
  have hstart : Text.trimStart part = part := by
    cases part with
    | nil => exact absurd rfl hne
    | cons c cs => exact List.dropWhile_cons_of_neg (by simpa using hfirst)
  rw [Text.trim, hstart, Text.trimEnd_eq, List.rdropWhile_eq_self_iff]
  intro _
  simpa using hlast

/-- A trimmed text is an item if anything is left of it and it holds no comma. -/
theorem isItem_trim {cs : List Char} (hne : Text.trim cs ≠ []) (hcomma : ',' ∉ cs) :
    IsItem (Text.trim cs) where
  ne_nil := hne
  no_comma h := hcomma (Text.mem_of_mem_trim h)
  first := by
    have hstart : Text.trimStart cs ≠ [] := by
      intro h
      rw [Text.trim, h] at hne
      exact hne rfl
    have hhead : (Text.trim cs).head hne = (Text.trimStart cs).head hstart :=
      List.IsPrefix.head (List.rdropWhile_prefix _ _) hne
    rw [hhead]
    exact List.head_dropWhile_not Char.isBlank hstart
  last := by
    have h : ¬ Char.isBlank ((Text.trim cs).getLast hne) :=
      List.rdropWhile_last_not Char.isBlank (Text.trimStart cs) hne
    simpa using h

/-! ## Items of a text -/

theorem items_append (a b : List Char) : items (a ++ ',' :: b) = items a ++ items b := by
  rw [items, Text.splitAtChar_append, List.map_append, List.filter_append, items, items]

theorem isItem_of_mem_items {cs part : List Char} (h : part ∈ items cs) : IsItem part := by
  rw [items, List.mem_filter, List.mem_map] at h
  obtain ⟨⟨piece, hpiece, rfl⟩, hne⟩ := h
  exact isItem_trim (by simpa using hne) (Text.not_mem_of_mem_splitAtChar hpiece)

theorem items_of_isItem {part : List Char} (h : IsItem part) : items part = [part] := by
  have hpart : (!part.isEmpty) = true := by simp [h.ne_nil]
  rw [items, Text.splitAtChar_of_not_mem h.no_comma, List.map_singleton, h.trim_eq]
  exact List.filter_cons_of_pos hpart

/-- Items that are joined by commas are found again. -/
theorem items_join (parts : List String) (h : ∀ p ∈ parts, IsItem p.toList) :
    items (String.intercalate "," parts).toList = parts.map String.toList := by
  induction parts with
  | nil => rfl
  | cons p ps ih =>
    rw [List.forall_mem_cons] at h
    cases ps with
    | nil =>
      rw [String.intercalate_singleton, items_of_isItem h.1]
      rfl
    | cons q qs =>
      rw [String.intercalate_cons_cons, String.toList_append, String.toList_append,
        List.append_assoc]
      change items (p.toList ++ ',' :: (String.intercalate "," (q :: qs)).toList) = _
      rw [items_append, items_of_isItem h.1, ih h.2]
      rfl

/-! ## List settings -/

/-- Whether a text is the written form of a list, which is left as it is. -/
def IsBracketed (s : String) : Prop :=
  s.toList.head? = some '['

instance (s : String) : Decidable (IsBracketed s) :=
  inferInstanceAs (Decidable (s.toList.head? = some '['))

/-- The list of the items of a text. -/
def divided (s : String) : List String :=
  (items s.toList).map String.ofList

theorem parse_bracketed {s : String} (h : IsBracketed s) : parse (.text s) = .ok (.text s) := by
  rw [parse, if_pos (beq_iff_eq.2 h)]

theorem parse_text {s : String} (h : ¬ IsBracketed s) :
    parse (.text s) = .ok (.list ((divided s).map .text)) := by
  rw [parse, if_neg fun heq => h (beq_iff_eq.1 heq), divided, List.map_map]
  rfl

theorem not_isBracketed_append {a : String} (h : ¬ IsBracketed a) (b : String) :
    ¬ IsBracketed (a ++ "," ++ b) := by
  rw [IsBracketed, String.toList_append, String.toList_append, List.append_assoc]
  rw [IsBracketed] at h
  cases ha : a.toList with
  | nil => simp
  | cons c cs => rwa [ha] at h

theorem divided_append (a b : String) : divided (a ++ "," ++ b) = divided a ++ divided b := by
  rw [divided, String.toList_append, String.toList_append, List.append_assoc]
  change List.map String.ofList (items (a.toList ++ ',' :: b.toList)) = _
  rw [items_append, List.map_append, divided, divided]

theorem isItem_of_mem_divided {s part : String} (h : part ∈ divided s) : IsItem part.toList := by
  obtain ⟨cs, hcs, rfl⟩ := List.mem_map.1 h
  rw [String.toList_ofList]
  exact isItem_of_mem_items hcs

theorem divided_join {parts : List String} (h : ∀ p ∈ parts, IsItem p.toList) :
    divided (String.intercalate "," parts) = parts := by
  rw [divided, items_join parts h, List.map_map]
  simp

theorem not_isBracketed_join {parts : List String} (h : ∀ p ∈ parts, IsItem p.toList)
    (hfirst : ∀ p ∈ parts.head?, ¬ IsBracketed p) :
    ¬ IsBracketed (String.intercalate "," parts) := by
  cases parts with
  | nil => simp [IsBracketed]
  | cons p ps =>
    have hp : ¬ IsBracketed p := hfirst p rfl
    cases ps with
    | nil => rwa [String.intercalate_singleton]
    | cons q qs =>
      rw [String.intercalate_cons_cons]
      exact not_isBracketed_append hp _

/-- What is made of a list setting is not changed by making it once more. -/
theorem parse_parse {v w : Datum} (h : parse v = .ok w) : parse w = .ok w := by
  unfold parse at h
  split at h
  · rename_i s
    split at h
    · rename_i hs
      cases h
      exact parse_bracketed (beq_iff_eq.1 hs)
    · cases h
      rfl
  · cases h
    rfl
  · cases h

/-- A text without an opening bracket becomes a list of items; a comma between two texts is a border
between their lists; items that are joined by commas are found again; and what was made of a value
stays as it is. -/
theorem parse_normal :
    (∀ a, ¬ IsBracketed a → ∃ parts : List String,
      parse (.text a) = .ok (.list (parts.map .text)) ∧ ∀ p ∈ parts, IsItem p.toList) ∧
    (∀ a b, ¬ IsBracketed a → ¬ IsBracketed b → ∃ xs ys,
      parse (.text a) = .ok (.list xs) ∧ parse (.text b) = .ok (.list ys) ∧
        parse (.text (a ++ "," ++ b)) = .ok (.list (xs ++ ys))) ∧
    (∀ parts : List String, (∀ p ∈ parts, IsItem p.toList) →
      (∀ p ∈ parts.head?, ¬ IsBracketed p) →
        parse (.text (String.intercalate "," parts)) = .ok (.list (parts.map .text))) ∧
    ∀ v w, parse v = .ok w → parse w = .ok w := by
  refine ⟨fun a ha => ?_, fun a b ha hb => ?_, fun parts hparts hfirst => ?_, fun v w => parse_parse⟩
  · exact ⟨divided a, parse_text ha, fun p hp => isItem_of_mem_divided hp⟩
  · refine ⟨_, _, parse_text ha, parse_text hb, ?_⟩
    rw [parse_text (not_isBracketed_append ha b), divided_append, List.map_append]
  · rw [parse_text (not_isBracketed_join hparts hfirst), divided_join hparts]

/-- Two texts with blanks and empty parts, and two items of which the second starts with a
bracket. -/
theorem parse_normal_blanks :
    (∃ parts : List String, parse (.text " a b ,\u3000, c") = .ok (.list (parts.map .text)) ∧
      ∀ p ∈ parts, IsItem p.toList) ∧
    (∃ xs ys, parse (.text " a b ,\u3000, c") = .ok (.list xs) ∧ parse (.text " [d,") = .ok (.list ys) ∧
      parse (.text " a b ,\u3000, c, [d,") = .ok (.list (xs ++ ys))) ∧
    parse (.text "c,[d") = .ok (.list [.text "c", .text "[d"]) ∧
    parse (.text "[d") = .ok (.text "[d") := by
  obtain ⟨hitems, happend, hjoin, hagain⟩ := parse_normal
  have hc : IsItem "c".toList := ⟨by decide, by decide, by decide, by decide⟩
  have hd : IsItem "[d".toList := ⟨by decide, by decide, by decide, by decide⟩
  refine ⟨hitems _ (by decide), happend _ _ (by decide) (by decide), ?_, ?_⟩
  · refine hjoin ["c", "[d"] ?_ (by simp [IsBracketed])
    exact List.forall_mem_cons.2 ⟨hc, List.forall_mem_singleton.2 hd⟩
  · exact hagain (.text "[d") (.text "[d") rfl

end ListField

end Stencil
