import Mathlib.Data.String.Basic
import Stencil.Environment.Loader

/-!
# Normal paths

A path is looked up in its normal form, and a file that is found is known by its path in this form.
The normal form of a path is its own normal form, so that the same file is found under the path by
which it is known: a source is current when it has just been found.

## Main statements

- `Store.normalPath_normalPath`: the normal form of a path is its own normal form
- `Loader.isCurrent_of_find`: a source that is found is current
-/

namespace Stencil

/-! ## Parts between slashes -/

namespace Text

open String

/-- Dividing a text goes on from any place in it: `l` is behind the last slash, and `m` was read since. -/
theorem splitOnAux_slash (l m r : List Char) (acc : List String) :
    splitOnAux (ofList (l ++ m ++ r)) "/" ⟨utf8Len l⟩ ⟨utf8Len l + utf8Len m⟩ 0 acc =
      acc.reverse ++ (List.splitOnPPrepend (· == '/') r m.reverse).map ofList := by
  induction r generalizing l m acc with
  | nil =>
    have hend := (atEnd_of_valid (l ++ m) []).2 rfl
    have hpiece := extract_of_valid l m []
    rw [utf8Len_append] at hend
    unfold splitOnAux
    rw [if_pos hend]
    simp only [hpiece]
    simp
  | cons c r ih =>
    have hend : ¬ _ := mt (atEnd_of_valid (l ++ m) (c :: r)).1 (List.cons_ne_nil c r)
    have hget := get_of_valid (l ++ m) (c :: r)
    have hnext := next_of_valid (l ++ m) c r
    have hpiece := extract_of_valid l m (c :: r)
    rw [utf8Len_append] at hend hget hnext
    unfold splitOnAux
    rw [if_neg hend, hget, List.headD_cons]
    by_cases hc : c = '/'
    -- a slash ends the piece, and the next one begins behind it
    · subst hc
      have hrest := ih (l ++ m ++ ['/']) [] (ofList m :: acc)
      have hpiece' : Pos.Raw.extract (ofList (l ++ m ++ '/' :: r)) ⟨utf8Len l⟩
          (Pos.Raw.unoffsetBy (Pos.Raw.next (ofList (l ++ m ++ '/' :: r)) ⟨utf8Len l + utf8Len m⟩)
            (Pos.Raw.next "/" 0)) = ofList m := by
        rw [hnext, ← hpiece]
        rfl
      rw [if_pos (by rfl)]
      dsimp only
      rw [if_pos (by rfl), hpiece', hnext]
      simpa [List.splitOnPPrepend_cons_eq_if, Nat.add_assoc] using hrest
    -- any other character is one more of the piece
    · have hrest := ih l (m ++ [c]) acc
      have hne : (c == Pos.Raw.get "/" 0) = false := beq_false_of_ne hc
      have hunoffset : Pos.Raw.unoffsetBy ⟨utf8Len l + utf8Len m⟩ 0 = ⟨utf8Len l + utf8Len m⟩ := rfl
      rw [hne, if_neg Bool.false_ne_true, hunoffset, hnext]
      simpa [List.splitOnPPrepend_cons_eq_if, hc, Nat.add_assoc] using hrest

/-- The parts of a text between its slashes. -/
theorem splitOn_slash (s : String) : s.splitOn "/" = (s.toList.splitOnP (· == '/')).map ofList := by
  have h := splitOnAux_slash [] [] s.toList []
  simpa [String.splitOn] using h

/-- Parts without slashes that are joined by slashes can be told apart again. -/
theorem splitOn_joined {ps : List String} (hne : ps ≠ []) (hps : ∀ p ∈ ps, '/' ∉ p.toList) :
    (intercalate "/" ps).splitOn "/" = ps := by
  have hpieces : ∀ piece ∈ ps.map toList, '/' ∉ piece := by simpa using hps
  have hchars := List.splitOn_intercalate '/' hpieces (by simpa using hne)
  rw [splitOn_slash, toList_intercalate]
  rw [List.splitOn] at hchars
  change List.map ofList (List.splitOnP (· == '/') (List.intercalate ['/'] (ps.map toList))) = ps
  rw [hchars]
  simp

theorem not_mem_splitOnP (cs : List Char) : ∀ piece ∈ cs.splitOnP (· == '/'), '/' ∉ piece := by
  induction cs with
  | nil => simp
  | cons c cs ih =>
    rw [List.splitOnP_cons_eq_if_modifyHead]
    split
    · exact List.forall_mem_cons.2 ⟨by simp, ih⟩
    · rename_i hc
      have hne : '/' ≠ c := fun h => hc (beq_iff_eq.2 h.symm)
      cases hpieces : cs.splitOnP (· == '/') with
      | nil => simp
      | cons piece pieces =>
        rw [hpieces] at ih
        obtain ⟨hfirst, hrest⟩ := List.forall_mem_cons.1 ih
        rw [List.modifyHead_cons, List.forall_mem_cons]
        exact ⟨by simp [hne, hfirst], hrest⟩

theorem not_mem_splitOn (s : String) : ∀ p ∈ s.splitOn "/", '/' ∉ p.toList := by
  intro p hp
  rw [splitOn_slash] at hp
  obtain ⟨piece, hpiece, rfl⟩ := List.mem_map.1 hp
  rw [toList_ofList]
  exact not_mem_splitOnP s.toList piece hpiece

theorem splitOn_slash_append (s : String) : ("/" ++ s).splitOn "/" = "" :: s.splitOn "/" := by
  rw [splitOn_slash, splitOn_slash, toList_append]
  change List.map ofList (List.splitOnP (· == '/') ('/' :: s.toList)) = _
  rw [List.splitOnP_cons_eq_if_modifyHead, if_pos (by rfl)]
  rfl

end Text

/-! ## Normal forms -/

namespace Store

/-- Parts of a path that are in their normal form, the last first: parts that lead upwards come
before all others, and only in a path that does not start at the root. -/
def Settled (absolute : Bool) : List String → Prop
  | [] => True
  | d :: ds => (d ≠ "" ∧ d ≠ "." ∧ '/' ∉ d.toList) ∧
      (d = ".." → absolute = false ∧ ∀ e ∈ ds, e = "..") ∧ Settled absolute ds

theorem Settled.of_append {absolute : Bool} {ps ds : List String}
    (h : Settled absolute (ps ++ ds)) : Settled absolute ds := by
  induction ps with
  | nil => exact h
  | cons p ps ih => exact ih h.2.2

theorem Settled.mem {absolute : Bool} {ds : List String} (h : Settled absolute ds) :
    ∀ d ∈ ds, d ≠ "" ∧ d ≠ "." ∧ '/' ∉ d.toList := by
  induction ds with
  | nil => simp
  | cons d ds ih => exact List.forall_mem_cons.2 ⟨h.1, ih h.2.2⟩

/-- Parts are brought into their normal form. -/
theorem settled_normalParts {absolute : Bool} {done ps : List String} (hdone : Settled absolute done)
    (hps : ∀ p ∈ ps, '/' ∉ p.toList) :
    Settled absolute (normalParts absolute done ps).reverse := by
  induction ps generalizing done with
  | nil =>
    rw [normalParts, List.reverse_reverse]
    exact hdone
  | cons p ps ih =>
    obtain ⟨hp, hrest⟩ := List.forall_mem_cons.1 hps
    rw [normalParts.eq_def]
    dsimp only
    split
    · exact ih hdone hrest
    rename_i hplain
    simp only [Bool.or_eq_true, beq_iff_eq, not_or] at hplain
    split
    · rename_i hup
      rw [beq_iff_eq] at hup
      subst hup
      -- two dots take back the part before them, stay where there is none in a relative path, and are
      -- dropped at the root
      cases done with
      | nil =>
        cases absolute with
        | true => exact ih trivial hrest
        | false => exact ih ⟨⟨hplain.1, hplain.2, hp⟩, fun _ => ⟨rfl, by simp⟩, trivial⟩ hrest
      | cons d ds =>
        dsimp only
        split
        · rename_i hd
          rw [beq_iff_eq] at hd
          obtain ⟨hroot, hall⟩ := hdone.2.1 hd
          refine ih ⟨⟨hplain.1, hplain.2, hp⟩, fun _ => ⟨hroot, ?_⟩, hdone⟩ hrest
          exact List.forall_mem_cons.2 ⟨hd, hall⟩
        · exact ih hdone.2.2 hrest
    · rename_i hup
      rw [beq_iff_eq] at hup
      exact ih ⟨⟨hplain.1, hplain.2, hp⟩, fun h => absurd h hup, hdone⟩ hrest

/-- Parts in their normal form stay as they are. -/
theorem normalParts_settled {absolute : Bool} {done ps : List String}
    (h : Settled absolute (ps.reverse ++ done)) :
    normalParts absolute done ps = done.reverse ++ ps := by
  induction ps generalizing done with
  | nil => rw [normalParts, List.append_nil]
  | cons p ps ih =>
    rw [List.reverse_cons, List.append_assoc, List.singleton_append] at h
    obtain ⟨hplain, hup, -⟩ := h.of_append
    have hnext : normalParts absolute (p :: done) ps = done.reverse ++ p :: ps := by
      rw [ih h, List.reverse_cons, List.append_assoc, List.singleton_append]
    rw [normalParts.eq_def]
    dsimp only
    rw [if_neg (by simp [hplain.1, hplain.2.1])]
    split
    -- two dots stand behind two dots only, of which none can be taken back
    · rename_i hp
      rw [beq_iff_eq] at hp
      obtain ⟨hroot, hall⟩ := hup hp
      subst hp
      cases done with
      | nil => rwa [hroot] at hnext ⊢
      | cons d ds =>
        dsimp only
        rw [if_pos (by simp [hall d List.mem_cons_self])]
        exact hnext
    · exact hnext

/-- The normal form of a path is its own normal form. -/
theorem normalPath_normalPath (path : String) : normalPath (normalPath path) = normalPath path := by
  generalize habsolute : (path.toList.head? == some '/') = absolute
  generalize hps : normalParts absolute [] (path.splitOn "/") = ps
  have hsettled : Settled absolute ps.reverse :=
    hps ▸ settled_normalParts trivial (Text.not_mem_splitOn path)
  have hparts : ∀ p ∈ ps, p ≠ "" ∧ p ≠ "." ∧ '/' ∉ p.toList := fun p hp =>
    hsettled.mem p (List.mem_reverse.2 hp)
  have hagain : normalParts absolute [] ps = ps :=
    normalParts_settled (by rwa [List.append_nil])
  have hsplit (hne : ps ≠ []) : (String.intercalate "/" ps).splitOn "/" = ps :=
    Text.splitOn_joined hne fun p hp => (hparts p hp).2.2
  have hpath : normalPath path = if absolute then "/" ++ String.intercalate "/" ps
      else if (String.intercalate "/" ps).isEmpty then "." else String.intercalate "/" ps := by
    rw [normalPath, habsolute, hps]
  rw [hpath]
  cases absolute with
  | true =>
    -- the root leaves an empty part in front, and another one if there is nothing else
    have hrest : normalParts true [] ((String.intercalate "/" ps).splitOn "/") = ps := by
      cases ps with
      | nil =>
        rw [Text.splitOn_slash]
        rfl
      | cons p ps => rw [hsplit (List.cons_ne_nil p ps), hagain]
    have hroot : normalParts true [] ("" :: (String.intercalate "/" ps).splitOn "/") = ps := by
      rw [normalParts.eq_def]
      exact hrest
    have hhead : (("/" ++ String.intercalate "/" ps).toList.head? == some '/') = true := by
      rw [String.toList_append]
      rfl
    rw [if_pos rfl, normalPath, hhead, Text.splitOn_slash_append, hroot]
    rfl
  | false =>
    rw [if_neg Bool.false_ne_true]
    cases ps with
    | nil =>
      have hdot : ("." : String).splitOn "/" = ["."] := by
        rw [Text.splitOn_slash]
        rfl
      change normalPath "." = "."
      rw [normalPath, hdot]
      rfl
    | cons p ps =>
      obtain ⟨hp, -, hslash⟩ := hparts p List.mem_cons_self
      obtain ⟨c, cs, hc⟩ := List.exists_cons_of_ne_nil (mt String.toList_eq_nil_iff.1 hp)
      have hchars : ∃ ds, (String.intercalate "/" (p :: ps)).toList = c :: ds := by
        cases ps with
        | nil => exact ⟨cs, by simpa using hc⟩
        | cons q qs => exact ⟨_, by rw [String.intercalate_cons_cons, String.toList_append, String.toList_append, hc]; rfl⟩
      obtain ⟨ds, hds⟩ := hchars
      have hempty : (String.intercalate "/" (p :: ps)).isEmpty = false := by
        rw [Bool.eq_false_iff, ne_eq, String.isEmpty_iff, ← String.toList_eq_nil_iff, hds]
        exact List.cons_ne_nil c ds
      have hhead : ((String.intercalate "/" (p :: ps)).toList.head? == some '/') = false := by
        rw [hds]
        rw [hc] at hslash
        simpa using fun h : c = '/' => hslash (h ▸ List.mem_cons_self)
      rw [hempty, if_neg Bool.false_ne_true, normalPath, hhead, hsplit (List.cons_ne_nil p ps), hagain,
        hempty]
      rfl

/-- A file that is found is found again under the path by which it is known. -/
theorem file?_of_file? {s : Store} {path : String} {f : StoredFile} (h : s.file? path = some f) :
    s.file? f.path = some f := by
  have hpath : f.path = normalPath path := by simpa using List.find?_some h
  rw [file?, hpath, normalPath_normalPath]
  exact h

theorem file?_of_search {s : Store} {pieces directories : List String} {f : StoredFile}
    (h : s.search pieces directories = some f) : s.file? f.path = some f := by
  induction directories with
  | nil => cases h
  | cons d ds ih =>
    rw [search] at h
    split at h
    · rename_i hfile
      cases h
      exact file?_of_file? hfile
    · exact ih h

end Store

/-- A source that is found is current. -/
theorem Loader.isCurrent_of_find {l : Loader} {s : Store} {name : String} {source : FoundSource}
    (h : l.find s name = .ok source) : s.isCurrent source.origin = true := by
  cases l with
  | absent => cases h
  | named =>
    rw [Loader.find] at h
    split at h
    · rename_i hlookup
      cases h
      simp [Store.isCurrent, hlookup]
    · cases h
  | files directories encoding followLinks =>
    rw [Loader.find] at h
    cases hpieces : namePieces name with
    | none => rw [hpieces] at h; cases h
    | some pieces =>
      rw [hpieces] at h
      dsimp only at h
      cases hsearch : s.search pieces directories with
      | none => rw [hsearch] at h; cases h
      | some f =>
        rw [hsearch] at h
        dsimp only at h
        -- whatever its encoding, the source comes from this file
        have horigin : source.origin = .file f.path f.changed := by
          split at h
          · cases h
          · split at h <;> cases h
            rfl
        simp [horigin, Store.isCurrent, Store.file?_of_search hsearch]

end Stencil
