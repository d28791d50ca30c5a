import Mathlib.Algebra.Ring.Nat
import Stencil.Data.Reader
import Stencil.Text.Blank

/-!
# What is read is smaller than its notation

The notation of a value needs marks around texts and lists, and more than one character for what it
escapes. Counting the characters that are neither blanks nor commas therefore tells a notation from
the texts that it stands for: there are more of them in the notation.

## Main definitions

- `Text.solid`: how many characters of a text are neither blanks nor commas
- `Datum.solid`: how many there are in a value, if it is a text or a list of texts

## Key results

- `Datum.solid_lt_of_parse`: a value that was read holds fewer of them than its notation
-/

namespace Stencil

namespace Text

/-- Characters that are neither blanks nor commas. -/
def isSolid (c : Char) : Bool :=
  !Char.isBlank c && c != ','

/-- How many characters are neither blanks nor commas. -/
def solid (cs : List Char) : Nat :=
  cs.countP isSolid

@[simp] theorem solid_nil : solid [] = 0 := rfl

@[simp] theorem solid_append (as bs : List Char) : solid (as ++ bs) = solid as + solid bs :=
  List.countP_append

@[simp] theorem solid_reverse (cs : List Char) : solid cs.reverse = solid cs :=
  List.countP_reverse

theorem solid_cons_of_isSolid {c : Char} (h : isSolid c = true) (cs : List Char) :
    solid (c :: cs) = solid cs + 1 :=
  List.countP_cons_of_pos h

theorem solid_le_cons (c : Char) (cs : List Char) : solid cs ≤ solid (c :: cs) :=
  (List.sublist_cons_self c cs).countP_le

theorem solid_cons_le (c : Char) (cs : List Char) : solid (c :: cs) ≤ solid cs + 1 := by
  rw [solid, List.countP_cons]
  split <;> simp [solid]

theorem solid_le_of_suffix {as bs : List Char} (h : as <:+ bs) : solid as ≤ solid bs :=
  h.sublist.countP_le

end Text

namespace Datum

open Text

/-- How many characters of a text are neither blanks nor commas. Other values hold no characters. -/
def solidText : Datum → Nat
  | .text s => solid s.toList
  | _ => 0

/-- How many characters of a text, or of the texts in a list, are neither blanks nor commas. -/
def solid : Datum → Nat
  | .text s => Text.solid s.toList
  | .list items => (items.map solidText).sum
  | _ => 0

theorem solidText_le (d : Datum) : d.solidText ≤ d.solid := by
  cases d <;> simp [solidText, solid]

namespace Reader

theorem solid_skip_le (cs : List Char) : Text.solid (skip cs) ≤ Text.solid cs :=
  (List.dropWhile_sublist _).countP_le

/-! ## Texts -/

theorem suffix_of_fourHex? {cs rest : List Char} {n : Nat} (h : fourHex? cs = some (n, rest)) :
    rest <:+ cs := by
  unfold fourHex? at h
  split at h
  · rename_i a b c d tail
    simp only [Option.bind_eq_bind, Option.bind_eq_some_iff, Option.some.injEq,
      Prod.mk.injEq] at h
    obtain ⟨_, _, _, _, _, _, _, _, -, rfl⟩ := h
    exact ⟨[a, b, c, d], rfl⟩
  · cases h

theorem suffix_of_numbered? {cs rest : List Char} {c : Char} (h : numbered? cs = some (c, rest)) :
    rest <:+ cs := by
  have hrest {d : Char} {ds : List Char} (heq : some (d, ds) = some (c, rest)) : ds = rest :=
    congrArg Prod.snd (Option.some.inj heq)
  unfold numbered? at h
  obtain ⟨⟨high, tail⟩, hhigh, h⟩ := Option.bind_eq_some_iff.1 h
  have htail := suffix_of_fourHex? hhigh
  dsimp only at h
  split at h
  -- the first half of a pair may be followed by the second, which is then read too
  · split at h
    · rename_i more
      split at h
      · rename_i low more' hlow
        have hmore := suffix_of_fourHex? hlow
        split at h
        · rw [← hrest h]
          exact hmore.trans (((List.suffix_cons _ _).trans (List.suffix_cons _ _)).trans htail)
        · rwa [← hrest h]
      · rwa [← hrest h]
    · rwa [← hrest h]
  · split at h <;> rwa [← hrest h]

/-- An escape has one character more than what it stands for. -/
theorem solid_escape {n : Nat} {d c : Char} {acc rest cs : List Char}
    (h : n ≤ Text.solid (d :: acc) + Text.solid rest) (hrest : rest <:+ cs) :
    n ≤ Text.solid acc + Text.solid ('\\' :: c :: cs) := by
  have hmark : isSolid '\\' = true := by decide
  have hd := solid_cons_le d acc
  have hcs := solid_le_of_suffix (hrest.trans (List.suffix_cons c cs))
  rw [solid_cons_of_isSolid hmark]
  omega

/-- A text has fewer characters than what stands between its marks with the closing mark. -/
theorem solid_text? {fuel : Nat} {acc cs rest : List Char} {s : String}
    (h : text? fuel acc cs = some (s, rest)) :
    Text.solid s.toList + Text.solid rest + 1 ≤ Text.solid acc + Text.solid cs := by
  have hmark : isSolid '\x22' = true := by decide
  fun_induction text? fuel acc cs with
  | case1 => cases h
  | case2 => cases h
  -- the closing mark
  | case3 fuel acc tail =>
    cases h
    rw [String.toList_ofList, solid_reverse, solid_cons_of_isSolid hmark]
    omega
  | case12 fuel acc cs c tail hnumbered ih => exact solid_escape (ih h) (suffix_of_numbered? hnumbered)
  | case13 => cases h
  | case14 => cases h
  | case15 => cases h
  | case16 fuel acc c tail _ _ _ ih =>
    have hrest := ih h
    simp only [Text.solid, List.countP_cons] at hrest ⊢
    omega
  -- an escape of one letter
  | _ fuel acc tail ih => exact solid_escape (ih h) (List.suffix_refl tail)

/-! ## Numbers and words -/

theorem isSolid_of_isDigit {c : Char} (h : c.isDigit = true) : isSolid c = true := by
  have hrange : 48 ≤ c.toNat ∧ c.toNat ≤ 57 := by simpa [Char.isDigit, UInt32.le_iff_toNat_le] using h
  have hcomma : c ≠ ',' := by
    rintro rfl
    exact absurd hrange.1 (by decide)
  have hblank : Char.isBlank c = false := by
    simp only [Char.isBlank, CodePoints.contains]
    grind
  simp [isSolid, hblank, hcomma]

theorem suffix_fraction (cs : List Char) : (fraction cs).2 <:+ cs := by
  unfold fraction
  split
  · dsimp only
    split
    · exact List.suffix_refl _
    · exact (List.drop_suffix _ _).trans (List.suffix_cons _ _)
  · exact List.suffix_refl _

theorem suffix_sign (cs : List Char) : (sign cs).2 <:+ cs := by
  unfold sign
  split
  · exact List.suffix_cons _ _
  · exact List.suffix_cons _ _
  · exact List.suffix_refl _

theorem suffix_exponent (cs : List Char) : (exponent cs).2 <:+ cs := by
  unfold exponent
  split
  · split
    · dsimp only
      split
      · exact List.suffix_refl _
      · exact (List.drop_suffix _ _).trans ((suffix_sign _).trans (List.suffix_cons _ _))
    · exact List.suffix_refl _
  · exact List.suffix_refl _

theorem whole_prefix (cs : List Char) : whole cs <+: cs := by
  unfold whole
  split
  · exact ⟨_, rfl⟩
  · exact List.takeWhile_prefix _

theorem isDigit_of_mem_whole {c : Char} {cs : List Char} (h : c ∈ whole cs) : c.isDigit = true := by
  unfold whole at h
  split at h
  · rw [List.mem_singleton] at h
    subst h
    rfl
  · exact List.all_eq_true.1 List.all_takeWhile c h

/-- The digits at the start of a number are followed by less than there was. -/
theorem solid_drop_whole {cs : List Char} (hne : (whole cs).isEmpty = false) :
    Text.solid (cs.drop (whole cs).length) + 1 ≤ Text.solid cs := by
  obtain ⟨rest, hrest⟩ := whole_prefix cs
  have hdigits : ∀ c ∈ whole cs, c.isDigit = true := fun _ => isDigit_of_mem_whole
  cases hcs : whole cs with
  | nil =>
    rw [hcs] at hne
    cases hne
  | cons c digits =>
    rw [hcs] at hrest hdigits
    have hc := isSolid_of_isDigit (hdigits c List.mem_cons_self)
    rw [← hrest, List.drop_left, solid_append, solid_cons_of_isSolid hc]
    omega

/-- A number holds no characters, and leaves less than there was. -/
theorem solid_number? {negative : Bool} {cs rest : List Char} {d : Datum}
    (h : number? negative cs = some (d, rest)) :
    d.solid = 0 ∧ Text.solid rest + 1 ≤ Text.solid cs := by
  unfold number? at h
  dsimp only at h
  split at h
  · cases h
  · rename_i hne
    have hdrop := solid_drop_whole (by simpa using hne)
    have hsuffix := solid_le_of_suffix
      ((suffix_exponent (fraction (cs.drop (whole cs).length)).2).trans (suffix_fraction _))
    split at h <;> cases h <;> exact ⟨rfl, by omega⟩

/-- A word that stands for something without characters. -/
theorem solid_word? {word : String} {value d : Datum} {cs rest : List Char}
    (hword : 0 < Text.solid word.toList) (hvalue : value.solid = 0)
    (h : word? word value cs = some (d, rest)) :
    d.solid + Text.solid rest + 1 ≤ Text.solid cs := by
  unfold word? at h
  split at h
  · rename_i hstart
    cases h
    obtain ⟨tail, rfl⟩ := List.isPrefixOf_iff_prefix.1 hstart
    rw [← String.length_toList, List.drop_left, solid_append]
    omega
  · cases h

/-! ## Values -/

theorem solid_of_skip {cs rest : List Char} {c : Char} (hc : isSolid c = true)
    (h : skip cs = c :: rest) : Text.solid rest + 1 ≤ Text.solid cs := by
  have hle := solid_skip_le cs
  rwa [h, solid_cons_of_isSolid hc] at hle

theorem solid_of_skip_comma {cs rest : List Char} (h : skip cs = ',' :: rest) :
    Text.solid rest ≤ Text.solid cs := by
  have hle := solid_skip_le cs
  rw [h] at hle
  exact Nat.le_trans (solid_le_cons _ _) hle

mutual

/-- A value holds less than what was read of the text. -/
theorem solid_value? {fuel : Nat} {cs rest : List Char} {d : Datum}
    (h : value? fuel cs = some (d, rest)) :
    d.solid + Text.solid rest + 1 ≤ Text.solid cs := by
  match fuel with
  | 0 => rw [value?] at h; cases h
  | fuel + 1 =>
    have hbracket : isSolid '[' = true ∧ isSolid ']' = true := by decide
    have hbrace : isSolid '\x7b' = true ∧ isSolid '\x7d' = true := by decide
    have hmark : isSolid '\x22' = true ∧ isSolid '-' = true := by decide
    unfold value? at h
    dsimp only at h
    split at h
    -- a text, whose marks are the difference
    · rename_i tail
      obtain ⟨⟨s, more⟩, htext, heq⟩ := Option.map_eq_some_iff.1 h
      cases heq
      have hle := solid_text? htext
      simp only [Datum.solid, solid_nil, solid_cons_of_isSolid hmark.1] at hle ⊢
      omega
    -- a list, empty or with items that are read by themselves
    · rename_i tail
      rw [solid_cons_of_isSolid hbracket.1]
      split at h
      · rename_i hskip
        cases h
        have hle := solid_of_skip hbracket.2 hskip
        simp only [Datum.solid, List.map_nil, List.sum_nil]
        omega
      · have hle := solid_items? h
        have hskip := solid_skip_le tail
        simp only [List.map_nil, List.sum_nil] at hle
        omega
    -- an object likewise
    · rename_i tail
      rw [solid_cons_of_isSolid hbrace.1]
      split at h
      · rename_i hskip
        cases h
        have hle := solid_of_skip hbrace.2 hskip
        simp only [Datum.solid]
        omega
      · obtain ⟨hd, hle⟩ := solid_fields? h
        have hskip := solid_skip_le tail
        omega
    -- the six words
    · exact solid_word? (by decide) rfl h
    · exact solid_word? (by decide) rfl h
    · exact solid_word? (by decide) rfl h
    · exact solid_word? (by decide) rfl h
    · exact solid_word? (by decide) rfl h
    · exact solid_word? (by decide) rfl h
    -- a number, with a sign or without
    · obtain ⟨hd, hle⟩ := solid_number? h
      rw [solid_cons_of_isSolid hmark.2]
      omega
    · obtain ⟨hd, hle⟩ := solid_number? h
      omega

/-- A list holds its items and those before them. -/
theorem solid_items? {fuel : Nat} {acc : List Datum} {cs rest : List Char} {d : Datum}
    (h : items? fuel acc cs = some (d, rest)) :
    d.solid + Text.solid rest + 1 ≤ (acc.map solidText).sum + Text.solid cs := by
  match fuel with
  | 0 => rw [items?] at h; cases h
  | fuel + 1 =>
    have hbracket : isSolid ']' = true := by decide
    rw [items?] at h
    split at h
    · cases h
    · rename_i v tail hv
      have hvalue := solid_value? hv
      have htext := solidText_le v
      split at h
      -- the comma pays for the item that has been read
      · rename_i more hskip
        have hrest := solid_items? h
        have hmore := solid_skip_le more
        have hcomma := solid_of_skip_comma hskip
        simp only [List.map_cons, List.sum_cons] at hrest
        omega
      · rename_i hskip
        cases h
        have hrest := solid_of_skip hbracket hskip
        simp only [Datum.solid, List.map_reverse, List.sum_reverse, List.map_cons, List.sum_cons]
        omega
      · cases h

/-- An object holds no characters of its own, and leaves less than there was. -/
theorem solid_fields? {fuel : Nat} {acc : List (String × Datum)} {cs rest : List Char} {d : Datum}
    (h : fields? fuel acc cs = some (d, rest)) :
    d.solid = 0 ∧ Text.solid rest + 1 ≤ Text.solid cs := by
  match fuel with
  | 0 => rw [fields?] at h; cases h
  | fuel + 1 =>
    have hbrace : isSolid '\x7d' = true := by decide
    have hmark : isSolid '\x22' = true ∧ isSolid ':' = true := by decide
    unfold fields? at h
    split at h
    · rename_i tail
      split at h
      · cases h
      · rename_i key behind hkey
        split at h
        · rename_i field hcolon
          split at h
          · cases h
          · rename_i v behindValue hv
            -- a field is its key, a colon and a value, each of which is shorter than what it leaves
            have hstart := solid_text? hkey
            have hvalue := solid_value? hv
            have hcolon := solid_of_skip hmark.2 hcolon
            have hskip := solid_skip_le field
            rw [solid_cons_of_isSolid hmark.1]
            split at h
            · rename_i more hmore
              have hrest := solid_fields? h
              have hmore := solid_of_skip_comma hmore
              have hnext := solid_skip_le more
              exact ⟨hrest.1, by simp at hstart; omega⟩
            · rename_i hend
              cases h
              have hrest := solid_of_skip hbrace hend
              exact ⟨rfl, by simp at hstart; omega⟩
            · cases h
        · cases h
    · cases h

end

end Reader

/-- A value that was read holds fewer characters that count than its notation. -/
theorem solid_lt_of_parse {s : String} {v : Datum} (h : parse? s = some v) :
    v.solid < Text.solid s.toList := by
  unfold parse? at h
  dsimp only at h
  split at h
  · rename_i d rest hread
    split at h
    · cases h
      have hvalue := Reader.solid_value? hread
      have hskip := Reader.solid_skip_le s.toList
      omega
    · cases h
  · cases h

end Datum

end Stencil
