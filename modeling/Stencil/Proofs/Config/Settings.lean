import Stencil.Config.Settings
import Stencil.Proofs.Config.ListField
import Stencil.Proofs.Data.Reader

/-!
# List settings from an argument and from a variable

The text of a variable is read as data first, the text of an argument is not. The two give a setting
the same value exactly when the text is no data at all: data hold fewer characters than their
notation, and what a list setting is made of keeps its characters but for commas and blanks.

## Main definitions

- `ListValue.solid`: how many characters of a list setting are neither blanks nor commas
- `ListValue.ofText`: the list setting that a text stands for
- `Settings.withList`: the defaults, but for one list setting

## Key results

- `Settings.load_eq`: what is loaded if nothing but one list setting is given
- `Settings.load_argument`: a text that is given as an argument
- `Settings.load_listSetting`: when a variable means what an argument with the same text means
-/

namespace Stencil

/-! ## Characters that count -/

namespace Text

theorem solid_dropWhile (cs : List Char) : solid (cs.dropWhile Char.isBlank) = solid cs := by
  induction cs with
  | nil => rfl
  | cons c cs ih =>
    rw [List.dropWhile_cons]
    split
    · rename_i hc
      have hblank : ¬ isSolid c = true := by simp [isSolid, hc]
      rw [ih, solid, solid, List.countP_cons_of_neg hblank]
    · rfl

theorem solid_trim (cs : List Char) : solid (trim cs) = solid cs := by
  rw [trim, trimEnd, solid_reverse, solid_dropWhile, solid_reverse, trimStart, solid_dropWhile]

theorem sum_solid_splitAtChar (cs : List Char) :
    ((splitAtChar ',' cs).map solid).sum = solid cs := by
  have hcomma : ¬ isSolid ',' = true := by decide
  induction cs with
  | nil => rfl
  | cons c cs ih =>
    rw [splitAtChar_cons]
    split
    · rename_i hc
      rw [List.map_cons, List.sum_cons, ih, beq_iff_eq.1 hc, solid_nil, Nat.zero_add, solid, solid,
        List.countP_cons_of_neg hcomma]
    · cases hparts : splitAtChar ',' cs with
      | nil => exact absurd hparts (splitAtChar_ne_nil ',' cs)
      | cons part parts =>
        rw [hparts, List.map_cons, List.sum_cons] at ih
        simp only [List.map_cons, List.sum_cons, solid, List.countP_cons] at ih ⊢
        omega

end Text

namespace ListField

/-- The parts that are left out have no characters that count. -/
theorem sum_solid_items (cs : List Char) : ((items cs).map Text.solid).sum = Text.solid cs := by
  rw [items, ← Text.sum_solid_splitAtChar]
  induction Text.splitAtChar ',' cs with
  | nil => rfl
  | cons part parts ih =>
    rw [List.map_cons, List.map_cons, List.sum_cons, ← ih, ← Text.solid_trim part,
      List.filter_cons]
    split
    · rfl
    · rename_i hempty
      have hnil : Text.trim part = [] := by simpa using hempty
      rw [hnil, Text.solid_nil, Nat.zero_add]

theorem sum_solid_divided (s : String) :
    ((divided s).map fun part => Text.solid part.toList).sum = Text.solid s.toList := by
  rw [← sum_solid_items, divided, List.map_map]
  simp [Function.comp_def]

end ListField

namespace ListValue

/-- How many characters of the items, or of the text, are neither blanks nor commas. -/
def solid : ListValue → Nat
  | items texts => (texts.map fun t => Text.solid t.toList).sum
  | verbatim text => Text.solid text.toList

/-- The list setting that a text stands for: the text itself if it starts with a bracket, and the
parts between its commas otherwise. -/
def ofText (s : String) : ListValue :=
  if ListField.IsBracketed s then verbatim s else items (ListField.divided s)

theorem solid_ofText (s : String) : (ofText s).solid = Text.solid s.toList := by
  unfold ofText
  split
  · rfl
  · exact ListField.sum_solid_divided s

end ListValue

namespace Settings

/-! ## Checking a list setting -/

theorem itemComplaints_texts (s : Setting) (i : Nat) (texts : List String) :
    itemComplaints s i (texts.map .text) = [] := by
  induction texts generalizing i with
  | nil => rfl
  | cons t ts ih => exact ih (i + 1)

/-- Nothing is complained about if and only if the items are texts. -/
theorem texts_of_itemComplaints {s : Setting} {i : Nat} {vs : List Datum}
    (h : itemComplaints s i vs = []) : ∃ texts : List String, vs = texts.map .text := by
  induction vs generalizing i with
  | nil => exact ⟨[], rfl⟩
  | cons v vs ih =>
    unfold itemComplaints at h
    split at h
    · cases ‹v :: vs = []›
    · rename_i t rest heq
      cases heq
      obtain ⟨texts, rfl⟩ := ih h
      exact ⟨t :: texts, rfl⟩
    · cases h

theorem filterMap_text? (texts : List String) :
    (texts.map Datum.text).filterMap Datum.text? = texts := by
  induction texts with
  | nil => rfl
  | cons t ts ih => exact congrArg (t :: ·) ih

theorem checkList_texts (s : Setting) (texts : List String) :
    checkList s (.list (texts.map .text)) = .ok (.items texts) := by
  simp only [checkList, ListField.parse, itemComplaints_texts, filterMap_text?]

theorem checkList_text (s : Setting) (text : String) :
    checkList s (.text text) = .ok (.ofText text) := by
  unfold ListValue.ofText
  split
  · rename_i hbracket
    rw [checkList, ListField.parse_bracketed hbracket]
  · rename_i hbracket
    rw [checkList, ListField.parse_text hbracket]
    exact checkList_texts s (ListField.divided text)

/-- A list setting keeps the characters that count. -/
theorem solid_of_checkList {s : Setting} {v : Datum} {w : ListValue} (h : checkList s v = .ok w) :
    w.solid = v.solid := by
  cases v with
  | text t =>
    rw [checkList_text] at h
    cases h
    exact ListValue.solid_ofText t
  -- the items that pass are texts, each of which is kept as it is
  | list vs =>
    simp only [checkList, ListField.parse] at h
    split at h
    · rename_i hitems
      obtain ⟨texts, rfl⟩ := texts_of_itemComplaints hitems
      rw [filterMap_text?] at h
      cases h
      rw [Datum.solid, List.map_map]
      rfl
    · cases h
  | _ => cases h

/-! ## Names -/

theorem lower_key_inj {s t : Setting}
    (h : Text.lower s.key.toList = Text.lower t.key.toList) : s = t := by
  revert h
  cases s <;> cases t <;> decide

theorem argument?_single (s t : Setting) (v : Datum) :
    argument? [(s.key, v)] t.key = if s = t then some v else none := by
  split
  · rename_i h
    simp [argument?, h]
  · rename_i h
    have hkey : s.key ≠ t.key := fun heq => h (lower_key_inj (congrArg (Text.lower ·.toList) heq))
    have hfold : Text.lower s.key.toList ≠ Text.lower t.key.toList := fun heq => h (lower_key_inj heq)
    simp [argument?, hkey, hfold]

theorem binding?_single (s t : Setting) {text : String} :
    binding? [(s.key, text)] t.key = if s = t ∧ text ≠ "" then some text else none := by
  have hfold : Text.lower s.key.toList = Text.lower t.key.toList ↔ s = t :=
    ⟨lower_key_inj, fun h => by rw [h]⟩
  by_cases hs : s = t <;> by_cases ht : text = "" <;> simp [binding?, hfold, hs, ht]

/-! ## Loading -/

/-- The defaults, but for one list setting. -/
def withList (s : Setting) (v : ListValue) : Settings :=
  match s with
  | .directories => { directories := v }
  | .extensions => { extensions := v }
  | _ => {}

/-- The value of a list setting. -/
def listValue (s : Setting) (settings : Settings) : ListValue :=
  match s with
  | .directories => settings.directories
  | _ => settings.extensions

theorem listValue_withList {s : Setting} (hs : s.isList = true) (v : ListValue) :
    (withList s v).listValue s = v := by
  cases s <;> first | rfl | cases hs

/-- If nothing but a list setting is given, then the others have their defaults, and only that one
can be complained about. -/
theorem load_eq {src : Sources} {s : Setting} (hs : s.isList = true)
    (hothers : ∀ t, t ≠ s → src.value? t = none) :
    load src = (field src s checkList (.items [])).map (withList s) := by
  -- a setting that is not given has its default without a check
  have hdefault {α : Type} {t : Setting} (ht : t ≠ s)
      (check : Setting → Datum → Except (List Complaint) α) (default : α) :
      field src t check default = .ok default := by
    rw [field, hothers t ht]
  cases s with
  | directories =>
    simp only [load, hdefault (by decide : Setting.encoding ≠ .directories),
      hdefault (by decide : Setting.followLinks ≠ .directories),
      hdefault (by decide : Setting.autoescape ≠ .directories),
      hdefault (by decide : Setting.extensions ≠ .directories),
      hdefault (by decide : Setting.infoBlock ≠ .directories)]
    cases field src .directories checkList (.items []) with
    | ok v => rfl
    | error cs => simp [complaints, Except.map]
  | extensions =>
    simp only [load, hdefault (by decide : Setting.directories ≠ .extensions),
      hdefault (by decide : Setting.encoding ≠ .extensions),
      hdefault (by decide : Setting.followLinks ≠ .extensions),
      hdefault (by decide : Setting.autoescape ≠ .extensions),
      hdefault (by decide : Setting.infoBlock ≠ .extensions)]
    cases field src .extensions checkList (.items []) with
    | ok v => rfl
    | error cs => simp [complaints, Except.map]
  | _ => cases hs

theorem value?_argument (s t : Setting) (v : Datum) :
    Sources.value? { arguments := [(s.key, v)] } t = if s = t then some v else none := by
  rw [Sources.value?, argument?_single]
  by_cases h : s = t
  · rw [if_pos h]
  · rw [if_neg h]
    rfl

theorem value?_environment (s t : Setting) (text : String) :
    Sources.value? { environment := [(s.key, text)] } t =
      if s = t then ofVariable? [(s.key, text)] s else none := by
  split
  · rename_i h
    subst h
    simp only [Sources.value?, argument?, List.find?_nil, Option.none_or, Option.map_none]
    cases ofVariable? [(s.key, text)] s <;> rfl
  · rename_i h
    simp [Sources.value?, argument?, ofVariable?, binding?_single, h]

/-- A list setting that is given as an argument is made of the text as it is. -/
theorem load_argument {s : Setting} (hs : s.isList = true) (text : String) :
    load { arguments := [(s.key, .text text)] } = .ok (withList s (.ofText text)) := by
  have hothers : ∀ t, t ≠ s →
      Sources.value? { arguments := [(s.key, .text text)] } t = none := fun t ht => by
    rw [value?_argument, if_neg (Ne.symm ht)]
  rw [load_eq hs hothers, field, value?_argument, if_pos rfl]
  dsimp only
  rw [checkList_text]
  rfl

theorem load_environment {s : Setting} (hs : s.isList = true) (text : String) :
    load { environment := [(s.key, text)] } =
      (match ofVariable? [(s.key, text)] s with
        | some v => checkList s v
        | none => .ok (.items [])).map (withList s) := by
  have hothers : ∀ t, t ≠ s →
      Sources.value? { environment := [(s.key, text)] } t = none := fun t ht => by
    rw [value?_environment, if_neg (Ne.symm ht)]
  rewrite [load_eq hs hothers, field, value?_environment, if_pos rfl]
  rfl

/-- What a variable gives a list setting. -/
theorem ofVariable?_single {s : Setting} (hs : s.isList = true) {text : String} (htext : text ≠ "") :
    ofVariable? [(s.key, text)] s =
      match Datum.parse? text with
      | some .null => none
      | some v => some v
      | none => some (.text text) := by
  rewrite [ofVariable?, binding?_single, if_pos ⟨rfl, htext⟩]
  exact if_pos hs

/-- Of what a variable's text denotes as data, the setting keeps the characters that count. -/
theorem solid_of_load_environment {s : Setting} (hs : s.isList = true) {text : String}
    (htext : text ≠ "") {v : Datum} (hv : Datum.parse? text = some v) {settings : Settings}
    (h : load { environment := [(s.key, text)] } = .ok settings) :
    (settings.listValue s).solid = v.solid := by
  rw [load_environment hs, ofVariable?_single hs htext, hv] at h
  split at h
  -- data that is not ignored is checked as it is
  · rename_i d hd
    cases hcheck : checkList s d with
    | error cs =>
      rw [hcheck] at h
      cases h
    | ok w =>
      rw [hcheck] at h
      cases h
      rw [listValue_withList hs, solid_of_checkList hcheck]
      cases v <;> cases hd <;> rfl
  -- null is ignored, and holds no characters
  · rename_i hd
    cases h
    rw [listValue_withList hs]
    cases v <;> cases hd
    rfl

/-- A text that is given to a list setting as an argument is divided at its commas, or kept if it
starts with a bracket. As a variable it means the same if and only if it is no data; and if it is the
notation of a list of texts, then as a variable it means that list. -/
theorem load_listSetting (s : Setting) (hs : s.isList = true) (text : String) (htext : text ≠ "") :
    load { arguments := [(s.key, .text text)] } = .ok (withList s (.ofText text)) ∧
    (load { environment := [(s.key, text)] } = load { arguments := [(s.key, .text text)] } ↔
      Datum.parse? text = none) ∧
    ∀ texts : List String, Datum.parse? text = some (.list (texts.map .text)) →
      load { environment := [(s.key, text)] } = .ok (withList s (.items texts)) := by
  refine ⟨load_argument hs text, ⟨fun heq => ?_, fun hnone => ?_⟩, fun texts hlist => ?_⟩
  · -- data with the same meaning would have as many characters that count as their notation
    cases hv : Datum.parse? text with
    | none => rfl
    | some v =>
      rw [load_argument hs] at heq
      have hsolid := solid_of_load_environment hs htext hv heq
      rw [listValue_withList hs, ListValue.solid_ofText] at hsolid
      have hlt := Datum.solid_lt_of_parse hv
      omega
  · rw [load_argument hs, load_environment hs, ofVariable?_single hs htext, hnone]
    dsimp only
    rw [checkList_text]
    rfl
  · rw [load_environment hs, ofVariable?_single hs htext, hlist]
    dsimp only
    rw [checkList_texts]
    rfl

/-- A number, a list of two texts, and a text with a bracket that is no list. -/
theorem load_listSetting_number :
    load { arguments := [("TEMPLATE_DIRS", .text "2024")] } =
        .ok { directories := .items ["2024"] } ∧
      load { environment := [("TEMPLATE_DIRS", "2024")] } ≠
        .ok { directories := .items ["2024"] } ∧
      load { environment := [("TEMPLATE_DIRS", "[\x22a\x22, \x22b\x22]")] } =
        .ok { directories := .items ["a", "b"] } ∧
      load { environment := [("TEMPLATE_EXTENSIONS", "[x]")] } =
        .ok { extensions := .verbatim "[x]" } := by
  obtain ⟨hargument, hsame, -⟩ := load_listSetting .directories rfl "2024" (by decide)
  obtain ⟨-, -, hlist⟩ :=
    load_listSetting .directories rfl "[\x22a\x22, \x22b\x22]" (by decide)
  obtain ⟨hbracket, hsame', -⟩ := load_listSetting .extensions rfl "[x]" (by decide)
  have hnumber : (Datum.parse? "2024").isSome = true := by decide
  have hnone : (Datum.parse? "[x]").isNone = true := by decide
  have hdivided : ListValue.ofText "2024" = .items ["2024"] := by decide
  have hkept : ListValue.ofText "[x]" = .verbatim "[x]" := by decide
  rw [hdivided] at hargument
  rw [hkept] at hbracket
  -- a number is data, while a bracket without a list is none
  refine ⟨hargument, fun heq => ?_, hlist ["a", "b"] ?_, ?_⟩
  · rw [hsame.1 (heq.trans hargument.symm)] at hnumber
    cases hnumber
  · cbv
  · exact (hsame'.2 (Option.isNone_iff_eq_none.1 hnone)).trans hbracket

end Settings

end Stencil
