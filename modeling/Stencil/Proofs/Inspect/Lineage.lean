import Mathlib.Data.List.Nodup
import Mathlib.Data.List.Perm.Subperm
import Stencil.Proofs.Inspect.Ascent
import Stencil.Proofs.Inspect.Targets
import Stencil.Proofs.Tree.Detach

/-!
# Lines of templates that extend each other

Where every template of a line extends the next one by its literal name, and nothing else, inspection
and rendering go the same way: from each template to the one that the present source of its name
gives. They only do so if the cache holds nothing else under these names, which is known of named
sources, but not of files: a file that comes to hide another of the same name leaves the template of
the hidden one current.

## Main definitions

- `Library.Lineage`: a line of templates as the present sources give it
- `Library.Present`: the cache holds no other templates under these names

## Key results

- `Library.Lineage.length_le`: there are at least as many sources as templates in a line
- `Library.Settled.load`: what is loaded by a name of a line
- `Library.present_of_named`: named sources are cached as they are
-/

namespace Stencil

variable {α : Type}

/-! ## Trees that extend each other -/

/-- A tree that extends a template by its literal name, directly in its body, and has no other
`extends` anywhere. -/
inductive Template.Extends : Template → String → Prop
  | mk (line l el : Nat) {before after : List Stmt} (next : String)
      (hbefore : Stmt.anyExtends before = false) (hafter : Stmt.anyExtends after = false) :
      Extends ⟨line, before ++ .extend l (.const el (.text next)) :: after⟩ next

/-- Named trees of which each extends the next one, and the last none. -/
inductive Template.Ascends : List (String × Template) → Prop
  | top (name : String) {t : Template} (h : Stmt.anyExtends t.body = false) : Ascends [(name, t)]
  | up (name : String) {t t' : Template} {next : String} {rest : List (String × Template)}
      (h : t.Extends next) (hrest : Ascends ((next, t') :: rest)) :
      Ascends ((name, t) :: (next, t') :: rest)

namespace Stmt

theorem firstParent_of_anyExtends {ss : List Stmt} (h : anyExtends ss = false) :
    firstParent ss = [] := by
  induction ss with
  | nil => rfl
  | cons s ss ih =>
    rw [anyExtends, Bool.or_eq_false_iff] at h
    cases s with
    | extend l e => exact nomatch h.1
    | _ => exact ih h.2

theorem firstParent_append {ss : List Stmt} (h : anyExtends ss = false) (ts : List Stmt) :
    firstParent (ss ++ ts) = firstParent ts := by
  induction ss with
  | nil => rfl
  | cons s ss ih =>
    rw [anyExtends, Bool.or_eq_false_iff] at h
    cases s with
    | extend l e => exact nomatch h.1
    | _ => exact ih h.2

end Stmt

namespace Template

theorem literalParent_eq (t : Template) : t.literalParent? = (Stmt.firstParent t.body).head? := by
  rw [literalParent?, Stmt.parents_outline t.line t.body []]
  rfl

theorem Extends.firstParent {t : Template} {next : String} (h : t.Extends next) :
    Stmt.firstParent t.body = [.text next] := by
  cases h with
  | mk line l el next hbefore hafter =>
    rw [Stmt.firstParent_append hbefore]
    rfl

theorem Extends.literalParent {t : Template} {next : String} (h : t.Extends next) :
    t.literalParent? = some (.text next) := by
  rw [literalParent_eq, h.firstParent]
  rfl

theorem literalParent_of_anyExtends {t : Template} (h : Stmt.anyExtends t.body = false) :
    t.literalParent? = none := by
  rw [literalParent_eq, Stmt.firstParent_of_anyExtends h]
  rfl

/-- In a line, what a tree extends comes after its first name. -/
theorem Ascends.mem_tail {ts : List (String × Template)} (h : Ascends ts) {e : String × Template}
    (he : e ∈ ts) {next : String} (hnext : Stmt.firstParent e.2.body = [.text next]) :
    next ∈ ts.tail.map Prod.fst := by
  induction h with
  | top name h =>
    rw [List.mem_singleton.1 he, Stmt.firstParent_of_anyExtends h] at hnext
    exact nomatch hnext
  | up name h hrest ih =>
    obtain rfl | he := List.mem_cons.1 he
    · rw [h.firstParent] at hnext
      cases hnext
      exact List.mem_cons_self
    · exact List.mem_cons_of_mem _ (ih he)

end Template

/-! ## What loading leaves alone -/

namespace Run.OnLibrary

theorem heap_eq {x : Run α} (hx : OnLibrary x) (w : World) :
    (exec x w).2.toHeap = w.toHeap :=
  congrArg (·.2.toHeap) (hx w.toLibrary w.toHeap w.toHeap)

end Run.OnLibrary

theorem Load.onLibrary_plain (eng : Engine) (globals : List (String × Value)) (name : String) :
    Run.OnLibrary (template eng globals (.plain name)) := by
  intro L H H'
  rw [exec_plain, exec_plain]
  split
  · exact onLibrary_embedded globals name L H H'
  · split
    · rfl
    · exact onLibrary_named globals name L H H'

/-- Loading a template by its name leads the library on by steps, and leaves all else alone. -/
theorem Load.steps_of_template {eng : Engine} {globals : List (String × Value)} {name : String}
    {r : Except Fault TemplateId} {w w' : World}
    (hload : Run.exec (template eng globals (.plain name)) w = (r, w')) :
    Library.Steps w.toLibrary w'.toLibrary ∧ w'.toHeap = w.toHeap := by
  have hsteps := leads_template eng globals name w
  have hheap := (onLibrary_plain eng globals name).heap_eq w
  rw [Leads, hload] at hsteps
  rw [hload] at hheap
  exact ⟨hsteps, hheap⟩

/-! ## Lines in a library -/

/-- The texts of all sources that a loader can find. -/
def Loader.texts (l : Loader) (s : Store) : List String :=
  match l with
  | .absent => []
  | .named => s.named.map Prod.snd
  | .files _ encoding _ => s.files.filterMap fun f =>
    (Encoding.ofName? encoding).bind fun e =>
      (e.decode f.bytes).map fun cs => String.ofList (Text.unifyNewlines cs)

namespace Loader

theorem length_texts_le (l : Loader) (s : Store) :
    (l.texts s).length ≤ s.named.length + s.files.length := by
  cases l with
  | absent => exact Nat.zero_le _
  | named => rw [texts, List.length_map]; exact Nat.le_add_right _ _
  | files directories encoding followLinks =>
    exact Nat.le_trans (List.length_filterMap_le _ _) (Nat.le_add_left _ _)

theorem mem_of_search {s : Store} {pieces directories : List String} {f : StoredFile}
    (h : s.search pieces directories = some f) : f ∈ s.files := by
  induction directories with
  | nil => exact nomatch h
  | cons d ds ih =>
    rw [Store.search] at h
    split at h
    · rename_i g hg
      cases h
      exact List.mem_of_find?_eq_some hg
    · exact ih h

theorem code_mem_texts {l : Loader} {s : Store} {name : String} {source : FoundSource}
    (h : l.find s name = .ok source) : source.code ∈ l.texts s := by
  cases l with
  | absent => cases h
  | named => exact List.mem_map_of_mem (mem_of_lookup (lookup_of_find rfl h).1)
  | files directories encoding followLinks =>
    rw [find] at h
    split at h
    · cases h
    · split at h
      · cases h
      · rename_i f hf
        split at h
        · cases h
        · rename_i e he
          split at h
          · cases h
          · rename_i cs hcs
            cases h
            refine List.mem_filterMap.2 ⟨f, mem_of_search hf, ?_⟩
            rw [he, Option.bind_some, hcs, Option.map_some]

end Loader

namespace Library

variable {K L : Library} {ts : List (String × Template)} {e : String × Template}

/-- The present source of a name gives a tree. -/
def Reads (L : Library) (name : String) (t : Template) : Prop :=
  ∃ source p, L.Gives name source p ∧ p.template = t

theorem Reads.unique {name : String} {t t' : Template} (h : L.Reads name t) (h' : L.Reads name t') :
    t = t' := by
  obtain ⟨source, p, ⟨hfind, hparse⟩, rfl⟩ := h
  obtain ⟨source', p', ⟨hfind', hparse'⟩, rfl⟩ := h'
  cases hfind.symm.trans hfind'
  cases hparse.symm.trans hparse'
  rfl

/-- The tree that the present source of a name gives. -/
def read? (L : Library) (name : String) : Option Template :=
  (L.env.loader.find L.store name).toOption.bind fun source =>
    (L.env.options.language.parse (some name) source.code).toOption.map (·.template)

theorem reads_of_read {name : String} {t : Template} (h : L.read? name = some t) : L.Reads name t := by
  obtain ⟨source, hfind, h⟩ := Option.bind_eq_some_iff.1 h
  obtain ⟨p, hparse, hp⟩ := Option.map_eq_some_iff.1 h
  refine ⟨source, p, ⟨?_, ?_⟩, hp⟩
  · cases hr : L.env.loader.find L.store name with
    | error e => rw [hr] at hfind; cases hfind
    | ok found => rw [hr] at hfind; exact congrArg Except.ok (Option.some.inj hfind)
  · cases hr : L.env.options.language.parse (some name) source.code with
    | error e => rw [hr] at hparse; cases hparse
    | ok q => rw [hr] at hparse; exact congrArg Except.ok (Option.some.inj hparse)

/-- Inspection reads off the present source of a name what its template extends. -/
theorem Reads.exec_parent {w : World} {name : String} {t : Template} (h : w.toLibrary.Reads name t)
    {id : TemplateId} (hid : id.name = some name) :
    Run.exec (Inspect.parent? id) w = (.ok t.literalParent?, w) := by
  obtain ⟨source, p, ⟨hfind, hparse⟩, hp⟩ := h
  obtain ⟨source', hfind', hexec⟩ | ⟨f, g, hfind', -⟩ := Load.exec_find name w
  · cases hfind.symm.trans hfind'
    have hparents : (p.template.outline []).parents = .ok (Stmt.firstParent p.template.body) :=
      Stmt.parents_outline p.template.line p.template.body []
    rw [Inspect.parent?, hid]
    dsimp only
    rw [Run.exec_bind, hexec, Run.andThen_ok, Run.exec_bind, Load.exec_parse, hparse]
    dsimp only [Except.mapError]
    rw [Run.andThen_ok, hparents, ← hp, Template.literalParent_eq]
    cases Stmt.firstParent p.template.body <;> rfl
  · cases hfind.symm.trans hfind'

/-- A line of templates as the present sources give it. It does not come back to a name, and no name
leads to the registry. -/
structure Lineage (L : Library) (ts : List (String × Template)) : Prop where
  ascends : Template.Ascends ts
  reads : ∀ e ∈ ts, L.Reads e.1 e.2
  distinct : (ts.map Prod.fst).Nodup
  plain : ∀ e ∈ ts, Load.isKey L.env e.1 = false

/-- A cached template of a name of a line has the tree of the line if it counts as current. -/
def Present (L : Library) (ts : List (String × Template)) : Prop :=
  ∀ e ∈ ts, ∀ id t, (e.1, id) ∈ L.cache.entries → L.templates.lookup id = some t →
    L.store.isCurrent t.origin = true → t.tree = e.2

/-! ## How long a line is -/

/-- Trees that two names get from one text extend the same template. -/
theorem firstParent_of_code_eq {name name' : String} {source source' : FoundSource} {p p' : Parsed}
    (h : L.Gives name source p) (h' : L.Gives name' source' p') (hcode : source.code = source'.code) :
    Stmt.firstParent p.template.body = Stmt.firstParent p'.template.body := by
  obtain ⟨t, ht, rfl⟩ := Language.detach_of_parse h.2
  obtain ⟨t', ht', rfl⟩ := Language.detach_of_parse h'.2
  rw [hcode] at ht
  cases ht.symm.trans ht'
  exact (Stmt.firstParent_detachList _ _).trans (Stmt.firstParent_detachList _ _).symm

/-- The templates of a line have different texts: two of the same text would extend the same one. -/
theorem exists_codes (hup : Template.Ascends ts) (hreads : ∀ e ∈ ts, L.Reads e.1 e.2)
    (hdistinct : (ts.map Prod.fst).Nodup) :
    ∃ codes : List String, codes.length = ts.length ∧ codes.Nodup ∧ ∀ code ∈ codes,
      ∃ e ∈ ts, ∃ source p, L.Gives e.1 source p ∧ p.template = e.2 ∧ source.code = code := by
  induction hup with
  | top name h =>
    obtain ⟨source, p, hgives, hp⟩ := hreads _ List.mem_cons_self
    refine ⟨[source.code], rfl, List.nodup_singleton _, fun code hcode => ?_⟩
    exact ⟨_, List.mem_cons_self, source, p, hgives, hp, (List.mem_singleton.1 hcode).symm⟩
  | up name h hrest ih =>
    obtain ⟨source, p, hgives, hp⟩ := hreads _ List.mem_cons_self
    rw [List.map_cons, List.nodup_cons] at hdistinct
    obtain ⟨codes, hlength, hnodup, hcodes⟩ :=
      ih (fun e he => hreads e (List.mem_cons_of_mem _ he)) hdistinct.2
    refine ⟨source.code :: codes, congrArg (· + 1) hlength, List.nodup_cons.2 ⟨fun hmem => ?_, hnodup⟩,
      List.forall_mem_cons.2 ⟨⟨_, List.mem_cons_self, source, p, hgives, hp, rfl⟩, fun code hcode => ?_⟩⟩
    · -- a later template of this text would extend the second one, which comes before all it extends
      obtain ⟨e, he, source', p', hgives', hp', hcode⟩ := hcodes _ hmem
      have hparent := firstParent_of_code_eq hgives' hgives hcode
      rw [hp, hp', h.firstParent] at hparent
      have hnext := hrest.mem_tail he hparent
      rw [List.map_cons, List.nodup_cons] at hdistinct
      exact hdistinct.2.1 hnext
    · obtain ⟨e, he, hsource⟩ := hcodes code hcode
      exact ⟨e, List.mem_cons_of_mem _ he, hsource⟩

/-- There are at least as many sources as templates in a line. -/
theorem Lineage.length_le (h : L.Lineage ts) :
    ts.length ≤ L.store.named.length + L.store.files.length := by
  obtain ⟨codes, hlength, hnodup, hcodes⟩ := exists_codes h.ascends h.reads h.distinct
  have hsubset : codes ⊆ L.env.loader.texts L.store := by
    intro code hcode
    obtain ⟨e, -, source, p, hgives, -, rfl⟩ := hcodes code hcode
    exact Loader.code_mem_texts hgives.1
  rw [← hlength]
  exact Nat.le_trans (List.subperm_of_subset hnodup hsubset).length_le
    (Loader.length_texts_le L.env.loader L.store)

/-! ## Loading the templates of a line -/

/-- A loaded template of a line. -/
structure Holds (L : Library) (e : String × Template) (id : TemplateId) : Prop where
  name_eq : id.name = some e.1
  loaded : ∃ t, L.templates.lookup id = some t ∧ t.tree = e.2 ∧
    t.blocks = (Stmt.blocksOfList e.2.body).map fun b => (b.2.1, b.2.2.1)

theorem Holds.grown {id : TemplateId} (h : K.Holds e id) (hgrown : Grown K L) : L.Holds e id where
  name_eq := h.name_eq
  loaded := by
    obtain ⟨t, ht, htree, hblocks⟩ := h.loaded
    obtain ⟨t', ht', htree', hblocks', -⟩ := hgrown.lookup ht
    exact ⟨t', ht', htree'.trans htree, hblocks'.trans hblocks⟩

/-- A library that leads from the names of a line to its templates. -/
structure Settled (L : Library) (ts : List (String × Template)) : Prop where
  sourced : L.Sourced
  checked : L.Checked
  reloads : L.env.options.autoReload = true
  reads : ∀ e ∈ ts, L.Reads e.1 e.2
  plain : ∀ e ∈ ts, Load.isKey L.env e.1 = false
  present : L.Present ts

namespace Settled

/-- A step that makes a template caches what the present source gives. -/
theorem step (h : K.Settled ts) (hstep : Step K L) : L.Settled ts := by
  have hgrown := Grown.step h.sourced.numbered hstep
  -- what was cached before is loaded, and stays what it is
  have hkept {e : String × Template} (he : e ∈ ts) {id : TemplateId} {t : LoadedTemplate}
      (hid : (e.1, id) ∈ K.cache.entries) (ht : L.templates.lookup id = some t)
      (hcurrent : L.store.isCurrent t.origin = true) : t.tree = e.2 := by
    obtain ⟨source, p, hread⟩ := h.sourced.cached _ hid
    obtain ⟨u, hu, -⟩ := hread.loaded
    obtain ⟨u', hu', htree, -, horigin⟩ := hgrown.lookup hu
    cases ht.symm.trans hu'
    rw [horigin, hgrown.store_eq] at hcurrent
    exact htree.trans (h.present e he id u hid hu hcurrent)
  have hreads : ∀ e ∈ ts, L.Reads e.1 e.2 := fun e he => by
    obtain ⟨source, p, hgives, hp⟩ := h.reads e he
    exact ⟨source, p, hgrown.gives.2 hgives, hp⟩
  refine ⟨h.sourced.step hstep, h.checked.step hstep, hgrown.env_eq ▸ h.reloads, hreads,
    hgrown.env_eq ▸ h.plain, fun e he id t hid ht hcurrent => ?_⟩
  cases hstep with
  | use hget => exact hkept he ((TemplateCache.mem_of_get hget).2 _ hid) ht hcurrent
  | register _ => exact hkept he hid ht hcurrent
  | change _ _ _ => exact hkept he hid ht hcurrent
  | given _ _ _ => exact hkept he hid ht hcurrent
  | @found name source p globals hgives hverdict =>
    obtain hnew | hid := TemplateCache.mem_put hid
    · obtain ⟨rfl, rfl⟩ := Prod.mk.inj hnew
      dsimp only at ht
      rw [List.lookup_cons, beq_self_eq_true] at ht
      cases ht
      exact Reads.unique ⟨source, p, hgives, rfl⟩ (h.reads e he)
    · exact hkept he hid ht hcurrent

theorem steps (h : K.Settled ts) (hsteps : Steps K L) : L.Settled ts :=
  hsteps.keep (P := fun M => M.Settled ts) (fun _ _ hL hstep => hL.step hstep) h

theorem grown (h : K.Settled ts) (hsteps : Steps K L) : Grown K L :=
  h.sourced.grown hsteps

/-- The loader is asked for the names of a line. -/
theorem exec_load {w : World} (h : w.toLibrary.Settled ts) (he : e ∈ ts) (eng : Engine)
    (globals : List (String × Value)) :
    Run.exec (Load.template eng globals (.plain e.1)) w = Run.exec (Load.named globals e.1) w := by
  obtain ⟨source, p, ⟨hfind, -⟩, -⟩ := h.reads e he
  have hloader : (w.env.loader == .absent) = false := by
    refine beq_false_of_ne fun habsent => ?_
    rw [habsent] at hfind
    cases hfind
  rw [Load.exec_plain, h.plain e he, hloader, if_neg Bool.false_ne_true, if_neg Bool.false_ne_true]

/-- A loaded template is one that holds the tree, and has passed the check. -/
theorem holds (h : L.Settled ts) {name : String} {source : FoundSource} {p : Parsed}
    {id : TemplateId} (hread : L.ReadFrom name source p id) :
    L.Holds (name, p.template) id ∧ Load.verdict L.env p.template = .ok () := by
  obtain ⟨t, ht, htree, hblocks, -⟩ := hread.loaded
  exact ⟨⟨hread.name_eq, t, ht, htree, hblocks⟩, htree ▸ (h.checked _ (mem_of_lookup ht)).1⟩

/-- What is loaded by a name of a line is the template of the line, which has passed the check. -/
theorem load {w w' : World} (h : w.toLibrary.Settled ts) (he : e ∈ ts) {eng : Engine}
    {globals : List (String × Value)} {id : TemplateId}
    (hload : Run.exec (Load.template eng globals (.plain e.1)) w = (.ok id, w')) :
    w'.toLibrary.Holds e id ∧ Load.verdict w.env e.2 = .ok () := by
  obtain ⟨name, tree⟩ := e
  rw [h.exec_load he] at hload
  have hsteps := Load.leads_named globals name w
  rw [Load.Leads, hload] at hsteps
  have hgrown := h.grown hsteps
  have h' := h.steps hsteps
  rw [← hgrown.env_eq]
  obtain ⟨i, cache, t, hget, ht, hcurrent, hexec⟩ | ⟨cache, -, hexec⟩ :=
    Load.named_cases h.sourced globals name
  · rw [hexec] at hload
    cases hload
    have hmem := (TemplateCache.mem_of_get hget).1
    obtain ⟨source, p, hread⟩ := h.sourced.cached _ hmem
    obtain ⟨t', ht', htree, -⟩ := hread.loaded
    cases ht.symm.trans ht'
    cases (htree.symm.trans (h.present _ he _ t hmem ht (hcurrent h.reloads)) : p.template = tree)
    exact h'.holds (hread.grown hgrown)
  · rw [hexec] at hload
    obtain ⟨source, p, hread, hfind⟩ := Load.fresh_sourced hload
    have hparsed := hread.parsed
    rw [hgrown.env_eq] at hparsed
    cases Reads.unique (L := w.toLibrary) ⟨source, p, ⟨hfind, hparsed⟩, rfl⟩ (h.reads _ he)
    exact h'.holds hread

/-- A template of a line can be loaded if it passes the check. -/
theorem exists_load {w : World} (h : w.toLibrary.Settled ts) (he : e ∈ ts)
    (hverdict : Load.verdict w.env e.2 = .ok ()) (eng : Engine) (globals : List (String × Value)) :
    ∃ id w', Run.exec (Load.template eng globals (.plain e.1)) w = (.ok id, w') := by
  rw [h.exec_load he]
  obtain ⟨i, cache, t, -, -, -, hexec⟩ | ⟨cache, -, hexec⟩ := Load.named_cases h.sourced globals e.1
  · exact ⟨i, _, hexec⟩
  · obtain ⟨source, p, hgives, hp⟩ := h.reads e he
    rw [hexec, Load.exec_fresh (w := { w with cache }) hgives globals, hp]
    dsimp only
    rw [hverdict]
    exact ⟨_, _, rfl⟩

/-- Inspection reads off the present source what the loaded template extends. -/
theorem parent {w : World} (h : w.toLibrary.Settled ts) (he : e ∈ ts) {id : TemplateId}
    (hid : id.name = some e.1) :
    Run.exec (Inspect.parent? id) w = (.ok e.2.literalParent?, w) :=
  (h.reads e he).exec_parent hid

end Settled

/-- Named sources are cached as they are: a template counts as current only if its text is that of
the present source. -/
theorem present_of_named (hloader : L.env.loader = .named) (hsourced : L.Sourced)
    (hreads : ∀ e ∈ ts, L.Reads e.1 e.2) : L.Present ts := by
  intro e he id t hid ht hcurrent
  obtain ⟨source, p, hread⟩ := hsourced.cached _ hid
  obtain ⟨t', ht', htree, -, horigin⟩ := hread.loaded
  cases ht.symm.trans ht'
  obtain ⟨store, hfound⟩ := hread.found
  have hnamed := (Loader.lookup_of_find hloader hfound).2
  rw [horigin, hnamed] at hcurrent
  -- the name still has the text that the template was read from
  have hlookup : L.store.named.lookup e.1 = some source.code := beq_iff_eq.1 hcurrent
  obtain ⟨present, q, ⟨hfind, hparse⟩, hq⟩ := hreads e he
  have hcode := (Loader.lookup_of_find hloader hfind).1
  rw [hlookup] at hcode
  rw [← Option.some.inj hcode, hread.parsed] at hparse
  cases hparse
  exact htree.trans hq

end Library

end Stencil
