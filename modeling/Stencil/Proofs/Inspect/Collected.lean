import Mathlib.Data.List.Nodup
import Stencil.Proofs.Inspect.Climb

/-!
# What is collected on the way up

Every template on the way up is noted as it is loaded, and its blocks are put behind those that were
there. A block that is defined in several templates so gets its definitions in the order in which the
templates were met, one from each: the check sees to it that no template defines a block twice.

## Main definitions

- `Run.attachments`: the templates that a computation extends
- `Library.defsOf`: the definitions of a block in some templates
- `World.Lists`: a context with the definitions of some templates

## Key results

- `Run.lookup_addDefs`: what the blocks of a template change in a table of definitions
- `Inspect.Path.attachments_eq`: the templates that are noted are those on the way
- `Inspect.Path.lists`: the definitions that are collected on a way
-/

namespace Stencil

variable {α β : Type}

/-! ## Templates that are noted -/

/-- The name of the template that is extended in an event, or asked for its module. -/
def Event.attached? : Event → Option (Option String)
  | .attachment name => some name
  | _ => none

namespace Run

/-- The names of the templates that a computation extends, or asks for their modules, in order. -/
def attachments (x : Run α) (w : World) : List (Option String) :=
  ((events x w).filterMap Event.attached?).reverse

theorem attachments_bind (x : Run α) (f : α → Run β) (w : World) :
    attachments (x >>= f) w = attachments x w ++
      (match exec x w with
        | (.ok a, w) => attachments (f a) w
        | (.error _, _) => []) := by
  rw [attachments, events_bind, List.filterMap_append, List.reverse_append]
  cases exec x w with
  | mk r w' => cases r <;> rfl

/-- A computation that extends no template. -/
def Unattached (x : Run α) : Prop :=
  ∀ w, attachments x w = []

namespace Unattached

theorem pure (a : α) : Unattached (pure a) :=
  fun _ => rfl

theorem throw (f : Fault) : Unattached (throw f : Run α) :=
  fun _ => rfl

theorem get : Unattached (get : Run World) :=
  fun _ => rfl

theorem modify (f : World → World) : Unattached (modify f : Run PUnit) :=
  fun _ => rfl

/-- What follows need only be looked at for the results that there can be. -/
theorem bind_of {x : Run α} {f : α → Run β} {P : α → Prop} (hx : Unattached x)
    (hP : ∀ {w a w'}, exec x w = (.ok a, w') → P a) (hf : ∀ a, P a → Unattached (f a)) :
    Unattached (x >>= f) := by
  intro w
  rw [attachments_bind, hx w]
  cases hr : exec x w with
  | mk r w' =>
    cases r with
    | error e => rfl
    | ok a => exact hf a (hP hr) w'

theorem bind {x : Run α} {f : α → Run β} (hx : Unattached x) (hf : ∀ a, Unattached (f a)) :
    Unattached (x >>= f) :=
  bind_of (P := fun _ => True) hx (fun _ => trivial) fun a _ => hf a

theorem ite {c : Prop} [Decidable c] {x y : Run α} (hx : Unattached x) (hy : Unattached y) :
    Unattached (if c then x else y) := by
  split
  · exact hx
  · exact hy

theorem mapM {f : α → Run β} (hf : ∀ a, Unattached (f a)) (as : List α) :
    Unattached (as.mapM f) := by
  induction as with
  | nil => exact .pure _
  | cons a as ih =>
    rw [List.mapM_cons]
    exact (hf a).bind fun _ => ih.bind fun _ => .pure _

end Unattached

end Run

namespace Load

open Run (Unattached)

theorem unattached_find (name : String) : Unattached (find name) := by
  refine .bind .get fun w => .ite (.throw _) ?_
  split
  · exact .pure _
  all_goals exact .throw _

theorem unattached_parse (name : Option String) (code : String) : Unattached (parse name code) := by
  refine .bind .get fun w => ?_
  split
  · exact .pure _
  · exact .throw _

theorem unattached_compile (host : Option String) (p : Parsed) : Unattached (compile host p) := by
  refine .bind .get fun w => .ite (.bind (.modify _) fun _ => .bind .get fun w => ?_)
    (.bind .get fun w => ?_)
  all_goals
    split
    · exact .pure _
    · exact .throw _

theorem unattached_instantiate (name : Option String) (tree : Template)
    (globals : List (String × Value)) (origin : Origin) :
    Unattached (instantiate name tree globals origin) :=
  fun _ => rfl

theorem unattached_fresh (globals : List (String × Value)) (name : String) :
    Unattached (fresh globals name) := by
  refine (unattached_find name).bind fun source => .bind (.bind (fun _ => rfl) fun _ => ?_) fun _ =>
    .bind (.modify _) fun _ => .pure _
  exact (unattached_parse _ _).bind fun p => (unattached_compile _ p).bind fun _ =>
    unattached_instantiate _ _ _ _

theorem unattached_kept (id : TemplateId) (globals : List (String × Value)) :
    Unattached (do addGlobals id globals; return id) :=
  .bind (.modify _) fun _ => .pure id

theorem unattached_named (globals : List (String × Value)) (name : String) :
    Unattached (named globals name) := by
  refine .bind .get fun w => ?_
  split
  · exact unattached_fresh globals name
  · rename_i id cache _
    refine .bind (.modify _) fun _ => .bind .get fun w => .bind ?_ fun t =>
      .ite (unattached_kept id globals) (unattached_fresh globals name)
    refine .bind .get fun w => ?_
    split
    · exact .pure _
    · exact .throw _

theorem unattached_embedded (globals : List (String × Value)) (key : String) :
    Unattached (embedded globals key) := by
  refine .bind .get fun w => ?_
  split
  · exact .bind (.modify _) fun _ => unattached_kept _ globals
  · refine .bind .get fun w => ?_
    split
    · exact .throw _
    · exact (unattached_compile _ _).bind fun _ => (unattached_instantiate _ _ _ _).bind fun _ =>
        .bind (.modify _) fun _ => .pure _

/-- Loading a template by its name extends none. -/
theorem unattached_plain (eng : Engine) (globals : List (String × Value)) (name : String) :
    Unattached (template eng globals (.plain name)) := by
  refine .bind .get fun w => .ite (.bind (fun _ => rfl) fun _ => unattached_embedded globals name) ?_
  exact .bind .get fun w => .ite (.throw _) (.bind (fun _ => rfl) fun _ => unattached_named globals name)

theorem unattached_ofDatum (fuel : Nat) (d : Datum) : Unattached (Value.ofDatum fuel d) := by
  induction fuel generalizing d with
  | zero => exact .throw _
  | succ fuel ih =>
    cases d with
    | list items =>
      rw [Value.ofDatum]
      exact (Unattached.mapM ih items).bind fun _ _ => rfl
    | object fields =>
      rw [Value.ofDatum]
      refine (Unattached.mapM (fun field => ?_) fields).bind fun _ => .pure _
      obtain ⟨key, value⟩ := field
      exact (ih value).bind fun _ => .pure _
    | _ => exact .pure _

/-- What is no text is refused before anything is done with it, or it shows as a literal. -/
theorem unattached_notName (eng : Engine) {v : Value} (hv : v.Textless) :
    Unattached (notName eng v) := by
  refine .bind .get fun w => .ite (.throw _) ?_
  cases hv with
  | list _ | dict _ => exact fun _ => rfl
  | _ =>
    exact .bind (fun _ => rfl) fun _ => .ite (.throw _) (.bind (fun _ => rfl) fun _ => .throw _)

/-- Loading what a literal names extends no template. -/
theorem unattached_literal (eng : Engine) (d : Datum) : Unattached (literal eng d) := by
  cases hd : d.text? with
  | some name =>
    cases d with
    | text name => exact unattached_plain eng [] name
    | _ => cases hd
  | none =>
    rw [literal]
    refine Unattached.bind_of (unattached_ofDatum valueDepth d) (textless_ofDatum hd) fun v hv => ?_
    rw [template_textless hv]
    exact Unattached.get.bind fun w => .ite (.throw _) (unattached_notName eng hv)

end Load

/-! ## Tables of definitions -/

/-- Where a name has a value it gets another one. -/
theorem Run.lookup_replace (name : String) (a : α) (table : List (String × α)) (b : String) :
    (table.map fun e => if e.1 == name then (name, a) else e).lookup b =
      if b = name then (table.lookup b).map fun _ => a else table.lookup b := by
  induction table with
  | nil => split <;> rfl
  | cons e es ih =>
    rw [List.map_cons, List.lookup_cons]
    by_cases he : e.1 = name
    · rw [if_pos (beq_iff_eq.2 he), List.lookup_cons, he]
      by_cases hb : b = name
      · rw [if_pos hb, beq_iff_eq.2 hb]
        rfl
      · rw [beq_false_of_ne hb, if_neg hb, ih, if_neg hb]
    · rw [if_neg fun h => he (beq_iff_eq.1 h), List.lookup_cons]
      by_cases hb : b = e.1
      · rw [beq_iff_eq.2 hb, if_neg fun h => he (hb.symm.trans h)]
      · rw [beq_false_of_ne hb, ih]

/-- Setting a name changes the value of this name only. -/
theorem Run.lookup_setNamed (name : String) (a : α) (table : List (String × α)) (b : String) :
    (Run.setNamed name a table).lookup b = if b = name then some a else table.lookup b := by
  unfold Run.setNamed
  split
  · rename_i hany
    rw [lookup_replace]
    by_cases hb : b = name
    · obtain ⟨e, he, hname⟩ := List.any_eq_true.1 hany
      rw [if_pos hb, if_pos hb]
      cases hlookup : table.lookup b with
      | some c => rfl
      | none =>
        have hne := List.lookup_eq_none_iff.1 hlookup e he
        exact absurd (hb.trans (beq_iff_eq.1 hname).symm) (bne_iff_ne.1 hne)
    · rw [if_neg hb, if_neg hb]
  · rename_i hany
    rw [List.lookup_append]
    by_cases hb : b = name
    · have hnone : table.lookup b = none := by
        refine List.lookup_eq_none_iff.2 fun e he => bne_iff_ne.2 fun heq => ?_
        exact hany (List.any_eq_true.2 ⟨e, he, beq_iff_eq.2 (heq.symm.trans hb)⟩)
      rw [hnone, if_pos hb, hb, Option.none_or, List.lookup_cons_self]
    · rw [if_neg hb, List.lookup_cons, beq_false_of_ne hb, List.lookup_nil, Option.or_none]

/-- The blocks of a template come behind those of the same name, and change nothing else. -/
theorem Run.lookup_addDefs (id : TemplateId) {names : List String} (hnames : names.Nodup)
    (table : List (String × List BlockDef)) (b : String) :
    ((addDefs id names table).lookup b).getD [] =
      (table.lookup b).getD [] ++ if b ∈ names then [⟨id, b⟩] else [] := by
  unfold addDefs
  induction names generalizing table with
  | nil => simp
  | cons n ns ih =>
    rw [List.nodup_cons] at hnames
    rw [List.foldl_cons, ih hnames.2, lookup_setNamed]
    by_cases hb : b = n
    · subst hb
      simp [hnames.1]
    · simp [hb]

theorem Run.lookup_ownDefs (id : TemplateId) (names : List String) (b : String) :
    ((ownDefs id names).lookup b).getD [] = if b ∈ names then [⟨id, b⟩] else [] := by
  unfold ownDefs
  induction names with
  | nil => rfl
  | cons n ns ih =>
    rw [List.map_cons, List.lookup_cons]
    by_cases hb : b = n
    · simp [hb]
    · rw [beq_false_of_ne hb]
      simp only [ih, List.mem_cons, hb, false_or]

/-- A tree that passes the check does not define a block twice. -/
theorem Check.nodup_of_repeatedBlock {seen : List String} {blocks : List (Nat × String)}
    (h : repeatedBlock? seen blocks = none) :
    (blocks.map Prod.snd).Nodup ∧ ∀ name ∈ blocks.map Prod.snd, name ∉ seen := by
  induction blocks generalizing seen with
  | nil => exact ⟨List.nodup_nil, fun _ hname => absurd hname List.not_mem_nil⟩
  | cons b bs ih =>
    obtain ⟨line, name⟩ := b
    rw [repeatedBlock?] at h
    split at h
    · cases h
    · rename_i hseen
      obtain ⟨hnodup, hnew⟩ := ih h
      have hname : name ∉ seen := fun hmem => hseen (List.contains_iff_mem.2 hmem)
      rw [List.map_cons, List.nodup_cons]
      refine ⟨⟨fun hmem => hnew name hmem List.mem_cons_self, hnodup⟩, fun n hn => ?_⟩
      obtain rfl | hn := List.mem_cons.1 hn
      · exact hname
      · exact fun hmem => hnew n hn (List.mem_cons_of_mem _ hmem)

theorem Load.nodup_blockNames {env : Environment} {t : Template} (h : verdict env t = .ok ()) :
    t.blockNames.Nodup := by
  have hnone : Check.repeatedBlock? [] ((Stmt.blocksOfList t.body).map fun b => (b.1, b.2.1)) =
      none := by
    rw [verdict, Check.template] at h
    split at h
    · cases h
    · assumption
  have hnodup := (Check.nodup_of_repeatedBlock hnone).1
  rwa [List.map_map] at hnodup

/-! ## Definitions of a block -/

namespace Library

variable {K L : Library} {id : TemplateId} {ids : List TemplateId} {name : String}

/-- A loaded template defines a block. -/
def Defines (L : Library) (block : String) (id : TemplateId) : Bool :=
  (L.templates.lookup id).any fun t => t.tree.blockNames.contains block

/-- The definitions of a block in some templates, in order. -/
def defsOf (L : Library) (ids : List TemplateId) (block : String) : List BlockDef :=
  (ids.filter (L.Defines block)).map fun id => ⟨id, block⟩

theorem defsOf_append (L : Library) (ids ids' : List TemplateId) (block : String) :
    L.defsOf (ids ++ ids') block = L.defsOf ids block ++ L.defsOf ids' block := by
  rw [defsOf, List.filter_append, List.map_append]
  rfl

theorem Loaded.grown (h : K.Loaded id name) (hgrown : Grown K L) : L.Loaded id name := by
  obtain ⟨t, ht⟩ := h.present
  obtain ⟨t', ht', -⟩ := hgrown.lookup ht
  exact ⟨h.name_eq, t', ht'⟩

/-- Loaded templates keep their blocks. -/
theorem Loaded.defines_grown (h : K.Loaded id name) (hgrown : Grown K L) (block : String) :
    L.Defines block id = K.Defines block id := by
  obtain ⟨t, ht⟩ := h.present
  obtain ⟨t', ht', htree, -⟩ := hgrown.lookup ht
  rw [Defines, Defines, ht, ht', Option.any_some, Option.any_some, htree]

theorem defsOf_grown (h : ∀ id ∈ ids, ∃ name, K.Loaded id name) (hgrown : Grown K L)
    (block : String) : L.defsOf ids block = K.defsOf ids block := by
  rw [defsOf, defsOf]
  congr 1
  refine List.filter_congr fun id hid => ?_
  obtain ⟨name, hloaded⟩ := h id hid
  exact hloaded.defines_grown hgrown block

/-- A loaded template has each of its blocks once, by name. -/
theorem Checked.blocks_eq (h : L.Checked) {t : LoadedTemplate}
    (ht : L.templates.lookup id = some t) :
    t.blocks.map Prod.fst = t.tree.blockNames ∧ t.tree.blockNames.Nodup := by
  obtain ⟨hverdict, hblocks⟩ := h _ (mem_of_lookup ht)
  refine ⟨?_, Load.nodup_blockNames hverdict⟩
  rw [hblocks, List.map_map]
  rfl

theorem defsOf_singleton {t : LoadedTemplate} (ht : L.templates.lookup id = some t)
    (block : String) :
    L.defsOf [id] block = if block ∈ t.tree.blockNames then [⟨id, block⟩] else [] := by
  by_cases hmem : block ∈ t.tree.blockNames
  · have hdefines : L.Defines block id = true := by
      rw [Defines, ht, Option.any_some]
      exact List.contains_iff_mem.2 hmem
    rw [defsOf, List.filter_cons_of_pos hdefines, if_pos hmem]
    rfl
  · have hdefines : ¬ L.Defines block id = true := by
      rw [Defines, ht, Option.any_some]
      exact fun h => hmem (List.contains_iff_mem.1 h)
    rw [defsOf, List.filter_cons_of_neg hdefines, if_neg hmem]
    rfl

end Library

/-! ## Contexts -/

open Library (Loaded Grown)

/-- A context has the definitions of some loaded templates, and nothing else. -/
structure World.Lists (w : World) (context : Nat) (ids : List TemplateId) : Prop where
  loaded : ∀ id ∈ ids, ∃ name, w.toLibrary.Loaded id name
  blocks : ∃ ctx, w.contexts[context]? = some ctx ∧
    ∀ block, (ctx.blocks.lookup block).getD [] = w.toLibrary.defsOf ids block

namespace World.Lists

variable {w w' : World} {context : Nat} {ids : List TemplateId} {id : TemplateId} {name : String}

/-- Loading templates changes no definitions. -/
theorem grown (h : w.Lists context ids) (hheap : w'.toHeap = w.toHeap)
    (hgrown : Grown w.toLibrary w'.toLibrary) : w'.Lists context ids := by
  obtain ⟨ctx, hctx, hblocks⟩ := h.blocks
  refine ⟨fun id hid => ?_, ctx, ?_, fun block => ?_⟩
  · obtain ⟨name, hloaded⟩ := h.loaded id hid
    exact ⟨name, hloaded.grown hgrown⟩
  · rw [hheap]
    exact hctx
  · rw [hblocks block, Library.defsOf_grown h.loaded hgrown]

/-- A new context has the definitions of its template. -/
theorem of_freshContext (hchecked : w.toLibrary.Checked) (hid : w.toLibrary.Loaded id name)
    {data : List (String × Value)}
    (h : Run.exec (Run.freshContext id data) w = (.ok context, w')) : w'.Lists context [id] := by
  obtain ⟨t, ht⟩ := hid.present
  obtain ⟨hnames, hnodup⟩ := hchecked.blocks_eq ht
  obtain ⟨ctx, hblocks, hexec⟩ := Run.exec_freshContext ht data
  rw [hexec] at h
  cases h
  refine ⟨fun i hi => ⟨name, List.mem_singleton.1 hi ▸ hid⟩, ctx, Array.getElem?_push_size,
    fun block => ?_⟩
  rw [hblocks, hnames, Run.lookup_ownDefs, Library.defsOf_singleton ht]

/-- What inspection begins with is the context of the loaded template, with its definitions alone. -/
theorem of_load (horder : w.toLibrary.InOrder) {eng : Engine}
    (hload : Run.exec (Load.template eng [] (.plain name)) w = (.ok id, w'))
    {data : List (String × Value)} {w'' : World}
    (hcontext : Run.exec (Run.freshContext id data) w' = (.ok context, w'')) :
    w''.Lists context [id] :=
  .of_freshContext (Load.inOrder_template horder hload).checked (Load.loaded_template horder hload)
    hcontext

/-- The definitions of a template come behind those that are there. -/
theorem appendBlocks (h : w.Lists context ids) (hchecked : w.toLibrary.Checked)
    (hid : w.toLibrary.Loaded id name)
    (hexec : Run.exec (Run.appendBlocks context id) w = (.ok (), w')) :
    w'.Lists context (ids ++ [id]) := by
  obtain ⟨t, ht⟩ := hid.present
  obtain ⟨hnames, hnodup⟩ := hchecked.blocks_eq ht
  obtain ⟨ctx, hctx, hblocks⟩ := h.blocks
  rw [Run.exec_appendBlocks ht] at hexec
  cases hexec
  refine ⟨fun i hi => ?_,
    { ctx with blocks := Run.addDefs id (t.blocks.map Prod.fst) ctx.blocks }, ?_, fun block => ?_⟩
  · obtain hi | hi := List.mem_append.1 hi
    · exact h.loaded i hi
    · exact ⟨name, List.mem_singleton.1 hi ▸ hid⟩
  · change (w.contexts.modify context _)[context]? = _
    rw [Array.getElem?_modify, if_pos rfl, hctx]
    rfl
  · rw [hnames, Run.lookup_addDefs id hnodup, hblocks block, Library.defsOf_append,
      Library.defsOf_singleton ht]

end World.Lists

/-! ## Collecting on the way -/

namespace Inspect

open Run (attachments Unattached)

variable {L : Library} {eng : Engine} {context : Nat} {start : String} {done : List String}
  {p q : Place} {ids before : List TemplateId} {result : Except Fault Unit × World}

theorem unattached_parent (id : TemplateId) : Unattached (parent? id) := by
  unfold parent?
  split
  · exact .pure _
  · refine (Load.unattached_find _).bind fun source => (Load.unattached_parse _ _).bind fun p => ?_
    split <;> exact .pure _

theorem unattached_appendBlocks (context : Nat) (id : TemplateId) :
    Unattached (Run.appendBlocks context id) := by
  refine .bind (.bind .get fun w => ?_) fun t => .modify _
  split
  · exact .pure _
  · exact .throw _

/-- The template that a step up leads to is noted. -/
theorem Up.attachments_eq (h : Up eng context p q) :
    attachments (addAncestors eng context p.fuel p.seen p.current) p.world =
      q.current.name :: attachments (addAncestors eng context q.fuel q.seen q.current) q.world := by
  cases h with
  | @step fuel seen name above current id w w₁ w₂ hparent hnew hload hblocks =>
    have hends : endsAt seen (some (.text above)) = false := hnew
    have hnone := unattached_parent current w
    have hquiet := Load.unattached_plain eng [] above w
    dsimp only
    rw [addAncestors_succ, Run.attachments_bind, hnone, hparent]
    dsimp only
    rw [hends, if_neg Bool.false_ne_true, Load.literal_text, Run.attachments_bind, hquiet, hload]
    dsimp only
    rw [Run.attachments_bind, Run.exec_record]
    dsimp only
    rw [Run.attachments_bind, unattached_appendBlocks context id w₁, hblocks]
    rfl

/-- Nothing is noted where the way ends. -/
theorem Place.Stops.attachments_eq (h : p.Stops eng result) (hfuel : 0 < p.fuel) :
    attachments (addAncestors eng context p.fuel p.seen p.current) p.world = [] := by
  obtain ⟨fuel, hfuel⟩ : ∃ n, p.fuel = n + 1 := ⟨p.fuel - 1, by omega⟩
  rw [hfuel, addAncestors_succ, Run.attachments_bind, unattached_parent p.current p.world]
  cases h with
  | @top parent hparent hends =>
    rw [hparent]
    cases parent with
    | none => rfl
    | some d =>
      dsimp only
      rw [hends, if_pos rfl]
      rfl
  | lost hparent =>
    rw [hparent]
    rfl
  | @refused d f w hparent hends hload =>
    rw [hparent]
    dsimp only
    rw [hends, if_neg Bool.false_ne_true, Run.attachments_bind,
      Load.unattached_literal eng d p.world, hload]
    rfl

namespace Path

/-- The templates that are noted are those on the way. -/
theorem attachments_eq (h : Path eng context p ids q) :
    attachments (addAncestors eng context p.fuel p.seen p.current) p.world =
      ids.map TemplateId.name ++
        attachments (addAncestors eng context q.fuel q.seen q.current) q.world := by
  induction h with
  | here p => rfl
  | up h _ ih => rw [h.attachments_eq, ih, List.map_cons, List.cons_append]

/-- The definitions of the templates on the way are put behind those that were there. -/
theorem lists (h : Path eng context p ids q) (hp : p.OnWay L start done)
    (hlists : p.world.Lists context before) : q.world.Lists context (before ++ ids) := by
  induction h generalizing done before with
  | here p => rwa [List.append_nil]
  | @up p q r ids h _ ih =>
    have hq := h.onWay hp
    have hnext : q.world.Lists context (before ++ [q.current]) := by
      cases h with
      | @step fuel seen name above current id w w₁ w₂ hparent hnew hload hblocks =>
        obtain ⟨hsteps, hheap⟩ := Load.steps_of_template hload
        have horder := Load.inOrder_template hp.inOrder hload
        have hgrown : Grown w.toLibrary w₁.toLibrary := hp.inOrder.sourced.grown hsteps
        have hloaded := Load.loaded_template hp.inOrder hload
        exact (hlists.grown hheap hgrown).appendBlocks horder.checked hloaded hblocks
    have hrest := ih hq hnext
    rwa [List.append_assoc] at hrest

end Path

end Inspect

end Stencil
