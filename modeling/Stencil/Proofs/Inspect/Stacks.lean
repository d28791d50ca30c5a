import Stencil.Proofs.Inspect.Lineage
import Stencil.Proofs.Simulation.Keyed

/-!
# The blocks of a line of templates

A context begins with the blocks of one template, and gets those of the templates above it one after
the other: the definitions of each block are a stack with the nearest on top. Stacks that come from
the same trees hold the same definitions, whichever versions of the templates they belong to.

Inspection puts the blocks of a whole line of templates into a context.

## Main definitions

- `Library.Stacked`: the stacks of a line of loaded templates
- `Library.SameDef`: definitions that come from the same tree

## Key results

- `Library.Stacked.keyed`: the stacks of a line hold the same definitions
- `Inspect.exec_addAncestors`: inspection builds the stacks of a line
-/

namespace Stencil

/-- The names of the blocks of a tree. -/
def Template.blockNames (t : Template) : List String :=
  (Stmt.blocksOfList t.body).map fun b => b.2.1

namespace Run

/-- The definitions that a template brings into a new context. -/
def ownDefs (id : TemplateId) (names : List String) : List (String × List BlockDef) :=
  names.map fun n => (n, [⟨id, n⟩])

/-- The definitions of a template behind those that are there. -/
def addDefs (id : TemplateId) (names : List String) (table : List (String × List BlockDef)) :
    List (String × List BlockDef) :=
  names.foldl (fun all n => setNamed n ((all.lookup n).getD [] ++ [⟨id, n⟩]) all) table

/-- A new context has the blocks of its template. -/
theorem exec_freshContext {w : World} {id : TemplateId} {t : LoadedTemplate}
    (ht : w.templates.lookup id = some t) (data : List (String × Value)) :
    ∃ ctx, ctx.blocks = ownDefs id (t.blocks.map Prod.fst) ∧
      exec (freshContext id data) w =
        (.ok w.contexts.size, { w with contexts := w.contexts.push ctx }) := by
  let ctx : Context :=
    { parent := data ++ Load.globalsOf t
      name := id.name
      globalKeys := ((Load.globalsOf t).map (·.1)).eraseDups
      blocks := t.blocks.map fun b => (b.1, [⟨id, b.1⟩])
      autoescape := w.env.options.autoescape }
  refine ⟨ctx, ?_, ?_⟩
  · rw [ownDefs, List.map_map]
    rfl
  · rw [freshContext, exec_bind, exec_template, ht]
    dsimp only
    rw [andThen_ok, contextFor, exec_bind, exec_template, ht]
    rfl

/-- Blocks that are appended change one context. -/
theorem exec_appendBlocks {w : World} {id : TemplateId} {t : LoadedTemplate}
    (ht : w.templates.lookup id = some t) (context : Nat) :
    exec (appendBlocks context id) w = (.ok (), { w with
      contexts := w.contexts.modify context fun c => { c with
        blocks := addDefs id (t.blocks.map Prod.fst) c.blocks } }) := by
  rw [appendBlocks, exec_bind, exec_template, ht]
  dsimp only
  rw [andThen_ok]
  simp only [addDefs, List.foldl_map]
  rfl

end Run

/-! ## Stacks -/

namespace Library

variable {K L L' : Library} {e : String × Template} {es : List (String × Template)}
  {T T' : List (String × List BlockDef)}

/-- The stacks of a line of loaded templates, the last template first. -/
inductive Stacked (L : Library) : List (String × Template) → List (String × List BlockDef) → Prop
  | own {e : String × Template} {id : TemplateId} (h : L.Holds e id) :
      Stacked L [e] (Run.ownDefs id e.2.blockNames)
  | above {e : String × Template} {id : TemplateId} {es : List (String × Template)}
      {T : List (String × List BlockDef)} (hbelow : Stacked L es T) (h : L.Holds e id) :
      Stacked L (e :: es) (Run.addDefs id e.2.blockNames T)

theorem Stacked.grown (h : K.Stacked es T) (hgrown : Grown K L) : L.Stacked es T := by
  induction h with
  | own h => exact .own (h.grown hgrown)
  | above _ h ih => exact .above ih (h.grown hgrown)

/-- Definitions of the same block in templates of the same name and tree. -/
structure SameDef (L L' : Library) (d d' : BlockDef) : Prop where
  name_eq : d'.name = d.name
  template_eq : d'.template.name = d.template.name
  loaded : ∃ t t', L.templates.lookup d.template = some t ∧
    L'.templates.lookup d'.template = some t' ∧ t'.tree = t.tree ∧ t'.blocks = t.blocks

theorem Holds.sameDef {id id' : TemplateId} (h : L.Holds e id) (h' : L'.Holds e id') (n : String) :
    SameDef L L' ⟨id, n⟩ ⟨id', n⟩ where
  name_eq := rfl
  template_eq := h'.name_eq.trans h.name_eq.symm
  loaded := by
    obtain ⟨t, ht, htree, hblocks⟩ := h.loaded
    obtain ⟨t', ht', htree', hblocks'⟩ := h'.loaded
    exact ⟨t, t', ht, ht', htree'.trans htree.symm, hblocks'.trans hblocks.symm⟩

theorem Holds.blockNames_eq {id : TemplateId} (h : L.Holds e id) :
    ∃ t, L.templates.lookup id = some t ∧ t.tree = e.2 ∧ t.blocks.map Prod.fst = e.2.blockNames := by
  obtain ⟨t, ht, htree, hblocks⟩ := h.loaded
  refine ⟨t, ht, htree, ?_⟩
  rw [hblocks, List.map_map]
  rfl

/-- Definitions of templates with the same tree, put behind such definitions. -/
theorem keyed_addDefs {id id' : TemplateId} (h : L.Holds e id) (h' : L'.Holds e id')
    (names : List String) (hT : Keyed (List.Forall₂ (SameDef L L')) T T') :
    Keyed (List.Forall₂ (SameDef L L')) (Run.addDefs id names T) (Run.addDefs id' names T') := by
  unfold Run.addDefs
  induction names generalizing T T' with
  | nil => exact hT
  | cons n ns ih =>
    rw [List.foldl_cons, List.foldl_cons]
    refine ih (hT.setNamed n (List.rel_append ?_ (.cons (h.sameDef h' n) .nil)))
    obtain ⟨hds, hds'⟩ | ⟨ds, ds', hds, hds', hrel⟩ := hT.lookup n
    · rw [hds, hds']
      exact .nil
    · rw [hds, hds']
      exact hrel

/-- The stacks of a line hold the same definitions in the same order. -/
theorem Stacked.keyed (h : L.Stacked es T) (h' : L'.Stacked es T') :
    Keyed (List.Forall₂ (SameDef L L')) T T' := by
  induction h generalizing T' with
  | own h =>
    cases h' with
    | own h' => exact .of_names (fun n => .cons (h.sameDef h' n) .nil) _
    | above hbelow _ => cases hbelow
  | above hbelow h ih =>
    cases h' with
    | own h' => cases hbelow
    | above hbelow' h' => exact keyed_addDefs h h' _ (ih hbelow')

end Library

/-! ## Contexts with the blocks of a line -/

/-- A context has the blocks of a line of templates, the last one first. -/
def World.Built (w : World) (context : Nat) (es : List (String × Template)) : Prop :=
  ∃ ctx, w.contexts[context]? = some ctx ∧ w.toLibrary.Stacked es ctx.blocks

namespace World.Built

variable {w : World} {context : Nat} {es : List (String × Template)} {e : String × Template}
  {id : TemplateId}

/-- Loading templates does nothing to a context. -/
theorem loaded (h : w.Built context es) {w' : World} (hheap : w'.toHeap = w.toHeap)
    (hgrown : Library.Grown w.toLibrary w'.toLibrary) : w'.Built context es := by
  obtain ⟨ctx, hctx, hstacked⟩ := h
  refine ⟨ctx, ?_, hstacked.grown hgrown⟩
  rw [hheap]
  exact hctx

theorem of_freshContext (hid : w.toLibrary.Holds e id) (data : List (String × Value)) :
    ∃ w', Run.exec (Run.freshContext id data) w = (.ok w.contexts.size, w') ∧
      w'.toLibrary = w.toLibrary ∧ w'.Built w.contexts.size [e] := by
  obtain ⟨t, ht, -, hnames⟩ := hid.blockNames_eq
  obtain ⟨ctx, hblocks, hexec⟩ := Run.exec_freshContext ht data
  refine ⟨_, hexec, rfl, ctx, Array.getElem?_push_size, ?_⟩
  rw [hblocks, hnames]
  exact .own hid

theorem appendBlocks (h : w.Built context es) (hid : w.toLibrary.Holds e id) :
    ∃ contexts, Run.exec (Run.appendBlocks context id) w = (.ok (), { w with contexts }) ∧
      World.Built { w with contexts } context (e :: es) := by
  obtain ⟨ctx, hctx, hstacked⟩ := h
  obtain ⟨t, ht, -, hnames⟩ := hid.blockNames_eq
  refine ⟨_, Run.exec_appendBlocks ht context,
    { ctx with blocks := Run.addDefs id (t.blocks.map Prod.fst) ctx.blocks }, ?_, ?_⟩
  · change (w.contexts.modify context _)[context]? = _
    rw [Array.getElem?_modify, if_pos rfl, hctx]
    rfl
  · change w.toLibrary.Stacked (e :: es) (Run.addDefs id (t.blocks.map Prod.fst) ctx.blocks)
    rw [hnames]
    exact .above hstacked hid

end World.Built

/-! ## Going up a line -/

namespace Inspect

variable {w : World} {id : TemplateId} {e : String × Template} {ts rest : List (String × Template)}

/-- The blocks of the last template of a line are there already. -/
theorem exec_addAncestors_top (h : w.toLibrary.Settled ts) (he : e ∈ ts)
    (hid : id.name = some e.1) (hnone : Stmt.anyExtends e.2.body = false) (eng : Engine)
    (context fuel : Nat) (seen : List String) :
    Run.exec (addAncestors eng context (fuel + 1) seen id) w = (.ok (), w) := by
  rw [addAncestors, Run.exec_bind, h.parent he hid, Template.literalParent_of_anyExtends hnone]
  rfl

/-- From any other template one goes on to the next one. -/
theorem exec_addAncestors_up (h : w.toLibrary.Settled ts) (he : e ∈ ts) (hid : id.name = some e.1)
    {next : String} (hext : e.2.Extends next) {seen : List String} (hseen : next ∉ seen)
    (eng : Engine) (context fuel : Nat) :
    Run.exec (addAncestors eng context (fuel + 1) seen id) w =
      Run.andThen (Run.exec (Load.template eng [] (.plain next)) w) fun id w =>
        Run.andThen (Run.exec (Run.appendBlocks context id) w) fun _ w =>
          Run.exec (addAncestors eng context fuel (next :: seen) id) w := by
  have hcontains : seen.contains next = false := by
    rw [List.contains_eq_mem, decide_eq_false hseen]
  rw [addAncestors, Run.exec_bind, h.parent he hid, hext.literalParent, Run.andThen_ok]
  simp only [hcontains, Bool.false_eq_true, if_false, Run.exec_bind, Run.exec_record,
    Run.andThen_ok]

/-- A line has distinct names: after its first one was met, all others are still to come. -/
theorem unseen_tail {d : String × Template} (hdistinct : ((d :: rest).map Prod.fst).Nodup)
    {seen : List String} (hseen : ∀ x ∈ d :: rest, x.1 ∉ seen) : ∀ x ∈ rest, x.1 ∉ d.1 :: seen := by
  rw [List.map_cons, List.nodup_cons] at hdistinct
  intro x hx hmem
  obtain heq | hmem := List.mem_cons.1 hmem
  · exact hdistinct.1 (List.mem_map.2 ⟨x, hx, heq⟩)
  · exact hseen x (List.mem_cons_of_mem _ hx) hmem

/-- Inspection builds the stacks of a line whose templates pass the check. -/
theorem exec_addAncestors (hup : Template.Ascends (e :: rest)) (hsub : e :: rest ⊆ ts)
    (h : w.toLibrary.Settled ts) (hverdict : ∀ d ∈ rest, Load.verdict w.env d.2 = .ok ())
    (hdistinct : (rest.map Prod.fst).Nodup) {seen : List String}
    (hseen : ∀ d ∈ rest, d.1 ∉ seen) (hid : w.toLibrary.Holds e id) {context fuel : Nat}
    {done : List (String × Template)} (hbuilt : w.Built context (e :: done))
    (hfuel : rest.length < fuel) (eng : Engine) :
    ∃ w', Run.exec (addAncestors eng context fuel seen id) w = (.ok (), w') ∧
      w'.Built context (rest.reverse ++ e :: done) := by
  obtain ⟨fuel, rfl⟩ : ∃ n, fuel = n + 1 := ⟨fuel - 1, by omega⟩
  -- up the line: `done` are the templates below, whose blocks are in the context already
  induction rest generalizing e w id seen done fuel with
  | nil =>
    cases hup with
    | top name hnone =>
      exact ⟨w, exec_addAncestors_top h (hsub List.mem_cons_self) hid.name_eq hnone eng context _ seen,
        hbuilt⟩
  | cons d rest ih =>
    cases hup with
    | @up name t t' next _ hext hrest =>
      rw [List.length_cons] at hfuel
      -- the next template can be loaded, since it passes the check
      have hd : (next, t') ∈ ts := hsub (List.mem_cons_of_mem _ List.mem_cons_self)
      obtain ⟨id', u, hload⟩ :=
        h.exists_load hd (hverdict _ List.mem_cons_self) eng []
      obtain ⟨hid', -⟩ := h.load hd hload
      obtain ⟨hsteps, hheap⟩ := Load.steps_of_template hload
      have hgrown := h.grown hsteps
      obtain ⟨contexts, happend, hbuilt'⟩ := (hbuilt.loaded hheap hgrown).appendBlocks hid'
      -- what is left of the line is above it
      have hverdict' : ∀ x ∈ rest, Load.verdict u.env x.2 = .ok () := by
        intro x hx
        rw [hgrown.env_eq]
        exact hverdict x (List.mem_cons_of_mem _ hx)
      obtain ⟨fuel, rfl⟩ : ∃ n, fuel = n + 1 := ⟨fuel - 1, by omega⟩
      obtain ⟨w', hexec, hresult⟩ := ih (w := { u with contexts }) hrest
        (fun x hx => hsub (List.mem_cons_of_mem _ hx)) (h.steps hsteps) hverdict'
        (List.nodup_cons.1 hdistinct).2 (unseen_tail hdistinct hseen) hid' hbuilt' fuel (by omega)
      refine ⟨w', ?_, ?_⟩
      · rw [exec_addAncestors_up h (hsub List.mem_cons_self) hid.name_eq hext
          (hseen _ List.mem_cons_self), hload, Run.andThen_ok, happend, Run.andThen_ok]
        exact hexec
      · rw [List.reverse_cons, List.append_assoc]
        exact hresult

end Inspect

end Stencil
