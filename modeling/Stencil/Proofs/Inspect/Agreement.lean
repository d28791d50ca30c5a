import Stencil.Proofs.Inspect.InfoBlock
import Stencil.Proofs.Inspect.Silent

/-!
# Inspection and rendering agree

Inspection collects the blocks of a line of templates without running any of them, and rendering
collects them while it runs. Where the last template of the line begins, both have built the same
stacks; and where nothing else is written on the way, both give the same text.

## Main definitions

- `Inspect.collected`: what inspection does before it looks for a block
- `Run.opened`: what rendering does before the body of the template

## Key results

- `Inspect.collected_as_rendered`: both have built the same stacks where the last template begins
- `Inspect.data_as_rendered`: both give the same text where nothing else is written on the way
- `Workspace.inspection_as_rendering`: inspection agrees with rendering in every reachable workspace
-/

namespace Stencil

namespace Inspect

/-- A context with the blocks of a template and of all its ancestors. -/
def collected (name : String) : Run Nat := do
  let id ← Load.template .standard [] (.plain name)
  let context ← Run.freshContext id []
  let store := (← get).store
  addAncestors .standard context (store.named.length + store.files.length + 2) id.name.toList id
  return context

/-- Pattern data is what the block writes in the context that was collected. -/
theorem data_eq_collected (infoBlock name : String) :
    data .standard infoBlock name = (do
      let context ← collected name
      if (← Value.blockDefs context infoBlock).isEmpty then return none
      return some (← Run.capture (Engine.standard.block infoBlock 0 context))) := by
  simp only [data, dataOf, collected, bind_assoc, pure_bind]

end Inspect

/-- A template that is loaded for rendering, and its context. -/
def Run.opened (depth : Nat) (name : String) (globals context : List (String × Datum)) :
    Run (TemplateId × Nat) := do
  let id ← Load.template (.ofDepth depth) (← Workspace.values globals) (.plain name)
  let c ← Run.freshContext id (← Workspace.values context)
  return (id, c)

theorem Workspace.renderAt_eq_opened (depth : Nat) (name : String)
    (globals context : List (String × Datum)) :
    renderAt depth name globals context = perform (do
      let (id, c) ← Run.opened depth name globals context
      Run.capture ((Engine.ofDepth depth).root id c)) .fault := by
  simp only [renderAt, Run.renderAt, Run.opened, bind_assoc, pure_bind]

/-! ## The same stacks -/

section Lines

variable {w w' : World} {e : String × Template} {rest : List (String × Template)}

/-- Every template of a line has been loaded where the stacks of the line are built. -/
theorem Library.Stacked.holds {L : Library} {es : List (String × Template)}
    {T : List (String × List BlockDef)} (h : L.Stacked es T) : ∀ d ∈ es, ∃ id, L.Holds d id := by
  induction h with
  | own h => exact List.forall_mem_cons.2 ⟨⟨_, h⟩, fun _ hd => absurd hd List.not_mem_nil⟩
  | above _ h ih => exact List.forall_mem_cons.2 ⟨⟨_, h⟩, ih⟩

/-- Inspection of a line begins with the name of its first template, which does not come again. -/
theorem Library.Lineage.unseen {L : Library} (h : L.Lineage (e :: rest)) {id : TemplateId}
    (hid : id.name = some e.1) :
    (rest.map Prod.fst).Nodup ∧ ∀ d ∈ rest, d.1 ∉ id.name.toList := by
  have hdistinct := h.distinct
  rw [List.map_cons, List.nodup_cons] at hdistinct
  refine ⟨hdistinct.2, fun d hd hmem => ?_⟩
  rw [hid, Option.toList_some, List.mem_singleton] at hmem
  exact hdistinct.1 (List.mem_map.2 ⟨d, hd, hmem⟩)

/-- A template that has been loaded has passed the check. -/
theorem Library.Holds.verdict {L : Library} {id : TemplateId} (h : L.Holds e id) (hL : L.Checked) :
    Load.verdict L.env e.2 = .ok () := by
  obtain ⟨t, ht, htree, -⟩ := h.loaded
  exact htree ▸ (hL _ (mem_of_lookup ht)).1

/-- Inspection begins with a context that has the blocks of the first template of a line. -/
theorem Inspect.exec_start (hts : w.toLibrary.Settled (e :: rest)) {id : TemplateId} {w₁ : World}
    {eng : Engine} (hload : Run.exec (Load.template eng [] (.plain e.1)) w = (.ok id, w₁)) :
    ∃ c w₂, Run.exec (Run.freshContext id []) w₁ = (.ok c, w₂) ∧ id.name = some e.1 ∧
      Library.Steps w.toLibrary w₂.toLibrary ∧ w₂.toLibrary.Holds e id ∧ w₂.Built c [e] ∧
      w₂.toHeap = { w.toHeap with contexts := w₂.contexts } := by
  obtain ⟨hid, -⟩ := hts.load List.mem_cons_self hload
  obtain ⟨hsteps, hheap⟩ := Load.steps_of_template hload
  obtain ⟨w₂, hcontext, hlibrary, hbuilt⟩ := World.Built.of_freshContext hid []
  refine ⟨_, w₂, hcontext, hid.name_eq, hlibrary ▸ hsteps, hlibrary ▸ hid, hbuilt, ?_⟩
  obtain ⟨t, ht, -⟩ := hid.loaded
  obtain ⟨ctx, -, hexec⟩ := Run.exec_freshContext ht []
  cases hcontext.symm.trans hexec
  rw [← hheap]

/-- Inspection builds the stacks of a line whose templates pass the check. -/
theorem Inspect.exec_collected (hline : w.toLibrary.Lineage (e :: rest))
    (hts : w.toLibrary.Settled (e :: rest))
    (hverdict : ∀ d ∈ e :: rest, Load.verdict w.env d.2 = .ok ()) :
    ∃ c u, Run.exec (collected e.1) w = (.ok c, u) ∧ u.Built c (e :: rest).reverse := by
  obtain ⟨id, w₁, hload⟩ :=
    hts.exists_load List.mem_cons_self (hverdict e List.mem_cons_self) .standard []
  obtain ⟨c, w₂, hcontext, hname, hsteps, hid, hbuilt, -⟩ := exec_start hts hload
  have hgrown := hts.grown hsteps
  obtain ⟨hdistinct, hseen⟩ := hline.unseen hname
  have hlength := hline.length_le
  rw [← hgrown.store_eq, List.length_cons] at hlength
  have hverdict₂ : ∀ d ∈ rest, Load.verdict w₂.env d.2 = .ok () := by
    rw [hgrown.env_eq]
    exact fun d hd => hverdict d (List.mem_cons_of_mem _ hd)
  -- a line has distinct names, each with a source, so that the walk ends at its last template
  have hfuel : rest.length < w₂.store.named.length + w₂.store.files.length + 2 := by omega
  obtain ⟨u, hcollect, hresult⟩ := exec_addAncestors hline.ascends (List.Subset.refl _)
    (hts.steps hsteps) hverdict₂ hdistinct hseen hid hbuilt hfuel .standard
  refine ⟨c, u, ?_, ?_⟩
  · rw [collected, Run.exec_bind, hload, Run.andThen_ok, Run.exec_bind, hcontext, Run.andThen_ok,
      Run.exec_bind, Run.exec_get, Run.andThen_ok, Run.exec_bind, hcollect, Run.andThen_ok,
      Run.exec_pure]
  · rwa [List.reverse_cons]

/-- A computation that corresponds to itself goes on by steps from a closed state to a closed state. -/
theorem World.Closed.exec_of_agree {α : Type} {x : Run α} (hx : (Invariant.stepwise.twin {}).Agree x x)
    {n : Nat} (hw : w.Closed n) :
    Library.Steps w.toLibrary (Run.exec x w).2.toLibrary ∧ ∃ m, (Run.exec x w).2.Closed m := by
  have hsees : Watch.Sees {} w :=
    { pins := fun _ _ h => by cases h
      holds := fun _ _ h => by cases h }
  obtain ⟨hsteps, hclosed, -⟩ := Invariant.exec_stepwise hw (fun _ => rfl) (fun h => h) hsees (hx _)
  exact ⟨hsteps, hclosed⟩

/-- A sequence that succeeds has gone through a closed state behind its first computation. -/
theorem World.Closed.exists_of_bind {α β : Type} {x : Run α} {f : α → Run β}
    (hx : (Invariant.stepwise.twin {}).Agree x x) {n : Nat} (hw : w.Closed n) {b : β}
    (h : Run.exec (x >>= f) w = (.ok b, w')) :
    ∃ a u, Run.exec x w = (.ok a, u) ∧ Run.exec (f a) u = (.ok b, w') ∧
      Library.Steps w.toLibrary u.toLibrary ∧ ∃ m, u.Closed m := by
  rw [Run.exec_bind] at h
  obtain ⟨a, u, hfirst, hrest⟩ := Run.exists_of_andThen h
  have hgone := hw.exec_of_agree hx
  rw [hfirst] at hgone
  exact ⟨a, u, hfirst, hrest, hgone⟩

/-- What is stored speaks of functions only, whatever else there is. -/
theorem World.Closed.elsewhere {n : Nat} (h : w.Closed n) (L : Library) (contexts : Array Context)
    (sinks : List Sink) : World.Closed n { w with toLibrary := L, contexts, sinks } where
  started := h.started
  outer := h.outer
  iterators := h.iterators
  loops := h.loops
  macros := h.macros

/-- Rendering begins with a context that has the blocks of the first template of a line. -/
theorem Run.opened_ok (hts : w.toLibrary.Settled (e :: rest)) {n : Nat} (hclosed : w.Closed n)
    {depth : Nat} {globals context : List (String × Datum)} {id : TemplateId} {c : Nat}
    (h : exec (opened depth e.1 globals context) w = (.ok (id, c), w')) :
    Library.Steps w.toLibrary w'.toLibrary ∧ w'.toLibrary.Holds e id ∧ (∃ m, w'.Closed m) ∧
      w'.Built c [e] := by
  rw [opened] at h
  -- the globals
  obtain ⟨gs, w₁, -, h, hsteps₁, n₁, hclosed₁⟩ :=
    hclosed.exists_of_bind (Simulation.agree_fields globals) h
  have hts₁ := hts.steps hsteps₁
  -- the template
  have hagree : (Invariant.stepwise.twin {}).Agree (Load.template (.ofDepth depth) gs (.plain e.1))
      (Load.template (.ofDepth depth) gs (.plain e.1)) :=
    Invariant.agree_load Invariant.upkeep_stepwise gs e.1
  obtain ⟨i, w₂, hload, h, hsteps₂, n₂, hclosed₂⟩ := hclosed₁.exists_of_bind hagree h
  obtain ⟨hid, -⟩ := hts₁.load List.mem_cons_self hload
  have hts₂ := hts₁.steps hsteps₂
  -- the data, and a context for them
  obtain ⟨data, w₃, -, h, hsteps₃, n₃, hclosed₃⟩ :=
    hclosed₂.exists_of_bind (Simulation.agree_fields context) h
  have hid₃ := hid.grown (hts₂.grown hsteps₃)
  obtain ⟨t, ht, -⟩ := hid₃.loaded
  obtain ⟨w₄, hcontext, hlibrary, hbuilt⟩ := World.Built.of_freshContext hid₃ data
  obtain ⟨ctx, -, hexec⟩ := exec_freshContext ht data
  rw [exec_bind, hcontext, andThen_ok, exec_pure] at h
  cases h
  cases hcontext.symm.trans hexec
  exact ⟨hsteps₁.trans (hsteps₂.trans hsteps₃), hid₃,
    ⟨n₃, hclosed₃.elsewhere w₃.toLibrary (w₃.contexts.push ctx) w₃.sinks⟩, hbuilt⟩

/-- Where the last template of a line begins, inspection and rendering have built the same stacks. -/
theorem Inspect.collected_as_rendered (hline : w.toLibrary.Lineage (e :: rest))
    (hts : w.toLibrary.Settled (e :: rest)) {n : Nat} (hclosed : w.Closed n) {depth : Nat}
    {globals context : List (String × Datum)} {id : TemplateId} {c : Nat} {w₁ : World}
    (hopened : Run.exec (Run.opened depth e.1 globals context) w = (.ok (id, c), w₁)) {depth' : Nat}
    {id' : TemplateId}
    (harrives : Run.Arrives c depth id { w₁ with sinks := {} :: w₁.sinks } depth' id' w')
    (hlast : id'.name = some ((e :: rest).getLast (List.cons_ne_nil e rest)).1) :
    ∃ c' u ctx ctx', Run.exec (collected e.1) w = (.ok c', u) ∧ u.contexts[c']? = some ctx' ∧
      w'.contexts[c]? = some ctx ∧
      Keyed (List.Forall₂ (Library.SameDef u.toLibrary w'.toLibrary)) ctx'.blocks ctx.blocks := by
  obtain ⟨hsteps₁, hid, ⟨m, hclosed₁⟩, hbuilt⟩ := Run.opened_ok hts hclosed hopened
  have hstart : World.Built { w₁ with sinks := {} :: w₁.sinks } c (e :: []) := hbuilt
  obtain ⟨before, d, after, hsplit, hsteps₂, hid', ctx, hctx, hstacked⟩ :=
    harrives.built hline.ascends (List.Subset.refl _) (hts.steps hsteps₁)
      (hclosed₁.elsewhere w₁.toLibrary w₁.contexts ({} :: w₁.sinks)) hid hstart
  -- only the last template of the line has its name
  have hafter : after = [] := by
    by_contra hne
    have hmem : (e :: rest).getLast (List.cons_ne_nil e rest) ∈ after := by
      simp only [hsplit]
      rw [List.getLast_append_of_ne_nil _ (List.cons_ne_nil d after), List.getLast_cons hne]
      exact List.getLast_mem hne
    have hdistinct := hline.distinct
    rw [hsplit, List.map_append, List.map_cons, List.nodup_append, List.nodup_cons] at hdistinct
    have hname : d.1 = ((e :: rest).getLast (List.cons_ne_nil e rest)).1 :=
      Option.some.inj (hid'.name_eq.symm.trans hlast)
    exact hdistinct.2.1.1 (hname ▸ List.mem_map_of_mem hmem)
  subst hafter
  rw [List.append_nil, ← List.reverse_concat, ← hsplit] at hstacked
  -- rendering has loaded all of the line, so that inspection can load it too
  have hgrown := hts.grown (hsteps₁.trans hsteps₂)
  have hchecked := hts.checked.steps (hsteps₁.trans hsteps₂)
  have hverdict : ∀ x ∈ e :: rest, Load.verdict w.env x.2 = .ok () := by
    intro x hx
    obtain ⟨i, hi⟩ := hstacked.holds x (List.mem_reverse.2 hx)
    rw [← hgrown.env_eq]
    exact hi.verdict hchecked
  obtain ⟨c', u, hcollected, ctx', hctx', hstacked'⟩ := exec_collected hline hts hverdict
  exact ⟨c', u, ctx, ctx', hcollected, hctx', hctx, hstacked'.keyed hstacked⟩

end Lines

/-! ## The same text -/

/-- Functions from a number on have a higher number on the right. -/
def Watch.shift (n m : Nat) (loose : Prop) : Watch where
  slot a := if a < n then a else a + m
  slot_injective {a b} h := by
    split at h <;> split at h <;> omega
  loose := loose

/-- A computation gives the same where other functions have run before, unless it runs out of depth
there. -/
theorem Invariant.result_shifted {α : Type} {w : World} {n m : Nat} (hn : w.activations.size = n)
    (hw : w.Closed n) {activations : Array Activation} (hsize : activations.size = n + m)
    (hsame : ∀ i < n, activations[i]? = w.activations[i]?) {loose : Prop} {x x' : Run α}
    (hx : (stepwise.twin (Watch.shift n m loose)).Agree x x') :
    (loose ∧ (Run.exec x' { w with activations }).1 = .error (.accident .tooDeep)) ∨
      (Run.exec x' { w with activations }).1 = (Run.exec x w).1 := by
  have hacts : ∀ i, activations[(Watch.shift n m loose).slot i]? = w.activations[i]? := by
    intro i
    change activations[if i < n then i else i + m]? = _
    split
    · rename_i hi
      exact hsame i hi
    · rename_i hi
      rw [Array.getElem?_eq_none (by omega), Array.getElem?_eq_none (by omega)]
  have hrel : (stepwise.twin (Watch.shift n m loose)).Rel (w.toLibrary, n) w { w with activations } := by
    refine rel_of_closed hw rfl (fun a ha => if_pos ha) hacts (fun i => ?_)
      { pins := fun _ _ h => (by cases h), holds := fun _ _ h => (by cases h) }
    change (if w.activations.size + i < n then _ else _) = _
    rw [if_neg (by omega)]
    omega
  -- nothing is heard that this simulation excludes
  obtain ⟨_, -, hbad⟩ | ho := hx _ _ _ hrel
  · exact hbad.elim
  generalize Run.exec x w = r, Run.exec x' { w with activations } = r' at ho ⊢
  cases ho with
  | deep _ w' hl => exact .inl ⟨hl, rfl⟩
  | done _ _ hab => exact .inr (congrArg Except.ok hab)
  | failed _ _ hf => exact .inr (congrArg Except.error (hf.eq (fun _ _ h => h) fun _ _ h => h))

/-- A block gives the same where other functions have run before, unless there is not as much depth
left. -/
theorem Run.capture_shifted {w : World} (hw : w.Closed w.activations.size)
    {activations : Array Activation} (hsize : w.activations.size ≤ activations.size)
    (hsame : ∀ i < w.activations.size, activations[i]? = w.activations[i]?) {depth : Nat}
    (hdepth : depth ≤ Engine.callDepth) (name : String) (context : Nat) :
    ((exec (capture ((Engine.ofDepth depth).block name 0 context)) { w with activations }).1 =
        .error (.accident .tooDeep) ∧ depth < Engine.callDepth) ∨
      (exec (capture ((Engine.ofDepth depth).block name 0 context)) { w with activations }).1 =
        (exec (capture (Engine.standard.block name 0 context)) w).1 := by
  obtain ⟨m, hm⟩ := Nat.exists_eq_add_of_le hsize
  let v := Watch.shift w.activations.size m (depth < Engine.callDepth)
  have hlaws := (Invariant.upkeep_stepwise.laws : (Invariant.stepwise.twin v).Laws)
  have hown := (Invariant.upkeep_stepwise.ownLaw : (Invariant.stepwise.twin v).OwnLaw)
  have heng : (Invariant.stepwise.twin v).EngRel .standard (.ofDepth depth) := by
    -- with less depth the second computation may give up, and with the same it does not
    obtain hless | heq := Nat.lt_or_eq_of_le hdepth
    · obtain ⟨d, hd⟩ := Nat.exists_eq_add_of_le hdepth
      rw [Engine.standard, hd]
      exact Simulation.engRel_ofDepth_of_loose hlaws hown hless depth d
    · rw [heq]
      exact Simulation.engRel_ofDepth hlaws hown Engine.callDepth
  have hagree : (Invariant.stepwise.twin v).Agree (capture (Engine.standard.block name 0 context))
      (capture ((Engine.ofDepth depth).block name 0 context)) :=
    fun k => Simulation.sim_capture (heng.block name 0 context k)
  obtain ⟨hless, hdeep⟩ | hresult := Invariant.result_shifted rfl hw hm hsame hagree
  · exact .inl ⟨hdeep, hless⟩
  · exact .inr hresult

/-- A context has definitions of the blocks that a line of templates has. -/
theorem Library.Stacked.lookup_ne_nil {L : Library} (hL : L.Checked) {es : List (String × Template)}
    {T : List (String × List BlockDef)} (h : L.Stacked es T) {d : String × Template} (hd : d ∈ es)
    {n : String} (hn : n ∈ d.2.blockNames) : (T.lookup n).getD [] ≠ [] := by
  induction h with
  | own h =>
    rw [List.mem_singleton.1 hd] at hn
    rw [Run.lookup_ownDefs, if_pos hn]
    exact List.cons_ne_nil _ _
  | above _ h ih =>
    rw [Run.lookup_addDefs _ (Load.nodup_blockNames (h.verdict hL))]
    obtain rfl | hd := List.mem_cons.1 hd
    · rw [if_pos hn]
      exact List.append_ne_nil_of_right_ne_nil _ (List.cons_ne_nil _ _)
    · exact List.append_ne_nil_of_left_ne_nil (ih hd) _

theorem Template.IsBlock.mem_blockNames {t : Template} {name : String} (h : t.IsBlock name) :
    name ∈ t.blockNames := by
  obtain ⟨l, body, hbody⟩ := h
  rw [Template.blockNames, hbody]
  exact List.mem_cons_self

/-- The last template of a line extends nothing. -/
theorem Template.Ascends.anyExtends_getLast {ts : List (String × Template)} (h : Ascends ts)
    {hne : ts ≠ []} : Stmt.anyExtends (ts.getLast hne).2.body = false := by
  induction h with
  | top name hnone => exact hnone
  | up name _ _ ih => exact ih

/-- The check of a block that is defined passes. -/
theorem Run.exec_checkBlock {w : World} {context : Nat} {ctx : Context}
    (hctx : w.contexts[context]? = some ctx) {name : String}
    (hdefs : (ctx.blocks.lookup name).getD [] ≠ []) :
    exec (checkBlock context name false) w = (.ok (), w) := by
  have hisEmpty : ((ctx.blocks.lookup name).getD []).isEmpty = false :=
    eq_false_of_ne_true fun h => hdefs (List.isEmpty_iff.1 h)
  simp only [checkBlock, Value.blockDefs, exec_bind, exec_context hctx, andThen_ok, exec_pure,
    Bool.false_and, Bool.false_eq_true, if_false, hisEmpty]

/-- A block in the body of a template that has not extended another writes its nearest definition. -/
theorem Run.exec_runBlockHere {w : World} {f : Frame} (htop : f.toplevel = true)
    (hactivation : f.activation = w.activations.size) {ctx : Context}
    (hctx : w.contexts[f.context]? = some ctx) {name : String}
    (hdefs : (ctx.blocks.lookup name).getD [] ≠ []) (eng : Engine) :
    exec (runBlockHere eng f name false false) (w.within [] none) =
      exec (eng.block name 0 f.context) (w.within [] none) := by
  have hisExtended := exec_isExtended_within [] none hactivation
  have hcheck := exec_checkBlock (w := w.within [] none) hctx hdefs
  simp only [runBlockHere, htop, Bool.true_and, exec_bind, hisExtended, andThen_ok,
    Option.isSome_none, Bool.false_eq_true, if_false, blockContext, exec_pure, hcheck, keepEscaping]
  generalize exec (eng.block name 0 f.context) (w.within [] none) = r
  obtain ⟨r, u⟩ := r
  cases r <;> rfl

/-- A template that consists of a block gives what the nearest definition of the block writes. -/
theorem Run.exec_runRoot_block {w : World} {e : String × Template} {name : String}
    (hblock : e.2.IsBlock name) (hnone : Stmt.anyExtends e.2.body = false) {id : TemplateId}
    (hid : w.toLibrary.Holds e id) {n : Nat} (hclosed : w.Closed n) {context : Nat} {ctx : Context}
    (hctx : w.contexts[context]? = some ctx) (hdefs : (ctx.blocks.lookup name).getD [] ≠ [])
    (depth : Nat) :
    exec (runRoot (.ofDepth depth) id context) w =
      exec ((Engine.ofDepth depth).block name 0 context) (w.within [] none) := by
  obtain ⟨t, ht, htree, -⟩ := hid.blockNames_eq
  obtain ⟨l, body, hbody⟩ := hblock
  rw [runRoot, exec_bind, exec_runOwn ht, htree, hbody]
  generalize hf : ownFrame w id [.block l name body false false] w.activations.size context = f
  have hactivation : f.activation = w.activations.size := hf ▸ rfl
  have hcontext : f.context = context := hf ▸ rfl
  have hopening : exec (do
      provideSelf f !(Undeclared.find ["self"] [.block l name body false false]).isEmpty
      enter f) { w with activations := w.activations.push { base := 0 } } =
        (.ok (), w.within [] none) := by
    subst hf
    rfl
  -- the body extends nothing, so that there is nothing to run behind it
  have hstart := World.Runs.start hclosed hctx
  rw [hbody] at hnone
  have hextended := (hstart.exec_stmts hactivation depth hnone).2.extended_eq
  have hstmts : exec (runStmts (.ofDepth depth) f [.block l name body false false])
      (w.within [] none) =
        andThen (exec ((Engine.ofDepth depth).block name 0 context) (w.within [] none)) fun _ u =>
          (.ok .next, u) := by
    have hhere := exec_runBlockHere (hf ▸ rfl : f.toplevel = true) hactivation
      (hcontext.symm ▸ hctx) hdefs (.ofDepth depth)
    rw [hcontext] at hhere
    rw [runStmts, exec_bind, runStmt, andNext, exec_bind, hhere]
    generalize exec ((Engine.ofDepth depth).block name 0 context) (w.within [] none) = r
    obtain ⟨r, u⟩ := r
    cases r <;> rfl
  rw [hopening, andThen_ok, hstmts]
  change (Run.exec _ (w.within [] none)).2.activations[_]?.bind _ = none at hextended
  rw [hstmts] at hextended
  generalize exec ((Engine.ofDepth depth).block name 0 context) (w.within [] none) = r at hextended ⊢
  obtain ⟨r, u⟩ := r
  cases r with
  | error f => rfl
  | ok _ =>
    simp only [andThen_ok] at hextended ⊢
    rw [hextended]
    rfl

namespace Run

theorem exec_capture_error {x : Run Unit} {w u : World} {f : Fault}
    (h : exec x { w with sinks := {} :: w.sinks } = (.error f, u)) :
    exec (capture x) w = (.error f, u) := by
  simp only [capture, collect, exec_bind, exec_modify, andThen_ok, h, andThen_error]

/-- What is captured depends on how the computation ends only. -/
theorem exec_capture_eq {x y : Run Unit} {w w' : World}
    (h : exec x { w with sinks := {} :: w.sinks } = exec y { w' with sinks := {} :: w'.sinks }) :
    exec (capture x) w = exec (capture y) w' := by
  simp only [capture, collect, exec_bind, exec_modify, andThen_ok, h]

end Run

/-- The last template of a line gives in the state that rendering has come to what its block gives in
the state that inspection has come to, as far as there is depth. -/
theorem Run.capture_arrived {w u : World} (hclosed : w.Closed w.activations.size)
    (hheap : u.toHeap = { w.toHeap with contexts := u.contexts }) {activations : Array Activation}
    (hsize : w.activations.size ≤ activations.size)
    (hsame : ∀ i < w.activations.size, activations[i]? = w.activations[i]?)
    (houter : ∀ i act, w.activations.size ≤ i → activations[i]? = some act → act.outer = none)
    {e : String × Template} {block : String} (hblock : e.2.IsBlock block)
    (hnone : Stmt.anyExtends e.2.body = false) {id : TemplateId} (hid : u.toLibrary.Holds e id)
    {context : Nat} {ctx : Context} (hctx : u.contexts[context]? = some ctx)
    (hdefs : (ctx.blocks.lookup block).getD [] ≠ []) {depth : Nat} {x : Run Unit}
    (hx : exec x { w with sinks := {} :: w.sinks } =
      exec (runRoot (.ofDepth depth) id context) (u.beside activations ({} :: w.sinks)))
    (hdepth : depth ≤ Engine.callDepth) :
    ((exec (capture x) w).1 = .error (.accident .tooDeep) ∧ depth < Engine.callDepth) ∨
      (exec (capture x) w).1 = (exec (capture (Engine.standard.block block 0 context)) u).1 := by
  obtain ⟨L, H⟩ := u
  obtain ⟨contexts, rfl⟩ : ∃ contexts, H = { w.toHeap with contexts } := ⟨_, hheap⟩
  have hu : World.Closed w.activations.size { w with toLibrary := L, contexts } :=
    hclosed.elsewhere L contexts w.sinks
  -- the functions that have run on the way keep nothing
  have hbeside : World.Closed w.activations.size
      { w with toLibrary := L, contexts, activations, sinks := {} :: w.sinks } :=
    { hu with
      started := hsize
      outer := fun {a b act} ha hb => by
        by_cases hlt : a < w.activations.size
        · rw [hsame a hlt] at ha
          exact hclosed.outer ha hb
        · rw [houter a act (Nat.le_of_not_lt hlt) ha] at hb
          cases hb }
  -- what is left to run on this side is the block alone
  have hroot := exec_runRoot_block hblock hnone (w := World.beside ⟨L, { w.toHeap with contexts }⟩
    activations ({} :: w.sinks)) hid hbeside hctx hdefs depth
  rw [hroot] at hx
  have hcapture : exec (capture x) w = exec (capture ((Engine.ofDepth depth).block block 0 context))
      { w with toLibrary := L, contexts, activations := activations.push { base := 0 } } :=
    exec_capture_eq hx
  rw [hcapture]
  have hsize' : w.activations.size ≤ (activations.push { base := 0 }).size := by
    rw [Array.size_push]
    exact Nat.le_succ_of_le hsize
  have hsame' : ∀ i < w.activations.size,
      (activations.push { base := 0 })[i]? = w.activations[i]? := by
    intro i hi
    rw [Array.getElem?_push, if_neg (by omega), hsame i hi]
  exact capture_shifted (w := { w with toLibrary := L, contexts }) hu hsize' hsame' hdepth block context

/-- Inspection gives for a line of templates that write nothing, but for the block in the last of them,
what rendering gives, as far as there is depth. -/
theorem Inspect.data_as_rendered {w : World} {e : String × Template} {rest : List (String × Template)}
    (hline : w.toLibrary.Lineage (e :: rest)) (hts : w.toLibrary.Settled (e :: rest)) {n : Nat}
    (hclosed : w.Closed n) (hsilent : ∀ d ∈ (e :: rest).dropLast, d.2.Silent) {block : String}
    (hblock : ((e :: rest).getLast (List.cons_ne_nil e rest)).2.IsBlock block) {depth : Nat}
    (hdepth : depth ≤ Engine.callDepth + (e :: rest).length) {id : TemplateId} {w₁ : World}
    (hload : Run.exec (Load.template .standard [] (.plain e.1)) w = (.ok id, w₁)) {c : Nat} {w₂ : World}
    (hcontext : Run.exec (Run.freshContext id []) w₁ = (.ok c, w₂)) :
    ((Run.exec (Run.capture ((Engine.ofDepth depth).root id c)) w₂).1 = .error (.accident .tooDeep) ∧
        depth < Engine.callDepth + (e :: rest).length) ∨
      (Run.exec (data .standard block e.1) w).1 =
        (Run.exec (Run.capture ((Engine.ofDepth depth).root id c)) w₂).1.map some := by
  obtain ⟨c', w₂', hcontext', hname, hsteps, hid, hbuilt, hheap⟩ := exec_start hts hload
  cases hcontext.symm.trans hcontext'
  have hgrown := hts.grown hsteps
  have hclosed₂ : w₂.Closed w₂.activations.size := by
    obtain ⟨L, H⟩ := w₂
    obtain ⟨contexts, rfl⟩ : ∃ contexts, H = { w.toHeap with contexts } := ⟨_, hheap⟩
    exact (hclosed.elsewhere L contexts w.sinks).started_all
  obtain ⟨hdistinct, hseen⟩ := hline.unseen hname
  have hlength := hline.length_le
  rw [← hgrown.store_eq, List.length_cons] at hlength
  have hfuel : rest.length < w₂.store.named.length + w₂.store.files.length + 2 := by omega
  -- rendering climbs the line as inspection does, and ends in one of three ways
  have hmeets := Run.exec_root_silent hline.ascends (List.Subset.refl _) (hts.steps hsteps) hsilent
    hdistinct hseen hid hbuilt hfuel .standard depth w₂.activations ({} :: w₂.sinks)
  rw [data_eq_collected, collected]
  simp only [bind_assoc]
  rw [Run.exec_bind, hload, Run.andThen_ok, Run.exec_bind, hcontext, Run.andThen_ok, Run.exec_bind,
    Run.exec_get, Run.andThen_ok, Run.exec_bind]
  generalize hr : Run.exec ((Engine.ofDepth depth).root id c)
    (w₂.beside w₂.activations ({} :: w₂.sinks)) = r' at hmeets
  have hr : Run.exec ((Engine.ofDepth depth).root id c) { w₂ with sinks := {} :: w₂.sinks } = r' := hr
  generalize Run.exec (addAncestors _ _ _ _ _) _ = r at hmeets ⊢
  cases hmeets with
  | failed f u u' =>
    right
    rw [Run.exec_capture_error hr]
    rfl
  | deep r u' hdeep =>
    left
    rw [Run.exec_capture_error hr]
    exact ⟨rfl, by rw [List.length_cons]; omega⟩
  | @arrived u i depth' acts hd hchecked hi hbuilt' hheap' hsize hsame houter =>
    -- the last template of the line has the block, so that both look for one that is defined
    obtain ⟨ctx, hctx, hstacked⟩ := hbuilt'
    rw [List.length_cons] at hdepth ⊢
    have hmem : (e :: rest).getLast (List.cons_ne_nil e rest) ∈ rest.reverse ++ [e] := by
      rw [← List.reverse_cons, List.mem_reverse]
      exact List.getLast_mem _
    have hdefs : (ctx.blocks.lookup block).getD [] ≠ [] :=
      hstacked.lookup_ne_nil hchecked hmem hblock.mem_blockNames
    have hnone : Stmt.anyExtends ((e :: rest).getLast (List.cons_ne_nil e rest)).2.body = false :=
      hline.ascends.anyExtends_getLast
    have hisEmpty : ((ctx.blocks.lookup block).getD []).isEmpty = false :=
      eq_false_of_ne_true fun h => hdefs (List.isEmpty_iff.1 h)
    have hcapture := Run.capture_arrived hclosed₂ hheap' hsize hsame houter hblock hnone hi hctx hdefs
      hr (by omega)
    rw [Run.andThen_ok]
    simp only [pure_bind, Value.blockDefs, Run.exec_bind, Run.exec_context hctx, Run.andThen_ok,
      Run.exec_pure, hisEmpty, Bool.false_eq_true, if_false]
    obtain ⟨hdeep, hless⟩ | hresult := hcapture
    · exact .inl ⟨hdeep, by omega⟩
    · right
      rw [hresult]
      generalize Run.exec (Run.capture (Engine.standard.block block 0 c)) u = r
      obtain ⟨r, v⟩ := r
      cases r <;> rfl

namespace Workspace

/-- In a reachable workspace all that is stored speaks of functions that have started. -/
theorem Reachable.closed {p : WorkspacePlan} {ws : Workspace} (h : Reachable p ws) :
    ∃ n, ws.world.Closed n := by
  obtain ⟨_, -, n, hrel⟩ := h.kept_sourced
  exact ⟨n, Invariant.closed_of_rel hrel⟩

/-- A reachable workspace leads from the names of a line to its templates. -/
theorem Reachable.settled {p : WorkspacePlan} {ws : Workspace} (h : Reachable p ws)
    (hreload : ws.world.env.options.autoReload = true) {ts : List (String × Template)}
    (hline : ws.world.toLibrary.Lineage ts)
    (hpresent : ws.world.env.loader ≠ .named → ws.world.toLibrary.Present ts) :
    ws.world.toLibrary.Settled ts := by
  obtain ⟨_, -, -, hsourced, hchecked⟩ := h.sourced
  refine ⟨hsourced, hchecked, hreload, hline.reads, hline.plain, ?_⟩
  by_cases hloader : ws.world.env.loader = .named
  · exact Library.present_of_named hloader hsourced hline.reads
  · exact hpresent hloader

/-- Inspection agrees with rendering on every line of templates of which each extends the next one: the
stacks of definitions that it collects are those that rendering has built where the last template
begins. If that one is a block, and the others only extend and define blocks, then inspection of the
block gives what rendering gives, as far as there is depth. Where sources are files, the cache must
not hold a template of a file that another one has come to hide. -/
theorem inspection_as_rendering (p : WorkspacePlan) {ws : Workspace} (hws : Reachable p ws)
    (hreload : ws.world.env.options.autoReload = true) {e : String × Template}
    {rest : List (String × Template)} (hline : ws.world.toLibrary.Lineage (e :: rest))
    (hpresent : ws.world.env.loader ≠ .named → ws.world.toLibrary.Present (e :: rest)) :
    (∀ {depth globals context id c w depth' id' w'},
      Run.exec (Run.opened depth e.1 globals context) { ws.world with sinks := [] } =
        (.ok (id, c), w) →
      Run.Arrives c depth id { w with sinks := {} :: w.sinks } depth' id' w' →
      id'.name = some ((e :: rest).getLast (List.cons_ne_nil e rest)).1 →
      Run.exec ((Engine.ofDepth depth).root id c) { w with sinks := {} :: w.sinks } =
          Run.exec ((Engine.ofDepth depth').root id' c) w' ∧
        ∃ c' u ctx ctx', Run.exec (Inspect.collected e.1) { ws.world with sinks := [] } = (.ok c', u) ∧
          u.contexts[c']? = some ctx' ∧ w'.contexts[c]? = some ctx ∧
          Keyed (List.Forall₂ (Library.SameDef u.toLibrary w'.toLibrary)) ctx'.blocks ctx.blocks) ∧
    ∀ infoBlock, (∀ d ∈ (e :: rest).dropLast, d.2.Silent) →
      ((e :: rest).getLast (List.cons_ne_nil e rest)).2.IsBlock (ws.blockFor infoBlock) →
      ∀ depth ≤ Engine.callDepth + (e :: rest).length, ∃ r : Except Fault String,
        (renderAt depth e.1 [] [] ws).1 = r.mapError .fault ∧
        (r = .error (.accident .tooDeep) ∧ depth < Engine.callDepth + (e :: rest).length ∨
          (data e.1 infoBlock ws).1 = (r.map some).mapError (Failure.ofInspection (.text e.1))) := by
  have hts := hws.settled hreload hline hpresent
  obtain ⟨n, hclosed⟩ := hws.closed
  have hclosed : World.Closed n { ws.world with sinks := [] } :=
    hclosed.elsewhere ws.world.toLibrary ws.world.contexts []
  refine ⟨fun hopened harrives hlast => ?_, fun infoBlock hsilent hblock depth hdepth => ?_⟩
  · exact ⟨Run.exec_root_of_arrives harrives, Inspect.collected_as_rendered
      (w := { ws.world with sinks := [] }) hline hts hclosed hopened harrives hlast⟩
  · have hdata : (data e.1 infoBlock ws).1 =
        (Run.exec (Inspect.data .standard (ws.blockFor infoBlock) e.1)
          { ws.world with sinks := [] }).1.mapError (Failure.ofInspection (.text e.1)) := by
      change (perform (Inspect.data .standard (ws.blockFor infoBlock) e.1) _ ws).1 = _
      rw [perform_eq]
    rw [hdata, renderAt_eq_opened, perform_eq]
    refine ⟨_, rfl, ?_⟩
    generalize hw : ({ ws.world with sinks := [] } : World) = w at hclosed
    have hline : w.toLibrary.Lineage (e :: rest) := hw ▸ hline
    have hts : w.toLibrary.Settled (e :: rest) := hw ▸ hts
    -- both begin with the same template, which is loaded without a call, whatever the depth
    cases hload : Run.exec (Load.template .standard [] (.plain e.1)) w with
    | mk r w₁ =>
      have hload' : Run.exec (Load.template (.ofDepth depth) [] (.plain e.1)) w = (r, w₁) := by
        rw [← hload, Load.exec_plain, Load.exec_plain]
      cases r with
      | error f =>
        right
        rw [Inspect.data, Run.exec_bind, hload, Run.andThen_error, Run.opened]
        simp only [values, List.mapM_nil, pure_bind, Run.exec_bind, hload', Run.andThen_error]
        rfl
      | ok id =>
        obtain ⟨c, w₂, hcontext, -⟩ := Inspect.exec_start hts hload
        have hopened : Run.exec (Run.opened depth e.1 [] []) w = (.ok (id, c), w₂) := by
          simp only [Run.opened, values, List.mapM_nil, pure_bind, Run.exec_bind, hload',
            Run.andThen_ok, hcontext, Run.exec_pure]
        have hrender := Inspect.data_as_rendered hline hts hclosed hsilent hblock hdepth hload hcontext
        rw [Run.exec_bind, hopened, Run.andThen_ok]
        exact hrender.imp_right fun heq => congrArg _ heq

/-- Whether a template extends another of a name first, and otherwise only defines blocks and writes. -/
def goesOn (next : String) (t : Template) : Bool :=
  match t.body with
  | .extend _ (.const _ (.text name)) :: rest =>
    name == next && rest.all Stmt.isSilent && !Stmt.anyExtends rest
  | _ => false

theorem silent_of_goesOn {next : String} {t : Template} (h : goesOn next t = true) :
    t.Silent ∧ t.Extends next := by
  obtain ⟨line, body⟩ := t
  unfold goesOn at h
  split at h
  · rename_i l el name rest hbody
    cases hbody
    rw [Bool.and_eq_true, Bool.and_eq_true, beq_iff_eq, List.all_eq_true, Bool.not_eq_true'] at h
    obtain ⟨⟨rfl, hrest⟩, hnone⟩ := h
    have hbefore : Stmt.anyExtends [] = false := rfl
    exact ⟨⟨l, _, rest, rfl, hrest⟩, .mk line l el name hbefore hnone⟩
  · cases h

/-- Whether a template consists of a block of a name. -/
def endsWith (name : String) (t : Template) : Bool :=
  match t.body with
  | [.block _ n body false false] => n == name && !Stmt.anyExtends body
  | _ => false

theorem isBlock_of_endsWith {name : String} {t : Template} (h : endsWith name t = true) :
    t.IsBlock name ∧ Stmt.anyExtends t.body = false := by
  obtain ⟨line, body⟩ := t
  unfold endsWith at h
  split at h
  · rename_i l n body hbody
    cases hbody
    rw [Bool.and_eq_true, beq_iff_eq, Bool.not_eq_true'] at h
    obtain ⟨rfl, hnone⟩ := h
    exact ⟨⟨l, body, rfl⟩, by rw [Stmt.anyExtends, Stmt.hasExtends, hnone]; rfl⟩
  · cases h

/-- A page and its layout, which both define the info block, above a base that does. -/
def threeInfos : WorkspacePlan :=
  { flavour := .pattern
    store := { named := [
      ("page", "\x7b% extends 'layout' %\x7d" ++
        "\x7b% block patterninfo %\x7dp\x7b\x7b super() \x7d\x7d\x7b% endblock %\x7d"),
      ("layout", "\x7b% extends 'base' %\x7dtext" ++
        "\x7b% block patterninfo %\x7dl\x7b\x7b super() \x7d\x7d\x7b% endblock %\x7d"),
      ("base", "\x7b% block patterninfo %\x7db\x7b% endblock %\x7d")] } }

/-- The data of the page is what rendering it gives. -/
theorem inspection_as_rendering_threeInfos : ∃ ws, Reachable threeInfos ws ∧
    (∃ page layout base,
      ws.world.toLibrary.Lineage [("page", page), ("layout", layout), ("base", base)]) ∧
    (renderAt Engine.callDepth "page" [] [] ws).1.toOption = some "plb" ∧
    (data "page" none ws).1 = .ok (some "plb") := by
  have hfacts : threeInfos.build.toOption.bind (fun ws =>
      (ws.world.toLibrary.read? "page").bind fun t => (ws.world.toLibrary.read? "layout").bind fun u =>
        (ws.world.toLibrary.read? "base").map fun v =>
          ((goesOn "layout" t, goesOn "base" u, endsWith (ws.blockFor none) v),
            (ws.world.env.options.autoReload, ws.world.env.loader == .named),
            ["page", "layout", "base"].map (Load.isKey ws.world.env),
            (renderAt Engine.callDepth "page" [] [] ws).1.toOption)) =
      some ((true, true, true), (true, true), [false, false, false], some "plb") := by decide +kernel
  simp only [Option.bind_eq_some_iff, Option.map_eq_some_iff, Prod.mk.injEq, List.map_cons,
    List.map_nil, List.cons.injEq] at hfacts
  obtain ⟨ws, hws, t, ht, u, hu, v, hv, ⟨hpage, hlayout, hbase⟩, ⟨hreload, hloader⟩,
    ⟨hkey₁, hkey₂, hkey₃, -⟩, hrender⟩ := hfacts
  -- the two pages below are silent, and the last one is its info block
  obtain ⟨hsilent₁, hext₁⟩ := silent_of_goesOn hpage
  obtain ⟨hsilent₂, hext₂⟩ := silent_of_goesOn hlayout
  obtain ⟨hblock, hnone⟩ := isBlock_of_endsWith hbase
  have hline : ws.world.toLibrary.Lineage [("page", t), ("layout", u), ("base", v)] := {
    ascends := .up "page" hext₁ (.up "layout" hext₂ (.top "base" hnone))
    reads := by
      simp only [List.forall_mem_cons, List.not_mem_nil, false_implies, implies_true, and_true]
      exact ⟨Library.reads_of_read ht, Library.reads_of_read hu, Library.reads_of_read hv⟩
    distinct := by simp
    plain := by
      simp only [List.forall_mem_cons, List.not_mem_nil, false_implies, implies_true, and_true]
      exact ⟨hkey₁, hkey₂, hkey₃⟩ }
  have hreach : Reachable threeInfos ws := .of_toOption hws
  obtain ⟨r, hr, hdeep | hdata⟩ := (inspection_as_rendering threeInfos hreach hreload hline
    (fun h => absurd (beq_iff_eq.1 hloader) h)).2 none
      (by
        simp only [List.dropLast_cons_cons, List.dropLast_singleton, List.forall_mem_cons,
          List.not_mem_nil, false_implies, implies_true, and_true]
        exact ⟨hsilent₁, hsilent₂⟩) hblock Engine.callDepth (Nat.le_add_right _ _)
  · rw [hr, hdeep.1] at hrender
    cases hrender
  · refine ⟨ws, hreach, ⟨t, u, v, hline⟩, hrender, ?_⟩
    rw [hr] at hrender
    cases r with
    | error f => cases hrender
    | ok text =>
      cases hrender
      exact hdata

end Workspace

end Stencil
