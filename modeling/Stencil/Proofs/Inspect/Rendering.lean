import Stencil.Proofs.Inspect.Stacks
import Stencil.Proofs.Simulation.Stored

/-!
# Rendering a line of templates

A template that extends another runs to its end, and then the other runs in the same context. What
the templates of a line do before and after their `extends` leaves the blocks of the context alone,
and what is extended: so where the last template of the line starts, the context has the blocks of
the whole line.

## Main definitions

- `Run.Arrives`: which template a rendering has come to, and in which state its body starts

## Key results

- `Run.exec_root_of_arrives`: the rest of the rendering is that of this template
- `Run.exec_runOwn_extends`: what the body of a template of a line does
- `Run.Arrives.built`: rendering builds the stacks of a line
-/

namespace Stencil

theorem Template.Extends.body_eq {t : Template} {next : String} (h : t.Extends next) :
    ∃ l el before after, t.body = before ++ .extend l (.const el (.text next)) :: after ∧
      Stmt.anyExtends before = false ∧ Stmt.anyExtends after = false := by
  cases h with
  | mk line l el next hbefore hafter => exact ⟨l, el, _, _, rfl, hbefore, hafter⟩

/-! ## Running on -/

namespace Invariant

/-- All that is known of a library is which one it is, and that it goes on by steps. -/
def stepwise : Invariant where
  Stage := Library
  le := Library.Steps
  le_refl _ := .refl
  le_trans := .trans
  holds K L := L = K

theorem keeps_stepwise {α : Type} {x : Run α} (h : ∀ w, Load.Leads x w) : stepwise.Keeps x :=
  fun _ w hw => ⟨_, hw ▸ h w, rfl⟩

theorem upkeep_stepwise : stepwise.Upkeep where
  named globals name := keeps_stepwise (Load.leads_named globals name)
  embedded globals key := keeps_stepwise (Load.leads_embedded globals key)
  module id m := keeps_stepwise
    (Load.leads_modifyTemplate id (f := fun t => { t with module := some m }) fun _ => ⟨rfl, rfl, rfl⟩)

/-- A computation that corresponds to itself changes the library by steps, and nothing that is
watched. -/
theorem exec_stepwise {α : Type} {v : Watch} {n : Nat} {w : World} (hw : w.Closed n)
    (hslot : ∀ a, v.slot a = a) (hloose : ¬ v.loose) (hsees : v.Sees w) {x : Run α}
    {V : Library × Nat → α → α → Prop} (hx : (stepwise.twin v).Sim (w.toLibrary, n) x x V) :
    Library.Steps w.toLibrary (Run.exec x w).2.toLibrary ∧ (∃ m, (Run.exec x w).2.Closed m) ∧
      v.Sees (Run.exec x w).2 := by
  obtain ⟨l, m, hl, hclosed, hlibrary, hsees'⟩ :=
    exec_watched (I := stepwise) (k := w.toLibrary) hw rfl hslot hloose hsees hx
  exact ⟨(hlibrary : _ = l) ▸ hl, ⟨m, hclosed⟩, hsees'⟩

end Invariant

namespace Run

variable {eng : Engine} {f : Frame} {w : World} {context : Nat}

/-! ## The body of a template -/

theorem exec_newActivation (a : Activation) (w : World) :
    exec (newActivation a) w =
      (.ok w.activations.size, { w with activations := w.activations.push a }) := rfl

theorem exec_setExtended (activation : Nat) (id : TemplateId) (w : World) :
    exec (setExtended activation id) w = (.ok (), { w with
      activations := w.activations.modify activation fun a => { a with extended := some id } }) := rfl

/-- A template is extended only once. Its blocks come behind those of the context. -/
theorem exec_extend (htop : f.toplevel = true) (l el : Nat) (name : String) :
    exec (runStmt eng f (.extend l (.const el (.text name)))) w =
      if extendedIn w (nestingOf w f.activation) f.activation then
        (.error (.runtime "extended multiple times"), w)
      else andThen (exec (Load.template eng [] (.plain name)) w) fun id w =>
        andThen (exec (appendBlocks f.context id) { w with
          activations := w.activations.modify f.activation fun a => { a with extended := some id } })
        fun _ w => (.ok .next, w) := by
  rw [runStmt, andNext, exec_bind, runExtend, htop, if_pos rfl, exec_bind]
  change andThen (exec (if extendedIn w _ _ = true then _ else _) w) _ = _
  rw [exec_ite]
  split
  · rfl
  · rw [exec_bind, Simulation.evaluate_text, exec_pure, andThen_ok, exec_bind]
    cases hload : exec (Load.template eng [] (.plain name)) w with
    | mk r u =>
      cases r with
      | error e => rfl
      | ok id =>
        rw [andThen_ok, andThen_ok, exec_bind, exec_record, andThen_ok, exec_bind, exec_setExtended,
          andThen_ok]
        rfl

/-- A template runs in a function of its own. -/
theorem exec_runOwn {id : TemplateId} {t : LoadedTemplate} (ht : w.templates.lookup id = some t) :
    exec (runOwn eng id context) w =
      andThen (exec (do
          provideSelf (ownFrame w id t.tree.body w.activations.size context)
            !(Undeclared.find ["self"] t.tree.body).isEmpty
          enter (ownFrame w id t.tree.body w.activations.size context))
        { w with activations := w.activations.push { base := 0 } }) fun _ u =>
      andThen (exec (runStmts eng (ownFrame w id t.tree.body w.activations.size context) t.tree.body)
        u) fun _ u => (.ok ((u.activations[w.activations.size]?).bind (·.extended)), u) := by
  rw [runOwn, exec_bind, exec_template, ht]
  dsimp only
  rw [andThen_ok, exec_bind, exec_get, andThen_ok, exec_bind, exec_newActivation, andThen_ok]
  simp only [runTop, exec_bind, exec_discard]
  generalize exec (provideSelf _ _) _ = r
  obtain ⟨r, u⟩ := r
  cases r with
  | error e => rfl
  | ok _ =>
    rw [andThen_ok, andThen_ok]
    generalize exec (enter _) _ = r
    obtain ⟨r, u⟩ := r
    cases r with
    | error e => rfl
    | ok _ =>
      rw [andThen_ok, andThen_ok]
      generalize exec (runStmts _ _ _) _ = r
      obtain ⟨r, u⟩ := r
      cases r <;> rfl

end Run

/-- A template runs in a state: in a context with these blocks, and extending this template, or
none. -/
structure World.Runs (w : World) (context activation : Nat) (blocks : List (String × List BlockDef))
    (extended : Option TemplateId) : Prop where
  closed : w.Closed w.activations.size
  sees : (Watch.place context blocks activation extended).Sees w

namespace World.Runs

variable {α : Type} {w w' : World} {context activation : Nat}
  {blocks : List (String × List BlockDef)} {extended : Option TemplateId}

theorem activation_lt (h : w.Runs context activation blocks extended) :
    activation < w.activations.size := by
  obtain ⟨-, act, hact, -⟩ := Watch.sees_place.1 h.sees
  exact (Array.getElem?_eq_some_iff.1 hact).1

theorem extended_eq (h : w.Runs context activation blocks extended) :
    (w.activations[activation]?).bind (·.extended) = extended := by
  obtain ⟨-, act, hact, hextended⟩ := Watch.sees_place.1 h.sees
  rw [hact]
  exact hextended

/-- A template begins to run. -/
theorem start {n : Nat} (hclosed : w.Closed n) {ctx : Context} (hctx : w.contexts[context]? = some ctx) :
    World.Runs { w with activations := w.activations.push { base := 0 } } context
      w.activations.size ctx.blocks none where
  closed := (hclosed.start 0).started_all
  sees := Watch.sees_place.2 ⟨⟨ctx, hctx, rfl⟩, { base := 0 }, Array.getElem?_push_size, rfl⟩

/-- What corresponds to itself leaves a running template in the same context, extending the same
template. -/
theorem exec_of_sim (h : w.Runs context activation blocks extended) {x : Run α}
    {V : Library × Nat → α → α → Prop}
    (hx : (Invariant.stepwise.twin (Watch.place context blocks activation extended)).Sim
      (w.toLibrary, w.activations.size) x x V) :
    Library.Steps w.toLibrary (Run.exec x w).2.toLibrary ∧
      (Run.exec x w).2.Runs context activation blocks extended := by
  obtain ⟨hsteps, ⟨m, hclosed⟩, hsees⟩ :=
    Invariant.exec_stepwise h.closed (fun _ => rfl) (fun hloose => hloose) h.sees hx
  exact ⟨hsteps, hclosed.started_all, hsees⟩

/-- What comes before the statements of a template. -/
theorem exec_opening (h : w.Runs context activation blocks extended) (f : Frame) (isUsed : Bool) :
    Library.Steps w.toLibrary
        (Run.exec (do Run.provideSelf f isUsed; Run.enter f) w).2.toLibrary ∧
      (Run.exec (do Run.provideSelf f isUsed; Run.enter f) w).2.Runs context activation blocks
        extended :=
  h.exec_of_sim (Invariant.agree_opening (fun _ => rfl) isUsed _)

/-- Statements without `extends` change neither the blocks of the context nor what is extended. -/
theorem exec_stmts (h : w.Runs context activation blocks extended) {f : Frame}
    (hf : f.activation = activation) (depth : Nat) {ss : List Stmt}
    (hss : Stmt.anyExtends ss = false) :
    Library.Steps w.toLibrary (Run.exec (Run.runStmts (.ofDepth depth) f ss) w).2.toLibrary ∧
      (Run.exec (Run.runStmts (.ofDepth depth) f ss) w).2.Runs context activation blocks extended :=
  h.exec_of_sim (Invariant.sim_stmts (fun _ => rfl) Invariant.upkeep_stepwise
    (hf ▸ h.activation_lt) depth hss)

/-- Where a template extends another of its line, that one is loaded, and its blocks come behind
those of the context. -/
theorem exec_extend (h : w.Runs context activation blocks none) {f : Frame}
    (hf : f.activation = activation) (hcontext : f.context = context) (htop : f.toplevel = true)
    {ts es : List (String × Template)} (hts : w.toLibrary.Settled ts) {d : String × Template}
    (hd : d ∈ ts) (hstacked : w.toLibrary.Stacked es blocks) {eng : Engine} {l el : Nat} {flow : Flow}
    (hexec : Run.exec (Run.runStmt eng f (.extend l (.const el (.text d.1)))) w = (.ok flow, w')) :
    flow = .next ∧ ∃ id blocks', Library.Steps w.toLibrary w'.toLibrary ∧
      w'.toLibrary.Holds d id ∧ w'.Runs context activation blocks' (some id) ∧
      w'.toLibrary.Stacked (d :: es) blocks' := by
  rw [Run.exec_extend htop, hf, hcontext] at hexec
  split at hexec
  · cases hexec
  · obtain ⟨id, u, hload, hexec⟩ := Run.exists_of_andThen hexec
    obtain ⟨hid, -⟩ := hts.load hd hload
    obtain ⟨hsteps, hheap⟩ := Load.steps_of_template hload
    obtain ⟨⟨ctx, hctx, hblocks⟩, act, hact, -⟩ := Watch.sees_place.1 h.sees
    have hbuilt : w.Built context es := ⟨ctx, hctx, hblocks ▸ hstacked⟩
    have hloaded : u.Built context es := hbuilt.loaded hheap (hts.grown hsteps)
    -- what is extended has nothing to do with the blocks of the context
    have hmarked : World.Built { u with
        activations := u.activations.modify activation fun a => { a with extended := some id } }
        context es := hloaded
    obtain ⟨contexts, happend, ctx', hctx', hstacked'⟩ := hmarked.appendBlocks hid
    rw [happend, Run.andThen_ok] at hexec
    cases hexec
    -- what is watched from here on are the new blocks, and the template that is extended now
    obtain ⟨L, H⟩ := u
    obtain rfl : H = w.toHeap := hheap
    have hsize : (w.activations.modify activation fun a => { a with extended := some id }).size =
        w.activations.size := Array.size_modify
    have hclosed := h.closed.extend L contexts activation id
    rw [← hsize] at hclosed
    refine ⟨rfl, id, ctx'.blocks, hsteps, hid, ⟨hclosed, Watch.sees_place.2
      ⟨⟨ctx', hctx', rfl⟩, { act with extended := some id }, ?_, rfl⟩⟩, hstacked'⟩
    change (w.activations.modify activation _)[activation]? = _
    rw [Array.getElem?_modify, if_pos rfl, hact]
    rfl

/-- The body of a template that extends another one directly: if it comes to its end having extended
something, then that is the template of the line, whose blocks stand behind the others. -/
theorem exec_extending (h : w.Runs context activation blocks none) {f : Frame}
    (hf : f.activation = activation) (hcontext : f.context = context) (htop : f.toplevel = true)
    {ts es : List (String × Template)} (hts : w.toLibrary.Settled ts) {d : String × Template}
    (hd : d ∈ ts) (hstacked : w.toLibrary.Stacked es blocks) {depth l el : Nat}
    {before after : List Stmt} (hbefore : Stmt.anyExtends before = false)
    (hafter : Stmt.anyExtends after = false) {flow : Flow}
    (hexec : Run.exec (Run.runStmts (.ofDepth depth) f
      (before ++ .extend l (.const el (.text d.1)) :: after)) w = (.ok flow, w')) :
    (w'.activations[activation]?).bind (·.extended) = none ∨
      ∃ id blocks', (w'.activations[activation]?).bind (·.extended) = some id ∧
        Library.Steps w.toLibrary w'.toLibrary ∧ w'.toLibrary.Holds d id ∧
        w'.Runs context activation blocks' (some id) ∧ w'.toLibrary.Stacked (d :: es) blocks' := by
  rw [Run.runStmts_append, Run.exec_bind] at hexec
  obtain ⟨flow₁, w₁, h₁, hexec⟩ := Run.exists_of_andThen hexec
  obtain ⟨hsteps₁, hruns₁⟩ := h.exec_stmts hf depth hbefore
  rw [h₁] at hsteps₁ hruns₁
  by_cases hflow : flow₁ = .next
  · -- the statements before it have come to their end, so that the `extends` is run
    right
    rw [hflow, Run.runStmts, Run.exec_bind] at hexec
    obtain ⟨flow₂, w₂, h₂, hexec⟩ := Run.exists_of_andThen hexec
    have hts₁ := hts.steps hsteps₁
    obtain ⟨rfl, id, blocks', hsteps₂, hid, hruns₂, hstacked₂⟩ :=
      hruns₁.exec_extend hf hcontext htop hts₁ hd (hstacked.grown (hts.grown hsteps₁)) h₂
    obtain ⟨hsteps₃, hruns₃⟩ := hruns₂.exec_stmts hf depth hafter
    dsimp only at hexec
    rw [hexec] at hsteps₃ hruns₃
    have hgrown₃ := (hts₁.steps hsteps₂).grown hsteps₃
    exact ⟨id, blocks', hruns₃.extended_eq, hsteps₁.trans (hsteps₂.trans hsteps₃), hid.grown hgrown₃,
      hruns₃, hstacked₂.grown hgrown₃⟩
  · -- a loop outside the template was left or goes on: nothing more of the body is run
    left
    obtain rfl : w₁ = w' := by
      cases flow₁ with
      | next => exact absurd rfl hflow
      | breakLoop => cases hexec; rfl
      | continueLoop => cases hexec; rfl
    exact hruns₁.extended_eq

end World.Runs

namespace Run

variable {w : World} {context : Nat}

/-- A template of a line that has run to its end may extend the next one only, whose blocks stand
behind the others then. -/
theorem exec_runOwn_extends {w' : World} {e d : String × Template} (hext : e.2.Extends d.1)
    {ts es : List (String × Template)} (hts : w.toLibrary.Settled ts) (hd : d ∈ ts) {n : Nat}
    (hclosed : w.Closed n) {id parent : TemplateId} (hid : w.toLibrary.Holds e id)
    (hbuilt : w.Built context es) {depth : Nat}
    (hexec : exec (runOwn (.ofDepth depth) id context) w = (.ok (some parent), w')) :
    Library.Steps w.toLibrary w'.toLibrary ∧ w'.toLibrary.Holds d parent ∧
      (∃ m, w'.Closed m) ∧ w'.Built context (d :: es) := by
  obtain ⟨name, tree⟩ := e
  obtain ⟨next, tree'⟩ := d
  obtain ⟨t, ht, rfl, -⟩ := hid.blockNames_eq
  obtain ⟨ctx, hctx, hstacked⟩ := hbuilt
  rw [exec_runOwn ht] at hexec
  generalize hf : ownFrame w id t.tree.body w.activations.size context = f at hexec
  have hactivation : f.activation = w.activations.size := hf ▸ rfl
  have hcontext : f.context = context := hf ▸ rfl
  have htop : f.toplevel = true := hf ▸ rfl
  obtain ⟨⟨⟩, u, hopening, hexec⟩ := exists_of_andThen hexec
  obtain ⟨flow, v, hstmts, hexec⟩ := exists_of_andThen hexec
  -- the opening keeps the blocks of the context, and then the body is one that extends `d`
  have hstart := World.Runs.start hclosed hctx
  obtain ⟨hsteps₁, hruns₁⟩ := hstart.exec_opening f !(Undeclared.find ["self"] t.tree.body).isEmpty
  rw [hopening] at hsteps₁ hruns₁
  have hts₁ := hts.steps hsteps₁
  have hstacked₁ := hstacked.grown (hts.grown hsteps₁)
  obtain ⟨l, el, before, after, hbody, hbefore, hafter⟩ := Template.Extends.body_eq hext
  rw [hbody] at hstmts
  obtain ⟨hparent, rfl⟩ := Prod.mk.inj hexec
  obtain hnone | ⟨i, blocks, hextended, hsteps₂, hid', hruns₂, hstacked₂⟩ :=
    hruns₁.exec_extending hactivation hcontext htop hts₁ hd hstacked₁ hbefore hafter hstmts
  · rw [hnone] at hparent
    cases hparent
  · rw [hextended] at hparent
    cases hparent
    obtain ⟨⟨ctx', hctx', rfl⟩, -⟩ := Watch.sees_place.1 hruns₂.sees
    exact ⟨hsteps₁.trans hsteps₂, hid', ⟨_, hruns₂.closed⟩, ctx', hctx', hstacked₂⟩

/-- A template without `extends` that has run to its end extends nothing. -/
theorem exec_runOwn_top {w' : World} {e : String × Template} (hnone : Stmt.anyExtends e.2.body = false)
    {n : Nat} (hclosed : w.Closed n) {id : TemplateId} (hid : w.toLibrary.Holds e id)
    {ctx : Context} (hctx : w.contexts[context]? = some ctx) {depth : Nat} {parent : Option TemplateId}
    (hexec : exec (runOwn (.ofDepth depth) id context) w = (.ok parent, w')) : parent = none := by
  obtain ⟨t, ht, htree, -⟩ := hid.blockNames_eq
  rw [← htree] at hnone
  rw [exec_runOwn ht] at hexec
  generalize hf : ownFrame w id t.tree.body w.activations.size context = f at hexec
  have hactivation : f.activation = w.activations.size := hf ▸ rfl
  obtain ⟨⟨⟩, u, hopening, hexec⟩ := exists_of_andThen hexec
  obtain ⟨flow, v, hstmts, hexec⟩ := exists_of_andThen hexec
  have hstart := World.Runs.start hclosed hctx
  have hruns₁ := (hstart.exec_opening f !(Undeclared.find ["self"] t.tree.body).isEmpty).2
  rw [hopening] at hruns₁
  have hruns₂ := (hruns₁.exec_stmts hactivation depth hnone).2
  rw [hstmts] at hruns₂
  obtain ⟨hparent, rfl⟩ := Prod.mk.inj hexec
  rw [hruns₂.extended_eq] at hparent
  exact (Except.ok.inj hparent).symm

/-! ## From template to template -/

/-- A rendering comes from the start of a template to the start of another, by running to the end of
each template on the way, which extends the next one. Each of them takes one from the depth. -/
inductive Arrives (context : Nat) : Nat → TemplateId → World → Nat → TemplateId → World → Prop
  | here (depth : Nat) (id : TemplateId) (w : World) : Arrives context depth id w depth id w
  | up {depth depth' : Nat} {id parent id' : TemplateId} {w u w' : World}
      (hown : exec (runOwn (.ofDepth depth) id context) w = (.ok (some parent), u))
      (hrest : Arrives context depth parent u depth' id' w') :
      Arrives context (depth + 1) id w depth' id' w'

/-- The rest of a rendering is that of the template it has come to. -/
theorem exec_root_of_arrives {depth depth' : Nat} {id id' : TemplateId} {w' : World}
    (h : Arrives context depth id w depth' id' w') :
    exec ((Engine.ofDepth depth).root id context) w =
      exec ((Engine.ofDepth depth').root id' context) w' := by
  induction h with
  | here depth id w => rfl
  | @up depth depth' id parent id' w u w' hown _ ih =>
    have hroot : exec ((Engine.ofDepth (depth + 1)).root id context) w =
        exec ((Engine.ofDepth depth).root parent context) u := by
      change exec (runRoot (.ofDepth depth) id context) w = _
      rw [runRoot, exec_bind, hown, andThen_ok]
    exact hroot.trans ih

/-- A rendering that goes up a line comes to templates of the line only, where it has built the stacks
of all templates so far. -/
theorem Arrives.built {depth depth' : Nat} {id id' : TemplateId} {w' : World}
    (h : Arrives context depth id w depth' id' w') {e : String × Template}
    {rest ts done : List (String × Template)} (hup : Template.Ascends (e :: rest))
    (hsub : e :: rest ⊆ ts) (hts : w.toLibrary.Settled ts) {n : Nat} (hclosed : w.Closed n)
    (hid : w.toLibrary.Holds e id) (hbuilt : w.Built context (e :: done)) :
    ∃ before d after, e :: rest = before ++ d :: after ∧
      Library.Steps w.toLibrary w'.toLibrary ∧ w'.toLibrary.Holds d id' ∧
      w'.Built context (d :: (before.reverse ++ done)) := by
  induction h generalizing e rest done n with
  | here depth id w => exact ⟨[], e, rest, rfl, .refl, hid, hbuilt⟩
  | @up depth depth' id parent id' w u w' hown _ ih =>
    cases hup with
    | top name hnone =>
      -- the last template extends none, so that rendering cannot go on from it
      obtain ⟨ctx, hctx, -⟩ := hbuilt
      cases exec_runOwn_top hnone hclosed hid hctx hown
    | @up name t t' next rest hext hrest =>
      obtain ⟨hsteps, hparent, ⟨m, hclosed'⟩, hbuilt'⟩ := exec_runOwn_extends (d := (next, t')) hext hts
        (hsub (List.mem_cons_of_mem _ List.mem_cons_self)) hclosed hid hbuilt hown
      obtain ⟨before, d, after, heq, hsteps', hid', hresult⟩ := ih hrest
        (fun x hx => hsub (List.mem_cons_of_mem _ hx)) (hts.steps hsteps) hclosed' hparent hbuilt'
      refine ⟨(name, t) :: before, d, after, congrArg ((name, t) :: ·) heq, hsteps.trans hsteps', hid',
        ?_⟩
      rw [List.reverse_cons, List.append_assoc]
      exact hresult

end Run

end Stencil
