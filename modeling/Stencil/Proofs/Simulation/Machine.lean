import Stencil.Proofs.Simulation.Statements

/-!
# Running templates

Corresponding templates and blocks do the same on both sides, for engines of every depth. Where the
right run may run out of depth first, its engine may have less depth than the left one.

## Main statements

- `engRel_ofDepth`: engines of the same depth do the same on both sides
- `engRel_ofDepth_of_loose`: so do engines of which the right one has less depth
-/

namespace Stencil

namespace Simulation

variable {S : Simulation} {eng eng' : Engine} {k : S.Stage}

/-! ## Blocks -/

theorem agree_provideSelf (f : Frame) (host : Option String) (isUsed : Bool) :
    S.Agree (Run.provideSelf f isUsed) (Run.provideSelf (S.frame f host) isUsed) :=
  .ite (agree_setName f host _ _) (.pure _)

/-- A definition has the same place among all definitions of its block on both sides. -/
theorem DefsRel.findIdx_eq {ds ds' : List BlockDef} (h : S.DefsRel k ds ds') {i : Nat}
    {d d' : BlockDef} (hd : ds[i]? = some d) (hd' : ds'[i]? = some d') :
    ds'.findIdx? (· == d') = ds.findIdx? (· == d) := by
  have hlen := h.length_eq
  cases hfound : ds.findIdx? (· == d) with
  | none =>
    rw [List.findIdx?_eq_none_iff] at hfound ⊢
    have := hfound d (List.mem_of_getElem? hd)
    simp at this
  | some j =>
    rw [List.findIdx?_eq_some_iff_getElem] at hfound ⊢
    obtain ⟨hj, heq, hbefore⟩ := hfound
    refine ⟨hlen ▸ hj, ?_, fun n hn => ?_⟩
    · have := h.pattern (List.getElem?_eq_getElem hj) hd (List.getElem?_eq_getElem (hlen ▸ hj)) hd'
      simp_all
    · have hn' : n < ds.length := Nat.lt_trans hn hj
      have := h.pattern (List.getElem?_eq_getElem hn') hd (List.getElem?_eq_getElem (hlen ▸ hn')) hd'
      have := hbefore n hn
      simp_all

theorem agree_superBlock {ds ds' : List BlockDef} (h : S.DefsRel k ds ds') {i : Nat}
    {d d' : BlockDef} (hd : ds[i]? = some d) (hd' : ds'[i]? = some d') (hname : d'.name = d.name)
    (context : Nat) : S.Agree (Run.superBlock ds d context) (Run.superBlock ds' d' context) := by
  unfold Run.superBlock
  rw [h.findIdx_eq hd hd', h.length_eq, hname]
  split
  · exact .accident _
  · exact .ite (.pure _) (agree_undefined _)

theorem sim_runBlockBody (hS : S.Laws) (h : S.EngRel eng eng') {ds ds' : List BlockDef}
    (hds : S.DefsRel k ds ds') {i : Nat} {d d' : BlockDef} (hd : ds[i]? = some d)
    (hd' : ds'[i]? = some d') (hname : d'.name = d.name) (hsame : S.same k d.template d'.template)
    (context : Nat) {body body' : List Stmt} (hbody : S.StmtsRel k none body body') :
    S.Sim k (Run.runBlockBody eng ds d context body) (Run.runBlockBody eng' ds' d' context body')
      fun _ a b => b = a := by
  unfold Run.runBlockBody
  rw [hbody.ofBlock_eq, hbody.providedInBlock_eq]
  refine Sim.read_bind fun w w' hw => ?_
  rw [S.library_options hw.library, hw.sinks]
  refine (sim_newActivation _ rfl (by rintro _ ⟨⟩)).bind fun l hl a a' ha => ?_
  obtain ⟨rfl, -, hlive⟩ := ha
  let f : Frame :=
    { scope := Scope.ofBlock body, activation := a, context, host := d.template.name
      autoescape := w.env.options.autoescape, stream := w.sinks.length }
  have hhost : S.host f.host d'.template.name := S.same_host hsame
  refine Sim.agree_bind (agree_provideSelf f d'.template.name _) fun l₁ hl₁ _ => ?_
  -- `super` leads to the next definition, which is the corresponding one of the other side
  have hsuper : S.Agree
      (Run.provideSuper f ((Scope.providedInBlock body).contains "super") ds d)
      (Run.provideSuper (S.frame f d'.template.name)
        ((Scope.providedInBlock body).contains "super") ds' d') :=
    .ite ((agree_superBlock hds hd hd' hname context).bind fun _ => agree_setName f _ _ _) (.pure _)
  refine Sim.agree_bind hsuper fun l₂ hl₂ _ => ?_
  refine Sim.agree_bind (agree_enter f _) fun l₃ hl₃ _ => ?_
  have hlater : S.le l l₃ := S.le_trans hl₁ (S.le_trans hl₂ hl₃)
  exact (agreeFrom_runStmts hS h f hhost (S.live_mono hlater hlive) (nested rfl)
    (hbody.later (S.le_trans hl hlater))).discard.now

theorem DefsRel.get? {ds ds' : List BlockDef} (h : S.DefsRel k ds ds') (i : Nat) :
    (ds[i]? = none ∧ ds'[i]? = none) ∨
      ∃ d d', ds[i]? = some d ∧ ds'[i]? = some d' ∧ d'.name = d.name ∧
        S.same k d.template d'.template := by
  by_cases hi : i < ds.length
  · have hi' : i < ds'.length := h.length_eq ▸ hi
    exact .inr ⟨_, _, List.getElem?_eq_getElem hi, List.getElem?_eq_getElem hi',
      (List.forall₂_iff_get.1 h.all).2 i hi hi'⟩
  · have hi' : ¬ i < ds'.length := h.length_eq ▸ hi
    exact .inl ⟨List.getElem?_eq_none (Nat.le_of_not_lt hi),
      List.getElem?_eq_none (Nat.le_of_not_lt hi')⟩

theorem agree_runBlock (hS : S.Laws) (h : S.EngRel eng eng') (name : String) (depth context : Nat) :
    S.Agree (Run.runBlock eng name depth context) (Run.runBlock eng' name depth context) := by
  refine fun k => (sim_blockDefs context name).bind fun l _ ds ds' hds => ?_
  obtain ⟨hd, hd'⟩ | ⟨d, d', hd, hd', hname, hsame⟩ := hds.get? depth
  · rw [hd, hd']
    exact Sim.accident _
  rw [hd, hd']
  refine (sim_template hS hsame).bind fun l₁ hl₁ t t' ht => ?_
  rw [hname]
  obtain ⟨hb, hb'⟩ | ⟨body, body', hb, hb', hbody⟩ := Keyed.lookup ht.blocks d.name
  · rw [hb, hb']
    exact Sim.accident _
  rw [hb, hb']
  exact sim_runBlockBody hS h (hds.later hl₁) hd hd' hname (S.same_mono hl₁ hsame) context hbody

/-! ## Templates -/

theorem ownFrame_eq {w w' : World} (hw : S.Rel k w w') {i i' : TemplateId} {body body' : List Stmt}
    (hbody : S.StmtsRel k none body body') (activation context : Nat) :
    Run.ownFrame w' i' body' (S.slot activation) context =
      S.frame (Run.ownFrame w i body activation context) i'.name := by
  rw [Run.ownFrame, hbody.ofTemplate_eq, hbody.anyExtends_eq, S.library_options hw.library,
    hw.sinks]
  rfl

/-- A template does the same on both sides from the start of its body. -/
theorem agreeFrom_runTop {f : Frame} {host : Option String} {body body' : List Stmt}
    (hbody : S.StmtsRel k none body body')
    (hrun : S.AgreeFrom k (Run.runStmts eng f body) (Run.runStmts eng' (S.frame f host) body')) :
    S.AgreeFrom k (Run.runTop eng f body) (Run.runTop eng' (S.frame f host) body') := by
  unfold Run.runTop
  rw [hbody.find_eq]
  refine (agree_provideSelf f host _).after.bind fun _ => ?_
  exact (agree_enter f host).after.bind fun _ => hrun.discard

/-- Both templates extend the same one, if they extend one. -/
theorem sim_extendedBy (activation : Nat) :
    S.Sim k (Run.extendedBy activation) (Run.extendedBy (S.slot activation))
      fun l p p' => p' = p ∧ ∀ id, p = some id → S.same l id id := by
  refine Sim.read_bind fun w w' hw => Sim.pure ?_
  rw [hw.activations activation]
  cases hact : w.activations[activation]? with
  | none => exact ⟨rfl, fun _ h => nomatch h⟩
  | some act => exact ⟨rfl, fun id hid => hw.extended hact hid⟩

/-- What is asked of the bodies of templates: they do the same, and extend the same template. -/
def OwnLaw (S : Simulation) : Prop :=
  ∀ {k i i' context eng eng'}, S.EngRel eng eng' → S.same k i i' → S.pins context = none →
    S.Sim k (Run.runOwn eng i context) (Run.runOwn eng' i' context)
      fun l p p' => p' = p ∧ ∀ id, p = some id → S.same l id id

/-- Bodies of templates do the same if all that they extend may be asked for. -/
theorem ownLaw_of_extends (hS : S.Laws)
    (hroot : ∀ {k ss ss'}, S.root k ss ss' → ∀ a c, S.pins c = none → S.holds a = none →
      S.StmtsRel k (some (a, c)) ss ss') : S.OwnLaw := by
  intro k i i' context eng eng' h hi hpin
  refine (sim_template hS hi).bind fun l hl t t' ht => Sim.read_bind fun w w' hw => ?_
  refine (sim_newActivation _ rfl (by rintro _ ⟨⟩)).bind fun l₁ hl₁ a a' ha => ?_
  obtain ⟨rfl, hhold, hlive⟩ := ha
  rw [ownFrame_eq hw ht.stmts]
  have hbody := (hroot ht.body a context hpin hhold).later hl₁
  have hrun := agreeFrom_runStmts hS h (Run.ownFrame w i t.tree.body a context)
    (S.same_host hi) hlive (fun _ => rfl) hbody
  refine (agreeFrom_runTop hbody.nested hrun).now.bind fun l₂ _ _ _ _ => ?_
  exact sim_extendedBy a

theorem sim_runRoot (hown : S.OwnLaw) (h : S.EngRel eng eng') {i i' : TemplateId}
    (hi : S.same k i i') {context : Nat} (hpin : S.pins context = none) :
    S.Sim k (Run.runRoot eng i context) (Run.runRoot eng' i' context) fun _ a b => b = a := by
  refine (hown h hi hpin).bind fun l _ p p' hp => ?_
  obtain ⟨rfl, hparent⟩ := hp
  cases p' with
  | none => exact Sim.pure rfl
  | some id => exact h.root (hparent id rfl) hpin

/-! ## Engines -/

theorem engRel_stuck : S.EngRel .stuck .stuck where
  next _ := .accident _
  expr _ _ := .accident _
  body _ _ _ _ := Sim.accident _
  call _ _ _ _ := .accident _
  filter _ _ _ _ _ := .accident _
  test _ _ _ _ _ := .accident _
  root _ _ := Sim.accident _
  block _ _ _ := .accident _

/-- Nothing is said where the right run has run out of depth. -/
theorem Sim.stuck {α β : Type} {V : S.Stage → α → β → Prop} (hl : S.loose) (x : Run α) :
    S.Sim k x (Run.accident .tooDeep : Run β) V :=
  fun _ w' _ => .inr (.deep _ w' hl)

theorem engRel_stuck_of_loose (hl : S.loose) (eng : Engine) : S.EngRel eng .stuck where
  next _ _ := .stuck hl _
  expr _ _ _ := .stuck hl _
  body _ _ _ _ := .stuck hl _
  call _ _ _ _ _ := .stuck hl _
  filter _ _ _ _ _ _ := .stuck hl _
  test _ _ _ _ _ _ := .stuck hl _
  root _ _ := .stuck hl _
  block _ _ _ _ := .stuck hl _

theorem engRel_succ (hS : S.Laws) (hown : S.OwnLaw) {m n : Nat}
    (h : S.EngRel (.ofDepth m) (.ofDepth n)) : S.EngRel (.ofDepth (m + 1)) (.ofDepth (n + 1)) where
  next cell := agree_nextItem h cell
  expr hhost he := agree_evaluate h _ hhost he
  body hhost htop hlive hss := (agreeFrom_runStmts hS h _ hhost hlive (nested htop) hss).now
  call context v args named := agree_call h context v args named
  filter site name v args named := agree_applyFilter h site name v args named
  test site name v args named := agree_applyTest h site name v args named
  root hi hpin := sim_runRoot hown h hi hpin
  block name depth context := agree_runBlock hS h name depth context

/-- Engines of the same depth do the same on both sides. -/
theorem engRel_ofDepth (hS : S.Laws) (hown : S.OwnLaw) (n : Nat) :
    S.EngRel (.ofDepth n) (.ofDepth n) := by
  induction n with
  | zero => exact engRel_stuck
  | succ n ih => exact engRel_succ hS hown ih

/-- An engine of less depth does the same on the right as far as it gets. -/
theorem engRel_ofDepth_of_loose (hS : S.Laws) (hown : S.OwnLaw) (hl : S.loose) (n d : Nat) :
    S.EngRel (.ofDepth (n + d)) (.ofDepth n) := by
  induction n with
  | zero => exact engRel_stuck_of_loose hl _
  | succ n ih =>
    rw [Nat.add_right_comm]
    exact engRel_succ hS hown ih

end Simulation

end Stencil
