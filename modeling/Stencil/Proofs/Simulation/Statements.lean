import Stencil.Proofs.Simulation.Loading

/-!
# Statements

Related statements do the same on both sides. Each kind of statement has its own lemma, which takes
for granted that its bodies do the same in frames inside the present one; the induction over related
statements puts them together.
-/

namespace Stencil

namespace Run

/-- Statements run on after others only if these do not leave the body. -/
theorem runStmts_append (eng : Engine) (f : Frame) (ss ts : List Stmt) :
    runStmts eng f (ss ++ ts) = (do
      match ← runStmts eng f ss with
      | .next => runStmts eng f ts
      | flow => return flow) := by
  induction ss with
  | nil =>
    rw [List.nil_append, runStmts, pure_bind]
  | cons s ss ih =>
    rw [List.cons_append, runStmts, runStmts, bind_assoc]
    congr 1
    funext flow
    cases flow with
    | next => exact ih
    | breakLoop => rw [pure_bind]
    | continueLoop => rw [pure_bind]

end Run

namespace Simulation

variable {S : Simulation} {eng eng' : Engine} {k : S.Stage}

/-! ## Output and assignments -/

theorem agree_shown (h : S.EngRel eng eng') (f : Frame) (host : Option String) (v : Value) :
    S.Agree (Run.shown eng f v) (Run.shown eng' (S.frame f host) v) :=
  (agree_escapes f host).bind fun _ => .ite (agree_escaped h v) (agree_str h v)

theorem agree_forM_alike {f f' : Expr → Run PUnit}
    (h : ∀ e e', Expr.Alike S.line e e' → S.Agree (f e) (f' e')) :
    ∀ {es es' : List Expr}, Expr.AlikeAll S.line es es' → S.Agree (es.forM f) (es'.forM f')
  | _, _, .nil => .pure _
  | _, _, .cons he hes => (h _ _ he).bind fun _ => agree_forM_alike h hes

theorem agree_runOutput (h : S.EngRel eng eng') (f : Frame) {host : Option String}
    (hhost : S.host f.host host) {es es' : List Expr} (hes : Expr.AlikeAll S.line es es') :
    S.Agree (Run.runOutput eng f es) (Run.runOutput eng' (S.frame f host) es') := by
  refine (agree_isExtended f host).bind fun b => .ite (.pure _) ?_
  refine agree_forM_alike (fun e e' he => ?_) hes
  refine (agree_printed h f.escaping he).bind fun o => ?_
  cases o with
  | some s => exact agree_write s
  | none =>
    exact (agree_evaluate h f hhost he).bind fun v => (agree_shown h f host v).bind fun _ =>
      agree_write _

theorem agree_publish (context : Nat) (name : String) (v : Value) (isExported : Bool) :
    S.Agree (Run.publish context name v isExported) (Run.publish context name v isExported) := by
  refine agree_modifyContext context (fun k c c' hc => ?_) fun _ => rfl
  obtain ⟨n, blocks, hname, hblocks⟩ := hc
  exact .mk _ n blocks hname hblocks

theorem agree_publishAssigned (f : Frame) (host : Option String) (name : String) (v : Value) :
    S.Agree (Run.publishAssigned f name v) (Run.publishAssigned (S.frame f host) name v) :=
  agree_context_bind f.context fun _ _ _ => agree_publish _ name v _

theorem agree_publishTarget (f : Frame) (host : Option String) {t t' : Target}
    (ht : Target.Alike S.line t t') :
    S.Agree (Run.publishTarget f t) (Run.publishTarget (S.frame f host) t') := by
  unfold Run.publishTarget
  rw [ht.names_eq]
  refine .ite (Agree.forM (fun n => ?_) t.names) (.pure _)
  exact (agree_valueOf f host n).bind fun v => agree_publishAssigned f host n v

theorem agree_checkSubjects (f : Frame) (host : Option String) {t t' : Target}
    (ht : Target.Alike S.line t t') :
    S.Agree (Run.checkSubjects f t) (Run.checkSubjects (S.frame f host) t') := by
  unfold Run.checkSubjects
  rw [ht.subjects_eq]
  refine Agree.forM (fun s => ?_) t.subjects
  rw [frame_scope]
  cases f.scope.find? s with
  | none => exact .accident _
  | some v =>
    refine (agree_readVariable _ v).bind fun o => ?_
    split
    · exact .pure _
    · exact .throw (.refl _ nofun)

theorem agree_runAssign (h : S.EngRel eng eng') (f : Frame) {host : Option String}
    (hhost : S.host f.host host) {t t' : Target} (ht : Target.Alike S.line t t') {e e' : Expr}
    (he : Expr.Alike S.line e e') :
    S.Agree (Run.runAssign eng f t e) (Run.runAssign eng' (S.frame f host) t' e') := by
  refine (agree_checkSubjects f host ht).bind fun _ => ?_
  refine (agree_evaluate h f hhost he).bind fun v => (agree_assign h f host ht v).bind fun _ => ?_
  exact agree_publishTarget f host ht

/-! ## Macros and calls -/

theorem agreeFrom_runMacroDef (f : Frame) {host : Option String} (hhost : S.host f.host host)
    (hlive : S.live k f.activation) (name : String) (params : List String) {defaults defaults' : List Expr}
    (hdefaults : Expr.AlikeAll S.line defaults defaults') {body body' : List Stmt}
    (hbody : S.StmtsRel k none body body') :
    S.AgreeFrom k (Run.runMacroDef f name params defaults body)
      (Run.runMacroDef (S.frame f host) name params defaults' body') := by
  refine (agreeFrom_newMacro f hhost hlive (some name) params hdefaults hbody).bind fun m => ?_
  refine (agree_setName f host name m).after.bind fun _ => Agree.after ?_
  exact .ite (agree_publishAssigned f host name m) (.pure _)

theorem agreeFrom_runCallBlock (h : S.EngRel eng eng') (f : Frame) {host : Option String}
    (hhost : S.host f.host host) (hlive : S.live k f.activation) {e e' : Expr} (he : Expr.Alike S.line e e') {args args' : Args}
    (hargs : Args.Alike S.line args args') (params : List String) {defaults defaults' : List Expr}
    (hdefaults : Expr.AlikeAll S.line defaults defaults') {body body' : List Stmt}
    (hbody : S.StmtsRel k none body body') :
    S.AgreeFrom k (Run.runCallBlock eng f e args params defaults body)
      (Run.runCallBlock eng' (S.frame f host) e' args' params defaults' body') := by
  refine (agreeFrom_newMacro f hhost hlive none params hdefaults hbody).bind
    fun caller => Agree.after ?_
  refine (agree_evaluate h f hhost he).bind fun v => ?_
  refine (agree_evaluateArgs h f hhost hargs).bind fun as => .ite .badType ?_
  exact (h.call f.context v _ _).bind fun _ => agree_writeValue _

/-! ## Bodies whose output is collected -/

theorem agree_filtered (h : S.EngRel eng eng') (f : Frame) {host : Option String}
    (hhost : S.host f.host host) {e e' : Expr} (he : Expr.Alike S.line e e') (text : String) :
    S.Agree (Run.filtered eng f e text) (Run.filtered eng' (S.frame f host) e' text) :=
  (agree_bufferValue f host text).bind fun v =>
    agree_evaluate h { f with captured := some v } hhost he

theorem AgreeFrom.collectWith {α : Type} {x x' : Run α} (hx : S.AgreeFrom k x x') :
    S.AgreeFrom k (Run.collectWith x) (Run.collectWith x') :=
  fun l hl => (sim_collectWith (hx l hl)).imp fun _ _ _ _ h => Prod.ext h.1 h.2

theorem agreeFrom_runFilterBlock (h : S.EngRel eng eng') (f : Frame) {host : Option String}
    (hhost : S.host f.host host) (hlive : S.live k f.activation) {e e' : Expr}
    (he : Expr.Alike S.line e e') {body body' : List Stmt} (hbody : S.StmtsRel k none body body') {run run' : Frame → Run Flow}
    (hrun : S.BodyRel k host run run') :
    S.AgreeFrom k (Run.runFilterBlock eng f e body run)
      (Run.runFilterBlock eng' (S.frame f host) e' body' run') := by
  unfold Run.runFilterBlock
  dsimp only
  rw [ofFilterBlock_eq he hbody]
  let g : Frame := f.inner (f.scope.inner.ofFilterBlock e body)
  refine (agree_enter g host).after.bind fun _ => ?_
  refine (hrun g hhost rfl hlive).collectWith.bind fun out => .ite (.pure _) (Agree.after ?_)
  refine (agree_joined out.2).bind fun text => (agree_filtered h g hhost he text).bind fun v => ?_
  exact (agree_writeValue v).bind fun _ => (agree_leave g host).bind fun _ => .pure _

theorem agree_filteredIf (h : S.EngRel eng eng') (f : Frame) {host : Option String}
    (hhost : S.host f.host host) {o o' : Option Expr} (ho : Expr.AlikeOption S.line o o')
    (text : String) :
    S.Agree (Run.filteredIf eng f o text) (Run.filteredIf eng' (S.frame f host) o' text) := by
  cases ho with
  | none => exact .pure _
  | some he => exact agree_filtered h f hhost he text

theorem agree_assignedText (h : S.EngRel eng eng') (f : Frame) {host : Option String}
    (hhost : S.host f.host host) {o o' : Option Expr} (ho : Expr.AlikeOption S.line o o')
    (text : String) :
    S.Agree (Run.assignedText eng f o text) (Run.assignedText eng' (S.frame f host) o' text) := by
  refine (agree_filteredIf h f hhost ho text).bind fun v => ?_
  refine agree_context_bind f.context fun c _ _ => .ite ?_ (.pure _)
  exact (agree_str h v).bind fun _ => .pure _

theorem agreeFrom_runAssignBlock (h : S.EngRel eng eng') (f : Frame) {host : Option String}
    (hhost : S.host f.host host) (hlive : S.live k f.activation) {t t' : Target}
    (ht : Target.Alike S.line t t') {o o' : Option Expr} (ho : Expr.AlikeOption S.line o o') {body body' : List Stmt}
    (hbody : S.StmtsRel k none body body') {run run' : Frame → Run Flow}
    (hrun : S.BodyRel k host run run') :
    S.AgreeFrom k (Run.runAssignBlock eng f t o body run)
      (Run.runAssignBlock eng' (S.frame f host) t' o' body' run') := by
  unfold Run.runAssignBlock
  dsimp only
  rw [hbody.visitAll_eq]
  let g : Frame := { f.inner (f.scope.inner.visitAll body) with checked := false }
  refine (agree_enter g host).after.bind fun _ => ?_
  refine (hrun g hhost rfl hlive).collectWith.bind fun out => .ite (.pure _) (Agree.after ?_)
  refine (agree_joined out.2).bind fun text => (agree_assignedText h g hhost ho text).bind fun v => ?_
  refine (agree_assign h f host ht v).bind fun _ => (agree_publishTarget f host ht).bind fun _ => ?_
  exact (agree_leave g host).bind fun _ => .pure _

/-! ## Scopes, loops and escaping -/

theorem agree_setEscaping (context : Nat) (autoescape : Bool) :
    S.Agree (Run.setEscaping context autoescape) (Run.setEscaping context autoescape) := by
  refine agree_modifyContext context (fun k c c' hc => ?_) fun _ => rfl
  obtain ⟨n, blocks, hname, hblocks⟩ := hc
  exact .mk _ n blocks hname hblocks

theorem agreeFrom_runAutoescape (h : S.EngRel eng eng') (f : Frame) {host : Option String}
    (hhost : S.host f.host host) (hlive : S.live k f.activation) {e e' : Expr}
    (he : Expr.Alike S.line e e') {body body' : List Stmt} (hbody : S.StmtsRel k none body body') {run run' : Frame → Run Flow}
    (hrun : S.BodyRel k host run run') :
    S.AgreeFrom k (Run.runAutoescape eng f e body run)
      (Run.runAutoescape eng' (S.frame f host) e' body' run') := by
  unfold Run.runAutoescape
  dsimp only
  rw [ofAutoescape_eq he hbody]
  let g : Frame := f.inner (f.scope.inner.ofAutoescape e body)
  refine (agree_enter g host).after.bind fun _ => ?_
  refine AgreeFrom.context_bind f.context fun c _ _ => ?_
  refine (agree_evaluate h g hhost he).after.bind fun v => ?_
  refine (agree_truth h v).after.bind fun on => (agree_setEscaping f.context on).after.bind fun _ => ?_
  refine (agree_escapingIn h f.escaping he).after.bind fun esc => ?_
  refine (hrun { g with autoescape := esc.autoescape, volatile := esc.volatile } hhost rfl hlive).bind
    fun flow => .ite (Agree.after ?_) (.pure _)
  exact (agree_setEscaping f.context _).bind fun _ => (agree_leave g host).bind fun _ => .pure _

theorem agree_forM_bindings {f f' : Target × Expr → Run PUnit}
    (h : ∀ t t' e e', Target.Alike S.line t t' → Expr.Alike S.line e e' →
      S.Agree (f (t, e)) (f' (t', e'))) {bs bs' : List (Target × Expr)} (hbs : S.BindingsRel bs bs') :
    S.Agree (bs.forM f) (bs'.forM f') := by
  induction hbs with
  | nil => exact .pure _
  | cons hb _ ih => exact (h _ _ _ _ hb.1 hb.2).bind fun _ => ih

theorem agreeFrom_runWith (h : S.EngRel eng eng') (f : Frame) {host : Option String}
    (hhost : S.host f.host host) (hlive : S.live k f.activation) {bs bs' : List (Target × Expr)}
    (hbs : S.BindingsRel bs bs') {body body' : List Stmt} (hbody : S.StmtsRel k none body body') {run run' : Frame → Run Flow}
    (hrun : S.BodyRel k host run run') :
    S.AgreeFrom k (Run.runWith eng f bs body run)
      (Run.runWith eng' (S.frame f host) bs' body' run') := by
  unfold Run.runWith
  dsimp only
  rw [ofWith_eq hbs hbody]
  let g : Frame := f.inner (f.scope.inner.ofWith bs body)
  refine (agree_enter g host).after.bind fun _ => ?_
  refine (agree_forM_bindings (fun t t' e e' ht he => ?_) hbs).after.bind fun _ => ?_
  · exact (agree_evaluate h f hhost he).bind fun v => agree_assign h g host ht v
  · exact (hrun g hhost rfl hlive).bind fun flow => agreeFrom_leaveAfter g host flow

theorem agree_clearLoop (f : Frame) (host : Option String) (provided : Bool) (level : Nat) :
    S.Agree (Run.clearLoop f provided level) (Run.clearLoop (S.frame f host) provided level) :=
  .ite (agree_setVariable _ _ _) (.pure _)

theorem agreeFrom_runLoop (h : S.EngRel eng eng') (f : Frame) {host : Option String}
    (hhost : S.host f.host host) (hlive : S.live k f.activation) {t t' : Target}
    (ht : Target.Alike S.line t t') {e e' : Expr} (he : Expr.Alike S.line e e') {body body' orElse orElse' : List Stmt}
    (hbody : S.StmtsRel k none body body') (horElse : S.StmtsRel k none orElse orElse')
    {test test' : Option Expr} (htest : Expr.AlikeOption S.line test test')
    {run run' runElse runElse' : Frame → Run Flow} (hrun : S.BodyRel k host run run')
    (hrunElse : S.BodyRel k host runElse runElse') :
    S.AgreeFrom k (Run.runLoop eng f t e body orElse test run runElse)
      (Run.runLoop eng' (S.frame f host) t' e' body' orElse' test' run' runElse') := by
  unfold Run.runLoop
  dsimp only
  rw [loopProvided_eq hbody horElse, inLoop_eq ht hbody]
  refine (agree_clearLoop f host _ _).after.bind fun _ => ?_
  refine (agree_evaluate h f hhost he).after.bind fun v => ?_
  refine (agreeFrom_passing f hhost hlive ht htest v).bind fun source => ?_
  refine (agreeFrom_runItems h (f.inner _) host _ (fun c => .plain _ rfl) 0 ht source
    (hrun _ hhost rfl hlive)).bind fun completed => .ite (.pure _) ?_
  exact agreeFrom_runAlternative f hhost hlive horElse hrunElse

/-! ## Blocks -/

theorem sim_derivedContext (f : Frame) (host : Option String) :
    S.Sim k (Run.derivedContext f) (Run.derivedContext (S.frame f host)) fun _ a b => b = a := by
  refine (sim_context f.context).bind fun l _ c c' hc => ?_
  obtain ⟨n, blocks, hname, hblocks⟩ := hc
  refine (agree_knownAt f host l).bind fun m hm known known' hknown => ?_
  subst hknown
  let d : Context := { c with parent := known', vars := [], exported := [], globalKeys := [] }
  exact (sim_newContext (.mk d n blocks hname (hblocks.later hm))).imp fun _ _ _ _ h => h.1

theorem agree_checkBlock (context : Nat) (name : String) (isRequired : Bool) :
    S.Agree (Run.checkBlock context name isRequired) (Run.checkBlock context name isRequired) := by
  refine fun k => (sim_blockDefs context name).bind fun l _ ds ds' hds => ?_
  have hempty : ds'.isEmpty = ds.isEmpty := by
    cases hds.all <;> rfl
  rw [hds.length_eq, hempty]
  refine Agree.ite (.throw ?_) (.ite (.accident _) (.pure _)) l
  exact .refl _ nofun

theorem agree_keepEscaping (f : Frame) (host : Option String) (isScoped : Bool) (ctx : Nat) :
    S.Agree (Run.keepEscaping f isScoped ctx) (Run.keepEscaping (S.frame f host) isScoped ctx) :=
  .ite (agree_context_bind ctx fun _ _ _ => agree_setEscaping f.context _) (.pure _)

theorem agree_runBlockHere (h : S.EngRel eng eng') (f : Frame) (host : Option String)
    (name : String) (isScoped isRequired : Bool) :
    S.Agree (Run.runBlockHere eng f name isScoped isRequired)
      (Run.runBlockHere eng' (S.frame f host) name isScoped isRequired) := by
  refine (agree_isExtended f host).bind fun b => .ite (.pure _) ?_
  have hcontext : S.Agree (Run.blockContext f isScoped)
      (Run.blockContext (S.frame f host) isScoped) :=
    .ite (fun k => sim_derivedContext f host) (.pure _)
  refine hcontext.bind fun ctx => (agree_checkBlock f.context name isRequired).bind fun _ => ?_
  exact (h.block name 0 ctx).bind fun _ => agree_keepEscaping f host isScoped ctx

/-! ## Other templates -/

theorem sim_runInContext (hS : S.Laws) (h : S.EngRel eng eng') (f : Frame) (host : Option String)
    {i i' : TemplateId} (hi : S.same k i i') :
    S.Sim k (Run.runInContext eng f i) (Run.runInContext eng' (S.frame f host) i')
      fun _ a b => b = a := by
  refine Sim.agree_bind (agree_knownAt f host) fun l hl known => ?_
  refine (sim_contextFor hS (S.same_mono hl hi) known).bind fun m hm c c' hc => ?_
  obtain ⟨rfl, hpin⟩ := hc
  exact h.root (S.same_mono (S.le_trans hl hm) hi) hpin

theorem sim_ifFound {x x' : Run TemplateId} (hx : S.Sim k x x' S.Loaded) :
    S.Sim k (Run.ifFound x) (Run.ifFound x') S.LoadedOption := by
  refine Sim.handle ?_ (fun l _ f f' hf => ?_) fun _ _ => rfl
  · exact hx.bind fun l _ i i' hi => Sim.pure (.some hi)
  · cases hf with
    | notFound hm d => exact Sim.pure .none
    | noneFound hm => exact Sim.pure .none
    | undefined hm => exact Sim.throw (.undefined hm)
    | syntaxError hl f => exact Sim.throw (.syntaxError hl f)
    | runtime hm => exact Sim.throw (.runtime hm)
    | filterArgument m => exact Sim.throw (.filterArgument m)
    | noLoader => exact Sim.throw .noLoader
    | accident a => exact Sim.throw (.accident a)
    | notConstant => exact Sim.throw .notConstant

theorem sim_included (hS : S.Laws) (h : S.EngRel eng eng') (f : Frame) {host : Option String}
    (hhost : S.host f.host host) {e e' : Expr} (he : S.Allowed e e') (ignoreMissing : Bool) :
    S.Sim k (Run.included eng f e ignoreMissing) (Run.included eng' (S.frame f host) e' ignoreMissing)
      S.LoadedOption := by
  have hload : S.Sim k (do Load.templateOrFirst eng (← Run.evaluate eng f e))
      (do Load.templateOrFirst eng' (← Run.evaluate eng' (S.frame f host) e')) S.Loaded := by
    refine (sim_evaluateName h f hhost he).bind fun l _ v v' hv => ?_
    obtain ⟨rfl, hv⟩ := hv
    exact sim_templateOrFirst hS h hv
  unfold Run.included
  dsimp only
  split
  · exact sim_ifFound hload
  · exact hload.map fun _ _ _ _ hi => .some hi

theorem sim_runWithoutContext (hS : S.Laws) (h : S.EngRel eng eng') (f : Frame)
    (host : Option String) {i i' : TemplateId} (hi : S.Loaded k i i') :
    S.Sim k (Run.runWithoutContext eng f i) (Run.runWithoutContext eng' (S.frame f host) i')
      fun _ a b => b = a := by
  refine (sim_sharedModule hS h hi).bind fun l _ cell cell' hcell => ?_
  subst hcell
  refine Sim.read_bind fun w w' hw => ?_
  rw [hw.modules]
  split
  · exact agree_writeStream _ _ l
  · exact Sim.pure rfl

theorem agree_runInclusion (hS : S.Laws) (h : S.EngRel eng eng') (f : Frame)
    {host : Option String} (hhost : S.host f.host host) {e e' : Expr} (he : S.Allowed e e')
    (withContext ignoreMissing : Bool) :
    S.Agree (Run.runInclusion eng f e withContext ignoreMissing)
      (Run.runInclusion eng' (S.frame f host) e' withContext ignoreMissing) := by
  refine fun k => (sim_included hS h f hhost he ignoreMissing).bind fun l _ o o' ho => ?_
  cases ho with
  | none => exact Sim.pure rfl
  | some hi =>
    dsimp only
    split
    · exact sim_runInContext hS h f host hi.same
    · exact sim_runWithoutContext hS h f host hi

/-- A child is included by its name where the tag of an embed leads to it. -/
theorem sim_runChild (hS : S.Laws) (h : S.EngRel eng eng') (f : Frame) (host : Option String)
    {key name : String} (hchild : S.child k key name) (el : Nat) :
    S.Sim k (do Run.runInContext eng f (← Load.ofTag eng key))
      (Run.runInclusion eng' (S.frame f host) (.const el (.text name)) true false)
      fun _ a b => b = a := by
  have hload : Run.runInclusion eng' (S.frame f host) (.const el (.text name)) true false =
      (do Run.runInContext eng' (S.frame f host) (← Load.template eng' [] (.plain name))) := by
    unfold Run.runInclusion Run.included
    rw [evaluate_text]
    simp only [pure_bind, Bool.false_eq_true, if_false, if_true, map_eq_pure_bind, bind_assoc]
    rfl
  rw [hload]
  exact (hS.child hchild).bind fun l _ i i' hi => sim_runInContext hS h f host hi

theorem sim_importedModule (hS : S.Laws) (h : S.EngRel eng eng') (f : Frame) {host : Option String}
    (hhost : S.host f.host host) {e e' : Expr} (he : S.Allowed e e') (withContext : Bool) :
    S.Sim k (Run.importedModule eng f e withContext)
      (Run.importedModule eng' (S.frame f host) e' withContext) fun _ a b => b = a := by
  refine (sim_evaluateName h f hhost he).bind fun l hl v v' hv => ?_
  obtain ⟨rfl, hv⟩ := hv
  refine (sim_loadTemplate hS h hv).bind fun l₁ _ i i' hi => ?_
  split
  · refine Sim.agree_bind (agree_knownAt f host) fun l₂ hl₂ known => ?_
    refine (sim_contextFor hS (S.same_mono hl₂ hi.same) known).bind fun l₃ hl₃ c c' hc => ?_
    obtain ⟨rfl, hpin⟩ := hc
    exact sim_makeModule h (hi.later (S.le_trans hl₂ hl₃)) hpin
  · exact sim_moduleFor hS h hi f.context

theorem agree_publishImport (f : Frame) (host : Option String) (name : String) (v : Value) :
    S.Agree (Run.publishImport f name v) (Run.publishImport (S.frame f host) name v) :=
  agree_context_bind f.context fun _ _ _ => agree_publish _ name v _

theorem agree_runImport (hS : S.Laws) (h : S.EngRel eng eng') (f : Frame) {host : Option String}
    (hhost : S.host f.host host) {e e' : Expr} (he : S.Allowed e e') (target : String)
    (withContext : Bool) :
    S.Agree (Run.runImport eng f e target withContext)
      (Run.runImport eng' (S.frame f host) e' target withContext) := by
  refine Agree.bind (fun k => sim_importedModule hS h f hhost he withContext) fun cell => ?_
  refine (agree_setName f host target _).bind fun _ => ?_
  exact .ite (agree_publishImport f host target _) (.pure _)

theorem agree_importedName (h : S.EngRel eng eng') (f : Frame) {host : Option String}
    (hhost : S.host f.host host) {l l' : Nat} (hl : S.line l l') (cell : Nat) (name : String) :
    S.Agree (Run.importedName eng f l cell name)
      (Run.importedName eng' (S.frame f host) l' cell name) := by
  refine Agree.read_bind fun _ w w' hw => ?_
  rw [hw.modules]
  refine (agree_attribute h _ name).bind fun o => ?_
  cases o with
  | some v => exact .pure v
  | none =>
    exact (agree_newNote (.notExported _ hhost hl name)).bind fun _ => agree_undefined _

theorem agree_runImportNames (hS : S.Laws) (h : S.EngRel eng eng') (f : Frame)
    {host : Option String} (hhost : S.host f.host host) {l l' : Nat} (hl : S.line l l')
    {e e' : Expr} (he : S.Allowed e e') (names : List ImportName) (withContext : Bool) :
    S.Agree (Run.runImportNames eng f l e names withContext)
      (Run.runImportNames eng' (S.frame f host) l' e' names withContext) := by
  refine Agree.bind (fun k => sim_importedModule hS h f hhost he withContext) fun cell => ?_
  refine (Agree.forM (fun n => ?_) names).bind fun _ => .ite (Agree.forM (fun n => ?_) names) (.pure _)
  · exact (agree_importedName h f hhost hl cell n.name).bind fun v => agree_setName f host _ v
  · exact (agree_valueOf f host _).bind fun v => agree_publishImport f host _ v

/-! ## Extending templates -/

theorem sim_setExtended {activation : Nat} (hhold : S.holds activation = none) {id : TemplateId}
    (hid : S.same k id id) :
    S.Sim k (Run.setExtended activation id) (Run.setExtended (S.slot activation) id)
      fun _ a b => b = a := by
  refine Sim.imp (Sim.update fun w w' hw => ?_) fun _ _ _ _ _ => rfl
  refine hw.modifyActivation activation (fun _ => rfl) (fun _ => rfl) (fun _ _ => rfl)
    (fun act j hj => .inr ?_) (.inl hhold)
  cases hj
  exact hid

/-- A template that is marked extends another already. -/
theorem extendedIn_of_marked {w w' : World} (hw : S.Rel k w w') {a : Nat} (ha : S.marked k a) :
    Run.extendedIn w (Run.nestingOf w a) a = true := by
  obtain ⟨act, hact, hsome⟩ := hw.marked a ha
  rw [Run.nestingOf, Run.extendedIn, hact]
  simp only [hsome, Bool.true_or]

/-- Whether the template at work extends another is the same on both sides, and known as it is in
the present state. -/
theorem sim_isExtended_bind {α β : Type} {V : S.Stage → α → β → Prop} (f : Frame)
    (host : Option String) {x : Bool → Run α} {x' : Bool → Run β}
    (h : ∀ w w', S.Rel k w w' →
      S.Sim k (x (Run.extendedIn w (Run.nestingOf w f.activation) f.activation))
        (x' (Run.extendedIn w (Run.nestingOf w f.activation) f.activation)) V) :
    S.Sim k (Run.isExtended f >>= x) (Run.isExtended (S.frame f host) >>= x') V := by
  refine Sim.read_bind fun w w' hw => ?_
  change S.Sim k (x _) (x' (Run.extendedIn w' (Run.nestingOf w' (S.slot f.activation))
    (S.slot f.activation))) V
  rw [nestingOf_slot hw, extendedIn_slot hw]
  exact h w w' hw

/-- Extending a template leads to a stage at which more may be known, if noting it does. -/
theorem sim_runExtend (hS : S.Laws) (h : S.EngRel eng eng') (f : Frame) {host : Option String}
    (hhost : S.host f.host host) {top : Option (Nat × Nat)}
    (htop : f.toplevel = true → top = some (f.activation, f.context)) {e e' : Expr}
    (he : S.Extends k top e e') {P : S.Stage → Prop} (hP : ∀ l m, S.le l m → P l → P m)
    (hset : ∀ l id, S.le k l → S.same l id id → S.holds f.activation = none →
      S.Sim l (Run.setExtended f.activation id) (Run.setExtended (S.slot f.activation) id)
        fun m _ _ => P m) :
    S.Sim k (Run.runExtend eng f e) (Run.runExtend eng' (S.frame f host) e') fun m _ _ => P m := by
  unfold Run.runExtend
  change S.Sim k _ (if f.toplevel = true then _ else _) _
  split
  · rename_i htrue
    obtain ⟨hpin, hhold, hallowed⟩ := he _ _ (htop htrue)
    refine sim_isExtended_bind f host fun w w' hw => ?_
    split
    · exact Sim.throw (.refl _ nofun)
    · rename_i hfalse
      -- had the function been marked, it would be known to extend a template already
      have hallowed : S.Allowed e e' :=
        hallowed.resolve_right fun hmarked => hfalse (extendedIn_of_marked hw hmarked)
      refine (sim_evaluateName h f hhost hallowed).bind fun l hl v v' hv => ?_
      obtain ⟨rfl, hv⟩ := hv
      refine (sim_loadTemplate hS h hv).bind fun l₁ hl₁ i i' hi => ?_
      refine hi.attach fun heq hid => ?_
      subst heq
      refine (hset l₁ i' (S.le_trans hl hl₁) hid.same hhold).bind fun l₂ hl₂ _ _ hmark => ?_
      exact (sim_appendBlocks hS hpin (hid.later hl₂)).imp fun m hm _ _ _ => hP l₂ m hm hmark
  · exact Sim.accident _

/-! ## All statements -/

theorem AgreeFrom.andNext {x x' : Run Unit} (hx : S.AgreeFrom k x x') :
    S.AgreeFrom k (Run.andNext x) (Run.andNext x') :=
  hx.bind fun _ => .pure _

/-- Nothing is asked of where a body inside a template stands. -/
theorem nested {f : Frame} (hf : f.toplevel = false) {top : Option (Nat × Nat)} :
    f.toplevel = true → top = some (f.activation, f.context) :=
  fun h => absurd (hf.symm.trans h) Bool.false_ne_true

mutual

theorem agreeFrom_runStmt (hS : S.Laws) (h : S.EngRel eng eng') (f : Frame) {host : Option String}
    (hhost : S.host f.host host) (hlive : S.live k f.activation) {top : Option (Nat × Nat)}
    (htop : f.toplevel = true → top = some (f.activation, f.context)) {s s' : Stmt} :
    S.StmtRel k top s s' → S.AgreeFrom k (Run.runStmt eng f s) (Run.runStmt eng' (S.frame f host) s')
  | .output _ hes => (agree_runOutput h f hhost hes).after.andNext
  | .extend _ he hextends => AgreeFrom.andNext fun l hl => by
    have hextends : S.Extends l top _ _ := fun a c hac =>
      ⟨(hextends a c hac).1, (hextends a c hac).2.1,
        (hextends a c hac).2.2.imp_right (S.marked_mono hl)⟩
    refine (sim_runExtend hS h f hhost htop hextends (fun _ _ _ _ => trivial)
      fun m id _ hid hhold => ?_).imp fun _ _ _ _ _ => rfl
    exact (sim_setExtended hhold hid).imp fun _ _ _ _ _ => trivial
  | .loop _ ht he hbody horElse htest recursive => by
    -- a recursive loop is a function of its own, which may be called again from its body
    cases recursive with
    | true =>
      refine AgreeFrom.andNext ((agree_evaluate h f hhost he).after.bind fun v => ?_)
      refine (agreeFrom_runRecursive h (.mk f host ht hbody horElse htest hhost hlive) v 0).bind
        fun text => ?_
      exact (agree_writeValue text).after
    | false =>
      refine agreeFrom_runLoop h f hhost hlive ht he hbody horElse htest
        (fun g hg htop hlive => ?_) fun g hg htop hlive => ?_
      · exact agreeFrom_runStmts hS h g hg hlive (nested htop) hbody
      · exact agreeFrom_runStmts hS h g hg hlive (nested htop) horElse
  | .branch _ he hbody helifs horElse => by
    -- a branch is not at the root, but still at the top level
    let g : Frame := { f with rootlevel := false }
    refine (agree_evaluate h g hhost he).after.bind fun v => ?_
    refine (agree_truth h v).after.bind fun b => .ite ?_ ?_
    · exact agreeFrom_runStmts hS h g hhost hlive htop hbody
    · refine (agreeFrom_runElifs hS h g hhost hlive htop helifs).bind fun o => ?_
      cases o with
      | some flow => exact .pure _
      | none => exact agreeFrom_runStmts hS h g hhost hlive htop horElse
  | .macroDef _ name params hdefaults hbody =>
    (agreeFrom_runMacroDef f hhost hlive name params hdefaults hbody).andNext
  | .callBlock _ _ he hargs params hdefaults hbody =>
    (agreeFrom_runCallBlock h f hhost hlive he hargs params hdefaults hbody).andNext
  | .filterBlock _ he hbody => by
    rw [Run.runStmt, Run.runStmt]
    refine agreeFrom_runFilterBlock h f hhost hlive he hbody fun g hg htop hlive => ?_
    exact agreeFrom_runStmts hS h g hg hlive (nested htop) hbody
  | .withBlock _ hbs hbody => by
    rw [Run.runStmt, Run.runStmt]
    refine agreeFrom_runWith h f hhost hlive hbs hbody fun g hg htop hlive => ?_
    exact agreeFrom_runStmts hS h g hg hlive (nested htop) hbody
  | .block _ name _ isScoped isRequired =>
    (agree_runBlockHere h f host name isScoped isRequired).after.andNext
  | .inclusion _ he withContext ignoreMissing =>
    (agree_runInclusion hS h f hhost he withContext ignoreMissing).after.andNext
  | .importModule _ he target withContext =>
    (agree_runImport hS h f hhost he target withContext).after.andNext
  | .importNames hl he names withContext =>
    (agree_runImportNames hS h f hhost hl he names withContext).after.andNext
  | .exprStmt _ he => by
    rw [Run.runStmt, Run.runStmt]
    exact (agree_evaluate h f hhost he).discard.after.andNext
  | .assign _ ht he => (agree_runAssign h f hhost ht he).after.andNext
  | .assignBlock _ ht ho hbody => by
    rw [Run.runStmt, Run.runStmt]
    refine agreeFrom_runAssignBlock h f hhost hlive ht ho hbody fun g hg htop hlive => ?_
    exact agreeFrom_runStmts hS h g hg hlive (nested htop) hbody
  | .autoescape _ he hbody => by
    rw [Run.runStmt, Run.runStmt]
    refine agreeFrom_runAutoescape h f hhost hlive he hbody fun g hg htop hlive => ?_
    exact agreeFrom_runStmts hS h g hg hlive (nested htop) hbody
  | .continueLoop _ => .pure _
  | .breakLoop _ => .pure _
  | .embed _ _ _ => .accident _
  | .embedded _ htag => AgreeFrom.andNext fun l hl =>
    (hS.tag (S.tag_mono hl htag)).bind fun _ _ _ _ hi => sim_runInContext hS h f host hi
  | .child _ hchild => AgreeFrom.andNext fun l hl =>
    sim_runChild hS h f host (S.child_mono hl hchild) _

theorem agreeFrom_runStmts (hS : S.Laws) (h : S.EngRel eng eng') (f : Frame) {host : Option String}
    (hhost : S.host f.host host) (hlive : S.live k f.activation) {top : Option (Nat × Nat)}
    (htop : f.toplevel = true → top = some (f.activation, f.context)) {ss ss' : List Stmt} :
    S.StmtsRel k top ss ss' →
      S.AgreeFrom k (Run.runStmts eng f ss) (Run.runStmts eng' (S.frame f host) ss')
  | .nil => .pure _
  | .cons hs hss => by
    refine (agreeFrom_runStmt hS h f hhost hlive htop hs).bind fun flow => ?_
    cases flow with
    | next => exact agreeFrom_runStmts hS h f hhost hlive htop hss
    | breakLoop => exact .pure _
    | continueLoop => exact .pure _

theorem agreeFrom_runElifs (hS : S.Laws) (h : S.EngRel eng eng') (f : Frame) {host : Option String}
    (hhost : S.host f.host host) (hlive : S.live k f.activation) {top : Option (Nat × Nat)}
    (htop : f.toplevel = true → top = some (f.activation, f.context)) {ss ss' : List Stmt} :
    S.StmtsRel k top ss ss' →
      S.AgreeFrom k (Run.runElifs eng f ss) (Run.runElifs eng' (S.frame f host) ss')
  | .nil => .pure _
  | .cons hs hss => by
    have hrest := agreeFrom_runElifs hS h f hhost hlive htop hss
    cases hs with
    | branch _ he hbody _ _ =>
      refine (agree_evaluate h f hhost he).after.bind fun v => ?_
      refine (agree_truth h v).after.bind fun b => .ite ?_ hrest
      exact (agreeFrom_runStmts hS h f hhost hlive htop hbody).bind fun _ => .pure _
    | _ => exact hrest

end

end Simulation

end Stencil
