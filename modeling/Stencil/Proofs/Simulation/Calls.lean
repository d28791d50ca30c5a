import Stencil.Proofs.Simulation.Expressions
import Stencil.Proofs.Simulation.Scopes
import Stencil.Render.Call

/-!
# Loops, macros and calls

Loops and macros run bodies in frames inside the present one. A body that does the same on both
sides from some stage on does so as the body of a loop or macro. A call runs what its cell holds: the
cells of loops and macros are related at every stage.
-/

namespace Stencil

namespace Simulation

variable {S : Simulation} {eng eng' : Engine} {k : S.Stage}

/-- A body does the same on both sides in every frame inside that of a template. -/
def BodyRel (S : Simulation) (k : S.Stage) (host : Option String) (run run' : Frame → Run Flow) :
    Prop :=
  ∀ g : Frame, S.host g.host host → g.toplevel = false → S.live k g.activation →
    S.AgreeFrom k (run g) (run' (S.frame g host))

/-! ## Loops -/

theorem agreeFrom_eachItem {next next' : Run (Option Value)} {body body' : Value → Run Flow}
    (hnext : S.Agree next next') (hbody : ∀ v, S.AgreeFrom k (body v) (body' v)) (fuel : Nat)
    (completed : Bool) :
    S.AgreeFrom k (Run.eachItem next body fuel completed)
      (Run.eachItem next' body' fuel completed) := by
  induction fuel generalizing completed with
  | zero => exact .accident _
  | succ fuel ih =>
    refine hnext.after.bind fun o => ?_
    cases o with
    | none => exact .pure _
    | some v =>
      refine (hbody v).bind fun flow => ?_
      cases flow with
      | next => exact ih true
      | continueLoop => exact ih completed
      | breakLoop => exact .pure _

/-- Faults of the sequence of a loop with a test show up when it is asked for an item. -/
theorem agree_iterateLater (source : Value) :
    S.Agree (tryCatch (Run.iterate source) fun e => Run.newIterator (.failing e))
      (tryCatch (Run.iterate source) fun e => Run.newIterator (.failing e)) :=
  fun k => (agree_iterate source k).handle_of_shallow
    (fun l _ _ _ hf => agree_newIterator (fun _ => .failing hf) l) (iterate_shallow source)

theorem agreeFrom_passing (f : Frame) {host : Option String} (hhost : S.host f.host host)
    (hlive : S.live k f.activation) {t t' : Target} (ht : Target.Alike S.line t t')
    {test test' : Option Expr} (htest : Expr.AlikeOption S.line test test') (source : Value) :
    S.AgreeFrom k (Run.passing f t test source)
      (Run.passing (S.frame f host) t' test' source) := by
  cases htest with
  | none => exact .pure _
  | @some e e' he =>
    intro l hl
    unfold Run.passing
    dsimp only
    rw [ofLoopTest_eq ht he]
    have houter (b : Nat) (hb : some f.activation = some b) : S.live l b := by
      cases hb
      exact S.live_mono hl hlive
    refine (sim_newActivation _ rfl houter).bind fun m _ a a' ha => ?_
    obtain ⟨rfl, -, ha⟩ := ha
    let g : Frame := { f.inner (f.scope.inner.ofLoopTest t e) with activation := a }
    refine AgreeFrom.now ((agree_enter g host).after.bind fun _ => ?_)
    refine (agree_iterateLater source).after.bind fun items => ?_
    exact (agreeFrom_newIterator (.tested items g host ht he hhost ha)).bind fun _ => .pure _

theorem agreeFrom_newLoop {c c' : LoopCell} (h : S.LoopRel k c c') :
    S.AgreeFrom k (Run.newLoop c) (Run.newLoop c') :=
  fun l hl => Sim.replace fun _ _ hw =>
    ⟨l, S.le_refl l, { hw with loops := hw.loops.push (h.later hl) }, hw.loops.size_eq⟩

theorem agreeFrom_runOnce (h : S.EngRel eng eng') (f : Frame) (host : Option String)
    {t t' : Target} (ht : Target.Alike S.line t t') {body body' : Frame → Run Flow}
    (hbody : S.AgreeFrom k (body f) (body' (S.frame f host))) (v : Value) :
    S.AgreeFrom k (Run.runOnce eng f t body v)
      (Run.runOnce eng' (S.frame f host) t' body' v) :=
  (agree_assign h f host ht v).after.bind fun _ => (agree_enter f host).after.bind fun _ => hbody

theorem agreeFrom_runEach (h : S.EngRel eng eng') (f : Frame) (host : Option String)
    (provided : Bool) {c c' : LoopCell} (hc : S.LoopRel k c c') {t t' : Target}
    (ht : Target.Alike S.line t t') {body body' : Frame → Run Flow}
    (hbody : S.AgreeFrom k (body f) (body' (S.frame f host))) :
    S.AgreeFrom k (Run.runEach eng f provided c t body)
      (Run.runEach eng' (S.frame f host) provided c' t' body') := by
  have hiterator : c'.iterator = c.iterator := by
    obtain ⟨_, rfl⟩ := hc.eq_with
    rfl
  refine .ite ?_ ?_
  · refine (agreeFrom_newLoop hc).bind fun cell => ?_
    refine agreeFrom_eachItem (agree_advanceLoop h cell) (fun v => ?_) _ _
    exact (agree_setName f host _ _).after.bind fun _ => agreeFrom_runOnce h f host ht hbody v
  · rw [hiterator]
    exact agreeFrom_eachItem (h.next _) (agreeFrom_runOnce h f host ht hbody) _ _

theorem agreeFrom_runItems (h : S.EngRel eng eng') (f : Frame) (host : Option String)
    (provided : Bool) {recurse recurse' : Option LoopBody}
    (hrecurse : ∀ l : LoopCell, S.LoopRel k { l with recurse } { l with recurse := recurse' })
    (depth0 : Nat) {t t' : Target} (ht : Target.Alike S.line t t') (source : Value)
    {body body' : Frame → Run Flow} (hbody : S.AgreeFrom k (body f) (body' (S.frame f host))) :
    S.AgreeFrom k (Run.runItems eng f provided recurse depth0 t source body)
      (Run.runItems eng' (S.frame f host) provided recurse' depth0 t' source body') := by
  refine (agree_iterate source).after.bind fun iterator => ?_
  refine (agreeFrom_runEach h f host provided (hrecurse { source, iterator, depth0 }) ht hbody).bind
    fun completed => ?_
  exact (agree_leave f host).after.bind fun _ => .pure _

theorem agreeFrom_leaveAfter (f : Frame) (host : Option String) (flow : Flow) :
    S.AgreeFrom k (Run.leaveAfter f flow) (Run.leaveAfter (S.frame f host) flow) :=
  .ite ((agree_leave f host).after.bind fun _ => .pure _) (.pure _)

theorem agreeFrom_runAlternative (f : Frame) {host : Option String} (hhost : S.host f.host host)
    (hlive : S.live k f.activation) {orElse orElse' : List Stmt} (horElse : S.StmtsRel k none orElse orElse')
    {run run' : Frame → Run Flow} (hrun : S.BodyRel k host run run') :
    S.AgreeFrom k (Run.runAlternative f orElse run)
      (Run.runAlternative (S.frame f host) orElse' run') := by
  cases horElse with
  | nil => exact .pure _
  | cons hs hss =>
    unfold Run.runAlternative
    dsimp only
    rw [StmtsRel.visitAll_eq _ (.cons hs hss)]
    refine (agree_enter _ host).after.bind fun _ => ?_
    refine (hrun (f.inner _) hhost rfl hlive).bind fun flow => ?_
    exact agreeFrom_leaveAfter _ host flow

theorem agree_bufferValue (f : Frame) (host : Option String) (text : String) :
    S.Agree (Run.bufferValue f text) (Run.bufferValue (S.frame f host) text) :=
  (agree_escapes f host).bind fun _ => .pure _

/-- What a computation writes is the same on both sides if it does the same on them. -/
theorem AgreeFrom.capture {x x' : Run Unit} (h : S.AgreeFrom k x x') :
    S.AgreeFrom k (Run.capture x) (Run.capture x') :=
  fun l hl => sim_capture (h l hl)

theorem agreeFrom_runAgain (h : S.EngRel eng eng') {b b' : LoopBody} (hb : S.LoopBodyRel k b b')
    (around : Frame) {host : Option String} (hhost : S.host around.host host)
    (hlive : S.live k around.activation) (source : Value) (depth0 : Nat) :
    S.AgreeFrom k (Run.runAgain eng b around source depth0)
      (Run.runAgain eng' b' (S.frame around host) source depth0) := by
  have hloop (c : LoopCell) : S.LoopRel k { c with recurse := some b } { c with recurse := some b' } :=
    .recursive _ rfl hb
  obtain ⟨f, _, ht, hbody, horElse, htest, -, -⟩ := hb
  unfold Run.runAgain
  dsimp only [frame]
  rw [inLoop_eq ht hbody]
  refine (agreeFrom_passing around hhost hlive ht htest source).bind fun source => ?_
  refine (agreeFrom_runItems h (around.inner _) host true hloop depth0 ht source ?_).bind
    fun completed => .ite (.pure _) (AgreeFrom.discard ?_)
  · exact fun l hl => h.body hhost rfl (S.live_mono hl hlive) (hbody.later hl)
  · refine agreeFrom_runAlternative around hhost hlive horElse fun g hg htop hlive l hl => ?_
    exact h.body hg htop (S.live_mono hl hlive) (horElse.later hl)

theorem agreeFrom_runRecursive (h : S.EngRel eng eng') {b b' : LoopBody}
    (hb : S.LoopBodyRel k b b') (source : Value) (depth0 : Nat) :
    S.AgreeFrom k (Run.runRecursive eng b source depth0)
      (Run.runRecursive eng' b' source depth0) := by
  intro l hl
  have hb' := hb.later hl
  obtain ⟨f, host, ht, hbody, -, -, hhost, hlive⟩ := hb
  unfold Run.runRecursive
  dsimp only [frame]
  rw [inLoop_eq ht hbody]
  have houter (b : Nat) (h : some f.activation = some b) : S.live l b := by
    cases h
    exact S.live_mono hl hlive
  refine (sim_newActivation _ rfl houter).bind fun m hm a a' ha => ?_
  obtain ⟨rfl, -, ha⟩ := ha
  let around : Frame := { f with activation := a, toplevel := false, rootlevel := false }
  refine AgreeFrom.now (AgreeFrom.bind (AgreeFrom.capture (.read_bind fun n w w' hw => ?_))
    fun text => (agree_bufferValue around host text).after)
  rw [hw.sinks]
  exact agreeFrom_runAgain h (hb'.later hm) { around with stream := w.sinks.length } hhost ha
    source depth0

/-! ## Macros -/

theorem agree_callerAmong (named : Named) :
    S.Agree (Run.callerAmong named) (Run.callerAmong named) := by
  unfold Run.callerAmong
  split
  · exact agree_undefined _
  · exact agree_undefined _
  · exact .pure _

theorem agree_bindCaller (m : MacroCell) (positional : Nat) (named : Named) :
    S.Agree (Run.bindCaller m positional named) (Run.bindCaller m positional named) :=
  .ite (.pure _) (.ite .badType ((agree_callerAmong named).bind fun _ => .pure _))

theorem agree_bindRest (isUsed isEmpty : Bool) (name : String) (rest : Value) :
    S.Agree (Run.bindRest isUsed isEmpty name rest) (Run.bindRest isUsed isEmpty name rest) :=
  .ite (.pure _) (.ite (.pure _) .badType)

theorem agree_bindMacro (m : MacroCell) (args : List Value) (named : Named) :
    S.Agree (Run.bindMacro m args named) (Run.bindMacro m args named) := by
  refine (agree_bindCaller m _ _).bind fun bound => ?_
  exact (agree_bindRest _ _ _ _).bind fun _ => (agree_bindRest _ _ _ _).bind fun _ => .pure _

/-- The default of each parameter. -/
def DefaultsRel (S : Simulation) (ds ds' : List (Option Expr)) : Prop :=
  List.Forall₂ (Expr.AlikeOption S.line) ds ds'

theorem defaultsRel_some {es es' : List Expr} (h : Expr.AlikeAll S.line es es') :
    S.DefaultsRel (es.map some) (es'.map some) := by
  induction es generalizing es' with
  | nil =>
    cases h
    exact .nil
  | cons e es ih =>
    cases h with
    | cons he hes => exact .cons (.some he) (ih hes)

theorem defaultsRel_padded (n : Nat) {es es' : List Expr} (h : Expr.AlikeAll S.line es es') :
    S.DefaultsRel (List.replicate n none ++ es.map some) (List.replicate n none ++ es'.map some) := by
  induction n with
  | zero => exact defaultsRel_some h
  | succ n ih => exact .cons .none ih

theorem agree_forM_defaults {f f' : String × Option Expr → Run PUnit}
    (h : ∀ p d d', Expr.AlikeOption S.line d d' → S.Agree (f (p, d)) (f' (p, d'))) :
    ∀ (params : List String) {ds ds' : List (Option Expr)}, S.DefaultsRel ds ds' →
      S.Agree ((params.zip ds).forM f) ((params.zip ds').forM f')
  | [], _, _, _ => .pure _
  | _ :: _, _, _, .nil => .pure _
  | p :: ps, _, _, .cons hd hds => (h p _ _ hd).bind fun _ => agree_forM_defaults h ps hds

theorem agree_fillDefaults (h : S.EngRel eng eng') (f : Frame) {host : Option String}
    (hhost : S.host f.host host) (params : List String) {es es' : List Expr}
    (hes : Expr.AlikeAll S.line es es') :
    S.Agree (Run.fillDefaults eng f params es) (Run.fillDefaults eng' (S.frame f host) params es') := by
  unfold Run.fillDefaults
  rw [hes.length_eq]
  refine agree_forM_defaults (fun p d d' hd => ?_) params (defaultsRel_padded _ hes)
  refine (agree_readVariable _ _).bind fun o => ?_
  cases o with
  | some _ => exact .pure _
  | none =>
    cases hd with
    | none => exact (agree_undefined _).bind fun _ => agree_setVariable _ _ _
    | some he => exact (h.expr hhost he).bind fun _ => agree_setVariable _ _ _

theorem agreeFrom_callMacro (h : S.EngRel eng eng') {m m' : MacroCell} (hm : S.MacroRel k m m')
    (autoescape : Bool) (args : List Value) (named : Named) :
    S.AgreeFrom k (Run.callMacro eng m autoescape args named)
      (Run.callMacro eng' m' autoescape args named) := by
  obtain ⟨host, hdefaults, hbody, hhost, htop, hlive⟩ := hm
  refine (agree_bindMacro m args named).after.bind fun bound l hl => ?_
  have houter (b : Nat) (h : some m.frame.activation = some b) : S.live l b := by
    cases h
    exact S.live_mono hl hlive
  refine (sim_newActivation _ rfl houter).bind fun l' hl' a a' ha => ?_
  obtain ⟨rfl, -, ha⟩ := ha
  refine AgreeFrom.now (AgreeFrom.bind (AgreeFrom.capture (.read_bind fun n w w' hw => ?_))
    fun text => .pure _)
  rw [hw.sinks]
  let f : Frame := { m.frame with activation := a, stream := w.sinks.length }
  refine (Agree.forM (fun v => ?_) bound).after.bind fun _ => ?_
  · exact agree_setVariable a _ _
  refine (agree_enter f host).after.bind fun _ => ?_
  refine (agree_fillDefaults h f hhost m.params hdefaults).after.bind fun _ => ?_
  exact AgreeFrom.discard fun l'' hl'' => h.body hhost htop (S.live_mono hl'' ha)
    (hbody.later (S.le_trans hl (S.le_trans hl' hl'')))

theorem agreeFrom_newMacro (f : Frame) {host : Option String} (hhost : S.host f.host host)
    (hlive : S.live k f.activation) (name : Option String) (params : List String) {defaults defaults' : List Expr}
    (hdefaults : Expr.AlikeAll S.line defaults defaults') {body body' : List Stmt}
    (hbody : S.StmtsRel k none body body') :
    S.AgreeFrom k (Run.newMacro f name params defaults body)
      (Run.newMacro (S.frame f host) name params defaults' body') := by
  unfold Run.newMacro
  dsimp only
  rw [hbody.signature_eq, inMacro_eq hdefaults hbody]
  refine fun l hl => Sim.replace fun _ _ hw => ⟨l, S.le_refl l, ?_, by rw [hw.macros.size_eq]⟩
  exact { hw with
    macros := hw.macros.push
      (.mk _ host hdefaults (hbody.later hl) hhost rfl (S.live_mono hl hlive)) }

/-! ## Functions and methods -/

theorem agree_integer (v : Value) : S.Agree (Call.integer v) (Call.integer v) := by
  unfold Call.integer
  split
  · exact .pure _
  · exact .badType

theorem agree_range (args : List Value) : S.Agree (Call.range args) (Call.range args) := by
  unfold Call.range
  split
  · exact (agree_integer _).bind fun _ => .pure _
  · exact (agree_integer _).bind fun _ => (agree_integer _).bind fun _ => .pure _
  · exact (agree_integer _).bind fun _ => (agree_integer _).bind fun _ =>
      (agree_integer _).bind fun _ => .ite (.accident _) (.pure _)
  · exact .badType

theorem agree_entriesOf (h : S.EngRel eng eng') (v : Value) :
    S.Agree (Call.entriesOf eng v) (Call.entriesOf eng' v) := by
  unfold Call.entriesOf
  split
  · exact .pure _
  · exact agree_failUndefined _
  · refine (agree_itemsOf h _).bind fun items => .mapM (fun item => ?_) items
    refine (agree_itemsOf h item).bind fun pair => ?_
    split
    · exact .pure _
    · exact .accident _

theorem agree_startOf (h : S.EngRel eng eng') (args : List Value) :
    S.Agree (Call.startOf eng args) (Call.startOf eng' args) := by
  unfold Call.startOf
  split
  · exact .pure _
  · exact agree_entriesOf h _
  · exact .badType

theorem agree_dict (h : S.EngRel eng eng') (args : List Value) (named : Named) :
    S.Agree (Call.dict eng args named) (Call.dict eng' args named) := by
  refine (agree_startOf h args).bind fun start => (agree_ofEntries _).bind fun d => ?_
  split
  · exact .pure _
  · exact .pure _

theorem agree_makeSpace (h : S.EngRel eng eng') (args : List Value) (named : Named) :
    S.Agree (Call.makeSpace eng args named) (Call.makeSpace eng' args named) := by
  refine (agree_dict h args named).bind fun entries => Agree.replace fun _ _ _ hw => ?_
  exact ⟨{ hw with spaces := by rw [hw.spaces] }, by rw [hw.spaces]⟩

theorem agree_makeCycler (args : List Value) :
    S.Agree (Call.makeCycler args) (Call.makeCycler args) := by
  refine .ite (.accident _) (Agree.replace fun _ _ _ hw => ?_)
  exact ⟨{ hw with cyclers := by rw [hw.cyclers] }, by rw [hw.cyclers]⟩

theorem agree_makeJoiner (args : List Value) (named : Named) :
    S.Agree (Call.makeJoiner args named) (Call.makeJoiner args named) := by
  refine (agree_bindParams _ args named).bind fun vs => ?_
  split
  · exact Agree.replace fun _ _ _ hw =>
      ⟨{ hw with joiners := by rw [hw.joiners] }, by rw [hw.joiners]⟩
  · exact .badType

theorem agree_positional (named : Named) {x x' : Run Value} (hx : S.Agree x x') :
    S.Agree (Call.positional named x) (Call.positional named x') :=
  .ite hx .badType

theorem agree_function (h : S.EngRel eng eng') (f : GlobalFunction) (args : List Value)
    (named : Named) : S.Agree (Call.function eng f args named) (Call.function eng' f args named) := by
  cases f with
  | range => exact agree_positional named (agree_range args)
  | dict => exact (agree_dict h args named).bind fun _ => .pure _
  | makeSpace => exact agree_makeSpace h args named
  | cycler => exact agree_positional named (agree_makeCycler args)
  | joiner => exact agree_makeJoiner args named
  | lipsum => exact .accident _

theorem agree_useJoiner (cell : Nat) : S.Agree (Call.useJoiner cell) (Call.useJoiner cell) := by
  refine Agree.read_bind fun _ w w' hw => ?_
  rw [hw.joiners]
  split
  · exact .pure _
  · refine Agree.bind (Agree.update fun _ _ _ hw => ?_) fun _ => .pure _
    exact { hw with joiners := by rw [hw.joiners] }
  · exact .badType

theorem agree_parts (s : String) (sep : Value) (limit : Option Nat) :
    S.Agree (Call.parts s sep limit) (Call.parts s sep limit) := by
  unfold Call.parts
  split
  · exact .pure _
  · exact .ite (.accident _) (.pure _)
  · exact .badType

theorem agree_split (s : String) (safe : Bool) (args : List Value) (named : Named) :
    S.Agree (Call.split s safe args named) (Call.split s safe args named) := by
  refine (agree_bindParams _ args named).bind fun vs => ?_
  split
  · exact (agree_integer _).bind fun _ => (agree_parts s _ _).bind fun _ => agree_newList _
  · exact .badType

theorem agree_cycle (cell : Nat) : S.Agree (Call.cycle cell) (Call.cycle cell) := by
  refine Agree.read_bind fun _ w w' hw => ?_
  rw [hw.cyclers]
  split
  · refine Agree.bind (Agree.update fun _ _ _ hw => ?_) fun _ => .pure _
    exact { hw with cyclers := by rw [hw.cyclers] }
  · exact .badType

theorem agree_isRepeated (last : Option (List Value)) (args : List Value) :
    S.Agree (Call.isRepeated last args) (Call.isRepeated last args) := by
  cases last with
  | none => exact .pure _
  | some before => exact agree_equalLists before args

theorem agree_loopChanged (cell : Nat) (args : List Value) :
    S.Agree (Call.loopChanged cell args) (Call.loopChanged cell args) := by
  refine Agree.read_bind fun k w w' hw => ?_
  obtain ⟨hl, hl'⟩ | ⟨l, l', hl, hl', hrel⟩ := hw.loops.get? cell
  · rw [hl, hl']
    exact .badType
  obtain ⟨r, rfl⟩ := hrel.eq_with
  rw [hl, hl']
  refine (agree_isRepeated l.lastChanged args).bind fun b => .ite (.pure _) ?_
  exact (agree_modifyLoop cell (fun _ => by rfl) fun _ _ => by rfl).bind fun _ => .pure _

theorem agree_loopCycle (cell : Nat) (args : List Value) :
    S.Agree (Call.loopCycle cell args) (Call.loopCycle cell args) := by
  refine Agree.read_bind fun k w w' hw => ?_
  obtain ⟨hl, hl'⟩ | ⟨l, l', hl, hl', hrel⟩ := hw.loops.get? cell
  · rw [hl, hl']
    exact .badType
  obtain ⟨r, rfl⟩ := hrel.eq_with
  rw [hl, hl']
  exact .ite .badType (.pure _)

theorem agree_aloneCall (args : List Value) (named : Named) {x x' : Run Value}
    (hx : S.Agree x x') : S.Agree (Call.alone args named x) (Call.alone args named x') :=
  agree_positional named (.ite hx .badType)

theorem agree_method (receiver : Value) (name : String) (args : List Value) (named : Named) :
    S.Agree (Call.method receiver name args named) (Call.method receiver name args named) := by
  unfold Call.method
  split
  · refine agree_positional named ?_
    split
    · exact (agree_lookup _ _).bind fun _ => .pure _
    · exact (agree_lookup _ _).bind fun _ => .pure _
    · exact .badType
  · exact agree_aloneCall args named (.pure _)
  · exact agree_aloneCall args named (.pure _)
  · exact agree_aloneCall args named (.pure _)
  · exact agree_split _ _ args named
  · refine agree_positional named ?_
    split
    · exact (agree_listItems _).bind fun _ => (agree_setList _ _).bind fun _ => .pure _
    · exact .badType
  · exact agree_aloneCall args named (agree_cycle _)
  · refine agree_aloneCall args named (Agree.bind (Agree.update fun _ _ _ hw => ?_) fun _ => .pure _)
    exact { hw with cyclers := by rw [hw.cyclers] }
  · exact agree_positional named (agree_loopCycle _ args)
  · exact agree_positional named (agree_loopChanged _ args)
  · exact .accident _

/-! ## Calls of values -/

theorem agree_callBlock (h : S.EngRel eng eng') (context : Nat) (name : String) (depth : Nat) :
    S.Agree (Call.block eng context name depth) (Call.block eng' context name depth) := by
  refine Agree.bind (fun k => sim_capture (h.block name depth context k)) fun text => ?_
  exact agree_context_bind context fun _ _ _ => .pure _

theorem agree_callLoop (h : S.EngRel eng eng') (cell : Nat) (args : List Value) (named : Named) :
    S.Agree (Call.loop eng cell args named) (Call.loop eng' cell args named) := by
  refine (agree_bindParams _ args named).bind fun vs => ?_
  split
  · refine fun k => Sim.read_bind fun w w' hw => ?_
    obtain ⟨hl, hl'⟩ | ⟨l, l', hl, hl', hrel⟩ := hw.loops.get? cell
    · rw [hl, hl']
      exact Sim.badType
    rw [hl, hl']
    dsimp only
    cases hrel with
    | plain hnone =>
      rw [hnone]
      exact Sim.badType
    | recursive hsome hb =>
      rw [hsome]
      exact (agreeFrom_runRecursive h hb _ _).now
  · exact .badType

theorem agree_callMacro (h : S.EngRel eng eng') (context cell : Nat) (args : List Value)
    (named : Named) :
    S.Agree (Call.value eng context (.macroRef cell) args named)
      (Call.value eng' context (.macroRef cell) args named) := by
  refine fun k => Sim.read_bind fun w w' hw => ?_
  obtain ⟨hm, hm'⟩ | ⟨m, m', hm, hm', hrel⟩ := hw.macros.get? cell
  · rw [hm, hm']
    exact Sim.badType
  rw [hm, hm']
  refine (sim_context context).bind fun l hl c c' hc => ?_
  obtain ⟨_, _, -, -⟩ := hc
  exact (agreeFrom_callMacro h (hrel.later hl) _ args named).now

theorem agree_call (h : S.EngRel eng eng') (context : Nat) (v : Value) (args : List Value)
    (named : Named) :
    S.Agree (Call.value eng context v args named) (Call.value eng' context v args named) := by
  cases v with
  | function f => exact agree_function h f args named
  | method receiver name => exact agree_method receiver name args named
  | joiner cell => exact .ite (agree_useJoiner cell) .badType
  | loop cell => exact agree_callLoop h cell args named
  | macroRef cell => exact agree_callMacro h context cell args named
  | block ctx name depth => exact .ite (agree_callBlock h ctx name depth) .badType
  | undefined kind why => exact agree_failUndefined why
  | _ => exact .badType

end Simulation

end Stencil
