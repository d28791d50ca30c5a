import Stencil.Proofs.Simulation.Values
import Stencil.Render.Iterator

/-!
# Scopes and iterators

Entering and leaving scopes, assigning to targets, and asking iterators for items do the same on
both sides. A frame on the right is the frame on the left with another number for the function at
work and another name for the template.
-/

namespace Stencil

namespace Simulation

variable {α : Type} {S : Simulation} {eng eng' : Engine}

/-! ## Scopes -/

theorem agree_resolve (context : Nat) (name : String) :
    S.Agree (Run.resolve context name) (Run.resolve context name) :=
  agree_context_bind context fun _ _ _ => .pure _

theorem frame_scope (f : Frame) (host : Option String) : (S.frame f host).scope = f.scope := rfl

theorem agree_enter (f : Frame) (host : Option String) :
    S.Agree (Run.enter f) (Run.enter (S.frame f host)) := by
  unfold Run.enter
  rw [frame_scope]
  cases f.scope with
  | nil => exact .pure _
  | cons layer _ =>
    refine Agree.forM (fun v => ?_) layer.vars
    obtain ⟨name, start⟩ := v
    cases start with
    | param => exact .pure _
    | resolve => exact (agree_resolve f.context name).bind fun _ => agree_setVariable _ _ _
    | copy level => exact (agree_readVariable _ _).bind fun _ => agree_setVariable _ _ _
    | empty => exact agree_setVariable _ _ _

theorem agree_leave (f : Frame) (host : Option String) :
    S.Agree (Run.leave f) (Run.leave (S.frame f host)) := by
  unfold Run.leave
  rw [frame_scope]
  cases f.scope with
  | nil => exact .pure _
  | cons layer _ => exact Agree.forM (fun _ => agree_setVariable _ _ _) layer.vars

theorem agree_valueOf (f : Frame) (host : Option String) (name : String) :
    S.Agree (Run.valueOf f name) (Run.valueOf (S.frame f host) name) := by
  unfold Run.valueOf
  rw [frame_scope]
  cases f.scope.find? name with
  | none => exact .accident _
  | some v =>
    refine (agree_readVariable _ v).bind fun o => ?_
    cases o with
    | some x => exact .pure x
    | none => exact agree_undefined _

theorem agree_setName (f : Frame) (host : Option String) (name : String) (value : Value) :
    S.Agree (Run.setName f name value) (Run.setName (S.frame f host) name value) := by
  unfold Run.setName
  rw [frame_scope]
  cases f.scope.find? name with
  | none => exact .accident _
  | some v => exact agree_setVariable _ v _

/-! ## Items and targets -/

theorem agree_iterate (v : Value) : S.Agree (Run.iterate v) (Run.iterate v) := by
  unfold Run.iterate
  split
  · exact agree_newIterator (fun _ => .listFrom _ 0)
  · exact agree_newIterator (fun _ => .items _)
  · exact agree_newIterator (fun _ => .items _)
  · exact agree_newIterator (fun _ => .items _)
  · exact agree_newIterator (fun _ => .items _)
  · exact agree_newIterator (fun _ => .rangeFrom _ _ _)
  · exact .pure _
  · exact agree_newIterator (fun _ => .loopItems _)
  · exact agree_failUndefined _
  · exact agree_newIterator (fun _ => .items [])
  · exact .badType

/-- Making an iterator never runs out of depth. -/
theorem iterate_shallow (v : Value) (w : World) :
    (Run.exec (Run.iterate v) w).1 ≠ .error (.accident .tooDeep) := by
  unfold Run.iterate
  split <;> intro h <;> exact nomatch h

theorem agree_itemsOf (h : S.EngRel eng eng') (v : Value) :
    S.Agree (Run.itemsOf eng v) (Run.itemsOf eng' v) := by
  unfold Run.itemsOf
  split
  · exact agree_listItems _
  · exact .pure _
  · exact (agree_iterate _).bind fun it => agree_drain h it

theorem agree_unpack (h : S.EngRel eng eng') (n : Nat) (v : Value) :
    S.Agree (Run.unpack eng n v) (Run.unpack eng' n v) := by
  refine (agree_iterate v).bind fun it => ?_
  refine (Agree.foldlM (fun acc _ => ?_) _ _).bind fun items => ?_
  · refine (h.next it).bind fun o => ?_
    cases o with
    | some x => exact .pure _
    | none => exact .accident _
  · refine (h.next it).bind fun o => ?_
    cases o with
    | some x => exact .accident _
    | none => exact .pure _

theorem agree_setAttribute (space : Value) (name : String) (value : Value) :
    S.Agree (Run.setAttribute space name value) (Run.setAttribute space name value) := by
  unfold Run.setAttribute
  split
  · exact Agree.update fun _ _ _ hw => { hw with spaces := by rw [hw.spaces] }
  · exact .badType

/-- Pairs of targets that differ in lines only, with the same values. -/
theorem agree_forM_targets {S : Simulation} {f f' : Target × Value → Run PUnit}
    (h : ∀ t t' v, Target.Alike S.line t t' → S.Agree (f (t, v)) (f' (t', v))) :
    ∀ {ts ts' : List Target} (vs : List Value), Target.AlikeAll S.line ts ts' →
      S.Agree ((ts.zip vs).forM f) ((ts'.zip vs).forM f')
  | _, _, _, .nil => .pure _
  | _, _, [], .cons _ _ => .pure _
  | _, _, v :: vs, .cons ht hts =>
    (h _ _ v ht).bind fun _ => agree_forM_targets h vs hts

theorem agree_assignTo (h : S.EngRel eng eng') (f : Frame) (host : Option String) (fuel : Nat)
    {t t' : Target} (ht : Target.Alike S.line t t') (value : Value) :
    S.Agree (Run.assignTo eng f fuel t value)
      (Run.assignTo eng' (S.frame f host) fuel t' value) := by
  induction fuel generalizing t t' value with
  | zero => exact .accident _
  | succ fuel ih =>
    cases ht with
    | name _ id => exact agree_setName f host id value
    -- only the attributes of a namespace can be assigned to
    | member _ subject name =>
      unfold Run.assignTo
      dsimp only
      rw [frame_scope]
      cases f.scope.find? subject with
      | none => exact .accident _
      | some v =>
        refine (agree_readVariable _ v).bind fun o => ?_
        cases o with
        | some space => exact agree_setAttribute space name value
        | none => exact .badType
    | tuple _ hts =>
      unfold Run.assignTo
      dsimp only
      rw [hts.length_eq]
      refine (agree_unpack h _ value).bind fun values => ?_
      exact agree_forM_targets (fun t t' v ht => ih ht v) values hts

theorem agree_assign (h : S.EngRel eng eng') (f : Frame) (host : Option String) {t t' : Target}
    (ht : Target.Alike S.line t t') (value : Value) :
    S.Agree (Run.assign eng f t value) (Run.assign eng' (S.frame f host) t' value) :=
  agree_assignTo h f host _ ht value

theorem agree_mapM_targets {S : Simulation} {f f' : Target → Run α}
    (h : ∀ t t', Target.Alike S.line t t' → S.Agree (f t) (f' t')) :
    ∀ {ts ts' : List Target}, Target.AlikeAll S.line ts ts' → S.Agree (ts.mapM f) (ts'.mapM f')
  | _, _, .nil => .pure []
  | _, _, .cons ht hts => by
    rw [List.mapM_cons, List.mapM_cons]
    exact (h _ _ ht).bind fun a => (agree_mapM_targets h hts).bind fun as => .pure (a :: as)

theorem agree_targetValue (f : Frame) (host : Option String) (fuel : Nat) {t t' : Target}
    (ht : Target.Alike S.line t t') :
    S.Agree (Run.targetValue f fuel t) (Run.targetValue (S.frame f host) fuel t') := by
  induction fuel generalizing t t' with
  | zero => exact .accident _
  | succ fuel ih =>
    cases ht with
    | name _ id => exact agree_valueOf f host id
    | member _ subject _ => exact agree_valueOf f host subject
    | tuple _ hts => exact (agree_mapM_targets (fun _ _ => ih) hts).bind fun _ => .pure _

theorem extendedIn_slot {k : S.Stage} {w w' : World} (hw : S.Rel k w w') (fuel a : Nat) :
    Run.extendedIn w' fuel (S.slot a) = Run.extendedIn w fuel a := by
  induction fuel generalizing a with
  | zero => rfl
  | succ fuel ih =>
    rw [Run.extendedIn, Run.extendedIn, hw.activations a]
    cases w.activations[a]? with
    | none => rfl
    | some act =>
      change (act.extended.isSome || ((act.outer.map S.slot).map (Run.extendedIn w' fuel)).getD false) =
        (act.extended.isSome || (act.outer.map (Run.extendedIn w fuel)).getD false)
      cases act.outer with
      | none => rfl
      | some b =>
        rw [Option.map_some, Option.map_some, Option.map_some, ih b]

theorem agree_isExtended (f : Frame) (host : Option String) :
    S.Agree (Run.isExtended f) (Run.isExtended (S.frame f host)) :=
  Agree.read_bind fun _ w w' hw => by
    change S.Agree _ (pure (Run.extendedIn w' (Run.nestingOf w' (S.slot f.activation))
      (S.slot f.activation)))
    rw [nestingOf_slot hw, extendedIn_slot hw]
    exact .pure _

/-! ## Iterators -/

theorem agree_atPath (h : S.EngRel eng eng') (default : Value) (path : List Value) (v : Value) :
    S.Agree (Value.atPath eng default path v) (Value.atPath eng' default path v) := by
  induction path generalizing v with
  | nil => exact .pure v
  | cons key keys ih =>
    unfold Value.atPath
    refine (agree_getItem h v key).bind fun x => ?_
    split <;> exact ih _

theorem agree_calleeName (h : S.EngRel eng eng') (kind : String) (v : Value) :
    S.Agree (Run.calleeName kind v eng) (Run.calleeName kind v eng') := by
  unfold Run.calleeName
  split
  · exact .pure _
  · refine fun k => (sim_describe _).bind fun _ _ m m' hm => Sim.throw (.runtime ?_)
    exact .append (.append (.refl _) hm) (.refl _)
  · exact (agree_repr h _).bind fun _ => .throw (.refl _ nofun)

theorem agree_siteOf (context : Nat) : S.Agree (Run.siteOf context) (Run.siteOf context) :=
  agree_context_bind context fun _ _ _ => .pure _

theorem agree_selects (h : S.EngRel eng eng') (context : Nat) (s : Selection) (item : Value) :
    S.Agree (Run.selects eng context s item) (Run.selects eng' context s item) := by
  refine (agree_atPath h _ _ item).bind fun v => ?_
  cases s.test with
  | none => exact (agree_truth h v).bind fun _ => .pure _
  | some t =>
    obtain ⟨name, args⟩ := t
    refine (agree_calleeName h _ name).bind fun name => (agree_siteOf context).bind fun site => ?_
    exact (h.test _ _ _ _ _).bind fun b => (agree_truth h b).bind fun _ => .pure _

theorem agree_mapped (h : S.EngRel eng eng') (context : Nat) (m : Mapping) (item : Value) :
    S.Agree (Run.mapped eng context m item) (Run.mapped eng' context m item) := by
  cases m with
  | member path default => exact agree_atPath h default path item
  | filter name args named =>
    exact (agree_calleeName h _ name).bind fun _ => (agree_siteOf context).bind fun _ =>
      h.filter _ _ _ _ _

theorem agree_moveLoop (cell : Nat) (v : Value) : S.Agree
    (do
      modify fun w => { w with loops := w.loops.modify cell fun l =>
        { l with ahead := none, index0 := l.index0 + 1, before := l.current, current := some v } }
      return some v : Run (Option Value))
    (do
      modify fun w => { w with loops := w.loops.modify cell fun l =>
        { l with ahead := none, index0 := l.index0 + 1, before := l.current, current := some v } }
      return some v) :=
  (agree_modifyLoop cell (fun _ => by rfl) fun _ _ => by rfl).bind fun _ => .pure _

theorem agree_advanceLoop (h : S.EngRel eng eng') (cell : Nat) :
    S.Agree (Run.advanceLoop eng cell) (Run.advanceLoop eng' cell) := by
  unfold Run.advanceLoop
  refine Agree.read_bind fun k w w' hw => ?_
  obtain ⟨hl, hl'⟩ | ⟨l, l', hl, hl', hrel⟩ := hw.loops.get? cell
  · rw [hl, hl']
    exact .pure _
  obtain ⟨r, rfl⟩ := hrel.eq_with
  rw [hl, hl']
  dsimp only
  -- the item that was looked ahead at, or the next one of the subject
  cases l.ahead with
  | some o =>
    refine (Agree.pure o).bind fun o => ?_
    cases o with
    | none => exact .pure _
    | some v => exact agree_moveLoop cell v
  | none =>
    refine (h.next _).bind fun o => ?_
    cases o with
    | none => exact .pure _
    | some v => exact agree_moveLoop cell v

theorem agree_nextKept (h : S.EngRel eng eng') (source : Nat) {keep keep' : Value → Run Bool}
    (hkeep : ∀ v, S.Agree (keep v) (keep' v)) (fuel : Nat) :
    S.Agree (Run.nextKept eng source keep fuel) (Run.nextKept eng' source keep' fuel) := by
  induction fuel with
  | zero => exact .accident _
  | succ fuel ih =>
    unfold Run.nextKept
    refine (h.next source).bind fun o => ?_
    cases o with
    | none => exact .pure _
    | some v => exact (hkeep v).bind fun _ => .ite (.pure _) ih

theorem agree_how {how how' : Except Fault α} (h : S.HowRel how how') :
    S.Agree (liftM how : Run α) (liftM how') := by
  cases h with
  | ok a => exact .pure a
  | error hf => exact .throw hf

theorem agree_nextUnique (h : S.EngRel eng eng') (cell source : Nat) (caseSensitive : Bool)
    (path : List Value) (v : Value) :
    S.Agree (Run.isNew eng cell source caseSensitive path v)
      (Run.isNew eng' cell source caseSensitive path v) := by
  refine (agree_atPath h _ path v).bind fun key => (agree_checkKey _ _).bind fun _ => ?_
  refine fun k => (sim_iterator cell).bind fun l _ c c' hc => ?_
  refine (?_ : S.Agree _ _) l
  cases hc with
  | unique source' caseSensitive' path' seen =>
    exact (agree_member _ seen).bind fun _ => .ite (.pure _)
      ((agree_setIterator cell (fun _ => .unique _ _ _ _)).bind fun _ => .pure _)
  | _ => exact .pure _

theorem agree_nextItem (h : S.EngRel eng eng') (cell : Nat) :
    S.Agree (Run.nextItem eng cell) (Run.nextItem eng' cell) := by
  refine fun k => (sim_iterator cell).bind fun l _ c c' hc => ?_
  -- the iterators are related at this stage, and what follows agrees at every stage
  refine (?_ : S.Agree _ _) l
  cases hc with
  | items rest =>
    cases rest with
    | nil => exact .pure _
    | cons v rest => exact (agree_setIterator cell (fun _ => .items rest)).bind fun _ => .pure _
  | listFrom list pos =>
    refine (agree_listItems list).bind fun items => ?_
    cases items[pos]? with
    | some v => exact (agree_setIterator cell (fun _ => .listFrom list (pos + 1))).bind fun _ => .pure _
    | none => exact (agree_setIterator cell (fun _ => .items [])).bind fun _ => .pure _
  | rangeFrom n stop step =>
    exact .ite ((agree_setIterator cell (fun _ => .rangeFrom _ _ _)).bind fun _ => .pure _) (.pure _)
  | failing hf => exact (agree_setIterator cell (fun _ => .items [])).bind fun _ => .throw hf
  | mapNew source hhow context =>
    refine (agree_setIterator cell (fun _ => .items [])).bind fun _ => (agree_truth h source).bind fun _ => ?_
    refine .ite ((agree_how hhow).bind fun how => (agree_iterate source).bind fun it => ?_) (.pure _)
    exact (agree_setIterator cell (fun _ => .mapRest it how context)).bind fun _ => h.next cell
  | mapRest source how context =>
    refine (h.next source).bind fun o => ?_
    cases o with
    | none => exact .pure _
    | some v => exact (agree_mapped h context how v).bind fun _ => .pure _
  | selectNew source hhow context =>
    refine (agree_setIterator cell (fun _ => .items [])).bind fun _ => (agree_truth h source).bind fun _ => ?_
    refine .ite ((agree_how hhow).bind fun how => (agree_iterate source).bind fun it => ?_) (.pure _)
    exact (agree_setIterator cell (fun _ => .selectRest it how context)).bind fun _ => h.next cell
  | selectRest source how context => exact agree_nextKept h source (agree_selects h context how) _
  | unique source caseSensitive path seen =>
    exact agree_nextKept h source (agree_nextUnique h cell source caseSensitive path) _
  | tested source f host ht he hhost =>
    refine (agree_nextKept h source (fun v => ?_) _).bind fun o => ?_
    · exact (agree_assign h f host ht v).bind fun _ => (h.expr hhost he).bind fun b => agree_truth h b
    · cases o with
      | none => exact .pure _
      | some v => exact (agree_targetValue f host _ ht).bind fun _ => .pure _
  | loopItems loop =>
    refine (agree_advanceLoop h loop).bind fun o => ?_
    cases o with
    | none => exact .pure _
    | some v => exact .pure _

end Simulation

end Stencil
