import Stencil.Proofs.Simulation.Rules
import Stencil.Value.Show

/-!
# Cells, variables and output

What the operations on the state do on both sides: new cells get the same numbers, variables are
found in corresponding functions, and output goes to the same sinks.
-/

namespace Stencil

namespace Simulation

variable {α β : Type} {S : Simulation} {k : S.Stage}

/-! ## Messages -/

theorem NoteRel.alike {n n' : Note} (h : S.NoteRel n n') : S.Alike n.text n'.text := by
  cases h with
  | noAlternative hhost hline =>
    exact .append (.append (.refl _) (.position hhost hline)) (.refl _)
  | notExported module hhost hline name =>
    exact .append (.append (.append (.refl _) (.position hhost hline)) (.refl _)) (.refl _)

theorem alike_noteText {ns ns' : Array Note} (h : Paired S.NoteRel ns ns') (cell : Nat) :
    S.Alike (Missing.noteText ns cell) (Missing.noteText ns' cell) := by
  unfold Missing.noteText
  obtain ⟨hn, hn'⟩ | ⟨n, n', hn, hn', hrel⟩ := h.get? cell
  · rw [hn, hn']
    exact .refl _
  · rw [hn, hn']
    exact hrel.alike

theorem alike_message {ns ns' : Array Note} (h : Paired S.NoteRel ns ns') (why : Missing) :
    S.Alike (why.message ns) (why.message ns') := by
  cases why with
  | noted cell => exact alike_noteText h cell
  | _ => exact .refl _

theorem sim_describe (why : Missing) :
    S.Sim k (Run.describe why) (Run.describe why) fun _ a b => S.Alike a b :=
  Sim.read_bind fun _ _ hw => Sim.pure (alike_message hw.notes why)

theorem sim_failUndefined {V : S.Stage → α → β → Prop} (why : Missing) :
    S.Sim k (Run.failUndefined why) (Run.failUndefined why) V :=
  (sim_describe why).bind fun _ _ _ _ hab => Sim.throw (.undefined hab)

theorem agree_failUndefined (why : Missing) :
    S.Agree (Run.failUndefined why : Run α) (Run.failUndefined why) :=
  fun _ => sim_failUndefined why

theorem agree_undefined (why : Missing) : S.Agree (Run.undefined why) (Run.undefined why) :=
  Agree.read_bind fun _ w w' hw => by
    rw [show w'.env.options = w.env.options from S.library_options hw.library]
    exact .pure _

/-! ## Cells -/

theorem agree_newList (items : List Value) : S.Agree (Run.newList items) (Run.newList items) :=
  Agree.replace fun _ _ _ hw =>
    ⟨{ hw with lists := by rw [hw.lists] }, by rw [hw.lists]⟩

theorem agree_listItems (cell : Nat) : S.Agree (Run.listItems cell) (Run.listItems cell) :=
  Agree.read_bind fun _ _ _ hw => by
    rw [hw.lists]
    exact .pure _

theorem agree_setList (cell : Nat) (items : List Value) :
    S.Agree (Run.setList cell items) (Run.setList cell items) :=
  Agree.update fun _ _ _ hw => { hw with lists := by rw [hw.lists] }

theorem agreeFrom_newIterator {c c' : IteratorCell} (h : S.IteratorRel k c c') :
    S.AgreeFrom k (Run.newIterator c) (Run.newIterator c') :=
  fun l hl => Sim.replace fun _ _ hw =>
    ⟨l, S.le_refl l, { hw with iterators := hw.iterators.push (h.later hl) }, hw.iterators.size_eq⟩

theorem agree_newIterator {c c' : IteratorCell} (h : ∀ k, S.IteratorRel k c c') :
    S.Agree (Run.newIterator c) (Run.newIterator c') :=
  fun k => (agreeFrom_newIterator (h k)).now

theorem agree_setIterator (cell : Nat) {c c' : IteratorCell} (h : ∀ k, S.IteratorRel k c c') :
    S.Agree (Run.setIterator cell c) (Run.setIterator cell c') :=
  Agree.update fun k _ _ hw => { hw with iterators := hw.iterators.setIfInBounds cell (h k) }

theorem sim_iterator (cell : Nat) :
    S.Sim k (Run.iterator cell) (Run.iterator cell) fun l c c' => S.IteratorRel l c c' :=
  Sim.read_bind fun w w' hw => Sim.pure <| by
    rw [Array.getD_eq_getD_getElem?, Array.getD_eq_getD_getElem?]
    obtain ⟨hc, hc'⟩ | ⟨c, c', hc, hc', hrel⟩ := hw.iterators.get? cell
    · rw [hc, hc']
      exact .items []
    · rw [hc, hc']
      exact hrel

theorem agree_newNote {n n' : Note} (h : S.NoteRel n n') :
    S.Agree (Run.newNote n) (Run.newNote n') :=
  Agree.replace fun _ _ _ hw => ⟨{ hw with notes := hw.notes.push h }, hw.notes.size_eq⟩

/-- A new context has a number that no pinned context has. -/
theorem sim_newContext {c c' : Context} (h : S.ContextRel k c c') :
    S.Sim k (Run.newContext c) (Run.newContext c') fun _ a b => b = a ∧ S.pins a = none :=
  Sim.replace fun w w' hw => by
    refine ⟨k, S.le_refl k, { hw with contexts := hw.contexts.push h, pins := ?_ },
      hw.contexts.size_eq, ?_⟩
    · intro i t hi
      obtain ⟨ctx, hctx, ht⟩ := hw.pins i t hi
      refine ⟨ctx, ?_, ht⟩
      rw [Array.getElem?_push, if_neg, hctx]
      rintro rfl
      simp at hctx
    · rw [Option.eq_none_iff_forall_ne_some]
      intro t ht
      obtain ⟨ctx, hctx, -⟩ := hw.pins _ t ht
      simp at hctx

theorem sim_context (cell : Nat) :
    S.Sim k (Run.context cell) (Run.context cell) fun l c c' => S.ContextRel l c c' :=
  Sim.read_bind fun w w' hw => by
    obtain ⟨hc, hc'⟩ | ⟨c, c', hc, hc', hrel⟩ := hw.contexts.get? cell
    · rw [hc, hc']
      exact Sim.accident _
    · rw [hc, hc']
      exact Sim.pure hrel

/-- What is read off a context is the same on both sides but for its name and its blocks. -/
theorem agree_context_bind (cell : Nat) {f f' : Context → Run α}
    (h : ∀ c name blocks, S.Agree (f c) (f' { c with name, blocks })) :
    S.Agree (Run.context cell >>= f) (Run.context cell >>= f') := by
  refine fun k => (sim_context cell).bind fun l _ c c' hc => ?_
  obtain ⟨name, blocks, -, -⟩ := hc
  exact h c name blocks l

theorem AgreeFrom.context_bind (cell : Nat) {f f' : Context → Run α}
    (h : ∀ c name blocks, S.AgreeFrom k (f c) (f' { c with name, blocks })) :
    S.AgreeFrom k (Run.context cell >>= f) (Run.context cell >>= f') := by
  refine fun l hl => (sim_context cell).bind fun m hm c c' hc => ?_
  obtain ⟨name, blocks, -, -⟩ := hc
  exact h c name blocks m (S.le_trans hl hm)

theorem agree_modifyContext (cell : Nat) {f f' : Context → Context}
    (h : ∀ k c c', S.ContextRel k c c' → S.ContextRel k (f c) (f' c'))
    (hblocks : ∀ c, (f c).blocks = c.blocks) :
    S.Agree (Run.modifyContext cell f) (Run.modifyContext cell f') :=
  Agree.update fun k w w' hw => { hw with
    contexts := hw.contexts.modify cell (h k)
    pins := fun i t hi => by
      obtain ⟨ctx, hctx, ht⟩ := hw.pins i t hi
      change ∃ ctx, (w.contexts.modify cell f)[i]? = some ctx ∧ ctx.blocks = t
      rw [Array.getElem?_modify, hctx]
      split
      · exact ⟨f ctx, rfl, (hblocks ctx).trans ht⟩
      · exact ⟨ctx, rfl, ht⟩ }

/-- A new function is put on each side behind those already there. -/
theorem Rel.pushActivation {w w' : World} (hw : S.Rel k w w') {a : Activation}
    (ha : a.extended = none) (houter : ∀ b, a.outer = some b → S.live k b) :
    S.Rel k { w with activations := w.activations.push a }
      { w' with activations := w'.activations.push (S.activation a) } := by
  have hsize : S.slot w.activations.size = w'.activations.size := hw.slots 0
  -- a function that was there before is still there
  have hold {i : Nat} {act : Activation} (hact : w.activations[i]? = some act) :
      (w.activations.push a)[i]? = some act := by
    rw [Array.getElem?_push, if_neg, hact]
    rintro rfl
    simp at hact
  refine { hw with
    activations := ?_, slots := ?_, live := ?_, outer := ?_, marked := ?_, extended := ?_,
    holds := ?_ }
  · intro i
    change (w'.activations.push (S.activation a))[S.slot i]? = (w.activations.push a)[i]?.map _
    rw [Array.getElem?_push, Array.getElem?_push]
    by_cases hi : i = w.activations.size
    · rw [if_pos hi, if_pos (hi ▸ hsize), Option.map_some]
    · rw [if_neg hi, if_neg fun h => hi (S.slot_injective (h.trans hsize.symm)),
        hw.activations i]
  · intro n
    change S.slot ((w.activations.push a).size + n) = (w'.activations.push _).size + n
    rw [Array.size_push, Array.size_push, Nat.add_assoc, Nat.add_assoc, hw.slots (1 + n)]
  · intro i hi
    change i < (w.activations.push a).size
    rw [Array.size_push]
    exact Nat.lt_succ_of_lt (hw.live i hi)
  · intro i b act hact hb
    change (w.activations.push a)[i]? = some act at hact
    rw [Array.getElem?_push] at hact
    split at hact
    · cases hact
      exact houter b hb
    · exact hw.outer hact hb
  · intro i hi
    obtain ⟨act, hact, hsome⟩ := hw.marked i hi
    exact ⟨act, hold hact, hsome⟩
  · intro i act id hact hid
    change (w.activations.push a)[i]? = some act at hact
    rw [Array.getElem?_push] at hact
    split at hact
    · cases hact
      rw [ha] at hid
      exact nomatch hid
    · exact hw.extended hact hid
  · intro i id hi
    obtain ⟨act, hact, hid⟩ := hw.holds i id hi
    exact ⟨act, hold hact, hid⟩

/-- Nothing is known of a function that does not run yet. -/
theorem Rel.holds_new {w w' : World} (hw : S.Rel k w w') : S.holds w.activations.size = none := by
  cases h : S.holds w.activations.size with
  | none => rfl
  | some id =>
    obtain ⟨act, hact, -⟩ := hw.holds _ id h
    simp at hact

/-- A new function gets a number of its own on each side, and is known to run from then on. -/
theorem sim_newActivation (a : Activation) (ha : a.extended = none)
    (houter : ∀ b, a.outer = some b → S.live k b) :
    S.Sim k (Run.newActivation a) (Run.newActivation (S.activation a)) fun l i i' =>
      i' = S.slot i ∧ S.holds i = none ∧ S.live l i := by
  refine Sim.replace fun w w' hw => ?_
  have hpush := hw.pushActivation ha houter
  obtain ⟨l, hl, hnew, hlive, hmarked, hlibrary⟩ := S.grow k w.activations.size
  refine ⟨l, hl, hpush.later hl (hlibrary hpush.library) (fun i hi => ?_) (fun i hi => ?_),
    (hw.slots 0).symm, hw.holds_new, hnew⟩
  · obtain hold | hle := hlive i hi
    · exact hpush.live i hold
    · change i < (w.activations.push a).size
      rw [Array.size_push]
      exact Nat.lt_succ_of_le hle
  · exact hpush.marked i (hmarked i hi)

/-! ## Variables -/

theorem nestingOf_slot {w w' : World} (hw : S.Rel k w w') (a : Nat) :
    Run.nestingOf w' (S.slot a) = Run.nestingOf w a := by
  unfold Run.nestingOf
  rw [hw.activations a, Option.map_map]
  rfl

theorem holder_slot {w w' : World} (hw : S.Rel k w w') (v : Variable) (fuel a : Nat) :
    Run.holder w' v fuel (S.slot a) = S.slot (Run.holder w v fuel a) := by
  induction fuel generalizing a with
  | zero => rfl
  | succ fuel ih =>
    rw [Run.holder, Run.holder, hw.activations a]
    cases w.activations[a]? with
    | none => rfl
    | some act =>
      change (if act.base ≤ v.level then S.slot a
          else Run.holder w' v fuel ((act.outer.map S.slot).getD (S.slot a))) =
        S.slot (if act.base ≤ v.level then a else Run.holder w v fuel (act.outer.getD a))
      split
      · rfl
      · cases act.outer with
        | none => exact ih a
        | some b => exact ih b

theorem agree_readVariable (a : Nat) (v : Variable) :
    S.Agree (Run.readVariable a v) (Run.readVariable (S.slot a) v) :=
  Agree.read_bind fun _ w w' hw => by
    rw [nestingOf_slot hw, holder_slot hw]
    dsimp only
    rw [hw.activations]
    cases w.activations[Run.holder w v (Run.nestingOf w a) a]? with
    | none => exact .pure _
    | some act => exact .pure _

/-- A change of a function that leaves the links between functions alone, and does not take back
that a template extends another. -/
theorem Rel.modifyActivation {w w' : World} (hw : S.Rel k w w') (a : Nat)
    {f : Activation → Activation} (hf : ∀ act, S.activation (f act) = f (S.activation act))
    (houter : ∀ act, (f act).outer = act.outer)
    (hsome : ∀ act, act.extended.isSome → (f act).extended.isSome)
    (hsame : ∀ act id, (f act).extended = some id → act.extended = some id ∨ S.same k id id)
    (hhold : S.holds a = none ∨ ∀ act, (f act).extended = act.extended) :
    S.Rel k { w with activations := w.activations.modify a f }
      { w' with activations := w'.activations.modify (S.slot a) f } :=
  { hw with
    activations := fun i => by
      -- slots are distinct, so that the change is seen at the same function on both sides
      change (w'.activations.modify (S.slot a) f)[S.slot i]? = (w.activations.modify a f)[i]?.map _
      rw [Array.getElem?_modify, Array.getElem?_modify, hw.activations i]
      by_cases hi : a = i
      · rw [if_pos hi, if_pos (hi ▸ rfl), Option.map_map, Option.map_map]
        congr 1
        funext act
        exact (hf act).symm
      · rw [if_neg hi, if_neg fun h => hi (S.slot_injective h)]
    slots := fun n => by
      change S.slot ((w.activations.modify a f).size + n) = (w'.activations.modify _ f).size + n
      rw [Array.size_modify, Array.size_modify, hw.slots n]
    live := fun i hi => by
      change i < (w.activations.modify a f).size
      rw [Array.size_modify]
      exact hw.live i hi
    outer := fun {i b act} hact hb => by
      change (w.activations.modify a f)[i]? = some act at hact
      rw [Array.getElem?_modify] at hact
      split at hact
      · obtain ⟨before, hbefore, rfl⟩ := Option.map_eq_some_iff.1 hact
        exact hw.outer hbefore ((houter before).symm.trans hb)
      · exact hw.outer hact hb
    marked := fun i hi => by
      obtain ⟨act, hact, hact'⟩ := hw.marked i hi
      change ∃ act, (w.activations.modify a f)[i]? = some act ∧ act.extended.isSome
      rw [Array.getElem?_modify, hact]
      split
      · exact ⟨f act, rfl, hsome act hact'⟩
      · exact ⟨act, rfl, hact'⟩
    extended := fun {i act id} hact hid => by
      change (w.activations.modify a f)[i]? = some act at hact
      rw [Array.getElem?_modify] at hact
      split at hact
      · obtain ⟨before, hbefore, rfl⟩ := Option.map_eq_some_iff.1 hact
        exact (hsame before id hid).elim (hw.extended hbefore) fun h => h
      · exact hw.extended hact hid
    holds := fun i id hi => by
      obtain ⟨act, hact, hid⟩ := hw.holds i id hi
      change ∃ act, (w.activations.modify a f)[i]? = some act ∧ act.extended = id
      rw [Array.getElem?_modify, hact]
      -- a function that is watched was not marked anew
      split
      · rename_i heq
        subst heq
        obtain hnone | hsame := hhold
        · exact absurd (hnone.symm.trans hi) nofun
        · exact ⟨f act, rfl, (hsame act).trans hid⟩
      · exact ⟨act, rfl, hid⟩ }

theorem agree_setVariable (a : Nat) (v : Variable) (value : Option Value) :
    S.Agree (Run.setVariable a v value) (Run.setVariable (S.slot a) v value) :=
  Agree.read_bind fun _ w w' hw => by
    rw [nestingOf_slot hw, holder_slot hw]
    exact Agree.update fun _ _ _ hw => hw.modifyActivation _ (fun _ => rfl) (fun _ => rfl)
      (fun _ h => h) (fun _ _ h => .inl h) (.inr fun _ => rfl)

/-! ## Output -/

theorem agree_write (text : String) : S.Agree (Run.write text) (Run.write text) :=
  Agree.update fun _ _ _ hw => { hw with sinks := by rw [hw.sinks] }

theorem agree_writeStream (depth : Nat) (out : Sink) :
    S.Agree (Run.writeStream depth out) (Run.writeStream depth out) :=
  Agree.update fun _ _ _ hw => { hw with sinks := by rw [hw.sinks] }

theorem agree_writeValue (v : Value) : S.Agree (Run.writeValue v) (Run.writeValue v) := by
  cases v with
  | text s safe => exact agree_write s
  | _ => exact Agree.update fun _ _ _ hw => { hw with sinks := by rw [hw.sinks] }

theorem agree_joined (s : Sink) : S.Agree (Run.joined s) (Run.joined s) :=
  Agree.ite (.pure _) .badType

/-- What a computation writes is collected on both sides alike. -/
theorem sim_collectWith {V : S.Stage → α → β → Prop} {x : Run α} {x' : Run β}
    (hx : S.Sim k x x' V) :
    S.Sim k (Run.collectWith x) (Run.collectWith x') fun l p q => V l p.1 q.1 ∧ q.2 = p.2 := by
  refine Sim.update_bind (fun _ _ hw => { hw with sinks := by rw [hw.sinks] }) ?_
  refine hx.bind fun l _ a b hab w w' hw => ?_
  simp only [Run.exec_bind, Run.exec_get, Run.andThen_ok, hw.sinks]
  cases w.sinks with
  | nil => exact .inr (.done (S.le_refl l) hw ⟨hab, rfl⟩)
  | cons s rest => exact .inr (.done (S.le_refl l) { hw with sinks := rfl } ⟨hab, rfl⟩)

theorem sim_collect {V : S.Stage → Unit → Unit → Prop} {x x' : Run Unit} (hx : S.Sim k x x' V) :
    S.Sim k (Run.collect x) (Run.collect x') fun _ s s' => s' = s := by
  refine Sim.update_bind (fun _ _ hw => { hw with sinks := by rw [hw.sinks] }) ?_
  refine hx.bind fun l _ a b hab w w' hw => ?_
  simp only [Run.exec_bind, Run.exec_get, Run.andThen_ok, hw.sinks]
  cases w.sinks with
  | nil => exact .inr (.done (S.le_refl l) hw rfl)
  | cons s rest => exact .inr (.done (S.le_refl l) { hw with sinks := rfl } rfl)

theorem sim_capture {V : S.Stage → Unit → Unit → Prop} {x x' : Run Unit} (hx : S.Sim k x x' V) :
    S.Sim k (Run.capture x) (Run.capture x') fun _ s s' => s' = s := by
  refine (sim_collect hx).bind fun l _ s s' hs => ?_
  subst hs
  exact agree_joined s' l

end Simulation

end Stencil
