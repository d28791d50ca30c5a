import Stencil.Proofs.Simulation.Twin

/-!
# Stored frames

Macros, loops that can be run again and iterators keep frames, and a frame speaks of a running
function by its number. In every state that a run leads to, these numbers are those of functions
that have started: the state is `Closed`. So a state may be watched in another way from some point
on, and functions that nothing speaks of may be added at the end of the numbering.

## Key results

- `Invariant.closed_of_rel`: a state that corresponds to itself is closed
- `Invariant.rel_of_closed`: a closed state corresponds to itself and to one with more functions
- `Invariant.exec_watched`: what is watched in a closed state is so when a computation has ended
- `Invariant.sim_stmts`: statements without `extends` change nothing that is watched
-/

namespace Stencil

/-- The frame that an iterator keeps belongs to a function below a number. -/
def IteratorCell.Below (n : Nat) : IteratorCell → Prop
  | .tested _ _ _ f => f.activation < n
  | _ => True

/-- The frame that a loop keeps belongs to a function below a number. -/
def LoopCell.Below (n : Nat) (c : LoopCell) : Prop :=
  ∀ b, c.recurse = some b → b.frame.activation < n

/-- The frame that a macro keeps belongs to a function below a number, and not to the top level of a
template. -/
def MacroCell.Below (n : Nat) (m : MacroCell) : Prop :=
  m.frame.toplevel = false ∧ m.frame.activation < n

/-- All that is kept in a state belongs to functions below a number, all of which have started. -/
structure World.Closed (n : Nat) (w : World) : Prop where
  started : n ≤ w.activations.size
  outer : ∀ {a b : Nat} {act : Activation}, w.activations[a]? = some act → act.outer = some b →
    b < n
  iterators : ∀ {i : Nat} {c : IteratorCell}, w.iterators[i]? = some c → c.Below n
  loops : ∀ {i : Nat} {c : LoopCell}, w.loops[i]? = some c → c.Below n
  macros : ∀ {i : Nat} {m : MacroCell}, w.macros[i]? = some m → m.Below n

namespace World.Closed

variable {n : Nat} {w : World}

/-- Any number of functions that have started will do. -/
theorem started_all (h : w.Closed n) : w.Closed w.activations.size where
  started := Nat.le_refl _
  outer ha hb := Nat.lt_of_lt_of_le (h.outer ha hb) h.started
  iterators {_ c} hi := by
    have hbelow := h.iterators hi
    cases c with
    | tested _ _ _ f => exact Nat.lt_of_lt_of_le hbelow h.started
    | _ => trivial
  loops hi b hb := Nat.lt_of_lt_of_le (h.loops hi b hb) h.started
  macros hi := ⟨(h.macros hi).1, Nat.lt_of_lt_of_le (h.macros hi).2 h.started⟩

/-- A function may start that has none around it. -/
theorem start (h : w.Closed n) (base : Nat) :
    World.Closed n { w with activations := w.activations.push { base } } where
  started := Nat.le_trans h.started (by rw [Array.size_push]; exact Nat.le_succ _)
  outer {a b act} ha hb := by
    rw [Array.getElem?_push] at ha
    split at ha
    · cases ha
      cases hb
    · exact h.outer ha hb
  iterators := h.iterators
  loops := h.loops
  macros := h.macros

/-- What a running template extends has nothing to do with what is stored, nor have the library and
the contexts. -/
theorem extend (h : w.Closed n) (L : Library) (contexts : Array Context) (a : Nat) (id : TemplateId) :
    World.Closed n { w with
      toLibrary := L
      contexts
      activations := w.activations.modify a fun act => { act with extended := some id } } where
  started := by rw [Array.size_modify]; exact h.started
  outer {i b act} hi hb := by
    rw [Array.getElem?_modify] at hi
    split at hi
    · obtain ⟨act', hact, rfl⟩ := Option.map_eq_some_iff.1 hi
      exact h.outer hact hb
    · exact h.outer hi hb
  iterators := h.iterators
  loops := h.loops
  macros := h.macros

end World.Closed

namespace Watch

/-- What is watched is so in a state. -/
structure Sees (v : Watch) (w : World) : Prop where
  pins : ∀ c t, v.pins c = some t → ∃ ctx, w.contexts[c]? = some ctx ∧ ctx.blocks = t
  holds : ∀ a o, v.holds a = some o → ∃ act, w.activations[a]? = some act ∧ act.extended = o

/-- Watches the blocks of one context and what one running template extends. -/
def place (context : Nat) (blocks : List (String × List BlockDef)) (activation : Nat)
    (extended : Option TemplateId) : Watch where
  pins c := if c = context then some blocks else none
  holds a := if a = activation then some extended else none

theorem sees_place {context activation : Nat} {blocks : List (String × List BlockDef)}
    {extended : Option TemplateId} {w : World} :
    (Watch.place context blocks activation extended).Sees w ↔
      (∃ ctx, w.contexts[context]? = some ctx ∧ ctx.blocks = blocks) ∧
        ∃ act, w.activations[activation]? = some act ∧ act.extended = extended := by
  refine ⟨fun h => ⟨h.pins context blocks (if_pos rfl), h.holds activation extended (if_pos rfl)⟩,
    fun h => ⟨fun c t hc => ?_, fun a o ha => ?_⟩⟩
  · obtain ⟨rfl, ht⟩ := Option.ite_none_right_eq_some.1 hc
    cases ht
    exact h.1
  · obtain ⟨rfl, ho⟩ := Option.ite_none_right_eq_some.1 ha
    cases ho
    exact h.2

end Watch

namespace Invariant

open Simulation (nowhere)

variable {I : Invariant} {v : Watch} {k : I.Stage} {n : Nat}

/-! ## Closed states from correspondence -/

theorem below_of_iteratorRel {c c' : IteratorCell} (h : (I.twin v).IteratorRel (k, n) c c') :
    c.Below n := by
  cases h with
  | tested _ _ _ _ _ _ hlive => exact hlive
  | _ => trivial

theorem below_of_loopRel {c c' : LoopCell} (h : (I.twin v).LoopRel (k, n) c c') : c.Below n := by
  intro b hb
  cases h with
  | plain h => rw [h] at hb; cases hb
  | recursive h hrel =>
    rw [h] at hb
    cases hb
    obtain ⟨f, host, -, -, -, -, -, hlive⟩ := hrel
    exact hlive

theorem below_of_macroRel {m m' : MacroCell} (h : (I.twin v).MacroRel (k, n) m m') : m.Below n := by
  obtain ⟨host, -, -, -, htop, hlive⟩ := h
  exact ⟨htop, hlive⟩

/-- What is related to something in each place is below a number if that follows for each pair. -/
theorem below_of_paired {α β : Type} {R : α → β → Prop} {P : α → Prop} {a : Array α} {b : Array β}
    (h : Paired R a b) (hP : ∀ x y, R x y → P x) {i : Nat} {x : α} (hx : a[i]? = some x) : P x := by
  obtain ⟨hnone, -⟩ | ⟨x', y, hx', -, hrel⟩ := h.get? i
  · rw [hnone] at hx
    cases hx
  · rw [hx'] at hx
    cases hx
    exact hP _ y hrel

/-- A state that corresponds to another is closed. -/
theorem closed_of_rel {w w' : World} (h : (I.twin v).Rel (k, n) w w') : w.Closed n where
  started := by
    cases n with
    | zero => exact Nat.zero_le _
    | succ m => exact h.live m (Nat.lt_succ_self m)
  outer := h.outer
  iterators := below_of_paired h.iterators fun _ _ => below_of_iteratorRel
  loops := below_of_paired h.loops fun _ _ => below_of_loopRel
  macros := below_of_paired h.macros fun _ _ => below_of_macroRel

/-! ## Correspondence from closed states -/

theorem defsRel_twin (ds : List BlockDef) : (I.twin v).DefsRel (k, n) ds ds where
  all := List.forall₂_same.2 fun _ _ => ⟨rfl, rfl⟩
  pattern hi hj hi' hj' := by
    cases hi.symm.trans hi'
    cases hj.symm.trans hj'
    rfl

theorem contextRel_twin (c : Context) : (I.twin v).ContextRel (k, n) c c :=
  .mk c c.name c.blocks rfl (List.forall₂_same.2 fun b _ => ⟨rfl, defsRel_twin b.2⟩)

/-- A frame of a function that has the same number on both sides is the same there. -/
theorem frame_twin {f : Frame} (hslot : v.slot f.activation = f.activation) :
    (I.twin v).frame f f.host = f := by
  change { f with activation := v.slot f.activation } = f
  rw [hslot]

theorem howRel_twin {α : Type} (how : Except Fault α) : (I.twin v).HowRel how how := by
  cases how with
  | ok a => exact .ok a
  | error f => exact .error (.refl f fun _ _ _ => trivial)

section Kept

variable (hslot : ∀ a < n, v.slot a = a)
include hslot

theorem iteratorRel_twin {c : IteratorCell} (hc : c.Below n) :
    (I.twin v).IteratorRel (k, n) c c := by
  cases c with
  | items rest => exact .items rest
  | listFrom cell position => exact .listFrom cell position
  | rangeFrom next stop step => exact .rangeFrom next stop step
  | failing f => exact .failing (.refl f fun _ _ _ => trivial)
  | mapNew source how context => exact .mapNew source (howRel_twin how) context
  | mapRest source how context => exact .mapRest source how context
  | selectNew source how context => exact .selectNew source (howRel_twin how) context
  | selectRest source how context => exact .selectRest source how context
  | unique source caseSensitive path seen => exact .unique source caseSensitive path seen
  | tested source t e f =>
    have hrel := Simulation.IteratorRel.tested (S := I.twin v) (k := (k, n)) source f f.host
      (.refl (I.twin v).line_refl t) (.refl (I.twin v).line_refl e) rfl hc
    rwa [frame_twin (hslot _ hc)] at hrel
  | loopItems loop => exact .loopItems loop

theorem loopBodyRel_twin {b : LoopBody} (hb : b.frame.activation < n) :
    (I.twin v).LoopBodyRel (k, n) b b := by
  obtain ⟨t, body, orElse, test, f⟩ := b
  have hrel := Simulation.LoopBodyRel.mk (S := I.twin v) (k := (k, n)) f f.host
    (.refl (I.twin v).line_refl t) (stmtsRel_twin nowhere body) (stmtsRel_twin nowhere orElse)
    (.refl (I.twin v).line_refl test) rfl hb
  rwa [frame_twin (hslot _ hb)] at hrel

theorem loopRel_twin {c : LoopCell} (hc : c.Below n) : (I.twin v).LoopRel (k, n) c c := by
  cases hb : c.recurse with
  | none => exact .plain c hb
  | some b =>
    have hrel := Simulation.LoopRel.recursive (S := I.twin v) c hb
      (loopBodyRel_twin (k := k) hslot (hc b hb))
    rwa [← hb] at hrel

theorem macroRel_twin {m : MacroCell} (hm : m.Below n) : (I.twin v).MacroRel (k, n) m m := by
  have hrel := Simulation.MacroRel.mk (S := I.twin v) (k := (k, n)) m m.frame.host
    (.refl (I.twin v).line_refl m.defaults) (stmtsRel_twin nowhere m.body) rfl hm.1 hm.2
  rwa [frame_twin (hslot _ hm.2)] at hrel

end Kept

theorem noteRel_twin (x : Note) : (I.twin v).NoteRel x x := by
  cases x with
  | noAlternative p => exact .noAlternative rfl rfl
  | notExported module p name => exact .notExported module rfl rfl name

/-- An array with itself, if each of its elements is related to itself. -/
theorem paired_self {α : Type} {R : α → α → Prop} {a : Array α}
    (h : ∀ {i : Nat} {x : α}, a[i]? = some x → R x x) : Paired R a a :=
  ⟨rfl, fun hx hy => by cases hx.symm.trans hy; exact h hx⟩

/-- A closed state corresponds to the same state with functions that nothing speaks of, if what is
watched is so. -/
theorem rel_of_closed {w : World} (hw : w.Closed n) (hI : I.holds k w.toLibrary)
    {acts : Array Activation} (hslot : ∀ a < n, v.slot a = a)
    (hacts : ∀ i, acts[v.slot i]? = w.activations[i]?)
    (hslots : ∀ m, v.slot (w.activations.size + m) = acts.size + m) (hsees : v.Sees w) :
    (I.twin v).Rel (k, n) w { w with activations := acts } where
  library := ⟨rfl, hI⟩
  contexts := paired_self fun {_ c} _ => contextRel_twin c
  activations i := by
    change acts[v.slot i]? = w.activations[i]?.map (I.twin v).activation
    rw [hacts i]
    cases hact : w.activations[i]? with
    | none => rfl
    | some act =>
      -- a function around another has the same number on both sides
      have houter : act.outer.map v.slot = act.outer := by
        cases hb : act.outer with
        | none => rfl
        | some b => exact congrArg some (hslot b (hw.outer hact hb))
      refine congrArg some ?_
      change act = { act with outer := act.outer.map v.slot }
      rw [houter]
  slots := hslots
  lists := rfl
  spaces := rfl
  cyclers := rfl
  joiners := rfl
  iterators := paired_self fun hc => iteratorRel_twin hslot (hw.iterators hc)
  loops := paired_self fun hc => loopRel_twin hslot (hw.loops hc)
  macros := paired_self fun hm => macroRel_twin hslot (hw.macros hm)
  modules := rfl
  notes := paired_self fun {_ x} _ => noteRel_twin x
  sinks := rfl
  live a ha := Nat.lt_of_lt_of_le ha hw.started
  outer := hw.outer
  marked _ h := h.elim
  extended _ _ := rfl
  pins := hsees.pins
  holds := hsees.holds

/-- What is watched in a closed state is so when a computation has ended, and the state is closed
then. -/
theorem exec_watched {α : Type} {V : I.Stage × Nat → α → α → Prop} {w : World} (hw : w.Closed n)
    (hI : I.holds k w.toLibrary) (hslot : ∀ a, v.slot a = a) (hloose : ¬ v.loose) (hsees : v.Sees w)
    {x : Run α} (hx : (I.twin v).Sim (k, n) x x V) :
    ∃ l m, I.le k l ∧ (Run.exec x w).2.Closed m ∧ I.holds l (Run.exec x w).2.toLibrary ∧
      v.Sees (Run.exec x w).2 := by
  have hrel : (I.twin v).Rel (k, n) w w :=
    rel_of_closed hw hI (fun a _ => hslot a) (fun i => by rw [hslot]) (fun m => hslot _) hsees
  obtain ⟨⟨l, m⟩, hl, hrel'⟩ := rel_exec hloose hx hrel
  exact ⟨l, m, hl.1, closed_of_rel hrel', hrel'.library.2, hrel'.pins, hrel'.holds⟩

section Bodies

variable (hslot : ∀ a, v.slot a = a) {f : Frame}
include hslot

/-- What comes before the statements of a template does the same as itself. -/
theorem agree_opening (isUsed : Bool) :
    (I.twin v).Agree (do Run.provideSelf f isUsed; Run.enter f)
      (do Run.provideSelf f isUsed; Run.enter f) := by
  have hopening := (Simulation.agree_provideSelf (S := I.twin v) f f.host isUsed).bind fun _ =>
    Simulation.agree_enter f f.host
  rwa [frame_twin (hslot _)] at hopening

/-- Statements without `extends` do the same as themselves, whatever is watched. -/
theorem sim_stmts (h : I.Upkeep) (hf : f.activation < n) (depth : Nat) {ss : List Stmt}
    (hss : Stmt.anyExtends ss = false) :
    (I.twin v).Sim (k, n) (Run.runStmts (.ofDepth depth) f ss) (Run.runStmts (.ofDepth depth) f ss)
      fun _ a b => b = a := by
  have hhost : (I.twin v).host f.host f.host := rfl
  have hlive : (I.twin v).live (k, n) f.activation := hf
  have htop : f.toplevel = true → some (f.activation, f.context) = some (f.activation, f.context) :=
    fun _ => rfl
  have hrun := Simulation.agreeFrom_runStmts h.laws (h.engRel depth) f hhost hlive htop
    (stmtsRel_of_anyExtends _ hss)
  rw [frame_twin (hslot _)] at hrun
  exact hrun.now

end Bodies

end Invariant

end Stencil
