import Stencil.Proofs.Render.Keeping
import Stencil.Proofs.Simulation.Machine

/-!
# A run beside itself

Whatever runs of templates do, they change the library by loading templates and by remembering their
modules only. So an invariant of libraries that these keep is kept by every run: this is what it
means that a run corresponds to itself in the simulation `Invariant.twin`, where the library is the
same on both sides and the invariant holds of it.

A run may also be known to leave some things alone, which a `Watch` names: the blocks of contexts in
`pins`, and what the running templates in `holds` extend. And the two sides may number the functions
that run differently, for as long as all that is stored speaks of functions that have started: so a
stage tells, beside what is known of the library, below which number functions are known to run.

## Key results

- `Invariant.Upkeep.laws`, `Invariant.Upkeep.ownLaw`: every run corresponds to itself
- `Invariant.rel_exec`: what holds of a state still holds when a computation has ended
-/

namespace Stencil

/-- What is watched while a computation runs beside itself. -/
structure Watch where
  /-- Contexts whose blocks do not change. -/
  pins : Nat → Option (List (String × List BlockDef)) := fun _ => none
  /-- Running templates that go on extending the same one, or none. -/
  holds : Nat → Option (Option TemplateId) := fun _ => none
  /-- The number that a running function has on the right. -/
  slot : Nat → Nat := fun a => a
  slot_injective : ∀ {a b}, slot a = slot b → a = b := by exact fun h => h
  /-- Whether the right side may run out of depth where the left one does not. -/
  loose : Prop := False

namespace Invariant

/-- A run beside itself, while an invariant of the library holds. -/
def twin (I : Invariant) (v : Watch) : Simulation where
  Stage := I.Stage × Nat
  le k l := I.le k.1 l.1 ∧ k.2 ≤ l.2
  le_refl k := ⟨I.le_refl k.1, Nat.le_refl k.2⟩
  le_trans h h' := ⟨I.le_trans h.1 h'.1, Nat.le_trans h.2 h'.2⟩
  line l l' := l' = l
  line_refl _ := rfl
  host h h' := h' = h
  slot := v.slot
  slot_injective := v.slot_injective
  loose := v.loose
  bad _ := False
  missing _ := True
  pins := v.pins
  holds := v.holds
  live k a := a < k.2
  live_mono h _ ha := Nat.lt_of_lt_of_le ha h.2
  marked _ _ := False
  marked_mono _ _ h := h
  dynamic := True
  names _ := True
  library k L L' := L' = L ∧ I.holds k.1 L
  same _ i i' := i' = i
  same_mono _ _ _ h := h
  shared _ := True
  tag _ key key' := key' = key
  tag_mono _ _ _ h := h
  child _ _ _ := False
  child_mono _ _ _ h := h
  root _ ss ss' := ss' = ss
  root_mono _ _ _ h := h
  grow k n := ⟨(k.1, max k.2 (n + 1)), ⟨I.le_refl k.1, Nat.le_max_left ..⟩, by omega, by omega,
    fun _ h => h, fun h => h⟩
  library_options h := by rw [h.1]
  library_flavour h := by rw [h.1]
  library_loader h := by rw [h.1]
  library_capacity h := by rw [h.1]
  same_host h := by rw [h]
  same_shared h _ := by rw [h]
  reference := Simulation.reference_of_eq
  debug _ _ := ⟨fun _ _ h => h, fun _ _ h => h⟩

end Invariant

/-! ## Trees -/

namespace Simulation

/-- What is asked of the top level of a template is not asked inside of loops, blocks and
functions. -/
theorem nowhere {P : Nat → Nat → Prop} (a c : Nat) (h : (none : Option (Nat × Nat)) = some (a, c)) :
    P a c :=
  nomatch h

variable {S : Simulation}

mutual

/-- A statement does the same as itself where any template may be asked for. At the top level it
may extend one only if nothing is watched there. -/
theorem StmtRel.refl (hdynamic : S.dynamic) {k : S.Stage} (htag : ∀ key, S.tag k key key)
    {top : Option (Nat × Nat)} : (s : Stmt) →
    (s.hasExtends = true → ∀ a c, top = some (a, c) → S.pins c = none ∧ S.holds a = none) →
    S.StmtRel k top s s
  | .output _ es, _ => .output (S.line_refl _) (.refl S.line_refl es)
  | .extend _ e, htop => .extend (S.line_refl _) (.refl S.line_refl e) fun a c h =>
    ⟨(htop rfl a c h).1, (htop rfl a c h).2, .inl (.inl ⟨hdynamic, .refl S.line_refl e⟩)⟩
  | .loop _ t e body orElse test recursive, _ =>
    .loop (S.line_refl _) (.refl S.line_refl t) (.refl S.line_refl e)
      (StmtsRel.refl hdynamic htag body fun _ => nowhere)
      (StmtsRel.refl hdynamic htag orElse fun _ => nowhere) (.refl S.line_refl test) recursive
  | .branch _ e body elifs orElse, htop =>
    .branch (S.line_refl _) (.refl S.line_refl e)
      (StmtsRel.refl hdynamic htag body fun h => htop (by simp [Stmt.hasExtends, h]))
      (StmtsRel.refl hdynamic htag elifs fun h => htop (by simp [Stmt.hasExtends, h]))
      (StmtsRel.refl hdynamic htag orElse fun h => htop (by simp [Stmt.hasExtends, h]))
  | .macroDef _ name params defaults body, _ =>
    .macroDef (S.line_refl _) name params (.refl S.line_refl defaults)
      (StmtsRel.refl hdynamic htag body fun _ => nowhere)
  | .callBlock _ _ e args params defaults body, _ =>
    .callBlock (S.line_refl _) (S.line_refl _) (.refl S.line_refl e) (.refl S.line_refl args) params
      (.refl S.line_refl defaults) (StmtsRel.refl hdynamic htag body fun _ => nowhere)
  | .filterBlock _ e body, _ =>
    .filterBlock (S.line_refl _) (.refl S.line_refl e)
      (StmtsRel.refl hdynamic htag body fun _ => nowhere)
  | .withBlock _ _ body, _ =>
    .withBlock (S.line_refl _)
      (List.forall₂_same.2 fun b _ => ⟨.refl S.line_refl b.1, .refl S.line_refl b.2⟩)
      (StmtsRel.refl hdynamic htag body fun _ => nowhere)
  | .block _ name body isScoped isRequired, _ =>
    .block (S.line_refl _) name (StmtsRel.refl hdynamic htag body fun _ => nowhere) isScoped
      isRequired
  | .inclusion _ e withContext ignoreMissing, _ =>
    .inclusion (S.line_refl _) (.inl ⟨hdynamic, .refl S.line_refl e⟩) withContext ignoreMissing
  | .importModule _ e target withContext, _ =>
    .importModule (S.line_refl _) (.inl ⟨hdynamic, .refl S.line_refl e⟩) target withContext
  | .importNames _ e names withContext, _ =>
    .importNames (S.line_refl _) (.inl ⟨hdynamic, .refl S.line_refl e⟩) names withContext
  | .exprStmt _ e, _ => .exprStmt (S.line_refl _) (.refl S.line_refl e)
  | .assign _ t e, _ => .assign (S.line_refl _) (.refl S.line_refl t) (.refl S.line_refl e)
  | .assignBlock _ t o body, _ =>
    .assignBlock (S.line_refl _) (.refl S.line_refl t) (.refl S.line_refl o)
      (StmtsRel.refl hdynamic htag body fun _ => nowhere)
  | .autoescape _ e body, _ =>
    .autoescape (S.line_refl _) (.refl S.line_refl e)
      (StmtsRel.refl hdynamic htag body fun _ => nowhere)
  | .continueLoop _, _ => .continueLoop (S.line_refl _)
  | .breakLoop _, _ => .breakLoop (S.line_refl _)
  | .embed _ e body, _ =>
    .embed (S.line_refl _) (.refl S.line_refl e)
      (StmtsRel.refl hdynamic htag body fun _ => nowhere)
  | .embedded _ key, _ => .embedded (S.line_refl _) (htag key)

theorem StmtsRel.refl (hdynamic : S.dynamic) {k : S.Stage} (htag : ∀ key, S.tag k key key)
    {top : Option (Nat × Nat)} : (ss : List Stmt) →
    (Stmt.anyExtends ss = true → ∀ a c, top = some (a, c) → S.pins c = none ∧ S.holds a = none) →
    S.StmtsRel k top ss ss
  | [], _ => .nil
  | s :: ss, htop => .cons
    (StmtRel.refl hdynamic htag s fun h => htop (by simp [Stmt.anyExtends, h]))
    (StmtsRel.refl hdynamic htag ss fun h => htop (by simp [Stmt.anyExtends, h]))

end

end Simulation

namespace Invariant

variable {I : Invariant} {v : Watch} {α β : Type}

open Simulation (nowhere)

theorem stmtsRel_twin {k : I.Stage × Nat} {top : Option (Nat × Nat)}
    (htop : ∀ a c, top = some (a, c) → v.pins c = none ∧ v.holds a = none) (ss : List Stmt) :
    (I.twin v).StmtsRel k top ss ss :=
  .refl trivial (fun _ => rfl) ss fun _ => htop

/-- Statements without `extends` do the same as themselves whatever is watched. -/
theorem stmtsRel_of_anyExtends {k : I.Stage × Nat} (top : Option (Nat × Nat)) {ss : List Stmt}
    (h : Stmt.anyExtends ss = false) : (I.twin v).StmtsRel k top ss ss :=
  .refl trivial (fun _ => rfl) ss fun htrue => absurd (h.symm.trans htrue) Bool.false_ne_true

theorem templateRel_twin {k : I.Stage × Nat} (t : LoadedTemplate) :
    (I.twin v).TemplateRel k t t where
  body := rfl
  stmts := stmtsRel_twin nowhere _
  blocks := List.forall₂_same.2 fun _ _ => ⟨rfl, stmtsRel_twin nowhere _⟩
  globals := rfl
  module := rfl

/-! ## Loading -/

/-- A computation on the library that keeps the invariant does the same as itself. -/
theorem agree_onLibrary {x : Run α} (hx : Run.OnLibrary x) (hkeeps : I.Keeps x) :
    (I.twin v).Agree x x := by
  intro k w w' hw
  obtain ⟨L, H⟩ := w
  obtain ⟨L', H'⟩ := w'
  obtain ⟨rfl, hI⟩ : L' = L ∧ I.holds k.1 L := hw.library
  obtain ⟨l, hl, hI'⟩ := hkeeps k.1 ⟨L', H⟩ hI
  have hright := hx L' H H'
  have hleft := hx L' H H
  generalize Run.exec x ⟨L', H⟩ = r at hI' hright hleft ⊢
  obtain ⟨r, L₁, H₁⟩ := r
  obtain rfl : H₁ = H := congrArg (·.2.toHeap) hleft
  have hL : (I.twin v).library (l, k.2) L₁ L₁ := ⟨rfl, hI'⟩
  have hl : (I.twin v).le k (l, k.2) := ⟨hl, Nat.le_refl _⟩
  have hw₁ := hw.later hl hL hw.live fun _ h => h.elim
  rw [hright]
  right
  cases r with
  | ok a => exact .done hl hw₁ rfl
  | error f => exact .failed hl hw₁ (.refl f fun _ _ _ => trivial)

theorem agree_named (h : I.Upkeep) (globals : List (String × Value)) (name : String) :
    (I.twin v).Agree (Load.named globals name) (Load.named globals name) :=
  agree_onLibrary (Load.onLibrary_named globals name) (h.named globals name)

theorem agree_embedded (h : I.Upkeep) (globals : List (String × Value)) (key : String) :
    (I.twin v).Agree (Load.embedded globals key) (Load.embedded globals key) :=
  agree_onLibrary (Load.onLibrary_embedded globals key) (h.embedded globals key)

/-- The loader finds the same template for a name, whatever the engines. -/
theorem agree_fromLoader (h : I.Upkeep) {eng eng' : Engine} (globals : List (String × Value))
    (name : String) :
    (I.twin v).Agree (Load.fromLoader eng globals (.plain name))
      (Load.fromLoader eng' globals (.plain name)) := by
  refine Simulation.Agree.read_bind fun k w w' hw => ?_
  rw [(I.twin v).library_loader hw.library]
  split
  · exact .throw .noLoader
  · exact fun k => Simulation.Sim.record_bind (.inr (agree_named h globals name k))

/-- A name leads to the same template, whatever the engines. -/
theorem agree_load (h : I.Upkeep) {eng eng' : Engine} (globals : List (String × Value))
    (name : String) :
    (I.twin v).Agree (Load.template eng globals (.plain name))
      (Load.template eng' globals (.plain name)) := by
  refine Simulation.Agree.read_bind fun k w w' hw => ?_
  rw [(I.twin v).library_flavour hw.library]
  split
  · exact fun k => Simulation.Sim.record_bind (.inr (agree_embedded h globals name k))
  · exact agree_fromLoader h globals name

theorem loaded_twin {k : I.Stage × Nat} {i i' : TemplateId} (h : i' = i) :
    (I.twin v).Loaded k i i' :=
  ⟨h, congrArg TemplateId.name h, .inr ⟨h, trivial⟩⟩

/-- Every load of a template does the same as itself. -/
theorem Upkeep.laws (h : I.Upkeep) : (I.twin v).Laws where
  template {k L L' i i'} hL hi := by
    cases hi
    cases hL.1
    cases L.templates.lookup i with
    | none => exact .inl ⟨rfl, rfl⟩
    | some t => exact .inr ⟨t, t, rfl, rfl, templateRel_twin t⟩
  named _ := .inr <| (agree_named h [] _ _).imp fun _ _ _ _ hi => loaded_twin hi
  embedded _ _ := .inr <| (agree_embedded h [] _ _).imp fun _ _ _ _ hi => loaded_twin hi
  tag {k key key' eng eng'} htag := by
    cases htag
    refine Simulation.Sim.read_bind fun w w' hw => ?_
    rw [(I.twin v).library_flavour hw.library]
    split
    · exact agree_embedded h [] key k
    · exact agree_fromLoader h [] key k
  child h := h.elim
  missing _ _ := trivial
  module m _ := agree_onLibrary (Load.onLibrary_modifyTemplate _ _) (h.module _ m)

/-- The body of every template does the same as itself. -/
theorem Upkeep.ownLaw (h : I.Upkeep) : (I.twin v).OwnLaw := by
  refine Simulation.ownLaw_of_extends h.laws fun {k ss ss'} hroot a c hpin hhold => ?_
  cases hroot
  refine stmtsRel_twin (fun a' c' heq => ?_) ss
  cases heq
  exact ⟨hpin, hhold⟩

/-- Engines of every depth do the same as themselves. -/
theorem Upkeep.engRel (h : I.Upkeep) (depth : Nat) :
    (I.twin v).EngRel (.ofDepth depth) (.ofDepth depth) :=
  Simulation.engRel_ofDepth h.laws h.ownLaw depth

/-! ## States -/

/-- What holds of a state still holds when a computation has ended. -/
theorem rel_exec (hloose : ¬ v.loose) {V : I.Stage × Nat → α → α → Prop} {x : Run α}
    {k : I.Stage × Nat} (hx : (I.twin v).Sim k x x V) {w : World} (hw : (I.twin v).Rel k w w) :
    ∃ l, (I.twin v).le k l ∧ (I.twin v).Rel l (Run.exec x w).2 (Run.exec x w).2 := by
  obtain ⟨_, -, hbad⟩ | ho := hx w w hw
  · exact hbad.elim
  have hboth : ∀ r r', (I.twin v).Outcome k V r r' →
      ∃ l, (I.twin v).le k l ∧ (I.twin v).Rel l r.2 r'.2 := by
    intro r r' ho
    cases ho with
    | deep _ _ hl => exact (hloose hl).elim
    | done hk hw _ => exact ⟨_, hk, hw⟩
    | failed hk hw _ => exact ⟨_, hk, hw⟩
  exact hboth _ _ ho

end Invariant

end Stencil
