import Stencil.Inspect.Data
import Stencil.Proofs.Simulation.Machine
import Stencil.Workspace

/-!
# Serving requests

What is asked of a workspace comes down to looking for sources, parsing them, loading templates,
rendering them and collecting the blocks of their ancestors. All of this does the same on both sides
of a simulation that has the same sources on both sides, and in which any template may be asked for.

## Main statements

- `Serving.sim_renderAt`: corresponding templates give the same text
- `Serving.sim_dataOf`: and the same pattern data
-/

namespace Stencil

namespace Simulation

variable {S : Simulation} {k : S.Stage}

/-- A simulation in which requests can be served. -/
structure Serving (S : Simulation) : Prop where
  laws : S.Laws
  own : S.OwnLaw
  dynamic : S.dynamic
  store : ∀ {k L L'}, S.library k L L' → L'.store = L.store

/-- Plain values become the same values on both sides. -/
theorem agree_fields (fields : List (String × Datum)) :
    S.Agree (Workspace.values fields) (Workspace.values fields) := by
  refine Agree.mapM (fun f => ?_) fields
  exact (agree_ofDatum valueDepth f.2).bind fun v => .pure (f.1, v)

theorem agree_parse (name : Option String) (code : String) :
    S.Agree (Load.parse name code) (Load.parse name code) := by
  refine Agree.read_bind fun k w w' hw => ?_
  rw [S.library_options hw.library]
  split
  · exact .pure _
  · exact .throw (.refl _ nofun)

/-- Corresponding templates give the same text. -/
theorem sim_textAt (hS : S.Laws) (hown : S.OwnLaw) {i i' : TemplateId} (hi : S.same k i i')
    (depth : Nat) (data : List (String × Value)) :
    S.Sim k (Run.renderAt depth i data) (Run.renderAt depth i' data) fun _ a b => b = a := by
  refine (sim_freshContext hS hi data).bind fun l hl c c' hc => ?_
  obtain ⟨rfl, hpin⟩ := hc
  exact sim_capture ((engRel_ofDepth hS hown depth).root (S.same_mono hl hi) hpin)

/-- The same sources are found on both sides. -/
theorem agree_findSource (hstore : ∀ {k L L'}, S.library k L L' → L'.store = L.store)
    (hmissing : ∀ d, S.missing d) (name : String) :
    S.Agree (Load.find name) (Load.find name) := by
  refine Agree.read_bind fun k w w' hw => ?_
  rw [S.library_loader hw.library, hstore hw.library]
  refine .ite (.throw .noLoader) ?_
  split
  · exact .pure _
  · exact .throw (.notFound (hmissing _) _)
  · exact .accident _
  · exact .accident _

namespace Serving

variable (hS : S.Serving)
include hS

theorem standard : S.EngRel .standard .standard :=
  engRel_ofDepth hS.laws hS.own Engine.callDepth

theorem agree_find (name : String) : S.Agree (Load.find name) (Load.find name) :=
  agree_findSource hS.store (hS.laws.missing hS.dynamic) name

/-! ## Rendering -/

/-- Corresponding templates give the same text. -/
theorem sim_renderAt {i i' : TemplateId} (hi : S.same k i i') (depth : Nat)
    (data : List (String × Value)) :
    S.Sim k (Run.renderAt depth i data) (Run.renderAt depth i' data) fun _ a b => b = a :=
  sim_textAt hS.laws hS.own hi depth data

/-! ## Inspection -/

/-- The parent of a template is read off the source of its name. -/
theorem agree_parent {i i' : TemplateId} (hname : i'.name = i.name) :
    S.Agree (Inspect.parent? i) (Inspect.parent? i') := by
  unfold Inspect.parent?
  rw [hname]
  split
  · exact .pure _
  · refine (hS.agree_find _).bind fun source => (agree_parse _ _).bind fun p => ?_
    split <;> exact .pure _

/-- The same blocks are collected from the ancestors of templates of the same name. -/
theorem sim_addAncestors {context : Nat} (hpin : S.pins context = none) (fuel : Nat)
    (seen : List String) {i i' : TemplateId} (hname : i'.name = i.name) :
    S.Sim k (Inspect.addAncestors .standard context fuel seen i)
      (Inspect.addAncestors .standard context fuel seen i') fun _ a b => b = a := by
  induction fuel generalizing k seen i i' with
  | zero => exact Sim.accident _
  | succ fuel ih =>
    -- the blocks of a parent are collected before one goes on from it
    have hup (l : S.Stage) (seen : List String) (j j' : TemplateId) (hj : S.Loaded l j j') :
        S.Sim l
          (do
            Run.record (.attachment j.name)
            Run.appendBlocks context j
            Inspect.addAncestors .standard context fuel seen j)
          (do
            Run.record (.attachment j'.name)
            Run.appendBlocks context j'
            Inspect.addAncestors .standard context fuel seen j') fun _ a b => b = a := by
      refine hj.attach fun heq hcommon => ?_
      subst heq
      exact (sim_appendBlocks hS.laws hpin hcommon).bind fun _ _ _ _ _ => ih seen rfl
    refine Sim.agree_bind (hS.agree_parent hname) fun l _ d => ?_
    split
    · exact Sim.pure rfl
    · exact Sim.pure rfl
    · split
      · exact Sim.pure rfl
      · exact (sim_loadTemplate hS.laws hS.standard (.inl hS.dynamic)).bind
          fun l' _ j j' hj => hup l' _ j j' hj
    · refine Sim.agree_bind (agree_ofDatum _ _) fun l' _ v => ?_
      exact (sim_loadTemplate hS.laws hS.standard (.inl hS.dynamic)).bind
        fun l' _ j j' hj => hup l' _ j j' hj

/-- Corresponding templates of the same name have the same pattern data. -/
theorem sim_dataOf (infoBlock : String) {i i' : TemplateId} (hi : S.same k i i')
    (hname : i'.name = i.name) :
    S.Sim k (Inspect.dataOf .standard infoBlock i) (Inspect.dataOf .standard infoBlock i')
      fun _ a b => b = a := by
  refine (sim_freshContext hS.laws hi []).bind fun l _ c c' hc => ?_
  obtain ⟨rfl, hpin⟩ := hc
  refine Sim.read_bind fun w w' hw => ?_
  rw [hS.store hw.library, hname]
  refine (hS.sim_addAncestors hpin _ _ hname).bind fun l₁ _ _ _ _ => ?_
  refine (sim_blockDefs c' infoBlock).bind fun l₂ _ ds ds' hds => ?_
  have hempty : ds'.isEmpty = ds.isEmpty := by
    rw [Bool.eq_iff_iff, List.isEmpty_iff_length_eq_zero, List.isEmpty_iff_length_eq_zero,
      hds.length_eq]
  rw [hempty]
  split
  · exact Sim.pure rfl
  · refine Sim.agree_bind (fun k => ?_) fun _ _ _ => Sim.pure rfl
    exact sim_capture (hS.standard.block infoBlock 0 c' k)

end Serving

end Simulation

end Stencil
