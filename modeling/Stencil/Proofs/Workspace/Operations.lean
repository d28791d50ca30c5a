import Stencil.Proofs.Render.Execution
import Stencil.Workspace

/-!
# Operations on workspaces

What an operation gives and leaves behind, and what a new workspace is.
-/

namespace Stencil

namespace Workspace

/-- What an operation gives and leaves behind is what its computation does. -/
theorem perform_eq {α : Type} (act : Run α) (wrap : Fault → Failure) (ws : Workspace) :
    perform act wrap ws =
      (((Run.exec act { ws.world with sinks := [] }).1).mapError wrap,
        { ws with world := (Run.exec act { ws.world with sinks := [] }).2 }) := by
  unfold perform
  cases Run.exec act { ws.world with sinks := [] } with
  | mk r world => cases r <;> rfl

/-- What a plan is set up to, if its options can be. -/
theorem exists_of_build {p : WorkspacePlan} {ws : Workspace} (h : p.build = .ok ws) :
    ∃ options, Options.build p.flavour p.settings p.options = .ok options ∧
      ws = {
        world := {
          env := { options, flavour := p.flavour, loader := p.loader, embedLimit := p.embedLimit }
          store := p.store
          cache := { capacity := options.cacheSize } }
        settings := p.settings
        usesFiles := p.sources == .files
        infoBlock := WorkspacePlan.infoBlockName p.settings p.infoBlock } := by
  rw [WorkspacePlan.build] at h
  cases ho : Options.build p.flavour p.settings p.options with
  | ok options =>
    rw [ho] at h
    exact ⟨options, rfl, (Except.ok.inj h).symm⟩
  | error e =>
    rw [ho] at h
    exact nomatch h

/-- Nothing is loaded in a new workspace. -/
theorem world_of_build {p : WorkspacePlan} {ws : Workspace} (h : p.build = .ok ws) :
    ws.world = { env := ws.world.env, store := p.store, cache := ws.world.cache } ∧
      ws.world.env.flavour = p.flavour ∧ ws.world.env.loader = p.loader := by
  obtain ⟨options, -, rfl⟩ := exists_of_build h
  exact ⟨rfl, rfl, rfl⟩

theorem cache_of_build {p : WorkspacePlan} {ws : Workspace} (h : p.build = .ok ws) :
    ws.world.cache.entries = [] := by
  obtain ⟨options, -, rfl⟩ := exists_of_build h
  rfl

theorem embedLimit_of_build {p : WorkspacePlan} {ws : Workspace} (h : p.build = .ok ws) :
    ws.world.env.embedLimit = p.embedLimit := by
  obtain ⟨options, -, rfl⟩ := exists_of_build h
  rfl

/-- New workspaces of plans with other sources are the same otherwise. -/
theorem build_store {p : WorkspacePlan} {ws : Workspace} (h : p.build = .ok ws) (store : Store) :
    WorkspacePlan.build { p with store } = .ok { ws with world := { ws.world with store } } := by
  obtain ⟨options, hoptions, rfl⟩ := exists_of_build h
  rw [WorkspacePlan.build, hoptions]
  rfl

end Workspace

end Stencil
