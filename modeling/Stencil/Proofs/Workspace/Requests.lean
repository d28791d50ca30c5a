import Stencil.Proofs.Simulation.Service
import Stencil.Proofs.Simulation.Twin
import Stencil.Proofs.Workspace.Operations

/-!
# Reachable workspaces

A workspace is reachable if requests lead to it from a new one: sources are rendered, inspected,
compiled and changed in any order. An invariant of libraries that loading, compiling and changing
sources keep holds in every reachable workspace, because rendering and inspection do nothing else
to a library.

## Key results

- `Service.kept_serve`: every request keeps the invariant
- `Service.kept`: the invariant holds in every reachable workspace
-/

namespace Stencil

namespace Workspace

/-- What can be asked of a workspace. -/
inductive Request where
  | linked (name : Datum) (code : String)
  | source (name : String)
  | linkedByName (name : String)
  | data (name : String) (infoBlock : Option String)
  | dataOfString (code : String)
  | render (name : String) (globals context : List (String × Datum))
  | renderString (code : String) (context : List (String × Datum))
  | blocks (name : String)
  | parse (name : Option String) (code : String)
  | compile (host : Option String) (code : String)
  | put (name code : String)
  | remove (name : String)
  | embedKeys (name : String)
  | embed (key : String) (globals context : List (String × Datum))

/-- The workspace after a request, whether it succeeds or fails. -/
def serve (ws : Workspace) : Request → Workspace
  | .linked name code => (linked name code ws).2
  | .source name => (source name ws).2
  | .linkedByName name => (linkedByName name ws).2
  | .data name infoBlock => (data name infoBlock ws).2
  | .dataOfString code => (dataOfString code ws).2
  | .render name globals context => (render name globals context ws).2
  | .renderString code context => (renderString code context ws).2
  | .blocks name => (blocks name ws).2
  | .parse name code => (parse name code ws).2
  | .compile host code => (compile host host code ws).2
  | .put name code => (put name code ws).2
  | .remove name => (remove name ws).2
  | .embedKeys name => (embedKeys name ws).2
  | .embed key globals context => (embed key globals context ws).2

/-- The workspaces that requests lead to from a new one. -/
inductive Reachable (p : WorkspacePlan) : Workspace → Prop
  | new {ws : Workspace} (h : p.build = .ok ws) : Reachable p ws
  | serve {ws : Workspace} (h : Reachable p ws) (r : Request) : Reachable p (ws.serve r)

/-- All workspaces that are reachable from a plan come from one new workspace. -/
theorem Reachable.origin {p : WorkspacePlan} {ws : Workspace} (h : Reachable p ws) :
    ∃ ws₀, p.build = .ok ws₀ ∧ ∀ ws, p.build = .ok ws → ws = ws₀ := by
  induction h with
  | new hws => exact ⟨_, hws, fun ws h => Except.ok.inj (h.symm.trans hws)⟩
  | serve _ _ ih => exact ih

theorem Reachable.of_toOption {p : WorkspacePlan} {ws : Workspace}
    (h : p.build.toOption = some ws) : Reachable p ws := by
  cases hb : p.build with
  | error e => rw [hb] at h; exact nomatch h
  | ok ws' => rw [hb] at h; exact .new (hb.trans (congrArg Except.ok (Option.some.inj h)))

end Workspace

namespace Invariant

/-- An invariant that is kept by all that requests do to a library. -/
structure Service (I : Invariant) : Prop extends Upkeep I where
  source : ∀ code, I.Keeps (Load.ofSource none code [] .given)
  compile : ∀ host code, I.Keeps (do Load.compile host (← Load.parse host code))
  write : ∀ {k L} name code, I.holds k L →
    I.holds k { L with store := L.store.writeFile name code } ∧
      I.holds k { L with store := L.store.removeFile name }
  set : ∀ {k L} name code, I.holds k L →
    I.holds k { L with store := L.store.setNamed name code } ∧
      I.holds k { L with store := L.store.removeNamed name }

/-- A run beside itself of which nothing else is known. -/
abbrev self (I : Invariant) : Simulation := I.twin {}

/-- The invariant holds of the library of a workspace, and of all that it goes on with. -/
def Kept (I : Invariant) (k : I.Stage) (ws : Workspace) : Prop :=
  ∃ n, I.self.Rel (k, n) ws.world ws.world

variable {I : Invariant} {α : Type}

theorem Kept.holds {k : I.Stage} {ws : Workspace} (h : I.Kept k ws) :
    I.holds k ws.world.toLibrary := by
  obtain ⟨n, hrel⟩ := h
  exact hrel.library.2

/-- An operation keeps the invariant if its computation corresponds to itself. -/
theorem kept_perform {act : Run α} (hact : I.self.Agree act act) (wrap : Fault → Failure)
    {k : I.Stage} {ws : Workspace} (h : I.Kept k ws) :
    ∃ l, I.le k l ∧ I.Kept l (Workspace.perform act wrap ws).2 := by
  rw [Workspace.perform_eq]
  obtain ⟨n, hrel⟩ := h
  have hclear : I.self.Rel (k, n) { ws.world with sinks := [] } { ws.world with sinks := [] } :=
    { hrel with sinks := rfl }
  obtain ⟨⟨l, m⟩, hl, hrel'⟩ := rel_exec (fun h => h) (hact (k, n)) hclear
  exact ⟨l, hl.1, m, hrel'⟩

/-- A request of two operations keeps the invariant if each of them does. -/
theorem kept_then {k : I.Stage} {ws : Workspace} {r : Except Failure α × Workspace}
    (hr : ∃ l, I.le k l ∧ I.Kept l r.2) (hfail : ∀ f ws', r = (.error f, ws') → ws = ws')
    (hnext : ∀ a ws' l, r = (.ok a, ws') → I.Kept l ws' → ∃ m, I.le l m ∧ I.Kept m ws) :
    ∃ l, I.le k l ∧ I.Kept l ws := by
  obtain ⟨r, ws'⟩ := r
  obtain ⟨l, hl, hws'⟩ := hr
  cases r with
  | error f => exact ⟨l, hl, hfail f ws' rfl ▸ hws'⟩
  | ok a =>
    obtain ⟨m, hm, hws⟩ := hnext a ws' l rfl hws'
    exact ⟨m, I.le_trans hl hm, hws⟩

/-- Other sources may take the place of those at hand if the invariant allows for them. -/
theorem Kept.edit {k : I.Stage} {ws : Workspace} (h : I.Kept k ws) {store : Store}
    (hstore : I.holds k { ws.world.toLibrary with store }) :
    I.Kept k { ws with world := { ws.world with store } } := by
  obtain ⟨n, hrel⟩ := h
  exact ⟨n, { hrel with library := ⟨rfl, hstore⟩ }⟩

/-! ## Rendering and inspection -/

section Acts

variable (h : I.Service)

theorem agree_template (id : TemplateId) : I.self.Agree (Run.template id) (Run.template id) := by
  refine agree_onLibrary (.template id) (.of_unchanged fun w => ?_)
  rw [Run.exec_template]

theorem kept_linked (name : Datum) (code : String) {k : I.Stage} {ws : Workspace}
    (hws : I.Kept k ws) : ∃ l, I.le k l ∧ I.Kept l (Workspace.linked name code ws).2 := by
  refine kept_perform (.read_bind fun k w w' hw => ?_) _ hws
  dsimp only
  rw [I.self.library_options hw.library, I.self.library_flavour hw.library]
  split
  · exact .pure _
  · exact .throw (.refl _ nofun)

include h

/-- Requests can be served beside themselves. -/
theorem Service.serving : I.self.Serving where
  laws := h.laws
  own := h.ownLaw
  dynamic := trivial
  store hL := by rw [hL.1]

theorem agree_renderAt (depth : Nat) (id : TemplateId) (data : List (String × Value)) :
    I.self.Agree (Run.renderAt depth id data) (Run.renderAt depth id data) :=
  fun _ => (Service.serving h).sim_renderAt rfl depth data

theorem agree_dataOf (infoBlock : String) (id : TemplateId) :
    I.self.Agree (Inspect.dataOf .standard infoBlock id) (Inspect.dataOf .standard infoBlock id) :=
  fun _ => (Service.serving h).sim_dataOf infoBlock rfl rfl

theorem agree_ofSource (code : String) :
    I.self.Agree (Load.ofSource none code [] .given) (Load.ofSource none code [] .given) :=
  agree_onLibrary (Load.onLibrary_ofSource none code [] .given) (h.source code)

/-- Every request keeps the invariant. -/
theorem Service.kept_serve (r : Workspace.Request) {k : I.Stage} {ws : Workspace}
    (hws : I.Kept k ws) : ∃ l, I.le k l ∧ I.Kept l (ws.serve r) := by
  cases r with
  | linked name code => exact kept_linked name code hws
  | source name => exact kept_perform ((Service.serving h).agree_find name) .fault hws
  | linkedByName name =>
    -- the search goes on in the state that finding the source has left
    refine kept_then (kept_perform ((Service.serving h).agree_find name) .fault hws) (fun f ws' heq => ?_)
      fun found ws' l heq hws' => ?_
    · simp only [Workspace.serve, Workspace.linkedByName, Workspace.source, heq]
    · simp only [Workspace.serve, Workspace.linkedByName, Workspace.source, heq]
      exact kept_linked (.text name) found.code hws'
  | data name infoBlock =>
    refine kept_perform ?_ (Failure.ofInspection (.text name)) hws
    exact (agree_load h.toUpkeep [] name).bind fun id => agree_dataOf h _ id
  | dataOfString code =>
    refine kept_then (kept_perform (agree_ofSource h code) .fault hws) (fun f ws' heq => ?_)
      fun id ws' l heq hws' => ?_
    · simp only [Workspace.serve, Workspace.dataOfString, heq]
    · simp only [Workspace.serve, Workspace.dataOfString, heq]
      exact kept_perform (agree_dataOf h ws'.infoBlock id) _ hws'
  | render name globals context =>
    refine kept_perform ?_ .fault hws
    refine (Simulation.agree_fields globals).bind fun gs => ?_
    refine (agree_load h.toUpkeep gs name).bind fun id => ?_
    exact (Simulation.agree_fields context).bind fun data => agree_renderAt h _ id data
  | renderString code context =>
    refine kept_perform ?_ .fault hws
    refine (agree_ofSource h code).bind fun id => ?_
    exact (Simulation.agree_fields context).bind fun data => agree_renderAt h _ id data
  | blocks name =>
    refine kept_perform ?_ .fault hws
    exact (agree_load h.toUpkeep [] name).bind fun id => (agree_template id).bind fun t => .pure _
  | parse name code => exact kept_perform (Simulation.agree_parse name code) .fault hws
  | compile host code =>
    refine kept_perform ?_ .fault hws
    refine agree_onLibrary ?_ (h.compile host code)
    exact (Load.onLibrary_parse host code).bind fun p => Load.onLibrary_compile host p
  | put name code =>
    refine ⟨k, I.le_refl k, hws.edit ?_⟩
    split
    · exact (h.write name _ hws.holds).1
    · exact (h.set name code hws.holds).1
  | remove name =>
    refine ⟨k, I.le_refl k, hws.edit ?_⟩
    split
    · exact (h.write name [] hws.holds).2
    · exact (h.set name "" hws.holds).2
  | embedKeys name =>
    refine kept_perform ?_ .fault hws
    refine ((Service.serving h).agree_find name).bind fun found => (Simulation.agree_parse (some name) found.code).bind fun p => ?_
    refine .read_bind fun k w w' hw => ?_
    rw [I.self.library_flavour hw.library]
    exact .pure _
  | embed key globals context =>
    -- the template is handed out before it is rendered, so that this is a state of its own
    have hload : I.self.Agree
        (do Load.template Engine.standard (← Workspace.values globals) (.plain key))
        (do Load.template Engine.standard (← Workspace.values globals) (.plain key)) :=
      (Simulation.agree_fields globals).bind fun gs => agree_load h.toUpkeep gs key
    refine kept_then (kept_perform hload .fault hws) (fun f ws' heq => ?_) fun id ws' l heq hws' => ?_
    · simp only [Workspace.serve, Workspace.embed, heq]
    · simp only [Workspace.serve, Workspace.embed, heq]
      have hnoted : I.Kept l { ws' with handedOut := Run.setNamed key id ws'.handedOut } := hws'
      refine kept_perform ?_ .fault hnoted
      refine (Simulation.agree_fields context).bind fun data => ?_
      exact (agree_renderAt h _ id data).bind fun text => .pure _

end Acts

/-- The invariant holds of a new workspace if it does of its library. -/
theorem kept_new {p : WorkspacePlan} {ws : Workspace} (hws : p.build = .ok ws) {k : I.Stage}
    (h : I.holds k ws.world.toLibrary) : I.Kept k ws := by
  have hworld := (Workspace.world_of_build hws).1
  have hnew : I.self.Rel (k, 0) { toLibrary := ws.world.toLibrary }
      { toLibrary := ws.world.toLibrary } :=
    Simulation.rel_new ⟨rfl, h⟩ (fun _ => rfl) Nat.not_lt_zero (fun _ h => h) (fun _ => rfl)
      fun _ => rfl
  rw [Kept, hworld]
  rw [hworld] at hnew
  exact ⟨0, hnew⟩

/-- The invariant holds in every reachable workspace. -/
theorem Service.kept (h : I.Service) {p : WorkspacePlan} {k : I.Stage}
    (hnew : ∀ ws, p.build = .ok ws → I.holds k ws.world.toLibrary) {ws : Workspace}
    (hws : Workspace.Reachable p ws) : ∃ l, I.le k l ∧ I.Kept l ws := by
  induction hws with
  | new hws => exact ⟨k, I.le_refl k, kept_new hws (hnew _ hws)⟩
  | serve _ r ih =>
    obtain ⟨l, hl, hkept⟩ := ih
    obtain ⟨m, hm, hkept'⟩ := h.kept_serve r hkept
    exact ⟨m, I.le_trans hl hm, hkept'⟩

end Invariant

end Stencil
