import Stencil.Proofs.Embed.History
import Stencil.Proofs.Render.Growth
import Stencil.Proofs.Workspace.Requests

/-!
# What is compiled on the way

Sources are compiled when they are handed to the environment, and when a template is asked for that
is not loaded yet or no longer current; embedded templates are compiled when they are asked for by
their key and are not kept in compiled form. `Visit.compilations` says which compilations a visit
makes, so that the history of a run of visits is known exactly, and what holds of registries with a
given history holds after every run.

## Key results

- `compiles_named`, `compiles_embedded`: the compilations that loading a template makes
- `Visit.reached_run`: the registry after a run of visits has the history of the run
- `Visit.registry_run`: what the registry holds after a run of visits
-/

namespace Stencil

variable {α β : Type}

namespace Library

/-- The compilation of a source, if it can be read. -/
def readings (L : Library) (host : Option String) (code : String) : List Compilation :=
  match L.env.options.language.parse host code with
  | .ok p => [⟨host, p.embeds⟩]
  | .error _ => []

/-- The compilation of the source that the loader finds for a name. -/
def findings (L : Library) (name : String) : List Compilation :=
  match L.env.loader.find L.store name with
  | .ok source => L.readings (some name) source.code
  | .error _ => []

/-- Whether a name is read from its source when it is asked for: it is not in the cache, or its
source has changed. -/
def isRead (L : Library) (name : String) : Bool :=
  match L.cache.entries.lookup name with
  | none => true
  | some id =>
    match L.templates.lookup id with
    | none => false
    | some t => L.env.options.autoReload && !L.store.isCurrent t.origin

/-- The compilation of a registered embed that is not kept in compiled form. -/
def unpacked (L : Library) (key : String) : List Compilation :=
  if (L.registry.fetch key).isNone && (L.registry.tree? key).isSome then [⟨some key, []⟩] else []

/-- The registry of a library has a history. -/
structure Reached (env : Environment) (cs : List Compilation) (L : Library) : Prop where
  env_eq : L.env = env
  registry : Registry.Reached env.options.language env.embedLimit cs L.registry

end Library

namespace Run

/-- A computation that makes the given compilations. -/
def Compiles (env : Environment) (x : Run α) (made : Library → List Compilation) : Prop :=
  ∀ w cs, Library.Reached env cs w.toLibrary →
    Library.Reached env (made w.toLibrary ++ cs) (exec x w).2.toLibrary

/-- A computation that leaves the registry as it is. -/
def Quiet (x : Run α) : Prop :=
  ∀ w, (exec x w).2.env = w.env ∧ (exec x w).2.registry = w.registry

variable {env : Environment}

theorem Quiet.compiles {x : Run α} (hx : Quiet x) : Compiles env x fun _ => [] := by
  intro w cs h
  exact ⟨(hx w).1.trans h.env_eq, (hx w).2 ▸ h.registry⟩

/-- What leaves the registry as it is may follow. -/
theorem Compiles.bind_quiet {x : Run α} {f : α → Run β} {made : Library → List Compilation}
    (hx : Compiles env x made) (hf : ∀ a, Quiet (f a)) : Compiles env (x >>= f) made := by
  intro w cs h
  have hw := hx w cs h
  rw [exec_bind]
  generalize exec x w = r at hw ⊢
  obtain ⟨r, w₁⟩ := r
  cases r with
  | error e => exact hw
  | ok a => exact (hf a).compiles w₁ _ hw

/-- Noting an event compiles nothing. -/
theorem Compiles.record_bind {e : Event} {f : Unit → Run α} {made : Library → List Compilation}
    (hf : Compiles env (f ()) made) : Compiles env (record e >>= f) made := by
  intro w cs h
  rw [exec_bind, exec_record]
  exact hf w cs h

theorem quiet_update {g : World → World} (henv : ∀ w, (g w).env = w.env)
    (hregistry : ∀ w, (g w).registry = w.registry) : Quiet (modify g) :=
  fun w => ⟨henv w, hregistry w⟩

theorem quiet_modifyTemplate (id : TemplateId) (f : LoadedTemplate → LoadedTemplate) :
    Quiet (modifyTemplate id f) :=
  quiet_update (fun _ => rfl) fun _ => rfl

end Run

namespace Load

open Run (Compiles Quiet)

variable {env : Environment} (hreg : env.flavour.hasRegistry = true)

theorem quiet_instantiate (name : Option String) (tree : Template)
    (globals : List (String × Value)) (origin : Origin) :
    Quiet (instantiate name tree globals origin) :=
  fun _ => ⟨rfl, rfl⟩

include hreg

theorem compiles_compile {host : Option String} {code : String} {p : Parsed}
    (hp : env.options.language.parse host code = .ok p) :
    Compiles env (compile host p) fun _ => [⟨host, p.embeds⟩] := by
  intro w cs h
  rw [exec_compile host p w (h.env_eq ▸ hreg)]
  exact ⟨h.env_eq, .compile h.registry hp⟩

omit hreg in
/-- A source is read first. -/
theorem compiles_parse_bind {host : Option String} {code : String} {f : Parsed → Run α}
    (hf : ∀ p, env.options.language.parse host code = .ok p →
      Compiles env (f p) fun _ => [⟨host, p.embeds⟩]) :
    Compiles env (parse host code >>= f) fun L => L.readings host code := by
  intro w cs h
  have henv : w.env = env := h.env_eq
  rw [Run.exec_bind, exec_parse, henv]
  simp only [Library.readings, henv]
  cases hp : env.options.language.parse host code with
  | error e => exact h
  | ok p => exact hf p hp w cs h

/-- Compiling a source makes one compilation if the source can be read. -/
theorem compiles_source (host : Option String) (code : String) :
    Compiles env (do compile host (← parse host code)) fun L => L.readings host code :=
  compiles_parse_bind fun _ hp => compiles_compile hreg hp

theorem compiles_ofSource (host : Option String) (code : String) (globals : List (String × Value))
    (origin : Origin) :
    Compiles env (ofSource host code globals origin) fun L => L.readings host code :=
  .record_bind <| compiles_parse_bind fun p hp =>
    (compiles_compile hreg hp).bind_quiet fun _ => quiet_instantiate host p.template globals origin

/-- The source of a name is looked for first. -/
theorem compiles_fresh (globals : List (String × Value)) (name : String) :
    Compiles env (do
      let source ← find name
      let id ← ofSource (some name) source.code globals source.origin
      modify fun w => { w with cache := w.cache.put name id }
      return id : Run TemplateId) fun L => L.findings name := by
  have hcache (id : TemplateId) : Quiet (do
      modify fun w => { w with cache := w.cache.put name id }
      return id : Run TemplateId) :=
    fun _ => ⟨rfl, rfl⟩
  intro w cs h
  rw [Run.exec_bind]
  simp only [Library.findings]
  obtain ⟨source, hfound, hexec⟩ | ⟨e, f, hfound, hexec⟩ := exec_find name w
  · rw [hfound, hexec]
    exact ((compiles_ofSource hreg (some name) source.code globals source.origin).bind_quiet
      hcache) w cs h
  · rw [hfound, hexec]
    exact h

/-- Asking for a name makes a compilation if the name is read from its source. -/
theorem compiles_named (globals : List (String × Value)) (name : String) :
    Compiles env (named globals name)
      fun L => if L.isRead name then L.findings name else [] := by
  have hfresh := compiles_fresh hreg globals name
  have hkept (id : TemplateId) : Quiet (do addGlobals id globals; return id) :=
    fun _ => ⟨rfl, rfl⟩
  intro w cs h
  rw [named, Run.exec_bind, Run.exec_get, Run.andThen_ok]
  cases hl : w.cache.entries.lookup name with
  | none =>
    have hread : w.toLibrary.isRead name = true := by rw [Library.isRead, hl]
    have hget : w.cache.get name = none := by rw [TemplateCache.get, hl]; rfl
    simp only [hget, hread, if_true]
    exact hfresh w cs h
  | some id =>
    obtain ⟨cache, hget⟩ : ∃ cache, w.cache.get name = some (id, cache) := by
      rw [TemplateCache.get, hl]
      dsimp only [Option.map_some]
      split <;> exact ⟨_, rfl⟩
    -- moving an entry of the cache changes nothing of the registry
    have h' : Library.Reached env cs { w with cache }.toLibrary := ⟨h.env_eq, h.registry⟩
    rw [hget]
    dsimp only
    rw [Run.exec_bind, Run.exec_modify, Run.andThen_ok, Run.exec_bind, Run.exec_get, Run.andThen_ok,
      Run.exec_bind]
    cases ht : w.templates.lookup id with
    | none =>
      have hexec : Run.exec (Run.template id) { w with cache } =
          (.error (.accident .brokenInvariant), { w with cache }) := by simp [Run.template, ht]
      have hread : w.toLibrary.isRead name = false := by simp [Library.isRead, hl, ht]
      rw [hexec, hread]
      exact h'
    | some t =>
      have hexec : Run.exec (Run.template id) { w with cache } = (.ok t, { w with cache }) := by
        simp [Run.template, ht]
      have hread : w.toLibrary.isRead name =
          !(!w.env.options.autoReload || w.store.isCurrent t.origin) := by
        simp [Library.isRead, hl, ht]
      rw [hexec, hread, Run.andThen_ok]
      dsimp only
      cases !w.env.options.autoReload || w.store.isCurrent t.origin with
      | true => exact (hkept id).compiles _ cs h'
      | false => exact hfresh _ cs h'

/-- Asking for the key of an embed compiles the embed if it is registered and not kept in compiled
form. -/
theorem compiles_embedded (globals : List (String × Value)) (key : String) :
    Compiles env (embedded globals key) fun L => L.unpacked key := by
  have hkept (id : TemplateId) : Quiet (do addGlobals id globals; return id) :=
    fun _ => ⟨rfl, rfl⟩
  intro w cs h
  have hload := exec_embedded globals key w
  have hregistered : w.registered (some key) [] = w.registry.register (some key) [] := by
    rw [Library.registered, if_pos (h.env_eq ▸ hreg)]
  simp only [Library.unpacked]
  generalize Run.exec (embedded globals key) w = result at hload ⊢
  cases hload with
  | @kept id registry hfetch =>
    rw [hfetch]
    exact (hkept id).compiles { w with registry } cs ⟨h.env_eq, .fetch h.registry hfetch⟩
  | missing hfetch htree =>
    rw [hfetch, htree]
    exact h
  | refused hfetch htree _ =>
    rw [hfetch, htree, hregistered]
    exact ⟨h.env_eq, .load h.registry hfetch htree⟩
  | compiled hfetch htree _ =>
    rw [hfetch, htree, hregistered]
    refine ⟨h.env_eq, ?_⟩
    have hkeep := Registry.Reached.keep h.registry hfetch htree (w.nextId (some key))
    rw [← h.env_eq] at hkeep ⊢
    exact hkeep

omit hreg in
/-- A key leads to the registry, and any other name to the loader. -/
theorem exec_template (eng : Engine) (globals : List (String × Value)) (name : String) (w : World)
    (h : w.env.flavour.hasRegistry = true) :
    Run.exec (template eng globals (.plain name)) w =
      if Text.startsWith name.toList Embed.keyStart.toList then Run.exec (embedded globals name) w
      else if w.env.loader == .absent then (.error .noLoader, w)
      else Run.exec (named globals name) w := by
  rw [exec_plain, isKey, h, Bool.true_and]

end Load

theorem Library.reached_of_build {p : WorkspacePlan} {ws : Workspace} (h : p.build = .ok ws) :
    Library.Reached ws.world.env [] ws.world.toLibrary where
  env_eq := rfl
  registry := by
    rw [(Workspace.world_of_build h).1]
    exact .empty

/-! ## Reachable workspaces -/

/-- The registry has a history, which grows. -/
def historyOf (env : Environment) : Invariant where
  Stage := List Compilation
  le cs ds := cs <:+ ds
  le_refl _ := List.suffix_rfl
  le_trans h h' := h.trans h'
  holds cs L := L.Reached env cs

/-- A computation that makes some compilations adds them to the history. -/
theorem Run.Compiles.keeps {env : Environment} {x : Run α} {made : Library → List Compilation}
    (hx : Run.Compiles env x made) : (historyOf env).Keeps x :=
  fun (cs : List Compilation) w h => ⟨made w.toLibrary ++ cs, List.suffix_append _ _, hx w cs h⟩

theorem service_historyOf {env : Environment} (hreg : env.flavour.hasRegistry = true) :
    (historyOf env).Service where
  named globals name := (Load.compiles_named hreg globals name).keeps
  embedded globals key := (Load.compiles_embedded hreg globals key).keeps
  module id _ := (Run.quiet_modifyTemplate id _).compiles.keeps
  source code := (Load.compiles_ofSource hreg none code [] .given).keeps
  compile host code := (Load.compiles_source hreg host code).keeps
  write _ _ h := ⟨⟨h.env_eq, h.registry⟩, ⟨h.env_eq, h.registry⟩⟩
  set _ _ h := ⟨⟨h.env_eq, h.registry⟩, ⟨h.env_eq, h.registry⟩⟩

/-- The registry of every reachable workspace has a history. -/
theorem Workspace.Reachable.history {p : WorkspacePlan} (hreg : p.flavour.hasRegistry = true)
    {ws : Workspace} (h : Reachable p ws) :
    ws.world.env.flavour.hasRegistry = true ∧
      ∃ cs, Library.Reached ws.world.env cs ws.world.toLibrary := by
  obtain ⟨ws₀, hnew, hws₀⟩ := h.origin
  have hreg₀ : ws₀.world.env.flavour.hasRegistry = true := (world_of_build hnew).2.1 ▸ hreg
  have hempty (ws : Workspace) (hws : p.build = .ok ws) :
      Library.Reached ws₀.world.env [] ws.world.toLibrary := by
    rw [hws₀ ws hws]
    exact Library.reached_of_build hnew
  obtain ⟨cs, -, hkept⟩ := (service_historyOf hreg₀).kept hempty h
  have hreached : Library.Reached ws₀.world.env cs ws.world.toLibrary := hkept.holds
  exact ⟨hreached.env_eq ▸ hreg₀, cs, rfl, hreached.env_eq.symm ▸ hreached.registry⟩

/-! ## Runs of visits -/

/-- What is asked of an environment from outside: to compile a source under a name or without one,
to make a template of a source without a name, or to give the template of a name, which may be the
key of an embed. Between two visits the sources may change. -/
inductive Visit where
  | compile (host : Option String) (code : String)
  | fromString (code : String) (globals : List (String × Value))
  | getTemplate (name : String) (globals : List (String × Value))
  | edit (store : Store)

namespace Visit

def act : Visit → Run Unit
  | compile host code => do Load.compile host (← Load.parse host code)
  | fromString code globals => discard (Load.ofSource none code globals .given)
  | getTemplate name globals => discard (Load.template Engine.standard globals (.plain name))
  | edit store => modify fun w => { w with store }

/-- The compilations that a visit makes: at most one. -/
def compilations (L : Library) : Visit → List Compilation
  | compile host code => L.readings host code
  | fromString code _ => L.readings none code
  | getTemplate name _ =>
    if Text.startsWith name.toList Embed.keyStart.toList then L.unpacked name
    else if L.isRead name then L.findings name else []
  | edit _ => []

/-- Makes visits one after the other. The compilations on the way are noted, the latest first. -/
def run : List Visit → World → List Compilation × World
  | [], w => ([], w)
  | v :: vs, w =>
    let (later, last) := run vs (Run.exec v.act w).2
    (later ++ v.compilations w.toLibrary, last)

/-- A visit makes its compilations and no others. -/
theorem compiles_act {env : Environment} (hreg : env.flavour.hasRegistry = true) (v : Visit) :
    Run.Compiles env v.act fun L => v.compilations L := by
  cases v with
  | compile host code => exact Load.compiles_source hreg host code
  | fromString code globals =>
    exact (Load.compiles_ofSource hreg none code globals .given).bind_quiet fun _ _ => ⟨rfl, rfl⟩
  | edit store => exact Run.Quiet.compiles fun _ => ⟨rfl, rfl⟩
  | getTemplate name globals =>
    refine Run.Compiles.bind_quiet (fun w cs h => ?_) fun _ _ => ⟨rfl, rfl⟩
    rw [Load.exec_template _ _ _ _ (h.env_eq ▸ hreg)]
    simp only [compilations]
    split
    · exact Load.compiles_embedded hreg globals name w cs h
    · by_cases habsent : w.env.loader = .absent
      · have hnone : w.toLibrary.findings name = [] := by
          rw [Library.findings, habsent]
          rfl
        rw [hnone, ite_self, if_pos (beq_iff_eq.2 habsent)]
        exact h
      · rw [if_neg fun h => habsent (beq_iff_eq.1 h)]
        exact Load.compiles_named hreg globals name w cs h

/-- The registry after a run of visits has the history of the run. -/
theorem reached_run {env : Environment} (hreg : env.flavour.hasRegistry = true) (vs : List Visit)
    {w : World} {cs : List Compilation} (h : Library.Reached env cs w.toLibrary) :
    Library.Reached env ((run vs w).1 ++ cs) (run vs w).2.toLibrary := by
  induction vs generalizing w cs with
  | nil => exact h
  | cons v vs ih =>
    have hrest := ih (compiles_act hreg v w cs h)
    rw [← List.append_assoc] at hrest
    exact hrest

/-- After any run of visits to a new environment: every registered key belongs to a host or was
recorded without a name; a host is listed with the keys that its latest compilation recorded, and
not at all without any; what is kept in compiled form is registered, and is no more than the limit
allows. -/
theorem registry_run (p : WorkspacePlan) {ws : Workspace} (hreg : p.flavour.hasRegistry = true)
    (hws : p.build = .ok ws) (vs : List Visit) {cs : List Compilation} {w : World}
    (hrun : run vs ws.world = (cs, w)) :
    (∀ key, w.registry.Holds key →
        (∃ host, key ∈ w.registry.keysOf host) ∨ ∃ c ∈ cs, c.host = none ∧ key ∈ c.keys) ∧
      (∀ host, w.registry.hosts.lookup host =
        match Compilation.latest cs host with
        | some c => if c.keys = [] then none else some c.keys
        | none => none) ∧
      (∀ e ∈ w.registry.compiled, w.registry.Holds e.1) ∧
      w.registry.compiled.length ≤ p.embedLimit := by
  have hnew := Library.reached_of_build hws
  have hreached := reached_run ((Workspace.world_of_build hws).2.1 ▸ hreg) vs hnew
  rw [hrun, List.append_nil] at hreached
  have hsound := hreached.registry.sound
  refine ⟨hsound.owned, fun host => ?_, hsound.compiled, ?_⟩
  · rw [hsound.hosts host]
    cases Compilation.latest cs host with
    | none => rfl
    | some c => simp [Compilation.listed]
  · exact Workspace.embedLimit_of_build hws ▸ hsound.length_le

/-- A page with an embed is compiled, then the same source without a name, then the page without
its embed. -/
def pageAndString : List Visit :=
  [compile (some "page") "\x7b% embed 'card' %\x7d\x7b% endembed %\x7d",
    fromString "\x7b% embed 'card' %\x7d\x7b% endembed %\x7d" [], compile (some "page") "x"]

/-- The embed of the source without a name is all that is left. -/
theorem registry_run_pageAndString :
    ∃ ws cs w, WorkspacePlan.build { flavour := .pattern, embedLimit := 1 } = .ok ws ∧
      run pageAndString ws.world = (cs, w) ∧ w.registry.hosts = [] ∧
      (∃ key, w.registry.Holds key ∧ ∃ c ∈ cs, c.host = none ∧ key ∈ c.keys) ∧
      w.registry.compiled.length ≤ 1 := by
  let p : WorkspacePlan := { flavour := .pattern, embedLimit := 1 }
  let ws := p.build.toOption.get rfl
  have hws : p.build = .ok ws := rfl
  obtain ⟨hheld, -, -, hlimit⟩ := registry_run p rfl hws pageAndString (Prod.eta _).symm
  have hkept : (run pageAndString ws.world).2.registry.trees.length = 1 ∧
      (run pageAndString ws.world).2.registry.hosts = [] := by decide +kernel
  obtain ⟨⟨key, t⟩, ht⟩ := List.exists_mem_of_length_pos (hkept.1 ▸ Nat.one_pos)
  refine ⟨ws, _, _, hws, (Prod.eta _).symm, hkept.2, ⟨key, ⟨t, ht⟩, ?_⟩, hlimit⟩
  obtain ⟨host, hhost⟩ | hnone := hheld key ⟨t, ht⟩
  · rw [Registry.keysOf, hkept.2] at hhost
    exact absurd hhost List.not_mem_nil
  · exact hnone

end Visit

end Stencil
