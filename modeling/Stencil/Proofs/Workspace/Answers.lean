import Stencil.Proofs.Simulation.Service
import Stencil.Proofs.Workspace.Requests

/-!
# Answers to requests

Two workspaces beside each other are asked the same. As long as their computations correspond they
give the same answers, and go on beside each other. Nothing is said of requests on the way to which
something happens that a simulation leaves out.

## Main definitions

- `Workspace.answer`: what a request gives
- `Workspace.noted`: what happens while a request is served

## Main statements

- `Simulation.Exact.serve`: a request is answered in the same way on both sides
- `Simulation.Exact.serveAll`: and so are all requests of a sequence
-/

namespace Stencil

namespace Workspace

/-! ## What requests give -/

/-- What a request gives. Which of the templates of its name an embedded template is, is no part of
it. -/
inductive Answer where
  | failed (f : Failure)
  | done
  | text (s : String)
  | data (text : Option String)
  | names (ns : List String)
  | references (ds : List Datum)
  | source (s : FoundSource)
  | parsed (p : Parsed)
  | embedded (key text : String)

variable {α : Type}

/-- The answer for a result. -/
def Answer.of (f : α → Answer) : Except Failure α → Answer
  | .ok a => f a
  | .error e => .failed e

/-- The answer to a request. -/
def answer (ws : Workspace) : Request → Answer
  | .linked name code => .of .references (linked name code ws).1
  | .source name => .of .source (source name ws).1
  | .linkedByName name => .of .references (linkedByName name ws).1
  | .data name infoBlock => .of .data (data name infoBlock ws).1
  | .dataOfString code => .of .data (dataOfString code ws).1
  | .render name globals context => .of .text (render name globals context ws).1
  | .renderString code context => .of .text (renderString code context ws).1
  | .blocks name => .of .names (blocks name ws).1
  | .parse name code => .of .parsed (parse name code ws).1
  | .compile host code => .of (fun _ => .done) (compile host host code ws).1
  | .put name code => .of (fun _ => .done) (put name code ws).1
  | .remove name => .of (fun _ => .done) (remove name ws).1
  | .embedKeys name => .of .names (embedKeys name ws).1
  | .embed key globals context => .of (fun h => .embedded h.key h.text) (embed key globals context ws).1

/-- The globals that a request hands to a template. -/
def Request.globals : Request → List (String × Datum)
  | .render _ globals _ | .embed _ globals _ => globals
  | _ => []

/-! ## What happens on the way -/

/-- What happens while a computation runs in a workspace. -/
def heard (act : Run α) (ws : Workspace) : List Event :=
  Run.events act { ws.world with sinks := [] }

/-- An operation that works on the result of another one. -/
def chain {β : Type} (first : Operation α) (second : α → Operation β) : Operation β := fun ws =>
  match first ws with
  | (.ok a, ws) => second a ws
  | (.error f, ws) => (.error f, ws)

/-- What happens in a computation, and in a second one that works on its result. -/
def heardThen {β : Type} (first : Run α) (second : Workspace → α → Run β) (ws : Workspace) :
    List Event :=
  heard first ws ++
    match perform first .fault ws with
    | (.ok a, ws) => heard (second ws a) ws
    | (.error _, _) => []

/-- Reads off which templates a source names. -/
def linking (name : Datum) (code : String) : Run (List Datum) := do
  let env := (← get).env
  match env.options.language.linked env.flavour.hasRegistry name.text? code with
  | .ok ds => return ds
  | .error e => throw (.syntaxError e)

/-- Reads off which keys the present source of a template records. -/
def recording (name : String) : Run (List String) := do
  let found ← Load.find name
  let p ← Load.parse (some name) found.code
  return if (← get).env.flavour.hasRegistry then p.embeds.map (·.key) else []

/-- Loads and renders a template. -/
def rendering (name : String) (globals context : List (String × Datum)) : Run String := do
  let id ← Load.template .standard (← values globals) (.plain name)
  Run.render id (← values context)

/-- Renders a template without a name. -/
def renderingString (code : String) (context : List (String × Datum)) : Run String := do
  let id ← Load.ofSource none code [] .given
  Run.render id (← values context)

/-- Lists the blocks of a template. -/
def listing (name : String) : Run (List String) := do
  let id ← Load.template Engine.standard [] (.plain name)
  return (← Run.template id).blocks.map (·.1)

/-- Renders an embedded template that was loaded by its key. -/
def handing (key : String) (context : List (String × Datum)) (ws : Workspace) (id : TemplateId) :
    Run HandedOut := do
  return ⟨id.name.getD "", ws.handedOut.lookup key == some id, ← Run.render id (← values context)⟩

/-- Notes which template was handed out for a key. -/
def handOut (key : String) (id : TemplateId) (ws : Workspace) : Workspace :=
  { ws with handedOut := Run.setNamed key id ws.handedOut }

/-- The block that is asked for. -/
def blockName (ws : Workspace) : Option String → String
  | some b => WorkspacePlan.infoBlockName ws.settings (some b)
  | none => ws.infoBlock

theorem linkedByName_eq (name : String) :
    linkedByName name = chain (perform (Load.find name) .fault) fun found =>
      perform (linking (.text name) found.code) (Failure.ofInspection (.text name)) := by
  funext ws
  rw [linkedByName, chain, source]
  cases perform (Load.find name) .fault ws with
  | mk r ws => cases r <;> rfl

theorem data_eq (name : String) (infoBlock : Option String) (ws : Workspace) :
    data name infoBlock ws = perform (Inspect.data .standard (ws.blockName infoBlock) name)
      (Failure.ofInspection (.text name)) ws := by
  cases infoBlock <;> rfl

theorem dataOfString_eq (code : String) :
    dataOfString code = chain (perform (Load.ofSource none code [] .given) .fault) fun id ws =>
      perform (Inspect.dataOf .standard ws.infoBlock id) (Failure.ofInspection .null) ws := by
  funext ws
  rw [dataOfString, chain]
  cases perform (Load.ofSource none code [] .given) .fault ws with
  | mk r ws => cases r <;> rfl

theorem embed_eq (key : String) (globals context : List (String × Datum)) :
    embed key globals context =
      chain (perform (do Load.template .standard (← values globals) (.plain key)) .fault) fun id ws =>
        perform (handing key context ws id) .fault (handOut key id ws) := by
  funext ws
  rw [embed, chain]
  dsimp only
  cases perform (do Load.template .standard (← values globals) (.plain key)) .fault ws with
  | mk r ws => cases r <;> rfl

/-- What happens while a request is served. -/
def noted (ws : Workspace) : Request → List Event
  | .linked name code => heard (linking name code) ws
  | .source name => heard (Load.find name) ws
  | .linkedByName name =>
    heardThen (Load.find name) (fun _ found => linking (.text name) found.code) ws
  | .data name infoBlock => heard (Inspect.data .standard (ws.blockName infoBlock) name) ws
  | .dataOfString code =>
    heardThen (Load.ofSource none code [] .given) (fun ws => Inspect.dataOf .standard ws.infoBlock) ws
  | .render name globals context => heard (rendering name globals context) ws
  | .renderString code context => heard (renderingString code context) ws
  | .blocks name => heard (listing name) ws
  | .parse name code => heard (Load.parse name code) ws
  | .compile host code =>
    .compilation host :: heard (do Load.compile host (← Load.parse host code)) ws
  | .put _ _ | .remove _ => []
  | .embedKeys name => heard (recording name) ws
  | .embed key globals context =>
    heardThen (do Load.template .standard (← values globals) (.plain key)) (handing key context) ws

/-! ## Sequences of requests -/

/-- The workspace after some requests. -/
def serveAll : List Request → Workspace → Workspace
  | [], ws => ws
  | r :: rs, ws => serveAll rs (ws.serve r)

/-- The answers to some requests. -/
def answers : List Request → Workspace → List Answer
  | [], _ => []
  | r :: rs, ws => ws.answer r :: answers rs (ws.serve r)

/-- What happens while some requests are served. -/
def notedAll : List Request → Workspace → List Event
  | [], _ => []
  | r :: rs, ws => ws.noted r ++ notedAll rs (ws.serve r)

end Workspace

/-! ## Workspaces beside each other -/

namespace Simulation

open Workspace

/-- A simulation in which requests are answered in the same way on both sides. -/
structure Exact (S : Simulation) : Prop extends Serving S where
  deep : ¬ S.loose
  host_eq : ∀ h h', S.host h h' → h' = h
  line_eq : ∀ l l', S.line l l' → l' = l
  source : ∀ {k} code, S.Sim k (Load.ofSource none code [] .given)
    (Load.ofSource none code [] .given) S.Loaded
  compile : ∀ host code, S.bad (.compilation host) ∨
    S.Agree (do Load.compile host (← Load.parse host code))
      (do Load.compile host (← Load.parse host code))
  edit : ∀ {k L L'} (store : Store), S.library k L L' →
    S.library k { L with store } { L' with store }

/-- Workspaces in corresponding states. -/
structure Beside (S : Simulation) (k : S.Stage) (ws ws' : Workspace) : Prop where
  world : S.Rel k ws.world ws'.world
  settings : ws'.settings = ws.settings
  usesFiles : ws'.usesFiles = ws.usesFiles
  infoBlock : ws'.infoBlock = ws.infoBlock

/-- Results that correspond to each other. -/
inductive Results (S : Simulation) {α β : Type} (V : α → β → Prop) :
    Except Failure α → Except Failure β → Prop
  | ok {a : α} {b : β} (h : V a b) : Results S V (.ok a) (.ok b)
  | error (f : Failure) : Results S V (.error f) (.error f)

variable {S : Simulation} {k : S.Stage} {α β : Type}

/-- Results that give the same answer. -/
theorem Results.answer {f : α → Answer} {r r' : Except Failure α}
    (h : S.Results (fun a b => f b = f a) r r') : Answer.of f r' = Answer.of f r := by
  cases h with
  | ok h => exact h
  | error f => rfl

/-- Two operations end in the same way, unless something happened that is left out. -/
def Ends (S : Simulation) (k : S.Stage) (out : Prop) (V : S.Stage → α → β → Prop)
    (r : Except Failure α × Workspace) (r' : Except Failure β × Workspace) : Prop :=
  out ∨ ∃ l, S.le k l ∧ S.Beside l r.2 r'.2 ∧ S.Results (V l) r.1 r'.1

theorem Ends.imp {out out' : Prop} {V : S.Stage → α → β → Prop} {r : Except Failure α × Workspace}
    {r' : Except Failure β × Workspace} (h : S.Ends k out V r r') (hout : out → out') :
    S.Ends k out' V r r' :=
  Or.imp_left hout h

/-- Operations on corresponding results end in the same way. -/
theorem Ends.chain {γ δ : Type} {out : Prop} {U : S.Stage → α → β → Prop}
    {V : S.Stage → γ → δ → Prop} {first : Operation α} {first' : Operation β}
    {second : α → Operation γ} {second' : β → Operation δ} {ws ws' : Workspace}
    (h : S.Ends k out U (first ws) (first' ws'))
    (hsecond : ∀ l a b v v', first ws = (.ok a, v) → U l a b → S.Beside l v v' →
      S.Ends l out V (second a v) (second' b v')) :
    S.Ends k out V (Workspace.chain first second ws) (Workspace.chain first' second' ws') := by
  -- the second operation begins where the first one has ended, on both sides
  obtain hout | ⟨l, hl, hbeside, hresults⟩ := h
  · exact .inl hout
  rw [Workspace.chain, Workspace.chain]
  generalize hr : first ws = r at hbeside hresults
  generalize first' ws' = r' at hbeside hresults
  obtain ⟨r, v⟩ := r
  obtain ⟨r', v'⟩ := r'
  cases hresults with
  | error f => exact .inr ⟨l, hl, hbeside, .error f⟩
  | ok hab =>
    refine (hsecond l _ _ v v' hr hab hbeside).imp_right ?_
    rintro ⟨m, hm, hrest⟩
    exact ⟨m, S.le_trans hl hm, hrest⟩

/-- Operations that end in the same way give the same answer. -/
theorem Ends.answer {out : Prop} {r r' : Except Failure α × Workspace} {f : α → Answer}
    (h : S.Ends k out (fun _ a b => f b = f a) r r') :
    out ∨ Answer.of f r'.1 = Answer.of f r.1 ∧ ∃ l, S.le k l ∧ S.Beside l r.2 r'.2 :=
  h.imp_right fun ⟨l, hl, hbeside, hresults⟩ => ⟨hresults.answer, l, hl, hbeside⟩

namespace Exact

theorem sim_values : S.Sim k (values []) (values []) fun _ a b => b = a ∧ a = [] :=
  Sim.pure ⟨rfl, rfl⟩

theorem blockNames_eq {bs bs' : List (String × List Stmt)}
    (h : Keyed (S.StmtsRel k none) bs bs') :
    bs'.map (·.1) = bs.map (·.1) := by
  induction h with
  | nil => rfl
  | cons hb _ ih => rw [List.map_cons, List.map_cons, hb.1, ih]

theorem agree_linking (name : Datum) (code : String) :
    S.Agree (linking name code) (linking name code) := by
  refine Agree.read_bind fun k w w' hw => ?_
  dsimp only
  rw [S.library_options hw.library, S.library_flavour hw.library]
  split
  · exact .pure _
  · exact .throw (.refl _ nofun)

variable (hS : S.Exact) {ws ws' : Workspace}
include hS

/-- A computation that does the same on both sides is performed in the same way. -/
theorem perform {V : S.Stage → α → β → Prop} {x : Run α} {x' : Run β} (hx : S.Sim k x x' V)
    (wrap : Fault → Failure) (hws : S.Beside k ws ws') :
    S.Ends k (∃ e ∈ heard x ws, S.bad e) V (Workspace.perform x wrap ws)
      (Workspace.perform x' wrap ws') := by
  have hclear : S.Rel k { ws.world with sinks := [] } { ws'.world with sinks := [] } :=
    { hws.world with sinks := rfl }
  refine (hx _ _ hclear).imp_right fun ho => ?_
  rw [perform_eq, perform_eq]
  generalize Run.exec x _ = r, Run.exec x' _ = r' at ho ⊢
  cases ho with
  | deep _ _ hl => exact absurd hl hS.deep
  | @done l a b w w' hk hw hab =>
    exact ⟨l, hk, ⟨hw, hws.settings, hws.usesFiles, hws.infoBlock⟩, .ok hab⟩
  | @failed l f f' w w' hk hw hf =>
    cases hf.eq hS.host_eq hS.line_eq
    exact ⟨l, hk, ⟨hw, hws.settings, hws.usesFiles, hws.infoBlock⟩, .error _⟩

/-- A computation that gives the same on both sides gives the same answer. -/
theorem perform_agree {x : Run α} (hx : S.Sim k x x fun _ a b => b = a) (wrap : Fault → Failure)
    (f : α → Answer) (hws : S.Beside k ws ws') :
    (∃ e ∈ heard x ws, S.bad e) ∨
      Answer.of f (Workspace.perform x wrap ws').1 = Answer.of f (Workspace.perform x wrap ws).1 ∧
        ∃ l, S.le k l ∧ S.Beside l (Workspace.perform x wrap ws).2
          (Workspace.perform x wrap ws').2 :=
  (hS.perform (hx.imp fun _ _ _ _ hab => congrArg f hab) wrap hws).answer

/-- Two computations of which the second works on the result of the first. -/
theorem performThen {γ δ : Type} {U : S.Stage → α → β → Prop} {V : S.Stage → γ → δ → Prop}
    {x : Run α} {x' : Run β} (hx : S.Sim k x x' U) (wrap : Fault → Failure)
    {y : Workspace → α → Run γ} {y' : Workspace → β → Run δ}
    (hy : ∀ l a b v v', U l a b → S.Beside l v v' → S.Sim l (y v a) (y' v' b) V)
    (g : α → Workspace → Workspace) (g' : β → Workspace → Workspace)
    (hg : ∀ a v, (g a v).world = v.world)
    (hbeside : ∀ l a b v v', S.Beside l v v' → S.Beside l (g a v) (g' b v'))
    (hws : S.Beside k ws ws') :
    S.Ends k (∃ e ∈ heardThen x y ws, S.bad e) V
      (chain (Workspace.perform x .fault) (fun a v => Workspace.perform (y v a) wrap (g a v)) ws)
      (chain (Workspace.perform x' .fault) (fun b v => Workspace.perform (y' v b) wrap (g' b v))
        ws') := by
  refine Ends.chain ((hS.perform hx .fault hws).imp ?_) fun l a b v v' hfirst hab hv => ?_
  -- what was heard in either part was heard in both together
  · rintro ⟨e, he, hbad⟩
    exact ⟨e, List.mem_append_left _ he, hbad⟩
  · refine (hS.perform (hy l a b v v' hab hv) wrap (hbeside l a b v v' hv)).imp ?_
    rintro ⟨e, he, hbad⟩
    refine ⟨e, List.mem_append_right _ ?_, hbad⟩
    rw [heard, hg] at he
    rw [hfirst]
    exact he

/-! ## Requests -/

/-- A template is loaded without globals. -/
theorem sim_load (name : String) :
    S.Sim k (do Load.template .standard (← values []) (.plain name))
      (do Load.template .standard (← values []) (.plain name)) S.Loaded := by
  refine sim_values.bind fun l _ gs gs' hgs => ?_
  obtain ⟨rfl, rfl⟩ := hgs
  exact sim_loadTemplate hS.laws hS.standard (.inl hS.dynamic)

theorem sim_render {i i' : TemplateId} (hi : S.same k i i') (context : List (String × Datum)) :
    S.Sim k (do Run.render i (← values context)) (do Run.render i' (← values context))
      fun _ a b => b = a :=
  Sim.agree_bind (agree_fields context) fun _ hl data =>
    hS.sim_renderAt (S.same_mono hl hi) Engine.callDepth data

theorem sim_rendering (name : String) (context : List (String × Datum)) :
    S.Sim k (rendering name [] context) (rendering name [] context) fun _ a b => b = a := by
  refine sim_values.bind fun l _ gs gs' hgs => ?_
  obtain ⟨rfl, rfl⟩ := hgs
  refine (sim_loadTemplate hS.laws hS.standard (.inl hS.dynamic)).bind fun _ _ _ _ hi => ?_
  exact hS.sim_render hi.same context

theorem sim_renderingString (code : String) (context : List (String × Datum)) :
    S.Sim k (renderingString code context) (renderingString code context) fun _ a b => b = a :=
  (hS.source code).bind fun _ _ _ _ hi => hS.sim_render hi.same context

/-- Corresponding templates have blocks of the same names. -/
theorem sim_listing (name : String) :
    S.Sim k (listing name) (listing name) fun _ a b => b = a := by
  refine (sim_loadTemplate hS.laws hS.standard (.inl hS.dynamic)).bind fun l _ i i' hi => ?_
  exact (sim_template hS.laws hi.same).bind fun _ _ t t' ht => Sim.pure (blockNames_eq ht.blocks)

theorem sim_data (infoBlock name : String) :
    S.Sim k (Inspect.data .standard infoBlock name) (Inspect.data .standard infoBlock name)
      fun _ a b => b = a :=
  (sim_loadTemplate hS.laws hS.standard (.inl hS.dynamic)).bind fun _ _ _ _ hi =>
    hS.sim_dataOf infoBlock hi.same hi.name_eq

theorem agree_recording (name : String) : S.Agree (recording name) (recording name) := by
  refine (hS.agree_find name).bind fun found => (agree_parse (some name) found.code).bind fun p => ?_
  refine .read_bind fun k w w' hw => ?_
  rw [S.library_flavour hw.library]
  exact .pure _

theorem beside_edit (hws : S.Beside k ws ws') {store store' : Store} (hstore : store' = store) :
    S.Beside k { ws with world := { ws.world with store } }
      { ws' with world := { ws'.world with store := store' } } where
  world := { hws.world with library := hstore ▸ hS.edit store hws.world.library }
  settings := hws.settings
  usesFiles := hws.usesFiles
  infoBlock := hws.infoBlock

/-- A request without globals is answered in the same way on both sides. -/
theorem serve (r : Request) (hglobals : r.globals = []) (hws : S.Beside k ws ws') :
    (∃ e ∈ ws.noted r, S.bad e) ∨
      ws'.answer r = ws.answer r ∧ ∃ l, S.le k l ∧ S.Beside l (ws.serve r) (ws'.serve r) := by
  cases r with
  | linked name code => exact hS.perform_agree (agree_linking name code k) _ .references hws
  | source name => exact hS.perform_agree (hS.agree_find name k) .fault .source hws
  | linkedByName name =>
    simp only [answer, Workspace.serve, linkedByName_eq]
    refine (hS.performThen (hS.agree_find name k) (Failure.ofInspection (.text name))
      (fun l a b v v' hab _ => ?_) (fun _ v => v) (fun _ v => v) (fun _ _ => rfl)
      (fun _ _ _ _ _ h => h) hws).answer
    cases hab
    exact (agree_linking (.text name) a.code l).imp fun _ _ _ _ heq => congrArg Answer.references heq
  | data name infoBlock =>
    -- the settings are the same, and so is the name of the block
    have hblock : ws'.blockName infoBlock = ws.blockName infoBlock := by
      cases infoBlock with
      | none => exact hws.infoBlock
      | some b => rw [blockName, blockName, hws.settings]
    simp only [answer, Workspace.serve, data_eq, hblock]
    exact hS.perform_agree (hS.sim_data (ws.blockName infoBlock) name)
      (Failure.ofInspection (.text name)) .data hws
  | dataOfString code =>
    simp only [answer, Workspace.serve, dataOfString_eq]
    refine (hS.performThen (hS.source code) (Failure.ofInspection .null) (fun l i i' v v' hi hv => ?_)
      (fun _ v => v) (fun _ v => v) (fun _ _ => rfl) (fun _ _ _ _ _ h => h) hws).answer
    rw [hv.infoBlock]
    exact (hS.sim_dataOf v.infoBlock hi.same hi.name_eq).imp fun _ _ _ _ heq => congrArg Answer.data heq
  | render name globals context =>
    cases hglobals
    exact hS.perform_agree (hS.sim_rendering name context) .fault .text hws
  | renderString code context =>
    exact hS.perform_agree (hS.sim_renderingString code context) .fault .text hws
  | blocks name => exact hS.perform_agree (hS.sim_listing name) .fault .names hws
  | parse name code => exact hS.perform_agree (agree_parse name code k) .fault .parsed hws
  | compile host code =>
    -- compiling may be ruled out altogether, as a request that gives away the difference
    obtain hbad | hcompile := hS.compile host code
    · exact .inl ⟨_, List.mem_cons_self, hbad⟩
    · refine (hS.perform_agree (hcompile k) .fault (fun _ => .done) hws).imp_left ?_
      rintro ⟨e, he, hbad⟩
      exact ⟨e, List.mem_cons_of_mem _ he, hbad⟩
  | put name code =>
    -- both sides edit the same store
    refine .inr ⟨rfl, k, S.le_refl k, hS.beside_edit hws ?_⟩
    rw [hws.usesFiles, hS.store hws.world.library]
  | remove name =>
    refine .inr ⟨rfl, k, S.le_refl k, hS.beside_edit hws ?_⟩
    rw [hws.usesFiles, hS.store hws.world.library]
  | embedKeys name => exact hS.perform_agree (hS.agree_recording name k) .fault .names hws
  | embed key globals context =>
    cases hglobals
    simp only [answer, Workspace.serve, embed_eq]
    refine (hS.performThen (hS.sim_load key) .fault (fun l i i' v v' hi _ => ?_)
      (handOut key) (handOut key) (fun _ _ => rfl)
      (fun _ _ _ _ _ h => ⟨h.world, h.settings, h.usesFiles, h.infoBlock⟩) hws).answer
    refine Sim.agree_bind (agree_fields context) fun m hm data => ?_
    refine (hS.sim_renderAt (S.same_mono hm hi.same) Engine.callDepth data).bind
      fun _ _ a b hab => Sim.pure ?_
    rw [hab, hi.name_eq]

/-- Requests without globals are answered in the same way on both sides. -/
theorem serveAll {rs : List Request} (hglobals : ∀ r ∈ rs, r.globals = [])
    (hws : S.Beside k ws ws') :
    (∃ e ∈ notedAll rs ws, S.bad e) ∨
      answers rs ws' = answers rs ws ∧
        ∃ l, S.le k l ∧ S.Beside l (Workspace.serveAll rs ws) (Workspace.serveAll rs ws') := by
  induction rs generalizing k ws ws' with
  | nil => exact .inr ⟨rfl, k, S.le_refl k, hws⟩
  | cons r rs ih =>
    obtain ⟨e, he, hbad⟩ | ⟨hanswer, l, hl, hserved⟩ :=
      hS.serve r (hglobals r List.mem_cons_self) hws
    · exact .inl ⟨e, List.mem_append_left _ he, hbad⟩
    obtain ⟨e, he, hbad⟩ | ⟨hanswers, m, hm, hrest⟩ :=
      ih (fun r hr => hglobals r (List.mem_cons_of_mem _ hr)) hserved
    · exact .inl ⟨e, List.mem_append_right _ he, hbad⟩
    · refine .inr ⟨?_, m, S.le_trans hl hm, hrest⟩
      rw [answers, answers, hanswer, hanswers]

end Exact

end Simulation

end Stencil
