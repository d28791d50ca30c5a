import Stencil.Inspect.Data
import Stencil.Inspect.Error

/-!
# Workspaces

A workspace is an environment with its sources, its loaded templates and an inspector. Every
operation gives a result or a failure, and the workspace as it is afterwards.
-/

namespace Stencil

/-- How the sources of a workspace are held. -/
inductive SourceKind where
  | named
  | files
  | absent
deriving DecidableEq

/-- What a workspace is set up from. -/
structure WorkspacePlan where
  flavour : Flavour := .configured
  settings : Settings := {}
  options : List (String × Datum) := []
  sources : SourceKind := .named
  store : Store := {}
  infoBlock : Option String := none
  embedLimit : Nat := 512

/-- An environment with its sources and an inspector. -/
structure Workspace where
  world : World
  settings : Settings
  /-- Whether sources are written as files. -/
  usesFiles : Bool
  infoBlock : String
  /-- The embedded template that was handed out last for each key. -/
  handedOut : List (String × TemplateId) := []

/-- An operation on a workspace. -/
abbrev Operation (α : Type) := Workspace → Except Failure α × Workspace

namespace WorkspacePlan

/-- The directories that the settings name. -/
def directories (s : Settings) : List String :=
  match s.directories with
  | .items ds => ds
  | .verbatim d => if d.isEmpty then [] else [d]

/-- The loader of the environment. Flavours that look at the settings use their directories where no
loader is given. -/
def loader (p : WorkspacePlan) : Loader :=
  let given : Loader := if p.sources == .named && p.flavour != .shared then .named else .absent
  let fromSettings := p.flavour == .configured || p.flavour == .shared
  match directories p.settings with
  | [] => given
  | ds =>
    if given == .absent && fromSettings then
      .files ds p.settings.encoding p.settings.followLinks
    else given

/-- The name of the block that holds the pattern data: an empty name stands for the one in the
settings. -/
def infoBlockName (settings : Settings) (given : Option String) : String :=
  match given with
  | some name => if name.isEmpty then settings.infoBlock else name
  | none => settings.infoBlock

/-- Sets a workspace up. -/
def build (p : WorkspacePlan) : Except SetupFault Workspace := do
  let options ← Options.build p.flavour p.settings p.options
  let env : Environment :=
    { options, flavour := p.flavour, loader := p.loader, embedLimit := p.embedLimit }
  return {
    world := { env, store := p.store, cache := { capacity := options.cacheSize } }
    settings := p.settings
    usesFiles := p.sources == .files
    infoBlock := infoBlockName p.settings p.infoBlock }

end WorkspacePlan

namespace Workspace

/-- Runs a computation on the state of a workspace. -/
def perform {α : Type} (act : Run α) (wrap : Fault → Failure) : Operation α := fun ws =>
  match Run.exec act { ws.world with sinks := [] } with
  | (.ok a, world) => (.ok a, { ws with world })
  | (.error f, world) => (.error (wrap f), { ws with world })

/-- Named plain values as values of a running template. -/
def values (fields : List (String × Datum)) : Run (List (String × Value)) :=
  fields.mapM fun (k, d) => do return (k, ← Value.ofDatum valueDepth d)

/-! ## Inspection -/

/-- The templates that a source names. -/
def linked (name : Datum) (code : String) : Operation (List Datum) :=
  perform (do
    let env := (← get).env
    match env.options.language.linked env.flavour.hasRegistry name.text? code with
    | .ok ds => return ds
    | .error e => throw (.syntaxError e)) (Failure.ofInspection name)

/-- The source of a template. -/
def source (name : String) : Operation FoundSource :=
  perform (Load.find name) .fault

/-- The templates that the source of a template names. -/
def linkedByName (name : String) : Operation (List Datum) := fun ws =>
  match source name ws with
  | (.error f, ws) => (.error f, ws)
  | (.ok found, ws) => linked (.text name) found.code ws

/-- The pattern data of a template, from the block of the given name or the workspace's own. -/
def data (name : String) (infoBlock : Option String) : Operation (Option String) := fun ws =>
  let block := match infoBlock with
    | some b => WorkspacePlan.infoBlockName ws.settings (some b)
    | none => ws.infoBlock
  perform (Inspect.data Engine.standard block name) (Failure.ofInspection (.text name)) ws

/-- The pattern data of a template without a name. -/
def dataOfString (code : String) : Operation (Option String) := fun ws =>
  match perform (Load.ofSource none code [] .given) .fault ws with
  | (.error f, ws) => (.error f, ws)
  | (.ok id, ws) =>
    perform (Inspect.dataOf Engine.standard ws.infoBlock id) (Failure.ofInspection .null) ws

/-! ## Rendering and compiling -/

/-- The text of a template for some data, for at most the given depth of calls. -/
def renderAt (depth : Nat) (name : String) (globals context : List (String × Datum)) :
    Operation String :=
  perform (do
    let id ← Load.template (Engine.ofDepth depth) (← values globals) (.plain name)
    Run.renderAt depth id (← values context)) .fault

/-- The text of a template for some data. -/
def render : String → List (String × Datum) → List (String × Datum) → Operation String :=
  renderAt Engine.callDepth

/-- The text of a template without a name. -/
def renderString (code : String) (context : List (String × Datum)) : Operation String :=
  perform (do
    let id ← Load.ofSource none code [] .given
    Run.render id (← values context)) .fault

/-- The names of the blocks of a template, a block before those inside it. -/
def blocks (name : String) : Operation (List String) :=
  perform (do
    let id ← Load.template Engine.standard [] (.plain name)
    return (← Run.template id).blocks.map (·.1)) .fault

/-- The parsed form of a source. -/
def parse (name : Option String) (code : String) : Operation Parsed :=
  perform (Load.parse name code) .fault

/-- Compiles a source that is parsed under one name, under the same or another name. -/
def compile (parseName host : Option String) (code : String) : Operation Unit :=
  perform (do Load.compile host (← Load.parse parseName code)) .fault

/-! ## Sources -/

/-- Sets a source, or writes a file. -/
def put (name code : String) : Operation Unit := fun ws =>
  let store := if ws.usesFiles then ws.world.store.writeFile name code.toUTF8.toList
    else ws.world.store.setNamed name code
  (.ok (), { ws with world := { ws.world with store } })

/-- Takes a source or file away. -/
def remove (name : String) : Operation Unit := fun ws =>
  let store := if ws.usesFiles then ws.world.store.removeFile name
    else ws.world.store.removeNamed name
  (.ok (), { ws with world := { ws.world with store } })

/-! ## Embedded templates -/

/-- The keys of the templates embedded in the present source of a template. Only environments with a
registry record them. -/
def embedKeys (name : String) : Operation (List String) :=
  perform (do
    let found ← Load.find name
    let p ← Load.parse (some name) found.code
    return if (← get).env.flavour.hasRegistry then p.embeds.map (·.key) else []) .fault

/-- An embedded template as it is handed out: its key, whether it is the one handed out before, and
what it writes. -/
structure HandedOut where
  key : String
  same : Bool
  text : String

/-- Loads the template of a key and renders it. -/
def embed (key : String) (globals context : List (String × Datum)) : Operation HandedOut := fun ws =>
  let load : Run TemplateId := do
    Load.template Engine.standard (← values globals) (.plain key)
  match perform load .fault ws with
  | (.error f, ws) => (.error f, ws)
  | (.ok id, ws) =>
    let same := ws.handedOut.lookup key == some id
    let ws := { ws with handedOut := Run.setNamed key id ws.handedOut }
    perform (do
      return ⟨id.name.getD "", same, ← Run.render id (← values context)⟩) .fault ws

/-- The registry with the versions of the compiled embeds, for environments that have one. -/
def registry (ws : Workspace) : Option (Registry Nat) :=
  if ws.world.env.flavour.hasRegistry then some (ws.world.registry.map (·.version)) else none

/-- Whether the shared environment can be set up from the settings. -/
def sharedOptions (ws : Workspace) : Except SetupFault Options :=
  Options.build .shared ws.settings []

end Workspace

end Stencil
