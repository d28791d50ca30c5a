import Stencil.Render.Check

/-!
# Loading templates

A template is found by its name, compiled and kept in the cache for as long as its source stays the
same. Compiling registers the templates embedded in it before it is checked. A name that is the key
of an embedded template leads to the registry instead of the loader.
-/

namespace Stencil

namespace Load

/-- The globals of every template. -/
def builtins : List (String × Value) :=
  [("range", .function .range), ("dict", .function .dict), ("lipsum", .function .lipsum),
    ("cycler", .function .cycler), ("joiner", .function .joiner),
    ("namespace", .function .makeSpace)]

/-- All globals of a loaded template. -/
def globalsOf (t : LoadedTemplate) : List (String × Value) :=
  t.globals ++ builtins

/-- The parsed form of a source. -/
def parse (name : Option String) (code : String) : Run Parsed := do
  match (← get).env.options.language.parse name code with
  | .ok p => return p
  | .error e => throw (.syntaxError e)

/-- What the check says of a template in an environment. It works on a state of its own, of which
nothing is kept. -/
def verdict (env : Environment) (t : Template) : Except Fault Unit :=
  (Run.exec (Check.template (Engine.ofConstants Engine.callDepth) t) { env }).1

/-- Compiles a template under a host name: registers what is embedded in it, and checks it. -/
def compile (host : Option String) (p : Parsed) : Run Unit := do
  if (← get).env.flavour.hasRegistry then
    modify fun w => { w with registry := w.registry.register host p.embeds }
  match verdict (← get).env p.template with
  | .ok () => return ()
  | .error f => throw f

/-- Makes a loaded template. -/
def instantiate (name : Option String) (tree : Template) (globals : List (String × Value))
    (origin : Origin) : Run TemplateId :=
  Run.newTemplate name
    { tree, blocks := (Stmt.blocksOfList tree.body).map fun b => (b.2.1, b.2.2.1), globals, origin }

/-- Compiles a source and makes a loaded template of it. -/
def ofSource (name : Option String) (code : String) (globals : List (String × Value))
    (origin : Origin) : Run TemplateId := do
  Run.record (.compilation name)
  let p ← parse name code
  compile name p
  instantiate name p.template globals origin

/-- The source of a name. -/
def find (name : String) : Run FoundSource := do
  let w ← get
  if w.env.loader == .absent then throw .noLoader
  else match w.env.loader.find w.store name with
    | .ok source => return source
    | .error (.notFound message) => throw (.notFound (.text message) message)
    | .error .unknownEncoding => Run.accident .unknownEncoding
    | .error .undecodable => Run.accident .undecodable

/-- Globals given for a template that is loaded already become part of it. -/
def addGlobals (id : TemplateId) (globals : List (String × Value)) : Run Unit :=
  Run.modifyTemplate id fun t => { t with
    globals := globals.foldl (fun all g => Run.setNamed g.1 g.2 all) t.globals }

/-- The template of a name, from the cache if it is still current. -/
def named (globals : List (String × Value)) (name : String) : Run TemplateId := do
  let fresh : Run TemplateId := do
    let source ← find name
    let id ← ofSource (some name) source.code globals source.origin
    modify fun w => { w with cache := w.cache.put name id }
    return id
  match (← get).cache.get name with
  | none => fresh
  | some (id, cache) =>
    modify fun w => { w with cache }
    let w ← get
    let t ← Run.template id
    if !w.env.options.autoReload || w.store.isCurrent t.origin then
      addGlobals id globals
      return id
    else fresh

/-- A value that is not a text names no template. How this is found out depends on the loader, and
on whether there is a cache to look it up in. -/
def notName (eng : Engine) (v : Value) : Run TemplateId := do
  let w ← get
  if w.cache.capacity == 0 && w.env.loader.isFiles then Run.accident .noAttribute
  else
    Value.checkKey valueDepth v
    if w.env.loader.isFiles then Run.accident .noAttribute
    else throw (.notFound v.toDatum (← Value.str eng v))

/-- The template that a value names, through the loader. Only texts can name one. -/
def fromLoader (eng : Engine) (globals : List (String × Value)) (name : Value) :
    Run TemplateId := do
  if (← get).env.loader == .absent then throw .noLoader
  else match name with
    | .text s _ =>
      Run.record (.request s)
      named globals s
    | .undefined _ why => Run.failUndefined why
    | v => notName eng v

/-- The embedded template of a key. -/
def embedded (globals : List (String × Value)) (key : String) : Run TemplateId := do
  match (← get).registry.fetch key with
  | some (id, registry) =>
    modify fun w => { w with registry }
    addGlobals id globals
    return id
  | none =>
    match (← get).registry.tree? key with
    | none => throw (.notFound (.text key) key)
    | some tree =>
      compile (some key) ⟨tree, []⟩
      let id ← instantiate (some key) tree globals .given
      modify fun w => { w with registry := w.registry.keep w.env.embedLimit key id }
      return id

/-- The template that a value names. -/
def template (eng : Engine) (globals : List (String × Value)) (name : Value) :
    Run TemplateId := do
  match name with
  | .text s _ =>
    if (← get).env.flavour.hasRegistry && Text.startsWith s.toList Embed.keyStart.toList then
      Run.record (.request s)
      embedded globals s
    else fromLoader eng globals name
  | _ => fromLoader eng globals name

/-- The template that the tag of an embed includes. -/
def ofTag (eng : Engine) (key : String) : Run TemplateId := do
  if (← get).env.flavour.hasRegistry then embedded [] key
  else fromLoader eng [] (.plain key)

/-- A template among several names, if it exists. -/
def candidate (eng : Engine) (name : Value) : Run (Option TemplateId) :=
  tryCatch (do return some (← fromLoader eng [] name)) fun
    | .notFound _ _ | .noneFound _ | .undefined _ => return none
    | f => throw f

/-- The first template that exists, if one does. -/
def firstOf (eng : Engine) : List Value → Run (Option TemplateId)
  | [] => return none
  | name :: rest => do
    match ← candidate eng name with
    | some id => return some id
    | none => firstOf eng rest

/-- How a name is mentioned among those that were not found. -/
def mention (eng : Engine) (name : Value) : Run String :=
  match name with
  | .undefined _ why => Run.describe why
  | v => Value.str eng v

/-- Fails because none of several names was found. -/
def noneOf (eng : Engine) (names : Value) (items : List Value) : Run TemplateId := do
  match names with
  | .list _ | .tuple _ | .range _ _ _ | .text _ _ =>
    throw (.noneFound ("none of the templates given were found: " ++
      Datum.commaJoin (← items.mapM (mention eng))))
  | .dict _ => Run.accident .missingKey
  | _ => Run.badType

/-- The first template of several names that exists. -/
def select (eng : Engine) (names : Value) : Run TemplateId := do
  if ← Value.truth eng names then
    let items ← Run.itemsOf eng names
    match ← firstOf eng items with
    | some id => return id
    | none => noneOf eng names items
  else throw (.noneFound "Tried to select from an empty list of templates.")

/-- The template that a value names, or the first that exists of several. -/
def templateOrFirst (eng : Engine) (v : Value) : Run TemplateId :=
  match v with
  | .text _ _ | .undefined _ _ => template eng [] v
  | v => select eng v

end Load

end Stencil
