import Stencil.Proofs.Render.Execution
import Stencil.Render.Load

/-!
# Loading and the library

Loading a template works on the library alone: it neither looks at what running templates work on
nor changes it. So what loading does to a library can be said without a word about runs, and an
invariant of libraries that loading keeps is one that running templates keep.

What is known of a library may grow while templates are loaded. An `Invariant` therefore belongs to
a stage, and a computation keeps it if it holds again at the same or a later stage.

## Key results

- `Load.onLibrary_named`, `Load.onLibrary_embedded`: loading works on the library alone
-/

namespace Stencil

variable {α β : Type}

namespace Run

/-- A loaded template is looked up. -/
theorem exec_template (id : TemplateId) (w : World) :
    exec (template id) w = (match w.templates.lookup id with
      | some t => .ok t
      | none => .error (.accident .brokenInvariant), w) := by
  rw [template, exec_bind, exec_get, andThen_ok]
  cases w.templates.lookup id <;> rfl

/-- A computation that works on the library alone: it neither looks at the heap nor changes it. -/
def OnLibrary (x : Run α) : Prop :=
  ∀ L H H', exec x ⟨L, H'⟩ = ((exec x ⟨L, H⟩).1, ⟨(exec x ⟨L, H⟩).2.toLibrary, H'⟩)

namespace OnLibrary

theorem pure (a : α) : OnLibrary (pure a) :=
  fun _ _ _ => rfl

theorem throw (f : Fault) : OnLibrary (throw f : Run α) :=
  fun _ _ _ => rfl

theorem record (e : Event) : OnLibrary (Run.record e) :=
  fun _ _ _ => rfl

theorem bind {x : Run α} {f : α → Run β} (hx : OnLibrary x) (hf : ∀ a, OnLibrary (f a)) :
    OnLibrary (x >>= f) := by
  intro L H H'
  have hsame := hx L H H
  rw [exec_bind, exec_bind, hx L H H']
  generalize exec x ⟨L, H⟩ = r at hsame ⊢
  obtain ⟨r, L₁, H₁⟩ := r
  obtain rfl : H₁ = H := congrArg (·.2.toHeap) hsame
  cases r with
  | error e => rfl
  | ok a => exact hf a L₁ H₁ H'

/-- What is read off the library may be used. -/
theorem read_bind {f : World → Run α} (hread : ∀ L H H', f ⟨L, H⟩ = f ⟨L, H'⟩)
    (hf : ∀ w, OnLibrary (f w)) : OnLibrary (get >>= f) := by
  intro L H H'
  rw [exec_bind, exec_bind, exec_get, exec_get, andThen_ok, andThen_ok, hread L H' H]
  exact hf ⟨L, H⟩ L H H'

/-- The library may be changed. -/
theorem update (g : Library → Library) :
    OnLibrary (modify fun w => { w with toLibrary := g w.toLibrary }) :=
  fun _ _ _ => rfl

theorem newTemplate (name : Option String) (t : LoadedTemplate) :
    OnLibrary (Run.newTemplate name t) :=
  fun _ _ _ => rfl

theorem template (id : TemplateId) : OnLibrary (Run.template id) := by
  refine read_bind (fun _ _ _ => rfl) fun w => ?_
  split
  · exact pure _
  · exact throw _

end OnLibrary

end Run

namespace Load

open Run (OnLibrary)

/-- Reading a source leaves the state alone. -/
theorem exec_parse (name : Option String) (code : String) (w : World) :
    Run.exec (parse name code) w =
      ((w.env.options.language.parse name code).mapError .syntaxError, w) := by
  simp only [parse, Run.exec_bind, Run.exec_get, Run.andThen_ok]
  cases w.env.options.language.parse name code <;> rfl

/-- Looking for a source leaves the state alone. -/
theorem exec_find (name : String) (w : World) :
    (∃ source, w.env.loader.find w.store name = .ok source ∧
        Run.exec (find name) w = (.ok source, w)) ∨
      ∃ e f, w.env.loader.find w.store name = .error e ∧
        Run.exec (find name) w = (.error f, w) := by
  simp only [find, Run.exec_bind, Run.exec_get, Run.andThen_ok, Run.exec_ite]
  split
  · rename_i habsent
    rw [beq_iff_eq.1 habsent]
    exact .inr ⟨_, _, rfl, rfl⟩
  · cases w.env.loader.find w.store name with
    | ok source => exact .inl ⟨source, rfl, rfl⟩
    | error e => cases e <;> exact .inr ⟨_, _, rfl, rfl⟩

/-- A named source is looked up by its name. -/
theorem exec_find_named {w : World} (h : w.env.loader = .named) (name : String) :
    Run.exec (find name) w = (match w.store.named.lookup name with
      | some code => .ok ⟨code, none, .named name code⟩
      | none => .error (.notFound (.text name) name), w) := by
  have hloader : (Loader.named == Loader.absent) = false := rfl
  rw [find, Run.exec_bind, Run.exec_get, Run.andThen_ok, h, hloader, if_neg Bool.false_ne_true,
    Loader.find]
  cases w.store.named.lookup name <;> rfl

theorem onLibrary_find (name : String) : OnLibrary (find name) := by
  refine .read_bind (fun _ _ _ => rfl) fun w => ?_
  split
  · exact .throw _
  · split
    · exact .pure _
    all_goals exact .throw _

theorem onLibrary_parse (name : Option String) (code : String) : OnLibrary (parse name code) := by
  refine .read_bind (fun _ _ _ => rfl) fun w => ?_
  split
  · exact .pure _
  · exact .throw _

theorem onLibrary_verdict (t : Template) :
    OnLibrary (do
      match verdict (← get).env t with
      | .ok () => return ()
      | .error f => throw f : Run Unit) := by
  refine .read_bind (fun _ _ _ => rfl) fun w => ?_
  split
  · exact .pure _
  · exact .throw _

theorem onLibrary_compile (host : Option String) (p : Parsed) : OnLibrary (compile host p) := by
  refine .read_bind (fun _ _ _ => rfl) fun w => ?_
  split
  · exact .bind (.update fun L => { L with registry := L.registry.register host p.embeds })
      fun _ => onLibrary_verdict p.template
  · exact onLibrary_verdict p.template

/-- A source is parsed, compiled and made a template of. -/
theorem exec_ofSource (name : Option String) (code : String) (globals : List (String × Value))
    (origin : Origin) (w : World) :
    Run.exec (ofSource name code globals origin) w =
      Run.andThen ((w.env.options.language.parse name code).mapError .syntaxError, w) fun p w =>
        Run.exec (do compile name p; instantiate name p.template globals origin) w := by
  rw [ofSource, Run.exec_bind, Run.exec_record, Run.andThen_ok, Run.exec_bind, exec_parse]

theorem onLibrary_ofSource (name : Option String) (code : String)
    (globals : List (String × Value)) (origin : Origin) :
    OnLibrary (ofSource name code globals origin) :=
  (OnLibrary.record _).bind fun _ => (onLibrary_parse name code).bind fun p =>
    (onLibrary_compile name p).bind fun _ => .newTemplate name _

theorem onLibrary_modifyTemplate (id : TemplateId) (f : LoadedTemplate → LoadedTemplate) :
    OnLibrary (Run.modifyTemplate id f) :=
  .update fun L => { L with
    templates := L.templates.map fun e => if e.1 == id then (e.1, f e.2) else e }

/-- Loading a template by its name works on the library alone. -/
theorem onLibrary_named (globals : List (String × Value)) (name : String) :
    OnLibrary (named globals name) := by
  -- the template is read where the cache has none, and where the one it has is out of date
  have hfresh : OnLibrary (do
      let source ← find name
      let id ← ofSource (some name) source.code globals source.origin
      modify fun w => { w with cache := w.cache.put name id }
      return id : Run TemplateId) :=
    (onLibrary_find name).bind fun source =>
      (onLibrary_ofSource _ _ _ _).bind fun id =>
        .bind (.update fun L => { L with cache := L.cache.put name id }) fun _ => .pure id
  refine .read_bind (fun _ _ _ => rfl) fun w => ?_
  split
  · exact hfresh
  · rename_i id cache _
    refine .bind (.update fun L => { L with cache }) fun _ => ?_
    refine .read_bind (fun _ _ _ => rfl) fun w => (OnLibrary.template id).bind fun t => ?_
    split
    · exact (onLibrary_modifyTemplate id _).bind fun _ => .pure id
    · exact hfresh

/-- Loading an embedded template works on the library alone. -/
theorem onLibrary_embedded (globals : List (String × Value)) (key : String) :
    OnLibrary (embedded globals key) := by
  refine .read_bind (fun _ _ _ => rfl) fun w => ?_
  split
  · rename_i id registry _
    refine .bind (.update fun L => { L with registry }) fun _ => ?_
    exact (onLibrary_modifyTemplate id _).bind fun _ => .pure id
  · refine .read_bind (fun _ _ _ => rfl) fun w => ?_
    split
    · exact .throw _
    · refine (onLibrary_compile _ _).bind fun _ => OnLibrary.bind (.newTemplate _ _) fun id => ?_
      exact .bind (.update fun L =>
        { L with registry := L.registry.keep L.env.embedLimit key id }) fun _ => .pure id

/-- Whether a name leads to the registry. -/
def isKey (env : Environment) (name : String) : Bool :=
  env.flavour.hasRegistry && Text.startsWith name.toList Embed.keyStart.toList

/-- A key leads to the registry, and any other name to the loader. -/
theorem exec_plain (eng : Engine) (globals : List (String × Value)) (name : String) (w : World) :
    Run.exec (template eng globals (.plain name)) w =
      if isKey w.env name then Run.exec (embedded globals name) w
      else if w.env.loader == .absent then (.error .noLoader, w)
      else Run.exec (named globals name) w := by
  simp only [template, Value.plain, fromLoader, Run.exec_bind, Run.exec_get, Run.andThen_ok,
    Run.exec_ite, Run.exec_record, Run.exec_throw]
  rfl

end Load

/-! ## Invariants -/

/-- What is known of a library at a stage. -/
structure Invariant where
  Stage : Type
  le : Stage → Stage → Prop
  le_refl : ∀ k, le k k
  le_trans : ∀ {k l m}, le k l → le l m → le k m
  holds : Stage → Library → Prop

namespace Invariant

variable (I : Invariant)

/-- A computation after which the invariant holds again. -/
def Keeps (x : Run α) : Prop :=
  ∀ k w, I.holds k w.toLibrary → ∃ l, I.le k l ∧ I.holds l (Run.exec x w).2.toLibrary

/-- An invariant that is kept by all that running templates do to a library. -/
structure Upkeep : Prop where
  named : ∀ globals name, I.Keeps (Load.named globals name)
  embedded : ∀ globals key, I.Keeps (Load.embedded globals key)
  module : ∀ id m, I.Keeps (Run.modifyTemplate id fun t => { t with module := some m })

variable {I}

/-- A computation that leaves the library as it is keeps every invariant. -/
theorem Keeps.of_unchanged {x : Run α} (h : ∀ w, (Run.exec x w).2.toLibrary = w.toLibrary) :
    I.Keeps x :=
  fun k w hw => ⟨k, I.le_refl k, (h w).symm ▸ hw⟩

end Invariant

end Stencil
