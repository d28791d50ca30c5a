import Stencil.Proofs.Embed.Compiled
import Stencil.Proofs.Inspect.Chain
import Stencil.Proofs.Inspect.Stacks

/-!
# The way up always ends

Collecting ancestors goes up from template to template until there is nowhere new to go, or until
something fails. The names on the way are an ascent, of which no more than there are sources can be
met: so the bound on the steps is never used up, and the result is that of the place where the way
ends.

## Main definitions

- `Inspect.Path`: a way up, with the templates that are loaded on it
- `Inspect.Place.Stops`: how a way ends
- `Inspect.Place.OnWay`: what is known of a place on the way from a start

## Key results

- `Inspect.Up.onWay`: a step up keeps to the ascent
- `Inspect.Place.exists_path`: every way up ends
-/

namespace Stencil

/-! ## Computations that fail -/

namespace Run

variable {α β : Type}

/-- A computation that gives no result in any state. -/
def Fails (x : Run α) : Prop :=
  ∀ w, ∃ f w', exec x w = (.error f, w')

theorem Fails.throw (f : Fault) : Fails (throw f : Run α) :=
  fun w => ⟨f, w, rfl⟩

/-- What follows fails on all results that there can be. -/
theorem Fails.bind {x : Run α} {f : α → Run β} {P : α → Prop}
    (hx : ∀ {w a w'}, exec x w = (.ok a, w') → P a) (hf : ∀ a, P a → Fails (f a)) :
    Fails (x >>= f) := by
  intro w
  rw [exec_bind]
  cases hr : exec x w with
  | mk r w' =>
    cases r with
    | error e => exact ⟨e, w', rfl⟩
    | ok a => exact hf a (hx hr) w'

theorem Fails.next {x : Run α} {f : α → Run β} (hf : ∀ a, Fails (f a)) : Fails (x >>= f) :=
  Fails.bind (P := fun _ => True) (fun _ => trivial) fun a _ => hf a

theorem Fails.ite {c : Prop} [Decidable c] {x y : Run α} (hx : Fails x) (hy : Fails y) :
    Fails (if c then x else y) := by
  split
  · exact hx
  · exact hy

end Run

/-! ## Loading what a literal names -/

/-- The values of literals that are no texts. -/
inductive Value.Textless : Value → Prop
  | none : Textless .none
  | bool (b : Bool) : Textless (.bool b)
  | int (n : Int) : Textless (.int n)
  | float (x : Binary64) : Textless (.float x)
  | list (cell : Nat) : Textless (.list cell)
  | dict (entries : List (Value × Value)) : Textless (.dict entries)

namespace Load

/-- The value of a literal that is no text is none either. -/
theorem textless_ofDatum {fuel : Nat} {d : Datum} (hd : d.text? = none) {w w' : World}
    {v : Value} (h : Run.exec (Value.ofDatum fuel d) w = (.ok v, w')) : v.Textless := by
  cases fuel with
  | zero => cases h
  | succ fuel =>
    cases d with
    | text t => cases hd
    | list items =>
      rw [Value.ofDatum, Run.exec_bind] at h
      obtain ⟨vs, u, -, h⟩ := Run.exists_of_andThen h
      cases h
      exact .list _
    | object fields =>
      rw [Value.ofDatum, Run.exec_bind] at h
      obtain ⟨fs, u, -, h⟩ := Run.exists_of_andThen h
      cases h
      exact .dict _
    | null =>
      cases h
      exact .none
    | bool b =>
      cases h
      exact .bool b
    | int n =>
      cases h
      exact .int n
    | float x =>
      cases h
      exact .float x

/-- Loads the template that a literal names, as inspection does. -/
def literal (eng : Engine) (d : Datum) : Run TemplateId := do
  template eng [] (← Value.ofDatum valueDepth d)

theorem literal_text (eng : Engine) (name : String) :
    literal eng (.text name) = template eng [] (.plain name) := rfl

theorem fails_notName (eng : Engine) (v : Value) : Run.Fails (notName eng v) := by
  refine .next fun w => .ite (.throw _) (.next fun _ => .ite (.throw _) (.next fun _ => .throw _))

/-- What is no text is asked of the loader, which finds nothing. -/
theorem template_textless {v : Value} (hv : v.Textless) (eng : Engine)
    (globals : List (String × Value)) :
    template eng globals v = (do
      if (← get).env.loader == .absent then throw .noLoader
      else notName eng v) := by
  cases hv <;> rfl

theorem fails_template {v : Value} (hv : v.Textless) (eng : Engine)
    (globals : List (String × Value)) : Run.Fails (template eng globals v) := by
  rw [template_textless hv]
  exact .next fun w => .ite (.throw _) (fails_notName eng v)

/-- Only texts name templates. -/
theorem fails_literal {d : Datum} (hd : d.text? = none) (eng : Engine) :
    Run.Fails (literal eng d) :=
  .bind (textless_ofDatum hd) fun _ hv => fails_template hv eng []

end Load

/-! ## Libraries in order -/

namespace Library

/-- A library as loading leaves it. -/
structure InOrder (L : Library) : Prop where
  sourced : L.Sourced
  checked : L.Checked
  embeds : L.env.flavour.hasRegistry = true → (currentIn L.env).holds () L

/-- A template that was loaded under a name. -/
structure Loaded (L : Library) (id : TemplateId) (name : String) : Prop where
  name_eq : id.name = some name
  present : ∃ t, L.templates.lookup id = some t

theorem Reads.congr {K L : Library} (henv : L.env = K.env) (hstore : L.store = K.store)
    {name : String} {t : Template} : L.Reads name t ↔ K.Reads name t := by
  rw [Reads, Reads]
  simp only [Gives, henv, hstore]

end Library

theorem Workspace.Reachable.inOrder {p : WorkspacePlan} {ws : Workspace} (h : Reachable p ws) :
    ws.world.toLibrary.InOrder := by
  obtain ⟨_, -, -, hsourced, hchecked⟩ := h.sourced
  exact ⟨hsourced, hchecked, h.currentIn⟩

namespace Load

open Library (InOrder Loaded Grown)

variable {w w' : World} {eng : Engine} {globals : List (String × Value)} {name : String}
  {id : TemplateId}

/-- Loading keeps a library in order, whether it succeeds or not. -/
theorem inOrder_template (h : w.toLibrary.InOrder) {r : Except Fault TemplateId}
    (hload : Run.exec (template eng globals (.plain name)) w = (r, w')) : w'.toLibrary.InOrder := by
  obtain ⟨hsteps, -⟩ := steps_of_template hload
  have hgrown : Grown w.toLibrary w'.toLibrary := h.sourced.grown hsteps
  refine ⟨h.sourced.steps hsteps, h.checked.steps hsteps, fun hreg => ?_⟩
  rw [hgrown.env_eq] at hreg ⊢
  have hholds := h.embeds hreg
  -- the registry is kept by each of the two services that loading may turn to
  have hafter : w' = (Run.exec (template eng globals (.plain name)) w).2 := by rw [hload]
  rw [hafter, exec_plain]
  split
  · obtain ⟨_, -, hkept⟩ := (service_currentIn hreg).embedded globals name () w hholds
    exact hkept
  · split
    · exact hholds
    · obtain ⟨_, -, hkept⟩ := (service_currentIn hreg).named globals name () w hholds
      exact hkept

/-- What a name leads to was loaded under this name. -/
theorem loaded_template (h : w.toLibrary.InOrder)
    (hload : Run.exec (template eng globals (.plain name)) w = (.ok id, w')) :
    w'.toLibrary.Loaded id name := by
  cases hkey : isKey w.env name with
  | true =>
    have hreg : w.env.flavour.hasRegistry = true := (Bool.and_eq_true_iff.1 hkey).1
    rw [exec_plain, hkey, if_pos rfl] at hload
    obtain ⟨tree, hname, t, ht, -⟩ :=
      compiled_embedded h.sourced.numbered (h.embeds hreg).2.2 hload
    exact ⟨hname, t, ht⟩
  | false =>
    obtain ⟨source, p, hread, -⟩ := template_sourced h.sourced hkey hload
    obtain ⟨t, ht, -⟩ := hread.loaded
    exact ⟨hread.name_eq, t, ht⟩

end Load

/-! ## Steps up -/

namespace Inspect

open Library (InOrder Loaded Ascent Reads Grown)

variable {L : Library} {eng : Engine} {context : Nat} {start : String} {done : List String}
  {p q r : Place} {ids : List TemplateId} {result : Except Fault Unit × World}

/-- The present source of a name tells the parent, or the parent cannot be told. -/
theorem parent_cases {id : TemplateId} {name : String} (hid : id.name = some name) (w : World) :
    (∃ t, w.toLibrary.Reads name t ∧
        Run.exec (parent? id) w = (.ok t.literalParent?, w)) ∨
      ∃ f, Run.exec (parent? id) w = (.error f, w) ∧ ∀ t, ¬ w.toLibrary.Reads name t := by
  -- finding and parsing are the two places where reading may fail
  obtain ⟨source, hfind, hexec⟩ | ⟨e, f, hfind, hexec⟩ := Load.exec_find name w
  · cases hparse : w.env.options.language.parse (some name) source.code with
    | ok p =>
      have hreads : w.toLibrary.Reads name p.template := ⟨source, p, ⟨hfind, hparse⟩, rfl⟩
      exact .inl ⟨p.template, hreads, hreads.exec_parent hid⟩
    | error e =>
      refine .inr ⟨.syntaxError e, ?_, fun t ⟨source', p, ⟨hfind', hparse'⟩, _⟩ => ?_⟩
      · rw [parent?, hid]
        dsimp only
        rw [Run.exec_bind, hexec, Run.andThen_ok, Run.exec_bind, Load.exec_parse, hparse]
        rfl
      · cases hfind.symm.trans hfind'
        cases hparse.symm.trans hparse'
  · refine .inr ⟨f, ?_, fun t ⟨source, p, ⟨hfind', _⟩, _⟩ => ?_⟩
    · rw [parent?, hid]
      dsimp only
      rw [Run.exec_bind, hexec]
      rfl
    · cases hfind.symm.trans hfind'

/-- Whether there is nowhere new to go from a template with the given literal parent. A parent of
`none` counts like no parent. -/
def endsAt (seen : List String) : Option Datum → Bool
  | none | some .null => true
  | some (.text name) => seen.contains name
  | some _ => false

/-- Each step asks for the parent, and goes on unless there is nowhere new to go. -/
theorem addAncestors_succ (eng : Engine) (context fuel : Nat) (seen : List String)
    (current : TemplateId) :
    addAncestors eng context (fuel + 1) seen current = (do
      match ← parent? current with
      | none => return ()
      | some d =>
        if endsAt seen (some d) then return ()
        else
          let id ← Load.literal eng d
          Run.record (.attachment id.name)
          Run.appendBlocks context id
          addAncestors eng context fuel (d.text?.toList ++ seen) id) := by
  rw [addAncestors]
  congr 1
  funext parent
  cases parent with
  | none => rfl
  | some d =>
    cases d with
    | null | text name => rfl
    | _ => exact (bind_assoc _ _ _).symm

/-- How the way up ends at a place. -/
inductive Place.Stops (eng : Engine) (p : Place) : Except Fault Unit × World → Prop
  | top {parent : Option Datum}
      (hparent : Run.exec (parent? p.current) p.world = (.ok parent, p.world))
      (hends : endsAt p.seen parent = true) : Stops eng p (.ok (), p.world)
  | lost {f : Fault} (hparent : Run.exec (parent? p.current) p.world = (.error f, p.world)) :
      Stops eng p (.error f, p.world)
  | refused {d : Datum} {f : Fault} {w : World}
      (hparent : Run.exec (parent? p.current) p.world = (.ok (some d), p.world))
      (hends : endsAt p.seen (some d) = false)
      (hload : Run.exec (Load.literal eng d) p.world = (.error f, w)) : Stops eng p (.error f, w)

/-- Collecting gives the result of the place where the way ends. -/
theorem Place.Stops.collect_eq (h : p.Stops eng result) (hfuel : 0 < p.fuel) :
    p.collect eng context = result := by
  obtain ⟨fuel, hfuel⟩ : ∃ n, p.fuel = n + 1 := ⟨p.fuel - 1, by omega⟩
  rw [collect, hfuel, addAncestors_succ, Run.exec_bind]
  cases h with
  | @top parent hparent hends =>
    rw [hparent, Run.andThen_ok]
    cases parent with
    | none => rfl
    | some d =>
      dsimp only
      rw [hends, if_pos rfl]
      rfl
  | lost hparent =>
    rw [hparent]
    rfl
  | refused hparent hends hload =>
    rw [hparent, Run.andThen_ok]
    dsimp only
    rw [hends, if_neg Bool.false_ne_true, Run.exec_bind, hload]
    rfl

/-- What is known of a place on the way up from a start: the names that were met are the start and
those of an ascent, of which the last is that of the current template. -/
structure Place.OnWay (L : Library) (start : String) (done : List String) (p : Place) : Prop where
  sound : p.Sound L
  inOrder : p.world.toLibrary.InOrder
  current : p.world.toLibrary.Loaded p.current p.name
  ascent : L.Ascent start done
  last : p.name = done.getLastD start
  met : ∀ name, p.seen.contains name = true ↔ name ∈ start :: done

theorem Place.OnWay.reads (h : p.OnWay L start done) {name : String} {t : Template} :
    p.world.toLibrary.Reads name t ↔ L.Reads name t :=
  Reads.congr h.sound.env_eq h.sound.store_eq

/-- The parent that is read where the way has led to is that of the source of the last name. -/
theorem Place.OnWay.read_parent (h : p.OnWay L start done) {parent : Option Datum}
    (hparent : Run.exec (parent? p.current) p.world = (.ok parent, p.world)) :
    ∃ t, L.Reads (done.getLastD start) t ∧ t.literalParent? = parent := by
  obtain ⟨t, ht, hexec⟩ | ⟨f, hexec, -⟩ := parent_cases h.current.name_eq p.world
  · have hsame : t.literalParent? = parent :=
      Except.ok.inj (Prod.mk.inj (hexec.symm.trans hparent)).1
    exact ⟨t, h.last ▸ h.reads.1 ht, hsame⟩
  · cases hparent.symm.trans hexec

theorem Place.OnWay.parent_eq (h : p.OnWay L start done) {above : String}
    (habove : L.ParentOf (done.getLastD start) above) {parent : Option Datum}
    (hparent : Run.exec (parent? p.current) p.world = (.ok parent, p.world)) :
    parent = some (.text above) := by
  obtain ⟨t, ht, hd⟩ := habove
  obtain ⟨t', ht', hparent'⟩ := h.read_parent hparent
  rw [← hparent', ht'.unique ht, hd]

/-- A way that ends well has gone along the longest ascent. -/
theorem Place.Stops.longest_of_ok {w : World} (h : p.Stops eng (.ok (), w))
    (hp : p.OnWay L start done) : w = p.world ∧ L.Longest start done := by
  generalize hresult : ((.ok (), w) : Except Fault Unit × World) = result at h
  cases h with
  | top hparent hends =>
    cases hresult
    refine ⟨rfl, Library.longest_of_top hp.ascent fun above habove => ?_⟩
    rw [hp.parent_eq habove hparent] at hends
    exact (hp.met above).1 hends
  | lost _ => cases hresult
  | refused _ _ _ => cases hresult

/-- A step up goes on to the parent of the last name of the ascent. -/
theorem Up.onWay (h : Up eng context p q) (hp : p.OnWay L start done) :
    q.OnWay L start (done ++ [q.name]) := by
  have hsound := h.sound hp.sound
  cases h with
  | @step fuel seen name above current id w w₁ w₂ hparent hnew hload hblocks =>
    have hlibrary : w₂.toLibrary = w₁.toLibrary := by
      have hsame := Run.library_appendBlocks context id w₁
      rwa [hblocks] at hsame
    -- the parent was not met, so that the ascent goes on with it
    have hnot : above ∉ start :: done := fun hmem => by
      have hcontains := (hp.met above).2 hmem
      rw [hnew] at hcontains
      cases hcontains
    have habove : L.ParentOf (done.getLastD start) above := hp.read_parent hparent
    have hloaded := Load.loaded_template hp.inOrder hload
    have horder := Load.inOrder_template hp.inOrder hload
    refine ⟨hsound, hlibrary ▸ horder, hlibrary ▸ hloaded, hp.ascent.concat habove hnot, ?_,
      fun n => ?_⟩
    · rw [List.getLastD_concat]
    · have hmet := hp.met n
      simp only [List.contains_cons, Bool.or_eq_true, beq_iff_eq, List.mem_cons,
        List.mem_append, List.not_mem_nil, or_false] at hmet ⊢
      rw [hmet]
      grind

/-- A step up leaves what was loaded as it is. -/
theorem Up.grown (h : Up eng context p q) (hp : p.OnWay L start done) :
    Grown p.world.toLibrary q.world.toLibrary := by
  cases h with
  | @step fuel seen name above current id w w₁ w₂ hparent hnew hload hblocks =>
    have hlibrary := Run.library_appendBlocks context id w₁
    rw [hblocks] at hlibrary
    obtain ⟨hsteps, -⟩ := Load.steps_of_template hload
    rw [← hlibrary] at hsteps
    exact hp.inOrder.sourced.grown hsteps

/-- At a place on the way there is a step up, or the way ends. -/
theorem Place.OnWay.stops_or_up (h : p.OnWay L start done) (eng : Engine) (context : Nat)
    {fuel : Nat} (hfuel : p.fuel = fuel + 1) :
    (∃ result, p.Stops eng result) ∨ ∃ q, Up eng context p q ∧ q.fuel = fuel := by
  obtain ⟨_, seen, name, current, w⟩ := p
  cases hfuel
  obtain ⟨t, -, hparent⟩ | ⟨f, hparent, -⟩ := parent_cases h.current.name_eq w
  · cases hends : endsAt seen t.literalParent? with
    | true => exact .inl ⟨_, .top hparent hends⟩
    | false =>
      -- there is a parent, of which only a text can be loaded
      cases hd : t.literalParent? with
      | none =>
        rw [hd] at hends
        cases hends
      | some d =>
        rw [hd] at hends hparent
        cases hload : Run.exec (Load.literal eng d) w with
        | mk made w₁ =>
          cases made with
          | error f => exact .inl ⟨_, .refused hparent hends hload⟩
          | ok id =>
            cases htext : d.text? with
            | none =>
              obtain ⟨f, w', hfails⟩ := Load.fails_literal htext eng w
              rw [hload] at hfails
              cases hfails
            | some above =>
              cases d with
              | text name =>
                cases htext
                -- what was loaded just now has blocks that can be appended
                have hload' := hload
                rw [Load.literal_text] at hload'
                obtain ⟨u, hu⟩ := (Load.loaded_template h.inOrder hload').present
                exact .inr ⟨_, .step hparent hends hload' (Run.exec_appendBlocks hu context), rfl⟩
              | _ => cases htext
  · exact .inl ⟨_, .lost hparent⟩

/-! ## Ways up -/

/-- A way up, with the templates that are loaded on it. -/
inductive Path (eng : Engine) (context : Nat) : Place → List TemplateId → Place → Prop
  | here (p : Place) : Path eng context p [] p
  | up {p q r : Place} {ids : List TemplateId} (h : Up eng context p q)
      (hrest : Path eng context q ids r) : Path eng context p (q.current :: ids) r

namespace Path

theorem collect_eq (h : Path eng context p ids q) :
    p.collect eng context = q.collect eng context := by
  induction h with
  | here p => rfl
  | up h _ ih => exact h.collect_eq.trans ih

theorem fuel_eq (h : Path eng context p ids q) : p.fuel = ids.length + q.fuel := by
  induction h with
  | here p => exact (Nat.zero_add _).symm
  | @up p q r ids h _ ih =>
    cases h with
    | step _ _ _ _ =>
      rw [List.length_cons, Nat.add_right_comm, ← ih]

/-- The templates on a way up have the names of an ascent. -/
theorem onWay (h : Path eng context p ids q) (hp : p.OnWay L start done) :
    ∃ names, q.OnWay L start (done ++ names) ∧ ids.map TemplateId.name = names.map some := by
  induction h generalizing done with
  | here p => exact ⟨[], by rwa [List.append_nil], rfl⟩
  | @up p q r ids h _ ih =>
    have hq := h.onWay hp
    obtain ⟨names, hr, hids⟩ := ih hq
    refine ⟨q.name :: names, ?_, ?_⟩
    · rwa [List.append_assoc] at hr
    · rw [List.map_cons, List.map_cons, hids, hq.current.name_eq]

theorem onWay_of_start (h : Path eng context p ids q) (hp : p.OnWay L start []) :
    ∃ names, q.OnWay L start names ∧ ids.map TemplateId.name = names.map some := by
  obtain ⟨names, hq, hids⟩ := h.onWay hp
  exact ⟨names, hq, hids⟩

theorem grown (h : Path eng context p ids q) (hp : p.OnWay L start done) :
    Grown p.world.toLibrary q.world.toLibrary := by
  induction h generalizing done with
  | here p => exact .refl _
  | up h _ ih => exact (h.grown hp).trans (ih (h.onWay hp))

end Path

/-- Every way up ends, as long as it may take more steps than there are sources left. -/
theorem Place.OnWay.exists_path (h : p.OnWay L start done) (eng : Engine) (context : Nat)
    (hfuel : L.store.named.length + L.store.files.length < done.length + p.fuel) :
    ∃ ids q result, Path eng context p ids q ∧ 0 < q.fuel ∧ q.Stops eng result ∧
      p.collect eng context = result := by
  -- the induction is on the bound; an ascent has no more names than there are sources
  induction hn : p.fuel generalizing p done with
  | zero =>
    have hlength := h.ascent.length_le
    omega
  | succ fuel ih =>
    obtain ⟨result, hstops⟩ | ⟨q, hup, hq⟩ := h.stops_or_up eng context hn
    · have hpos : 0 < p.fuel := by omega
      exact ⟨[], p, result, .here p, hpos, hstops, hstops.collect_eq hpos⟩
    · have hlength : (done ++ [q.name]).length = done.length + 1 := List.length_append
      obtain ⟨ids, r, result, hpath, hpos, hstops, hcollect⟩ := ih (hup.onWay h) (by omega) hq
      exact ⟨q.current :: ids, r, result, .up hup hpath, hpos, hstops, hup.collect_eq.trans hcollect⟩

/-- The place where the way up from a loaded template begins. -/
theorem onWay_start {w w₁ w₂ : World} {id : TemplateId} (horder : w.toLibrary.InOrder)
    (hload : Run.exec (Load.template eng [] (.plain start)) w = (.ok id, w₁))
    (hcontext : Run.exec (Run.freshContext id []) w₁ = (.ok context, w₂)) (fuel : Nat) :
    Place.OnWay w.toLibrary start [] ⟨fuel, id.name.toList, start, id, w₂⟩ := by
  have hlibrary : w₂.toLibrary = w₁.toLibrary := by
    have hsame := Run.library_freshContext id [] w₁
    rwa [hcontext] at hsame
  have hloaded := Load.loaded_template horder hload
  have hafter := Load.inOrder_template horder hload
  refine ⟨Place.sound_of_load rfl rfl horder.sourced hload hlibrary _ _, hlibrary ▸ hafter,
    hlibrary ▸ hloaded, .nil _ start, rfl, fun name => ?_⟩
  rw [hloaded.name_eq]
  simp only [Option.toList_some, List.contains_cons, List.contains_nil, Bool.or_false, beq_iff_eq,
    List.mem_singleton]

end Inspect

namespace Workspace

/-- What inspection of a template begins with: the loaded template, its context, and the state then. -/
def started (name : String) (ws : Workspace) : Option (TemplateId × Nat × World) := do
  let loaded := Run.exec (Load.template .standard [] (.plain name)) { ws.world with sinks := [] }
  let id ← loaded.1.toOption
  let context := Run.exec (Run.freshContext id []) loaded.2
  return (id, ← context.1.toOption, context.2)

theorem exec_of_started {name : String} {ws : Workspace} {id : TemplateId} {context : Nat}
    {w' : World} (h : started name ws = some (id, context, w')) :
    ∃ w, Run.exec (Load.template .standard [] (.plain name)) { ws.world with sinks := [] } =
        (.ok id, w) ∧ Run.exec (Run.freshContext id []) w = (.ok context, w') := by
  simp only [started, Option.bind_eq_bind, Option.bind_eq_some_iff, Option.pure_def,
    Option.some.injEq, Prod.mk.injEq] at h
  obtain ⟨id, hid, context, hcontext, rfl, rfl, rfl⟩ := h
  exact ⟨_, exec_eq_of_toOption hid, exec_eq_of_toOption hcontext⟩

end Workspace

end Stencil
