import Stencil.Proofs.Inspect.InfoBlock

/-!
# Parents that cannot be loaded

A literal parent that no source can be found for ends inspection with an error, however far up it
stands: either it cannot be loaded, or its own parent cannot be looked up. There is one exception. A
parent of `none` is told from no parent nowhere, so that the way up just ends there.

## Key results

- `Inspect.Place.Stops.parent_of_ok`: parents that the way up can go past
- `Workspace.data_lost_parent`: pattern data of a template with a parent that cannot be loaded
-/

namespace Stencil

namespace Inspect

variable {L : Library} {eng : Engine} {context : Nat} {start : String} {done : List String}
  {p : Place} {w : World}

/-- The only parent that ends the way without being a text is `none`. -/
theorem eq_null_of_endsAt {seen : List String} {d : Datum} (h : endsAt seen (some d) = true)
    (hd : d.text? = none) : d = .null := by
  cases d with
  | null => rfl
  | text n => cases hd
  | _ => cases h

/-- Where the way ends well the last name has a source. -/
theorem Place.Stops.reads_of_ok (h : p.Stops eng (.ok (), w)) (hp : p.OnWay L start done) :
    ∃ t, L.Reads (done.getLastD start) t ∧ endsAt p.seen t.literalParent? = true := by
  generalize hresult : ((.ok (), w) : Except Fault Unit × World) = result at h
  cases h with
  | top hparent hends =>
    obtain ⟨t, ht, rfl⟩ := hp.read_parent hparent
    exact ⟨t, ht, hends⟩
  | lost _ => cases hresult
  | refused _ _ _ => cases hresult

/-- Where the way ends well, every name on it has a source, and where a name of it has a parent of its
own, this is none or was met or comes next. -/
theorem Place.Stops.parent_of_ok (h : p.Stops eng (.ok (), w)) (hp : p.OnWay L start done)
    {names : List String} (hnames : L.Ascent start names) {t : Template}
    (ht : L.Reads (names.getLastD start) t) {d : Datum} (hd : t.literalParent? = some d) :
    d = .null ∨ ∃ n, d = .text n ∧ (n ∈ start :: names ∨ ∃ t', L.Reads n t') := by
  obtain ⟨-, hlongest⟩ := h.longest_of_ok hp
  obtain ⟨rest, rfl⟩ := hlongest.2 names hnames
  obtain ⟨last, hlast, hends⟩ := h.reads_of_ok hp
  cases rest with
  | nil =>
    -- the way ends at this very template
    rw [List.append_nil] at hp hlast
    rw [hlast.unique ht, hd] at hends
    cases d with
    | null => exact .inl rfl
    | text n => exact .inr ⟨n, rfl, .inl ((hp.met n).1 hends)⟩
    | _ => cases hends
  | cons above rest =>
    obtain ⟨t', ht', habove⟩ := hp.ascent.parentOf_last
    rw [ht'.unique ht, hd] at habove
    cases habove
    refine .inr ⟨above, rfl, .inr ?_⟩
    cases rest with
    | nil =>
      rw [List.getLastD_concat] at hlast
      exact ⟨last, hlast⟩
    | cons next rest =>
      have hascent := hp.ascent
      rw [List.append_cons] at hascent
      obtain ⟨t'', ht'', -⟩ := hascent.parentOf_last
      rw [List.getLastD_concat] at ht''
      exact ⟨t'', ht''⟩

end Inspect

namespace Workspace

open Inspect (Path)

/-- Pattern data that is told comes from a template whose ancestors have all been collected. -/
theorem collected_of_data {ws : Workspace} (horder : ws.world.toLibrary.InOrder) {name : String}
    {infoBlock data? : Option String} (h : (data name infoBlock ws).1 = .ok data?) :
    ∃ id context w w' w'',
      Run.exec (Load.template .standard [] (.plain name)) { ws.world with sinks := [] } = (.ok id, w) ∧
      Run.exec (Run.freshContext id []) w = (.ok context, w') ∧
      Run.exec (Inspect.addAncestors .standard context
        (ws.world.store.named.length + ws.world.store.files.length + 2) id.name.toList id) w' =
          (.ok (), w'') := by
  obtain ⟨w₀, hdata⟩ : ∃ w₀, Run.exec (Inspect.data .standard (ws.blockFor infoBlock) name)
      { ws.world with sinks := [] } = (.ok data?, w₀) := by
    change (perform (Inspect.data .standard (ws.blockFor infoBlock) name)
      (Failure.ofInspection (.text name)) ws).1 = _ at h
    rw [perform_eq] at h
    generalize Run.exec (Inspect.data .standard (ws.blockFor infoBlock) name) _ = result at h ⊢
    obtain ⟨r, w₀⟩ := result
    cases r with
    | error f => cases h
    | ok _ =>
      cases h
      exact ⟨w₀, rfl⟩
  rw [Inspect.data, Run.exec_bind] at hdata
  obtain ⟨id, w, hload, hdata⟩ := Run.exists_of_andThen hdata
  rw [Inspect.dataOf, Run.exec_bind] at hdata
  obtain ⟨context, w', hcontext, hdata⟩ := Run.exists_of_andThen hdata
  -- the bound is that of the sources there were before the template was loaded
  have hstore : w'.store = ws.world.store :=
    (Inspect.onWay_start (w := { ws.world with sinks := [] }) horder hload hcontext 0).sound.store_eq
  rw [Run.exec_bind, Run.exec_get, Run.andThen_ok, hstore, Run.exec_bind] at hdata
  obtain ⟨⟨⟩, w'', hcollect, -⟩ := Run.exists_of_andThen hdata
  exact ⟨id, context, w, w', w'', hload, hcontext, hcollect⟩

/-- A template on the way up has a literal parent that was not met before and that no source can be
found for. Inspection of pattern data fails, unless this parent is `none`: then it goes on with the
blocks that it has, as if the template had no parent. -/
theorem data_lost_parent (p : WorkspacePlan) {ws : Workspace} (hws : Reachable p ws) {name : String}
    {names : List String} (hascent : ws.world.toLibrary.Ascent name names) {t : Template}
    (hreads : ws.world.toLibrary.Reads (names.getLastD name) t) {d : Datum}
    (hd : t.literalParent? = some d) (hnew : ∀ n, d = .text n → n ∉ name :: names)
    (hunknown : ∀ n source, d = .text n →
      ws.world.env.loader.find ws.world.store n ≠ .ok source)
    (infoBlock : Option String) :
    (d ≠ .null → ∃ f, (data name infoBlock ws).1 = .error f) ∧
      (d = .null → ∀ {id context w w' ids place},
        Run.exec (Load.template .standard [] (.plain name)) { ws.world with sinks := [] } =
          (.ok id, w) →
        Run.exec (Run.freshContext id []) w = (.ok context, w') →
        Path .standard context ⟨ws.world.store.named.length + ws.world.store.files.length + 2,
          id.name.toList, name, id, w'⟩ ids place →
        ids.map TemplateId.name = names.map some →
        (data name infoBlock ws).1 =
          (if place.world.toLibrary.defsOf (id :: ids) (ws.blockFor infoBlock) = [] then .ok none
            else (Run.exec (Run.capture (Engine.standard.block (ws.blockFor infoBlock) 0 context))
              place.world).1.map some).mapError (Failure.ofInspection (.text name))) := by
  have horder : World.toLibrary { ws.world with sinks := [] } |>.InOrder := hws.inOrder
  constructor
  · intro hnull
    cases hdata : (data name infoBlock ws).1 with
    | error f => exact ⟨f, rfl⟩
    | ok data? =>
      -- the way would have gone past the name with this parent
      obtain ⟨id, context, w, w', w'', hload, hcontext, hcollect⟩ := collected_of_data hws.inOrder hdata
      have hstart := Inspect.onWay_start horder hload hcontext
        (ws.world.store.named.length + ws.world.store.files.length + 2)
      obtain ⟨ids, place, result, hpath, -, hstops, hresult⟩ :=
        hstart.exists_path .standard context (by simp only [List.length_nil]; omega)
      cases hresult.symm.trans hcollect
      obtain ⟨visited, hplace, -⟩ := hpath.onWay hstart
      obtain rfl | ⟨n, rfl, hmet | ⟨t', source, q, ⟨hfind, -⟩, -⟩⟩ :=
        hstops.parent_of_ok hplace hascent hreads hd
      · exact absurd rfl hnull
      · exact absurd hmet (hnew n rfl)
      · exact absurd hfind (hunknown n source rfl)
  · rintro rfl id context w w' ids place hload hcontext hpath hids
    have hstart := Inspect.onWay_start horder hload hcontext
      (ws.world.store.named.length + ws.world.store.files.length + 2)
    have hlists := World.Lists.of_load horder hload hcontext
    obtain ⟨names', hplace, hids'⟩ := hpath.onWay_of_start hstart
    obtain rfl : names = names' :=
      List.map_injective_iff.2 (fun _ _ h => Option.some.inj h) (hids.symm.trans hids')
    -- the way ends here, since its last template is said to have no parent
    have hparent := (hplace.reads.2 (hplace.last.symm ▸ hreads)).exec_parent hplace.current.name_eq
    rw [hd] at hparent
    have hstops : place.Stops .standard (.ok (), place.world) := .top hparent rfl
    have hfuel : 0 < place.fuel := by
      have hspent := hpath.fuel_eq
      have hcount := congrArg List.length hids
      have hbound := hascent.length_le
      rw [List.length_map, List.length_map] at hcount
      dsimp only at hspent
      omega
    have hcollect := hpath.collect_eq.trans (hstops.collect_eq hfuel)
    exact data_eq_of_collected hload hcontext hstart.sound.store_eq hcollect
      (hpath.lists hstart hlists) infoBlock

/-- A page without an ancestor but with a parent of `none`, and one whose parent is a number. -/
def oddParents : WorkspacePlan :=
  { flavour := .pattern
    store := { named := [("none", "\x7b% extends none %\x7d\x7b% block patterninfo %\x7dx\x7b% endblock %\x7d"),
      ("number", "\x7b% extends 1 %\x7d\x7b% block patterninfo %\x7dx\x7b% endblock %\x7d")] } }

/-- The parent of `none` goes unnoticed, and the other one does not. -/
theorem data_lost_parent_oddParents : ∃ ws, Reachable oddParents ws ∧
    (∃ t, ws.world.toLibrary.Reads "none" t ∧ t.literalParent? = some .null) ∧
    (data "none" none ws).1.toOption = some (some "x") ∧
    (∃ id context w', started "none" ws = some (id, context, w') ∧ (data "none" none ws).1 =
      (if w'.toLibrary.defsOf [id] (ws.blockFor none) = [] then .ok none
        else (Run.exec (Run.capture (Engine.standard.block (ws.blockFor none) 0 context))
          w').1.map some).mapError (Failure.ofInspection (.text "none"))) ∧
    ∃ f, (data "number" none ws).1 = .error f := by
  have hfacts : oddParents.build.toOption.bind (fun ws => (started "none" ws).bind fun s =>
      (ws.world.toLibrary.read? "none").bind fun t => (ws.world.toLibrary.read? "number").bind fun u =>
        t.literalParent?.bind fun d => u.literalParent?.map fun e =>
          ((data "none" none ws).1.toOption, Inspect.endsAt [] (some d), d.text?,
            Inspect.endsAt [] (some e), e.text?)) =
      some (some (some "x"), true, none, false, none) := by decide +kernel
  simp only [Option.bind_eq_some_iff, Option.map_eq_some_iff, Prod.mk.injEq] at hfacts
  obtain ⟨ws, hws, ⟨id, context, w'⟩, hstarted, t, ht, u, hu, d, hd, e, he, hdata, hends, hnull, hgoes,
    hnumber⟩ := hfacts
  have hd' : d = .null := Inspect.eq_null_of_endsAt hends hnull
  subst hd'
  obtain ⟨w, hload, hcontext⟩ := exec_of_started hstarted
  have hreach : Reachable oddParents ws := .of_toOption hws
  have ht := Library.reads_of_read ht
  have hu := Library.reads_of_read hu
  have hnotext (n : String) : e ≠ .text n := by
    rintro rfl
    cases hnumber
  have hnotnull : e ≠ .null := by
    rintro rfl
    cases hgoes
  have hnone := (data_lost_parent oddParents hreach (.nil _ "none") ht hd (fun _ h => by cases h)
    (fun _ _ h => by cases h) none).2 rfl hload hcontext (.here _) rfl
  have hnumber := (data_lost_parent oddParents hreach (.nil _ "number") hu he
    (fun n h => absurd h (hnotext n)) (fun n _ h => absurd h (hnotext n)) none).1 hnotnull
  exact ⟨ws, hreach, ⟨t, ht, hd⟩, hdata, ⟨id, context, w', hstarted, hnone⟩, hnumber⟩

end Workspace

end Stencil
