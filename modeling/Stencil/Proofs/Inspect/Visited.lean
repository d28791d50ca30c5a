import Mathlib.Data.List.Dedup
import Stencil.Proofs.Inspect.Collected

/-!
# Which ancestors are visited

Among named sources that are reloaded, what is met on the way up depends on the sources alone. The
templates that are visited are those of the longest ascent, each once, up to the first that cannot be
loaded; and whatever cycles there are among the sources, there are no more of them than sources.

## Main definitions

- `Library.Refuses`: a name that cannot be loaded, with the fault
- `Library.Shows`: a loaded template that is what the present source of its name gives
- `Inspect.Breaks`: why collecting ancestors fails

## Key results

- `Inspect.Path.shows`: the templates on the way are those of the present sources
- `Workspace.ancestors_visited`: collecting ends, and visits the longest ascent
-/

namespace Stencil

/-! ## Named sources -/

namespace Library

variable {K L : Library} {name : String} {f : Fault} {id : TemplateId}

/-- A named source that cannot be read, with the fault. -/
inductive Unreadable (L : Library) (name : String) : Fault → Prop
  | missing (h : L.store.named.lookup name = none) :
      Unreadable L name (.notFound (.text name) name)
  | malformed {code : String} {e : SyntaxError} (hcode : L.store.named.lookup name = some code)
      (hparse : L.env.options.language.parse (some name) code = .error e) :
      Unreadable L name (.syntaxError e)

/-- A named source that cannot be loaded, with the fault. -/
inductive Refuses (L : Library) (name : String) : Fault → Prop
  | unreadable {f : Fault} (h : L.Unreadable name f) : Refuses L name f
  | rejected {t : Template} {f : Fault} (hreads : L.Reads name t)
      (hverdict : Load.verdict L.env t = .error f) : Refuses L name f

theorem Unreadable.congr (h : K.Unreadable name f) (henv : L.env = K.env)
    (hstore : L.store = K.store) : L.Unreadable name f := by
  cases h with
  | missing h => exact .missing (hstore ▸ h)
  | malformed hcode hparse => exact .malformed (hstore ▸ hcode) (henv ▸ hparse)

theorem Refuses.congr (h : K.Refuses name f) (henv : L.env = K.env)
    (hstore : L.store = K.store) : L.Refuses name f := by
  cases h with
  | unreadable h => exact .unreadable (h.congr henv hstore)
  | rejected hreads hverdict =>
    exact .rejected ((Reads.congr henv hstore).2 hreads) (henv ▸ hverdict)

/-- A loaded template that is what the present source of its name gives, and passes the check. -/
def Shows (L : Library) (id : TemplateId) : Prop :=
  ∃ name t, id.name = some name ∧ L.templates.lookup id = some t ∧ L.Reads name t.tree ∧
    Load.verdict L.env t.tree = .ok ()

theorem Shows.grown (h : K.Shows id) (hgrown : Grown K L) : L.Shows id := by
  obtain ⟨name, t, hname, ht, hreads, hverdict⟩ := h
  obtain ⟨t', ht', htree, -⟩ := hgrown.lookup ht
  refine ⟨name, t', hname, ht', ?_, ?_⟩
  · rw [htree]
    exact (Reads.congr hgrown.env_eq hgrown.store_eq).2 hreads
  · rw [htree, hgrown.env_eq]
    exact hverdict

end Library

namespace Load

open Library (Unreadable Refuses)

variable {w w' : World} {globals : List (String × Value)} {name : String} {f : Fault}

/-- Reading a template from its named source fails only if the source cannot be read, or its template
does not pass the check. -/
theorem refuses_of_fresh (hloader : w.env.loader = .named)
    (h : Run.exec (fresh globals name) w = (.error f, w')) : w.toLibrary.Refuses name f := by
  cases hcode : w.store.named.lookup name with
  | none =>
    rw [fresh, Run.exec_bind, exec_find_named hloader, hcode] at h
    cases h
    exact .unreadable (.missing hcode)
  | some code =>
    have hfind : w.env.loader.find w.store name = .ok ⟨code, none, .named name code⟩ := by
      rw [hloader, Loader.find, hcode]
    cases hparse : w.env.options.language.parse (some name) code with
    | error e =>
      rw [exec_fresh_of_malformed hfind hparse] at h
      cases h
      exact .unreadable (.malformed hcode hparse)
    | ok p =>
      rw [exec_fresh (w := w) ⟨hfind, hparse⟩ globals] at h
      cases hverdict : verdict w.env p.template with
      | ok _ =>
        rw [hverdict] at h
        cases h
      | error e =>
        rw [hverdict] at h
        cases h
        exact .rejected ⟨_, p, ⟨hfind, hparse⟩, rfl⟩ hverdict

/-- A name that is no key is refused by its source only. -/
theorem refuses_of_template (hw : w.toLibrary.Sourced) (hloader : w.env.loader = .named)
    (hkey : isKey w.env name = false) {eng : Engine}
    (h : Run.exec (template eng globals (.plain name)) w = (.error f, w')) :
    w.toLibrary.Refuses name f := by
  have habsent : (w.env.loader == .absent) = false := by rw [hloader]; rfl
  rw [exec_plain, hkey, habsent, if_neg Bool.false_ne_true, if_neg Bool.false_ne_true] at h
  obtain ⟨id, cache, t, -, -, -, hexec⟩ | ⟨cache, -, hexec⟩ := named_cases hw globals name
  · rw [hexec] at h
    cases h
  · rw [hexec] at h
    exact (refuses_of_fresh (w := { w with cache }) hloader h).congr rfl rfl

end Load

/-! ## Visited templates -/

namespace Inspect

open Library (Longest Reads Refuses Shows Unreadable)

variable {L : Library} {eng : Engine} {context : Nat} {start : String} {done names : List String}
  {p q : Place} {ids : List TemplateId} {w : World} {f : Fault}

/-- On the way every name but that of the start is one that a source names as its parent. -/
theorem Place.OnWay.parentOf (h : p.OnWay L start done) (hdone : done ≠ []) :
    ∃ below, L.ParentOf below p.name := by
  have hmem : p.name ∈ done := by
    rw [h.last, List.getLastD_eq_getLast?, List.getLast?_eq_some_getLast hdone]
    exact List.getLast_mem hdone
  exact exists_rel_of_isChain h.ascent.linked hmem

/-- If sources are reloaded, a template that is no embed is what its present source gives. -/
theorem Place.OnWay.shows (h : p.OnWay L start done) (hloader : L.env.loader = .named)
    (hauto : L.env.options.autoReload = true) (hkey : Load.isKey L.env p.name = false) :
    p.world.toLibrary.Shows p.current := by
  obtain ⟨source, q, hread, hcurrent⟩ := h.sound.read hkey
  obtain ⟨t, ht, htree, -, -⟩ := hread.loaded
  have hcode : L.store.named.lookup p.name = some source.code := by
    obtain ⟨store, hfound⟩ := hread.found
    rw [h.sound.env_eq] at hfound
    obtain hcurrent | hfound' := hcurrent hauto
    · rw [(Loader.lookup_of_find hloader hfound).2] at hcurrent
      exact beq_iff_eq.1 hcurrent
    · exact (Loader.lookup_of_find hloader hfound').1
  have hfind : L.env.loader.find L.store p.name = .ok ⟨source.code, none, .named p.name source.code⟩ := by
    rw [hloader, Loader.find, hcode]
  have hparse := hread.parsed
  rw [h.sound.env_eq] at hparse
  have hreads : L.Reads p.name t.tree := ⟨_, q, ⟨hfind, hparse⟩, htree.symm⟩
  exact ⟨p.name, t, hread.name_eq, ht, h.reads.2 hreads, (h.inOrder.checked _ (mem_of_lookup ht)).1⟩

/-- The templates on the way are those of the present sources. -/
theorem Path.shows (h : Path eng context p ids q) (hp : p.OnWay L start done)
    (hloader : L.env.loader = .named) (hauto : L.env.options.autoReload = true)
    (hplain : ∀ below above, L.ParentOf below above → Load.isKey L.env above = false) :
    ∀ id ∈ ids, q.world.toLibrary.Shows id := by
  induction h generalizing done with
  | here p => exact fun _ hid => absurd hid List.not_mem_nil
  | @up p q r ids h hrest ih =>
    have hq := h.onWay hp
    intro id hid
    obtain rfl | hid := List.mem_cons.1 hid
    · obtain ⟨below, hbelow⟩ := hq.parentOf (List.append_ne_nil_of_right_ne_nil _ (List.cons_ne_nil _ _))
      exact (hq.shows hloader hauto (hplain below _ hbelow)).grown (hrest.grown hq)
    · exact ih hq id hid

/-- Why collecting fails when a number of ancestors were visited, of those that the longest ascent
from a start has: the source of the start cannot be read, the next ancestor cannot be loaded, or the
last one names a parent that is no text. -/
inductive Breaks (L : Library) (eng : Engine) (start : String) (names : List String) (w : World) :
    (visited : Nat) → Fault → Prop
  | start {f : Fault} (h : L.Unreadable start f) : Breaks L eng start names w 0 f
  | ancestor {visited : Nat} {above : String} {f : Fault} (hnext : names[visited]? = some above)
      (h : L.Refuses above f) : Breaks L eng start names w visited f
  | literal {t : Template} {d : Datum} {f : Fault} {w' : World}
      (hreads : L.Reads (names.getLastD start) t) (hd : t.literalParent? = some d)
      (htext : d.text? = none) (hload : Run.exec (Load.literal eng d) w = (.error f, w')) :
      Breaks L eng start names w names.length f

/-- Only the source of the start may be another than that of its loaded template: where a parent
cannot be told, the way has not begun. -/
theorem Place.OnWay.start_of_lost (hp : p.OnWay L start done) (hloader : L.env.loader = .named)
    (hauto : L.env.options.autoReload = true)
    (hplain : ∀ below above, L.ParentOf below above → Load.isKey L.env above = false)
    (hparent : Run.exec (parent? p.current) p.world = (.error f, p.world)) :
    done = [] ∧ L.Unreadable start f := by
  have hcurrent := hp.current.name_eq
  -- behind the start every name on the way has a source that can be read
  have hdone : done = [] := by
    by_contra hdone
    obtain ⟨below, hbelow⟩ := hp.parentOf hdone
    obtain ⟨name, t, hname, -, hreads, -⟩ := hp.shows hloader hauto (hplain below _ hbelow)
    rw [hreads.exec_parent hname] at hparent
    cases hparent
  subst hdone
  have hname : p.name = start := hp.last
  have hloader' : p.world.env.loader = .named := hp.sound.env_eq ▸ hloader
  rw [hname] at hcurrent
  rw [exec_parent hcurrent hloader', hp.sound.store_eq, hp.sound.env_eq] at hparent
  cases hcode : L.store.named.lookup start with
  | none =>
    rw [hcode] at hparent
    cases hparent
    exact ⟨rfl, .missing hcode⟩
  | some code =>
    rw [hcode] at hparent
    dsimp only at hparent
    cases hparse : L.env.options.language.parse (some start) code with
    | error e =>
      rw [hparse] at hparent
      cases hparent
      exact ⟨rfl, .malformed hcode hparse⟩
    | ok q =>
      rw [hparse] at hparent
      cases hparent

/-- A parent that was not met before is the next name of the longest ascent. -/
theorem Place.OnWay.next_of_new (hp : p.OnWay L start done) {above : String}
    (hparent : Run.exec (parent? p.current) p.world = (.ok (some (.text above)), p.world))
    (hnew : p.seen.contains above = false) :
    L.ParentOf (done.getLastD start) above ∧
      ∃ names, L.Longest start names ∧ done <+: names ∧ names[done.length]? = some above := by
  have habove : L.ParentOf (done.getLastD start) above := hp.read_parent hparent
  have hnotin : above ∉ start :: done := fun hmem => by
    rw [(hp.met above).2 hmem] at hnew
    cases hnew
  obtain ⟨names, hlongest⟩ := L.exists_longest start
  obtain ⟨rest, hrest⟩ := hlongest.2 _ (hp.ascent.concat habove hnotin)
  rw [List.append_assoc] at hrest
  refine ⟨habove, names, hlongest, ⟨above :: rest, hrest⟩, ?_⟩
  rw [← hrest, List.getElem?_append_right (Nat.le_refl _), Nat.sub_self]
  rfl

/-- The way ends at the end of the longest ascent, or in front of a name of it that fails. -/
theorem Place.Stops.longest {result : Except Fault Unit × World} (h : p.Stops eng result)
    (hp : p.OnWay L start done) (hloader : L.env.loader = .named)
    (hauto : L.env.options.autoReload = true)
    (hplain : ∀ below above, L.ParentOf below above → Load.isKey L.env above = false) :
    ∃ names, L.Longest start names ∧ done <+: names ∧
      ((result = (.ok (), p.world) ∧ done.length = names.length) ∨
        ∃ f w', result = (.error f, w') ∧ Breaks L eng start names p.world done.length f) := by
  cases h with
  | top hparent hends =>
    have hstops : p.Stops eng (.ok (), p.world) := .top hparent hends
    obtain ⟨-, hlongest⟩ := hstops.longest_of_ok hp
    exact ⟨done, hlongest, List.prefix_refl done, .inl ⟨rfl, rfl⟩⟩
  | lost hparent =>
    obtain ⟨rfl, hunreadable⟩ := hp.start_of_lost hloader hauto hplain hparent
    obtain ⟨names, hlongest⟩ := L.exists_longest start
    exact ⟨names, hlongest, List.nil_prefix, .inr ⟨_, _, rfl, .start hunreadable⟩⟩
  | @refused d f w' hparent hends hload =>
    cases htext : d.text? with
    | none =>
      -- the ascent has no further name, but the way does not end well
      have htop : ∀ above, L.ParentOf (done.getLastD start) above → above ∈ start :: done := by
        intro above habove
        cases hp.parent_eq habove hparent
        cases htext
      obtain ⟨t, ht, hd⟩ := hp.read_parent hparent
      exact ⟨done, Library.longest_of_top hp.ascent htop, List.prefix_refl done,
        .inr ⟨f, w', rfl, .literal ht hd htext hload⟩⟩
    | some above =>
      obtain rfl : d = .text above := by
        cases d with
        | text name => exact congrArg Datum.text (Option.some.inj htext)
        | _ => cases htext
      obtain ⟨habove, names, hlongest, hprefix, hat⟩ := hp.next_of_new hparent hends
      have hloader' : p.world.env.loader = .named := hp.sound.env_eq ▸ hloader
      have hkey : Load.isKey p.world.env above = false := hp.sound.env_eq ▸ hplain _ _ habove
      have hrefuses := Load.refuses_of_template hp.inOrder.sourced hloader' hkey hload
      exact ⟨names, hlongest, hprefix, .inr ⟨f, w', rfl, .ancestor hat
        (hrefuses.congr hp.sound.env_eq.symm hp.sound.store_eq.symm)⟩⟩

end Inspect

namespace Workspace

open Inspect (Place Path Breaks)

/-- Collecting the ancestors of a loaded template ends, whatever cycles there are. The templates that
it visits are those of the longest ascent, each once, and there are no more of them than named
sources; the context has the definitions of the start and of these in order. It fails only where the
next of them fails to load. -/
theorem ancestors_visited (p : WorkspacePlan) {ws : Workspace} (hws : Reachable p ws)
    (hloader : p.loader = .named) (hauto : ws.world.env.options.autoReload = true)
    (hplain : ∀ below above, ws.world.toLibrary.ParentOf below above →
      Load.isKey ws.world.env above = false)
    {name : String} {id : TemplateId} {context : Nat} {w w' : World}
    (hload : Run.exec (Load.template .standard [] (.plain name)) { ws.world with sinks := [] } =
      (.ok id, w))
    (hcontext : Run.exec (Run.freshContext id []) w = (.ok context, w')) {fuel : Nat}
    (hfuel : ws.world.store.named.length + ws.world.store.files.length < fuel) :
    ∃ names ids place, ws.world.toLibrary.Longest name names ∧
      Path .standard context ⟨fuel, id.name.toList, name, id, w'⟩ ids place ∧
      ids.map TemplateId.name = (names.take ids.length).map some ∧
      ids.length ≤ (ws.world.store.named.map Prod.fst).dedup.length ∧
      Run.attachments (Inspect.addAncestors .standard context fuel id.name.toList id) w' =
        ids.map TemplateId.name ∧
      place.world.Lists context (id :: ids) ∧
      (Load.isKey ws.world.env name = false → place.world.toLibrary.Shows id) ∧
      (∀ i ∈ ids, place.world.toLibrary.Shows i) ∧
      ((Run.exec (Inspect.addAncestors .standard context fuel id.name.toList id) w' =
          (.ok (), place.world) ∧ ids.length = names.length) ∨
        ∃ f w'', Run.exec (Inspect.addAncestors .standard context fuel id.name.toList id) w' =
          (.error f, w'') ∧
          Breaks ws.world.toLibrary .standard name names place.world ids.length f) := by
  obtain ⟨ws₀, hnew, henv, -, -⟩ := hws.sourced
  have hnamed : ws.world.env.loader = .named := by rw [henv, (world_of_build hnew).2.2, hloader]
  have hstart := Inspect.onWay_start (w := { ws.world with sinks := [] }) hws.inOrder hload hcontext fuel
  obtain ⟨ids, place, result, hpath, hpos, hstops, hcollect⟩ :=
    hstart.exists_path .standard context (by simpa using hfuel)
  obtain ⟨visited, hplace, hids⟩ := hpath.onWay_of_start hstart
  have hcount : ids.length = visited.length := by
    have hlength := congrArg List.length hids
    rwa [List.length_map, List.length_map] at hlength
  have hshows := hpath.shows hstart hnamed hauto hplain
  obtain ⟨names, hlongest, hprefix, hends⟩ := hstops.longest hplace hnamed hauto hplain
  have htake : visited = names.take ids.length := by
    rw [hcount]
    exact List.prefix_iff_eq_take.1 hprefix
  -- a visited name is that of a source
  have hsources : visited ⊆ (ws.world.store.named.map Prod.fst).dedup := by
    intro n hn
    have hmem : some n ∈ ids.map TemplateId.name := hids ▸ List.mem_map_of_mem hn
    obtain ⟨i, hi, hname⟩ := List.mem_map.1 hmem
    obtain ⟨n', t, hname', -, hreads, -⟩ := hshows i hi
    cases hname.symm.trans hname'
    obtain ⟨source, q, ⟨hfind, -⟩, -⟩ := hplace.reads.1 hreads
    exact List.mem_dedup.2 (List.mem_map_of_mem
      (mem_of_lookup (Loader.lookup_of_find hnamed hfind).1))
  have hnodup : visited.Nodup := (List.nodup_cons.1 hplace.ascent.distinct).2
  have hattach := hpath.attachments_eq
  rw [hstops.attachments_eq hpos, List.append_nil] at hattach
  have hlists : w'.Lists context [id] :=
    .of_load (w := { ws.world with sinks := [] }) hws.inOrder hload hcontext
  refine ⟨names, ids, place, hlongest, hpath, ?_, ?_, hattach, hpath.lists hstart hlists,
    fun hkey => (hstart.shows hnamed hauto hkey).grown (hpath.grown hstart), hshows, ?_⟩
  · rw [hids, htake]
  · rw [hcount]
    exact (List.subperm_of_subset hnodup hsources).length_le
  · have hresult : Run.exec (Inspect.addAncestors .standard context fuel id.name.toList id) w' =
        result := hcollect
    rw [hresult, hcount]
    exact hends

/-- A page with two ancestors that extend each other. -/
def cyclicParents : WorkspacePlan :=
  { flavour := .pattern
    store := { named := [("page", "\x7b% extends 'a' %\x7d\x7b% block x %\x7d\x7b% endblock %\x7d"),
      ("a", "\x7b% extends 'b' %\x7d\x7b% block x %\x7d\x7b% endblock %\x7d"),
      ("b", "\x7b% extends 'a' %\x7d\x7b% block y %\x7d\x7b% endblock %\x7d")] } }

/-- The ancestors of the page are visited once each, and the way ends where it comes again to the
first of them. -/
theorem ancestors_visited_cyclicParents : ∃ ws id context w', Reachable cyclicParents ws ∧
    started "page" ws = some (id, context, w') ∧
    ws.world.toLibrary.Longest "page" ["a", "b"] ∧
    (Run.exec (Inspect.addAncestors .standard context 4 id.name.toList id) w').1 = .ok () ∧
    ∃ i j, i.name = some "a" ∧ j.name = some "b" ∧
      (Run.exec (Inspect.addAncestors .standard context 4 id.name.toList id) w').2.Lists context
        [id, i, j] := by
  have hfacts : cyclicParents.build.toOption.bind (fun ws => (started "page" ws).map fun s =>
      (ws.world.env.options.autoReload && !ws.world.toLibrary.parents.any (Load.isKey ws.world.env),
        ws.world.store.named.length + ws.world.store.files.length,
        Run.attachments (Inspect.addAncestors .standard s.2.1 4 s.1.name.toList s.1) s.2.2,
        (Run.exec (Inspect.addAncestors .standard s.2.1 4 s.1.name.toList s.1)
          s.2.2).1.toOption.isSome)) =
      some (true, 3, [some "a", some "b"], true) := by decide +kernel
  obtain ⟨ws, hws, hfacts⟩ := Option.bind_eq_some_iff.1 hfacts
  obtain ⟨⟨id, context, w'⟩, hstarted, hfacts⟩ := Option.map_eq_some_iff.1 hfacts
  simp only [Prod.mk.injEq, Bool.and_eq_true, Bool.not_eq_true'] at hfacts
  obtain ⟨⟨hauto, hkeys⟩, hcount, hattach, hok⟩ := hfacts
  obtain ⟨w, hload, hcontext⟩ := exec_of_started hstarted
  have hreach : Reachable cyclicParents ws := .of_toOption hws
  have hplain : ∀ below above, ws.world.toLibrary.ParentOf below above →
      Load.isKey ws.world.env above = false := fun below above h =>
    Bool.eq_false_iff.2 (List.any_eq_false.1 hkeys above h.mem_parents)
  obtain ⟨names, ids, place, hlongest, -, hids, -, hnoted, hlists, -, -, hend⟩ :=
    ancestors_visited cyclicParents hreach rfl hauto hplain hload hcontext
      (show _ < 4 by rw [hcount]; decide)
  -- what was noted on the way are the two names, in this order
  have hnames := hnoted.symm.trans hattach
  obtain ⟨hexec, hlength⟩ | ⟨f, w'', hexec, -⟩ := hend
  · rw [hlength, List.take_length] at hids
    have hlist : names = ["a", "b"] :=
      List.map_injective_iff.2 (fun _ _ h => Option.some.inj h) (hids.symm.trans hnames)
    obtain ⟨i, rest, rfl, hi, hrest⟩ := List.map_eq_cons_iff.1 hnames
    obtain ⟨j, rest, rfl, hj, hnil⟩ := List.map_eq_cons_iff.1 hrest
    obtain rfl := List.map_eq_nil_iff.1 hnil
    refine ⟨ws, id, context, w', hreach, hstarted, hlist ▸ hlongest, ?_, i, j, hi, hj, ?_⟩
    · rw [hexec]
    · rw [hexec]
      exact hlists
  · rw [hexec] at hok
    cases hok

end Workspace

end Stencil
