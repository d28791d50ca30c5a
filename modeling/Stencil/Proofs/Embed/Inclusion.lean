import Stencil.Proofs.Embed.Extraction

/-!
# Loading before and after an embed is made a template

The tag of an embed leads to the tree that was taken out of its host, and the name of the new
template to the same tree, read from a source. Whatever else is asked for is read on both sides, with
the same verdict of the check.

## Main statements

- `Simulation.extracting_laws`: loading does the same before and after
- `Simulation.extracting_ownLaw`: and so do the bodies of templates
-/

namespace Stencil

/-! ## What is read -/

namespace Sources

variable {S S' : Sources} {name : String} {child : List Stmt} {L : Library}

/-- A source that may be asked for gives trees on both sides that were the same before embeds were
made a template, or it cannot be read and is the same on both sides. -/
theorem Extraction.gives (h : S.Extraction S' name child) {n : String} (hn : n ∈ S.names) :
    (∃ source p source' p', S.Gives n source p ∧ S'.Gives n source' p' ∧
      Stmt.Tied name child (· ∈ p.embeds) (· ∈ p'.embeds) p.template.body p'.template.body) ∨
    S'.env.loader.find S'.store n = S.env.loader.find S.store n ∧
      ∀ source p, ¬ S.Gives n source p := by
  obtain ⟨source, t, source', t', ht, ht', hbody⟩ | ⟨hfind, hnone⟩ := h.sources n hn
  · refine .inl ⟨source, _, source', _, ht.gives, ht'.gives, some n, some n, t.body, t'.body, hbody,
      fun _ hd => hd, fun _ hd => hd, .refl _, .refl _⟩
  · refine .inr ⟨hfind, fun source p hgives => ?_⟩
    obtain ⟨t, ht, -⟩ := hgives.written
    exact hnone source t ht

theorem Extraction.mem_names (h : S.Extraction S' name child) {n : String} (hn : n ∈ S.names) :
    n ∈ S'.names :=
  h.names_eq ▸ List.mem_cons_of_mem name hn

theorem Extraction.name_mem (h : S.Extraction S' name child) : name ∈ S'.names :=
  h.names_eq ▸ List.mem_cons_self

theorem Extraction.registry' (h : S.Extraction S' name child) :
    S'.env.flavour.hasRegistry = true := by
  rw [h.env_eq]
  exact h.registry

theorem Extraction.isKey (h : S.Extraction S' name child) {n : String} (hn : n ∈ S.names) :
    Embed.isKey n = false :=
  h.plain n (h.mem_names hn)

theorem Extraction.isKey_name (h : S.Extraction S' name child) : Embed.isKey name = false :=
  h.plain name h.name_mem

/-- The source of the new template gives the tree of the embeds that it is made of. -/
theorem Extraction.made_tied (h : S.Extraction S' name child) :
    ∃ source p, S'.Gives name source p ∧ ∀ {P : Embedded → Prop} {host : Option String}
      {ts ss : List Stmt}, Stmt.AlikeAll ts child → (∀ d ∈ (Stmt.detachList host ts).2, P d) →
        Stmt.AlikeAll (Stmt.detachList host ts).1 ss →
          Stmt.Tied name child P (· ∈ p.embeds) ss p.template.body := by
  obtain ⟨source, t, ht, rfl⟩ := h.made
  refine ⟨source, _, ht.gives, fun {P host ts ss} hts hP hss => ?_⟩
  exact ⟨host, some name, ts, t.body, hts.extracted (Language.keys_parseTree ht.2), hP,
    fun _ hd => hd, hss, .refl _⟩

theorem Extraction.ne (h : S.Extraction S' name child) {n : String} (hn : n ∈ S.names) :
    n ≠ name :=
  fun heq => h.unasked (heq ▸ hn)

/-- The embeds of a template that was read are registered. -/
theorem Holds.registered {source : FoundSource} {p : Parsed} {id : TemplateId} {n : String}
    (h : Holds L source p id) (hn : n ∈ S.names) (hgives : S.Gives n source p) :
    ∀ e ∈ p.embeds, S.Registered L e :=
  fun e he => ⟨⟨n, hn, source, p, hgives, he⟩, h.embeds e he⟩

/-- What is held under a name is cached under it. -/
theorem Steady.cached_of_lookup (h : S.Steady L) {id : TemplateId} (hid : id.isEmbed = false)
    {t : LoadedTemplate} (ht : L.templates.lookup id = some t) :
    ∃ n, id = ⟨some n, 0⟩ ∧ L.cache.entries.lookup n = some ⟨some n, 0⟩ := by
  obtain ⟨n, rfl, hcached⟩ := h.loaded _ (mem_of_lookup ht) hid
  exact ⟨n, rfl, hcached⟩

/-- The tree that is registered for an embed is what is left of it without the embeds in it. -/
theorem Steady.embed_tree (h : S.Steady L) (htold : S.Told) {host : Option String} {l : Nat}
    {e : Expr} {body : List Stmt}
    (hregistered : ∀ d ∈ ((Stmt.embed l e body).detach host).2, S.Registered L d) :
    ∃ t, L.registry.tree? (Embedded.ofTag host l e body).key = some t ∧
      Stmt.AlikeAll (Stmt.detachList host (.extend l e :: body)).1 t.body ∧
      ∀ d ∈ (Stmt.detachList host (.extend l e :: body)).2, S.Registered L d := by
  have hall : ((Stmt.embed l e body).detach host).2 =
      (Stmt.detachList host body).2 ++ [Embedded.ofTag host l e body] := by
    rw [Stmt.detach]
    rfl
  rw [hall, List.forall_mem_append, List.forall_mem_singleton] at hregistered
  obtain ⟨hinner, hembeds, t, ht⟩ := hregistered
  exact ⟨t, ht, h.alike htold hembeds ht, hinner⟩

/-- What loading a registered embed gives and changes: the check of its tree decides. -/
theorem Steady.load_embed {w : World} (h : S.Steady w.toLibrary) (htold : S.Told)
    {host : Option String} {l : Nat} {e : Expr} {body : List Stmt}
    (hregistered : ∀ d ∈ ((Stmt.embed l e body).detach host).2, S.Registered w.toLibrary d) :
    ∃ t : Template, Stmt.AlikeAll (Stmt.detachList host (.extend l e :: body)).1 t.body ∧
      (∀ d ∈ (Stmt.detachList host (.extend l e :: body)).2, S.Registered w.toLibrary d) ∧
      ((∃ f, Load.verdict S.env t = .error f ∧
          Run.exec (Load.embedded [] (Embedded.ofTag host l e body).key) w = (.error f, w)) ∨
        Load.verdict S.env t = .ok () ∧ ∃ i L,
          Run.exec (Load.embedded [] (Embedded.ofTag host l e body).key) w =
            (.ok i, { w with toLibrary := L }) ∧
          Library.SameButEmbeds w.toLibrary L ∧ i.isEmbed = true ∧
          L.templates.lookup i = some (.ofTree t [] .given)) := by
  obtain ⟨t, htree, hal, hinner⟩ := h.embed_tree htold hregistered
  refine ⟨t, hal, hinner, ?_⟩
  obtain ⟨hnone, -⟩ | ⟨u, hu, hloads⟩ := Load.embedded_apart h.apart
    (Embedded.ofTag host l e body).key
  -- the embed is registered with this tree
  · cases htree.symm.trans hnone
  · cases htree.symm.trans hu
    rw [h.env_eq] at hloads
    refine hloads.imp_right fun ⟨hok, i, L, hexec, hL, hname, hlookup⟩ => ?_
    refine ⟨hok, i, L, hexec, hL, ?_, hlookup⟩
    rw [TemplateId.isEmbed, hname]
    exact Embed.startsWith_key host _

/-- The new template is asked for by its name. -/
theorem Extraction.exec_made (h : S.Extraction S' name child) {w : World} (hw : S'.Steady w.toLibrary) (eng : Engine) :
    Run.exec (Load.template eng [] (.plain name)) w = Run.exec (Load.named [] name) w := by
  have hkey : Load.isKey w.env name = false := by
    rw [Load.isKey, Bool.and_eq_false_iff]
    exact .inr h.isKey_name
  have hloader : (w.env.loader == .absent) = false := by
    obtain ⟨source, t, ht, -⟩ := h.made
    rw [hw.env_eq]
    cases hl : S'.env.loader with
    | absent =>
      have hfind := ht.1
      rw [hl] at hfind
      cases hfind
    | _ => rfl
  rw [Load.exec_plain, hkey, hloader]
  rfl

end Sources

theorem Library.SameButEmbeds.lookup_eq {K L : Library} (h : Library.SameButEmbeds K L)
    {id : TemplateId} (hid : id.isEmbed = false) :
    L.templates.lookup id = K.templates.lookup id := by
  rw [← Library.lookup_plain L hid, h.plain_eq, Library.lookup_plain K hid]

namespace Simulation

open Library (Beside)

variable {S S' : Sources} {name : String} {child : List Stmt} (h : S.Extraction S' name child)

/-- Templates of corresponding trees do the same. -/
theorem templateRel_extracted {k : Known} {t t' : Template}
    (ht : Stmt.Tied name child k.left k.right t.body t'.body) (origin origin' : Origin)
    (module : Option Nat) :
    (extracting h).TemplateRel k { LoadedTemplate.ofTree t [] origin with module }
      { LoadedTemplate.ofTree t' [] origin' with module } where
  body := ht
  stmts := (places_extracting h k).tied none ht
  blocks := by
    have hblocks := ((places_extracting h k).tied none ht).blocks
    refine List.forall₂_map_left_iff.2 (List.forall₂_map_right_iff.2 (hblocks.imp ?_))
    exact fun b b' hb => ⟨hb.2.1, hb.2.2.1⟩
  globals := rfl
  module := rfl

/-- Corresponding templates are there on both sides and do the same. -/
theorem template_extracting {k : Known} {L L' : Library} (hL : Beside S S' name child k L L')
    {i i' : TemplateId} (hi : (extracting h).same k i i') :
    (L.templates.lookup i = none ∧ L'.templates.lookup i' = none) ∨
      ∃ t t', L.templates.lookup i = some t ∧ L'.templates.lookup i' = some t' ∧
        (extracting h).TemplateRel k t t' := by
  obtain ⟨rfl, hother⟩ | ⟨-, -, hpair⟩ := hi
  · -- what is cached on one side is cached on the other
    have hne {n : String} (hid : i' = ⟨some n, 0⟩) : n ≠ name := by
      rintro rfl
      rw [hid] at hother
      exact hother.2 rfl
    cases ht : L.templates.lookup i' with
    | none =>
      cases ht' : L'.templates.lookup i' with
      | none => exact .inl ⟨rfl, rfl⟩
      | some t' =>
        obtain ⟨n, hid, hcached'⟩ := hL.right.cached_of_lookup hother.1 ht'
        rw [hL.cached_eq n (hne hid)] at hcached'
        obtain ⟨-, _, _, -, hholds⟩ := hL.left.cached hcached'
        obtain ⟨module, hlookup⟩ := hholds.lookup
        rw [← hid, ht] at hlookup
        cases hlookup
    | some t =>
      obtain ⟨n, rfl, hcached⟩ := hL.left.cached_of_lookup hother.1 ht
      have hcached' := hcached
      rw [← hL.cached_eq n (hne rfl)] at hcached'
      obtain ⟨-, source, p, hgives, hholds⟩ := hL.left.cached hcached
      obtain ⟨-, source', p', hgives', hholds'⟩ := hL.right.cached hcached'
      obtain ⟨module, hlookup⟩ := hholds.lookup
      obtain ⟨module', hlookup'⟩ := hholds'.lookup
      -- both were read from their sources, which are tied to each other, and have the same module
      have hmodule : module' = module := hL.module_eq hother hlookup hlookup'
      have hasked : n ∈ S.names := hL.left.asked _ (mem_of_lookup hcached)
      obtain ⟨_, q, _, q', hq, hq', htied⟩ | ⟨-, hnone⟩ := h.gives hasked
      · obtain ⟨rfl, rfl⟩ := hgives.unique hq
        obtain ⟨rfl, rfl⟩ := hgives'.unique hq'
        have hknown (e : Embedded) (he : e ∈ q.embeds) : k.left e :=
          (hL.known_left e).2 (hholds.registered hasked hgives e he)
        have hknown' (e : Embedded) (he : e ∈ q'.embeds) : k.right e :=
          (hL.known_right e).2 (hholds'.registered (h.mem_names hasked) hgives' e he)
        rw [hlookup] at ht
        cases ht
        rw [hmodule] at hlookup'
        exact .inr ⟨_, _, rfl, hlookup',
          templateRel_extracted h (htied.mono hknown hknown') _ _ module⟩
      · exact absurd hgives (hnone source p)
  · obtain ⟨-, -, t, t', origin, ht, ht', htied⟩ := hL.paired hpair
    exact .inr ⟨_, _, ht, ht', templateRel_extracted h htied _ _ none⟩

/-! ## Loading by name -/

/-- Nothing but registrations changes on either side. -/
theorem beside_rejecting {k : Known} {K K' L L' : Library} (hK : Beside S S' name child k K K')
    (hL : S.Rejecting K L) (hL' : S'.Rejecting K' L') :
    Beside S S' name child (Library.knownAfter S S' k L L') L L' := by
  refine hK.after hL.later hL'.later (fun n hn => ?_) (fun hid => ?_) ?_
  · rw [hL.cache_eq, hL'.cache_eq]
    exact hK.cached_eq n hn
  · rw [hL.templates_eq, hL'.templates_eq]
    exact hK.module_eq hid
  · rw [hL'.templates_eq]
    exact hK.unused

include h in
/-- A template is read on both sides. -/
theorem beside_reading {k : Known} {K K' L L' : Library} (hK : Beside S S' name child k K K')
    {n : String} (hn : n ≠ name) {source source' : FoundSource} {p p' : Parsed}
    (hL : S.Reading n source p K L) (hL' : S'.Reading n source' p' K' L') :
    Beside S S' name child (Library.knownAfter S S' k L L') L L' := by
  refine hK.after hL.later hL'.later (fun m hm => ?_) (fun {id} hid t t' ht ht' => ?_) fun ht' => ?_
  · by_cases hmn : m = n
    · rw [hmn, hL.cached, hL'.cached]
    · rw [hL.others m hmn, hL'.others m hmn]
      exact hK.cached_eq m hm
  · obtain ⟨m, rfl, -⟩ := hL.steady.cached_of_lookup hid.1 ht
    obtain hold | ⟨rfl, hnew, rfl⟩ := hL.lookup_before hK.left hid.1 ht
    · obtain hold' | ⟨rfl, hnew', -⟩ := hL'.lookup_before hK.right hid.1 ht'
      · exact hK.module_eq hid hold hold'
      · -- what is new on the right is not there on the left
        obtain ⟨_, hid', hcached⟩ := hK.left.cached_of_lookup hid.1 hold
        cases hid'
        rw [hK.cached_eq m hn, hcached] at hnew'
        cases hnew'
    · rw [← hK.cached_eq m hn] at hnew
      rw [hL'.new hnew] at ht'
      cases ht'
      rfl
  · obtain hold | ⟨heq, -⟩ := hL'.lookup_before hK.right h.isKey_name ht'
    · exact hK.unused hold
    · exact absurd heq.symm hn

theorem loaded_extracting {k : Known} {n : String} (hn : n ∈ S.names) :
    (extracting h).Loaded k ⟨some n, 0⟩ ⟨some n, 0⟩ := by
  have hother : TemplateId.OtherThan name ⟨some n, 0⟩ :=
    ⟨h.isKey hn, fun heq => h.ne hn (Option.some.inj heq)⟩
  exact ⟨.inl ⟨rfl, hother⟩, rfl, .inr ⟨rfl, hother⟩⟩

/-- A name that may be asked for leads to the same template before and after. -/
theorem sim_named_extracting {k : Known} {n : String} (hn : n ∈ S.names) :
    (extracting h).Sim k (Load.named [] n) (Load.named [] n) (extracting h).Loaded := by
  intro w w' hw
  right
  have hK : Beside S S' name child k w.toLibrary w'.toLibrary := hw.library
  obtain ⟨source, p, source', p', hgives, hgives', htied⟩ | ⟨hfind, hnone⟩ := h.gives hn
  · have hleft := hK.left.named h.registry hgives (h.isKey hn) hn
    have hright := hK.right.named h.registry' hgives' (h.isKey hn) (h.mem_names hn)
    rw [h.env_eq] at hright
    -- what the check says depends on the trees alone
    have hverdicts := verdict_extracted h (k := ⟨(· ∈ p.embeds), (· ∈ p'.embeds), fun _ _ => False, 0⟩)
      htied
    obtain ⟨hok, hok'⟩ | ⟨f, f', herror, herror', hfault⟩ := hverdicts
    · obtain ⟨_, _, hbad, -⟩ | ⟨-, L, hexec, hL⟩ := hleft
      · cases hok.symm.trans hbad
      obtain ⟨_, _, hbad, -⟩ | ⟨-, L', hexec', hL'⟩ := hright
      · cases hok'.symm.trans hbad
      have hafter := beside_reading h hK (h.ne hn) hL hL'
      have hle := hK.le_after hL.later hL'.later
      rw [hexec, hexec']
      exact .done hle (hw.later hle hafter hw.live fun _ hm => hm.elim) (loaded_extracting h hn)
    · obtain ⟨_, L, hbad, hexec, hL⟩ | ⟨hok, -⟩ := hleft
      · cases herror.symm.trans hbad
        obtain ⟨_, L', hbad', hexec', hL'⟩ | ⟨hok', -⟩ := hright
        · cases herror'.symm.trans hbad'
          have hafter := beside_rejecting hK hL hL'
          have hle := hK.le_after hL.later hL'.later
          rw [hexec, hexec']
          exact .failed hle (hw.later hle hafter hw.live fun _ hm => hm.elim) hfault
        · cases herror'.symm.trans hok'
      · cases herror.symm.trans hok
  · obtain ⟨f, hexec, hexec'⟩ := hK.left.exec_unreadable hK.right h.env_eq hfind hnone
    rw [hexec, hexec']
    exact .failed ((extracting h).le_refl k) hw (.refl f fun _ _ _ => trivial)

/-! ## Loading by tag -/

/-- Loading an embed leaves alone what is read from sources. -/
theorem beside_embed {k : Known} {K K' L : Library} (hK : Beside S S' name child k K K')
    (hL : Library.SameButEmbeds K L) {L' : Library} (hL' : S'.Later K' L')
    (hcached : ∀ n, n ≠ name → L'.cache.entries.lookup n = K'.cache.entries.lookup n)
    (hlookup : ∀ {id : TemplateId}, id.OtherThan name → ∀ {t : LoadedTemplate},
      L'.templates.lookup id = some t → K'.templates.lookup id = some t)
    (hunused : ∀ {t : LoadedTemplate}, L'.templates.lookup ⟨some name, 0⟩ = some t →
      t.module = none) : Beside S S' name child (Library.knownAfter S S' k L L') L L' := by
  refine hK.after (hK.left.later hL) hL' (fun n hn => ?_) (fun {id} hid t t' ht ht' => ?_) hunused
  · rw [hcached n hn, hL.cache_eq]
    exact hK.cached_eq n hn
  · rw [hL.lookup_eq hid.1] at ht
    exact hK.module_eq hid ht (hlookup hid ht')

/-- Templates of corresponding trees are loaded in the same place. -/
theorem done_extracting {k l : Known} {w w' : World} (hw : (extracting h).Rel k w w') (hle : k.Le l)
    (hlive : l.live = k.live) {L L' : Library} (hL : Beside S S' name child l L L')
    {i i' : TemplateId} (hi : i.isEmbed = true) (hi' : i'.isEmbed = true ∨ i'.name = some name)
    {t t' : Template} {origin : Origin} (ht : L.templates.lookup i = some (.ofTree t [] .given))
    (ht' : L'.templates.lookup i' = some (.ofTree t' [] origin))
    (htied : Stmt.Tied name child l.left l.right t.body t'.body) :
    (extracting h).Outcome k (extracting h).same (.ok i, { w with toLibrary := L })
      (.ok i', { w' with toLibrary := L' }) := by
  have hle' : k.Le (l.pairing i i') := (extracting h).le_trans hle (l.le_pairing i i')
  have hlive' (a : Nat) (ha : a < (l.pairing i i').live) : a < w.activations.size := by
    refine hw.live a ?_
    change a < l.live at ha
    rw [hlive] at ha
    exact ha
  refine .done hle' (hw.later hle' (hL.pair hi hi' ht ht' htied) hlive' fun _ hm => hm.elim) ?_
  exact .inr ⟨hi, hi', .inr ⟨rfl, rfl⟩⟩

/-- The tag of an embed leads to an embed of the corresponding tree. -/
theorem sim_tag_extracting {k : Known} {key key' : String} (htag : Known.Tag name child k key key') :
    (extracting h).Sim k (Load.embedded [] key) (Load.embedded [] key') (extracting h).same := by
  intro w w' hw
  right
  have hK : Beside S S' name child k w.toLibrary w'.toLibrary := hw.library
  obtain @⟨host, host', l, l', e, e', body, body', he, hbody, hleft, hright⟩ := htag
  obtain ⟨t, hal, hinner, hloads⟩ := hK.left.load_embed h.told fun d hd =>
    (hK.known_left d).1 (hleft d hd)
  obtain ⟨t', hal', hinner', hloads'⟩ := hK.right.load_embed h.told' fun d hd =>
    (hK.known_right d).1 (hright d hd)
  rw [h.env_eq] at hloads'
  have htied : Stmt.Tied name child k.left k.right t.body t'.body :=
    ⟨host, host', _, _, .cons (.extend he) hbody, fun d hd => (hK.known_left d).2 (hinner d hd),
      fun d hd => (hK.known_right d).2 (hinner' d hd), hal, hal'⟩
  -- the check passes both trees, or refuses both with corresponding faults
  obtain ⟨hok, hok'⟩ | ⟨f, f', herror, herror', hfault⟩ := verdict_extracted h htied
  · obtain ⟨_, hbad, -⟩ | ⟨-, i, L, hexec, hL, hi, hlookup⟩ := hloads
    · cases hok.symm.trans hbad
    obtain ⟨_, hbad, -⟩ | ⟨-, i', L', hexec', hL', hi', hlookup'⟩ := hloads'
    · cases hok'.symm.trans hbad
    have hlater' := hK.right.later hL'
    have hmade : TemplateId.isEmbed ⟨some name, 0⟩ = false := h.isKey_name
    have hafter : Beside S S' name child (Library.knownAfter S S' k L L') L L' := by
      refine beside_embed hK hL hlater' (fun n _ => ?_) (fun hid _ ht => ?_) fun ht => ?_
      · rw [hL'.cache_eq]
      · rwa [hL'.lookup_eq hid.1] at ht
      · rw [hL'.lookup_eq hmade] at ht
        exact hK.unused ht
    have hle := hK.le_after (hK.left.later hL) hlater'
    rw [hexec, hexec']
    exact done_extracting h hw hle rfl hafter hi (.inl hi') hlookup hlookup'
      (htied.mono hle.left hle.right)
  · obtain ⟨_, hbad, hexec⟩ | ⟨hok, -⟩ := hloads
    · cases herror.symm.trans hbad
      obtain ⟨_, hbad', hexec'⟩ | ⟨hok', -⟩ := hloads'
      · cases herror'.symm.trans hbad'
        rw [hexec, hexec']
        exact .failed ((extracting h).le_refl k) hw hfault
      · cases herror'.symm.trans hok'
    · cases herror.symm.trans hok

/-- The tag of an embed leads to the tree of the template that is included instead. -/
theorem sim_child_extracting {k : Known} {key : String} (hchild : Known.Child child k key)
    (eng : Engine) :
    (extracting h).Sim k (Load.embedded [] key) (Load.template eng [] (.plain name))
      (extracting h).same := by
  intro w w' hw
  right
  have hK : Beside S S' name child k w.toLibrary w'.toLibrary := hw.library
  obtain @⟨host, l, e, body, htree, hleft⟩ := hchild
  obtain ⟨t, hal, hinner, hloads⟩ := hK.left.load_embed h.told fun d hd =>
    (hK.known_left d).1 (hleft d hd)
  obtain ⟨source, p, hgives, hmade⟩ := h.made_tied
  have hnamed := hK.right.named h.registry' hgives h.isKey_name h.name_mem
  rw [h.env_eq] at hnamed
  rw [h.exec_made hK.right]
  have htied := hmade htree (fun d hd => (hK.known_left d).2 (hinner d hd)) hal
  have hverdicts := verdict_extracted h (k := { k with right := (· ∈ p.embeds) }) htied
  obtain ⟨hok, hok'⟩ | ⟨f, f', herror, herror', hfault⟩ := hverdicts
  · obtain ⟨_, hbad, -⟩ | ⟨-, i, L, hexec, hL, hi, hlookup⟩ := hloads
    · cases hok.symm.trans hbad
    obtain ⟨_, _, hbad, -⟩ | ⟨-, L', hexec', hL'⟩ := hnamed
    · cases hok'.symm.trans hbad
    -- the new template has no module, since it is never asked for one
    have hunused {u : LoadedTemplate} (hu : L'.templates.lookup ⟨some name, 0⟩ = some u) :
        u.module = none := by
      obtain hold | ⟨-, -, rfl⟩ := hL'.lookup_before hK.right h.isKey_name hu
      · exact hK.unused hold
      · rfl
    have hafter : Beside S S' name child (Library.knownAfter S S' k L L') L L' := by
      refine beside_embed hK hL hL'.later hL'.others (fun {id} hid u hu => ?_) hunused
      obtain ⟨n, rfl, -⟩ := hL'.steady.cached_of_lookup hid.1 hu
      obtain hold | ⟨rfl, -⟩ := hL'.lookup_before hK.right hid.1 hu
      · exact hold
      · exact absurd rfl hid.2
    have hle := hK.le_after (hK.left.later hL) hL'.later
    obtain ⟨-, source₁, p₁, hgives₁, hholds⟩ := hL'.steady.cached hL'.cached
    obtain ⟨rfl, rfl⟩ := hgives.unique hgives₁
    obtain ⟨module, hlookup'⟩ := hholds.lookup
    cases hunused hlookup'
    rw [hexec, hexec']
    exact done_extracting h hw hle rfl hafter hi (.inr rfl) hlookup hlookup'
      (htied.mono hle.left (hholds.registered h.name_mem hgives))
  · obtain ⟨_, hbad, hexec⟩ | ⟨hok, -⟩ := hloads
    · cases herror.symm.trans hbad
      obtain ⟨_, L', hbad', hexec', hL'⟩ | ⟨hok', -⟩ := hnamed
      · cases herror'.symm.trans hbad'
        have hafter : Beside S S' name child (Library.knownAfter S S' k w.toLibrary L')
            w.toLibrary L' := by
          refine hK.after (.refl hK.left) hL'.later (fun n hn => ?_) (fun hid => ?_) ?_
          · rw [hL'.cache_eq]
            exact hK.cached_eq n hn
          · rw [hL'.templates_eq]
            exact hK.module_eq hid
          · rw [hL'.templates_eq]
            exact hK.unused
        have hle := hK.le_after (.refl hK.left) hL'.later
        rw [hexec, hexec']
        exact .failed hle (hw.later hle hafter hw.live fun _ hm => hm.elim) hfault
      · cases herror'.symm.trans hok'
    · cases herror.symm.trans hok

/-! ## The simulation -/

/-- The module of a template that is asked for by its name is remembered on both sides. -/
theorem agree_remember {id : TemplateId} (hid : id.OtherThan name) (m : Nat) :
    (extracting h).Agree (Run.modifyTemplate id fun t => { t with module := some m })
      (Run.modifyTemplate id fun t => { t with module := some m }) := by
  refine .update fun (k : Known) w w' hw => ?_
  have hK : Beside S S' name child k w.toLibrary w'.toLibrary := hw.library
  -- only the entry of this template changes, which is none of those that are paired
  have hchanged (L : Library) (i : TemplateId) := Library.lookup_change id
    (fun t => { t with module := some m }) L.templates i
  have hnew : (⟨some name, 0⟩ : TemplateId) ≠ id := fun heq => hid.2 (heq ▸ rfl)
  have hkept (L : Library) {i : TemplateId} (hi : i ≠ id) :
      (L.templates.map fun e => if e.1 == id then (e.1, { e.2 with module := some m }) else e).lookup
        i = L.templates.lookup i := by
    rw [hchanged, beq_false_of_ne hi]
    simp
  have hlibrary : Beside S S' name child k
      { w.toLibrary with templates := w.templates.map fun e =>
        if e.1 == id then (e.1, { e.2 with module := some m }) else e }
      { w'.toLibrary with templates := w'.templates.map fun e =>
        if e.1 == id then (e.1, { e.2 with module := some m }) else e } := {
    left := hK.left.remember hid.1 m
    right := hK.right.remember hid.1 m
    capacity_eq := hK.capacity_eq
    known_left := hK.known_left
    known_right := hK.known_right
    cached_eq := hK.cached_eq
    module_eq := fun {i} hi t t' ht ht' => by
      by_cases heq : i = id
      · rw [heq, hchanged, beq_self_eq_true, Option.map_eq_some_iff] at ht ht'
        obtain ⟨u, -, rfl⟩ := ht
        obtain ⟨u', -, rfl⟩ := ht'
        rfl
      · rw [hkept _ heq] at ht ht'
        exact hK.module_eq hi ht ht'
    unused := fun ht => hK.unused ((hkept _ hnew).symm.trans ht)
    paired := fun {i i'} hi => by
      obtain ⟨hembed, hembed', t, t', origin, ht, ht', htied⟩ := hK.paired hi
      have hne : i ≠ id := by
        rintro rfl
        rw [hid.1] at hembed
        cases hembed
      have hne' : i' ≠ id := by
        rintro rfl
        obtain hembed' | hname := hembed'
        · rw [hid.1] at hembed'
          cases hembed'
        · exact hid.2 hname
      exact ⟨hembed, hembed', t, t', origin, (hkept _ hne).trans ht, (hkept _ hne').trans ht',
        htied⟩ }
  exact { hw with library := hlibrary }

/-- Loading does the same before and after, as long as no key is asked for by name. -/
theorem extracting_laws : (extracting h).Laws where
  template hL hi := template_extracting h hL hi
  named {k s} _ := by
    by_cases hs : s ∈ S.names
    · exact .inr (sim_named_extracting h hs)
    · exact .inl hs
  embedded _ hkey := .inl fun hs => Bool.false_ne_true ((h.isKey hs).symm.trans hkey)
  tag {k key key' eng eng'} htag := by
    refine Sim.read_bind fun w w' hw => ?_
    have hK : Beside S S' name child k w.toLibrary w'.toLibrary := hw.library
    rw [hK.left.env_eq, hK.right.env_eq, h.registry, h.registry']
    exact sim_tag_extracting h htag
  child {k key n eng eng'} hchild := by
    obtain ⟨rfl, hchild⟩ := hchild
    refine Sim.read_left fun w w' hw => ?_
    have hK : Beside S S' n child k w.toLibrary w'.toLibrary := hw.library
    rw [hK.left.env_eq, h.registry]
    exact sim_child_extracting h hchild eng'
  missing _ _ := trivial
  module m hid := agree_remember h hid m

/-- Bodies of templates do the same before and after. -/
theorem extracting_ownLaw : (extracting h).OwnLaw :=
  ownLaw_of_extends (extracting_laws h) fun {k _ _} hroot a c _ _ =>
    (places_extracting h k).tied (some (a, c)) hroot

end Simulation

end Stencil
