import Stencil.Proofs.Simulation.Calls
import Stencil.Render.Machine

/-!
# Loading templates, contexts and modules

Where templates come from is what may differ most between two runs, so that a simulation has to say
for itself that loading does the same on both sides: this is what its `Laws` are. From them follows
what including, importing and extending a template do, and how contexts and modules are made.
-/

namespace Stencil

namespace Simulation

variable {S : Simulation} {eng eng' : Engine} {k : S.Stage}

/-- A template that is the same on both sides. -/
structure Common (S : Simulation) (k : S.Stage) (id : TemplateId) : Prop where
  shared : S.shared id
  same : S.same k id id

/-- Templates that were asked for by a name: unless they must not be extended or asked for their
modules, they are the same on both sides. -/
structure Loaded (S : Simulation) (k : S.Stage) (i i' : TemplateId) : Prop where
  same : S.same k i i'
  name_eq : i'.name = i.name
  common : S.bad (.attachment i.name) ∨ i' = i ∧ S.shared i

/-- What a simulation says of loading. -/
structure Laws (S : Simulation) : Prop where
  /-- Corresponding templates are there on both sides and do the same. -/
  template : ∀ {k L L' i i'}, S.library k L L' → S.same k i i' →
    (L.templates.lookup i = none ∧ L'.templates.lookup i' = none) ∨
      ∃ t t', L.templates.lookup i = some t ∧ L'.templates.lookup i' = some t' ∧
        S.TemplateRel k t t'
  /-- A name leads to corresponding templates. -/
  named : ∀ {k s}, S.dynamic ∨ S.names s → S.bad (.request s) ∨
    S.Sim k (Load.named [] s) (Load.named [] s) S.Loaded
  /-- A key that is asked for by name leads to corresponding embedded templates. -/
  embedded : ∀ {k s}, S.dynamic ∨ S.names s → Text.startsWith s.toList Embed.keyStart.toList = true →
    S.bad (.request s) ∨ S.Sim k (Load.embedded [] s) (Load.embedded [] s) S.Loaded
  /-- The tag of an embed leads to corresponding templates. -/
  tag : ∀ {k key key' eng eng'}, S.tag k key key' →
    S.Sim k (Load.ofTag eng key) (Load.ofTag eng' key') S.same
  /-- The tag of an embed leads to what the inclusion of a name does. -/
  child : ∀ {k key name eng eng'}, S.child k key name →
    S.Sim k (Load.ofTag eng key) (Load.template eng' [] (.plain name)) S.same
  /-- Nothing is known of what computed names lead to. -/
  missing : S.dynamic → ∀ d, S.missing d
  /-- Modules of templates are remembered on both sides. -/
  module : ∀ {id} (m : Nat), S.shared id →
    S.Agree (Run.modifyTemplate id fun t => { t with module := some m })
      (Run.modifyTemplate id fun t => { t with module := some m })

theorem Common.later {l : S.Stage} (hk : S.le k l) {id : TemplateId} (h : S.Common k id) :
    S.Common l id :=
  ⟨h.shared, S.same_mono hk h.same⟩

theorem Common.loaded {id : TemplateId} (h : S.Common k id) : S.Loaded k id id :=
  ⟨h.same, rfl, .inr ⟨rfl, h.shared⟩⟩

theorem Loaded.later {l : S.Stage} (hk : S.le k l) {i i' : TemplateId} (h : S.Loaded k i i') :
    S.Loaded l i i' :=
  ⟨S.same_mono hk h.same, h.name_eq, h.common⟩

/-- What a template is used for where it has to be the same on both sides. -/
theorem Loaded.attach {α β : Type} {V : S.Stage → α → β → Prop} {i i' : TemplateId}
    (h : S.Loaded k i i') {x : Run α} {x' : Run β}
    (hx : i' = i → S.Common k i → S.Sim k x x' V) :
    S.Sim k (do Run.record (.attachment i.name); x) (do Run.record (.attachment i'.name); x') V := by
  refine Sim.record_bind ?_
  obtain hbad | ⟨heq, hshared⟩ := h.common
  · exact .inl hbad
  · have hsame := h.same
    rw [heq] at hsame
    exact .inr (hx heq ⟨hshared, hsame⟩)

/-! ## Templates that are asked for -/

theorem sim_notName (hS : S.Laws) (h : S.EngRel eng eng') (hd : S.dynamic) (v : Value) :
    S.Sim k (Load.notName eng v) (Load.notName eng' v) S.Loaded := by
  refine Sim.read_bind fun w w' hw => ?_
  rw [S.library_loader hw.library, S.library_capacity hw.library]
  split
  · exact Sim.accident _
  · refine Sim.agree_bind (agree_checkKey _ v) fun l _ _ => ?_
    split
    · exact Sim.accident _
    · exact Sim.agree_bind (agree_str h v) fun _ _ _ => Sim.throw (.notFound (hS.missing hd _) _)

/-- Values by which templates may be asked for. -/
def Names (S : Simulation) (v : Value) : Prop :=
  S.dynamic ∨ ∃ s safe, v = .text s safe ∧ S.names s

theorem Names.text {s : String} {safe : Bool} (h : S.Names (.text s safe)) :
    S.dynamic ∨ S.names s := by
  refine h.imp_right ?_
  rintro ⟨s', safe', hs, hnames⟩
  cases hs
  exact hnames

/-- A value names the same template for the loader on both sides. -/
theorem sim_fromLoader (hS : S.Laws) (h : S.EngRel eng eng') {v : Value} (hv : S.Names v) :
    S.Sim k (Load.fromLoader eng [] v) (Load.fromLoader eng' [] v) S.Loaded := by
  refine Sim.read_bind fun w w' hw => ?_
  rw [S.library_loader hw.library]
  split
  · exact Sim.throw .noLoader
  split
  · exact Sim.record_bind (hS.named hv.text)
  · exact sim_failUndefined _
  · rename_i htext _
    obtain hd | ⟨s, safe, rfl, -⟩ := hv
    · exact sim_notName hS h hd v
    · exact absurd rfl (htext s safe)

theorem sim_loadTemplate (hS : S.Laws) (h : S.EngRel eng eng') {v : Value} (hv : S.Names v) :
    S.Sim k (Load.template eng [] v) (Load.template eng' [] v) S.Loaded := by
  unfold Load.template
  split
  · refine Sim.read_bind fun w w' hw => ?_
    rw [S.library_flavour hw.library]
    split
    · rename_i hkey
      exact Sim.record_bind (hS.embedded hv.text (Bool.and_eq_true_iff.1 hkey).2)
    · exact sim_fromLoader hS h hv
  · exact sim_fromLoader hS h hv

/-- Templates that may be missing on both sides. -/
inductive LoadedOption (S : Simulation) (k : S.Stage) : Option TemplateId → Option TemplateId → Prop
  | none : LoadedOption S k none none
  | some {i i' : TemplateId} (h : S.Loaded k i i') : LoadedOption S k (some i) (some i')

theorem sim_candidate (hS : S.Laws) (h : S.EngRel eng eng') {v : Value} (hv : S.Names v) :
    S.Sim k (Load.candidate eng v) (Load.candidate eng' v) S.LoadedOption := by
  refine Sim.handle ?_ (fun l _ f f' hf => ?_) fun _ _ => rfl
  · exact (sim_fromLoader hS h hv).bind fun l _ i i' hi => Sim.pure (.some hi)
  · cases hf with
    | notFound hm d => exact Sim.pure .none
    | noneFound hm => exact Sim.pure .none
    | undefined hm => exact Sim.pure .none
    | syntaxError hl f => exact Sim.throw (.syntaxError hl f)
    | runtime hm => exact Sim.throw (.runtime hm)
    | filterArgument m => exact Sim.throw (.filterArgument m)
    | noLoader => exact Sim.throw .noLoader
    | accident a => exact Sim.throw (.accident a)
    | notConstant => exact Sim.throw .notConstant

theorem sim_firstOf (hS : S.Laws) (h : S.EngRel eng eng') (hd : S.dynamic) (vs : List Value) :
    S.Sim k (Load.firstOf eng vs) (Load.firstOf eng' vs) S.LoadedOption := by
  induction vs generalizing k with
  | nil => exact Sim.pure .none
  | cons v vs ih =>
    refine (sim_candidate hS h (.inl hd)).bind fun l _ o o' ho => ?_
    cases ho with
    | none => exact ih
    | some hi => exact Sim.pure (.some hi)

theorem sim_mention (h : S.EngRel eng eng') (v : Value) :
    S.Sim k (Load.mention eng v) (Load.mention eng' v) fun _ s s' => S.Alike s s' := by
  unfold Load.mention
  split
  · exact sim_describe _
  · refine (agree_str h v k).imp fun _ _ s s' hs => ?_
    rw [hs]
    exact .refl s

theorem alike_intercalate (separator : String) {ps ps' : List String}
    (h : List.Forall₂ S.Alike ps ps') :
    S.Alike (String.intercalate separator ps) (String.intercalate separator ps') := by
  induction h with
  | nil => exact .refl _
  | cons hp hps ih =>
    cases hps with
    | nil =>
      rw [String.intercalate_singleton, String.intercalate_singleton]
      exact hp
    | cons hq hqs =>
      rw [String.intercalate_cons_cons, String.intercalate_cons_cons]
      exact .append (.append hp (.refl separator)) ih

theorem sim_mentions (h : S.EngRel eng eng') (vs : List Value) :
    S.Sim k (vs.mapM (Load.mention eng)) (vs.mapM (Load.mention eng'))
      fun _ ps ps' => List.Forall₂ S.Alike ps ps' := by
  induction vs generalizing k with
  | nil => exact Sim.pure .nil
  | cons v vs ih =>
    rw [List.mapM_cons, List.mapM_cons]
    exact (sim_mention h v).bind fun _ _ _ _ hp => ih.bind fun _ _ _ _ hps => Sim.pure (.cons hp hps)

theorem sim_noneOf (h : S.EngRel eng eng') (names : Value) (items : List Value) :
    S.Sim k (Load.noneOf eng names items) (Load.noneOf eng' names items) S.Loaded := by
  have hnone : S.Sim k
      (do throw (.noneFound ("none of the templates given were found: " ++
        Datum.commaJoin (← items.mapM (Load.mention eng)))) : Run TemplateId)
      (do throw (.noneFound ("none of the templates given were found: " ++
        Datum.commaJoin (← items.mapM (Load.mention eng'))))) S.Loaded :=
    (sim_mentions h items).bind fun _ _ _ _ hps =>
      Sim.throw (.noneFound (.append (.refl _) (alike_intercalate _ hps)))
  unfold Load.noneOf
  split
  case h_5 => exact Sim.accident _
  case h_6 => exact Sim.badType
  all_goals exact hnone

theorem sim_select (hS : S.Laws) (h : S.EngRel eng eng') (hd : S.dynamic) (names : Value) :
    S.Sim k (Load.select eng names) (Load.select eng' names) S.Loaded := by
  refine Sim.agree_bind (agree_truth h names) fun l _ b => ?_
  split
  · refine Sim.agree_bind (agree_itemsOf h names) fun l' _ items => ?_
    refine (sim_firstOf hS h hd items).bind fun m _ o o' ho => ?_
    cases ho with
    | some hi => exact Sim.pure hi
    | none => exact sim_noneOf h names items
  · exact Sim.throw (.refl _ nofun)

theorem sim_templateOrFirst (hS : S.Laws) (h : S.EngRel eng eng') {v : Value} (hv : S.Names v) :
    S.Sim k (Load.templateOrFirst eng v) (Load.templateOrFirst eng' v) S.Loaded := by
  unfold Load.templateOrFirst
  split
  · exact sim_loadTemplate hS h hv
  · exact sim_loadTemplate hS h hv
  · rename_i htext _
    obtain hd | ⟨s, safe, rfl, -⟩ := hv
    · exact sim_select hS h hd v
    · exact absurd rfl (htext s safe)

/-- The value of a literal text. -/
theorem evaluate_text (eng : Engine) (f : Frame) (l : Nat) (s : String) :
    Run.evaluate eng f (.const l (.text s)) = pure (.plain s) := by
  unfold Run.evaluate
  rfl

/-- Expressions that name templates do so on both sides. -/
theorem sim_evaluateName (h : S.EngRel eng eng') (f : Frame) {host : Option String}
    (hhost : S.host f.host host) {e e' : Expr} (he : S.Allowed e e') :
    S.Sim k (Run.evaluate eng f e) (Run.evaluate eng' (S.frame f host) e')
      fun _ v v' => v' = v ∧ S.Names v := by
  obtain ⟨hd, he⟩ | ⟨l, l', s, -, hs, rfl, rfl⟩ := he
  · exact (agree_evaluate h f hhost he k).imp fun _ _ _ _ hv => ⟨hv, .inl hd⟩
  · rw [evaluate_text, evaluate_text]
    exact Sim.pure ⟨rfl, .inr ⟨s, false, rfl, hs⟩⟩

/-! ## Contexts -/

theorem sim_template (hS : S.Laws) {i i' : TemplateId} (hi : S.same k i i') :
    S.Sim k (Run.template i) (Run.template i') fun l t t' => S.TemplateRel l t t' :=
  Sim.read_bind fun w w' hw => by
    obtain ⟨ht, ht'⟩ | ⟨t, t', ht, ht', hrel⟩ := hS.template hw.library hi
    · rw [ht, ht']
      exact Sim.accident _
    · rw [ht, ht']
      exact Sim.pure hrel

theorem globalsOf_eq {t t' : LoadedTemplate} (ht : S.TemplateRel k t t') :
    Load.globalsOf t' = Load.globalsOf t := by
  rw [Load.globalsOf, Load.globalsOf, ht.globals]

/-- A block that a template defines on its own. -/
theorem defsRel_single {i i' : TemplateId} (hi : S.same k i i') (name : String) :
    S.DefsRel k [⟨i, name⟩] [⟨i', name⟩] := by
  refine ⟨.cons ⟨rfl, hi⟩ .nil, fun {a b d e d' e'} ha hb ha' hb' => ?_⟩
  rw [List.getElem?_singleton] at ha hb ha' hb'
  grind

theorem tableRel_own {i i' : TemplateId} (hi : S.same k i i') {bs bs' : List (String × List Stmt)}
    (h : Keyed (S.StmtsRel k none) bs bs') :
    S.TableRel k (bs.map fun b => (b.1, [⟨i, b.1⟩])) (bs'.map fun b => (b.1, [⟨i', b.1⟩])) := by
  induction h with
  | nil => exact .nil
  | cons hb _ ih =>
    rw [List.map_cons, List.map_cons, hb.1]
    exact .cons ⟨rfl, defsRel_single hi _⟩ ih

theorem sim_contextFor (hS : S.Laws) {i i' : TemplateId} (hi : S.same k i i')
    (parent : List (String × Value)) :
    S.Sim k (Run.contextFor i parent) (Run.contextFor i' parent)
      fun _ a b => b = a ∧ S.pins a = none := by
  refine (sim_template hS hi).bind fun l hl t t' ht => Sim.read_bind fun w w' hw => ?_
  rw [globalsOf_eq ht, S.library_options hw.library]
  exact sim_newContext (.mk _ _ _ (S.same_host hi) (tableRel_own (S.same_mono hl hi) ht.blocks))

theorem sim_freshContext (hS : S.Laws) {i i' : TemplateId} (hi : S.same k i i')
    (data : List (String × Value)) :
    S.Sim k (Run.freshContext i data) (Run.freshContext i' data)
      fun _ a b => b = a ∧ S.pins a = none := by
  refine (sim_template hS hi).bind fun l hl t t' ht => ?_
  rw [globalsOf_eq ht]
  exact sim_contextFor hS (S.same_mono hl hi) _

/-! ## Blocks of ancestors -/

theorem DefsRel.length_eq {ds ds' : List BlockDef} (h : S.DefsRel k ds ds') :
    ds'.length = ds.length :=
  h.all.length_eq.symm

/-- A definition of a template that is shared comes after others. -/
theorem DefsRel.append {ds ds' : List BlockDef} (h : S.DefsRel k ds ds') {id : TemplateId}
    (hid : S.Common k id) (name : String) :
    S.DefsRel k (ds ++ [⟨id, name⟩]) (ds' ++ [⟨id, name⟩]) := by
  refine ⟨List.rel_append h.all (.cons ⟨rfl, hid.same⟩ .nil), fun {i j d e d' e'} hd he hd' he' => ?_⟩
  -- an earlier definition is the new one on the left if and only if it is on the right
  have hnew {n : Nat} {a a' : BlockDef} (ha : ds[n]? = some a) (ha' : ds'[n]? = some a') :
      (a = ⟨id, name⟩ ↔ a' = ⟨id, name⟩) := by
    obtain ⟨hname, hsame⟩ := List.forall₂_iff_get.1 h.all |>.2 n
      (List.getElem?_eq_some_iff.1 ha).1 (List.getElem?_eq_some_iff.1 ha').1
    have hshared := S.same_shared hsame hid.shared
    grind [BlockDef]
  have hlen := h.length_eq
  rw [List.getElem?_append] at hd he hd' he'
  rw [hlen] at hd' he'
  split at hd
  · rename_i hi
    rw [if_pos hi] at hd'
    split at he
    · rename_i hj
      rw [if_pos hj] at he'
      exact h.pattern hd he hd' he'
    · rename_i hj
      rw [if_neg hj] at he'
      have := hnew hd hd'
      grind
  · rename_i hi
    rw [if_neg hi] at hd'
    split at he
    · rename_i hj
      rw [if_pos hj] at he'
      have := hnew he he'
      grind
    · rename_i hj
      rw [if_neg hj] at he'
      grind

/-- The blocks of a template that is shared come after those already there. -/
theorem TableRel.appendAll {id : TemplateId} (hid : S.Common k id)
    {bs bs' : List (String × List Stmt)}
    (hbs : Keyed (S.StmtsRel k none) bs bs')
    {t t' : List (String × List BlockDef)} (h : S.TableRel k t t') :
    S.TableRel k
      (bs.foldl (fun all b => Run.setNamed b.1 ((all.lookup b.1).getD [] ++ [⟨id, b.1⟩]) all) t)
      (bs'.foldl (fun all b => Run.setNamed b.1 ((all.lookup b.1).getD [] ++ [⟨id, b.1⟩]) all) t') := by
  induction hbs generalizing t t' with
  | nil => exact h
  | @cons b b' bs bs' hb _ ih =>
    rw [List.foldl_cons, List.foldl_cons, hb.1]
    refine ih (Keyed.setNamed h b.1 (DefsRel.append ?_ hid b.1))
    obtain ⟨hd, hd'⟩ | ⟨ds, ds', hd, hd', hrel⟩ := Keyed.lookup h b.1
    · rw [hd, hd']
      exact .nil
    · rw [hd, hd']
      exact hrel

/-- A context that is not pinned may get other blocks. -/
theorem sim_modifyContext (cell : Nat) (hpin : S.pins cell = none) {f f' : Context → Context}
    (h : ∀ c c', S.ContextRel k c c' → S.ContextRel k (f c) (f' c')) :
    S.Sim k (Run.modifyContext cell f) (Run.modifyContext cell f') fun _ a b => b = a := by
  refine Sim.imp (Sim.update fun w w' hw => ?_) fun _ _ _ _ _ => rfl
  refine { hw with contexts := hw.contexts.modify cell h, pins := fun i t hi => ?_ }
  obtain ⟨ctx, hctx, ht⟩ := hw.pins i t hi
  refine ⟨ctx, ?_, ht⟩
  change (w.contexts.modify cell f)[i]? = some ctx
  rw [Array.getElem?_modify, if_neg, hctx]
  rintro rfl
  rw [hpin] at hi
  exact nomatch hi

theorem sim_appendBlocks (hS : S.Laws) {context : Nat} (hpin : S.pins context = none)
    {id : TemplateId} (hid : S.Common k id) :
    S.Sim k (Run.appendBlocks context id) (Run.appendBlocks context id) fun _ a b => b = a := by
  refine (sim_template hS hid.same).bind fun l hl t t' ht => ?_
  refine sim_modifyContext context hpin fun c c' hc => ?_
  obtain ⟨name, blocks, hname, hblocks⟩ := hc
  exact .mk _ name _ hname (TableRel.appendAll (hid.later hl) ht.blocks hblocks)

/-! ## Modules -/

theorem agree_localsOf (f : Frame) (host : Option String) :
    S.Agree (Run.localsOf f) (Run.localsOf (S.frame f host)) :=
  Agree.filterMapM (fun _ => (agree_readVariable _ _).bind fun _ => .pure _) f.scope.assigned

theorem agree_knownAt (f : Frame) (host : Option String) :
    S.Agree (Run.knownAt f) (Run.knownAt (S.frame f host)) := by
  refine (agree_localsOf f host).bind fun locals => ?_
  exact agree_context_bind f.context fun _ _ _ => .pure _

theorem sim_makeModule (h : S.EngRel eng eng') {i i' : TemplateId} (hi : S.Loaded k i i')
    {context : Nat} (hpin : S.pins context = none) :
    S.Sim k (Run.makeModule eng i context) (Run.makeModule eng' i' context) fun _ a b => b = a := by
  refine (sim_collect (h.root hi.same hpin)).bind fun l _ body body' hb => ?_
  subst hb
  refine (sim_context context).bind fun m _ c c' hc => ?_
  obtain ⟨_, _, -, -⟩ := hc
  rw [hi.name_eq]
  exact Sim.replace fun _ _ hw =>
    ⟨m, S.le_refl m, { hw with modules := by rw [hw.modules] }, by rw [hw.modules]⟩

theorem sim_sharedModule (hS : S.Laws) (h : S.EngRel eng eng') {i i' : TemplateId}
    (hi : S.Loaded k i i') :
    S.Sim k (Run.sharedModule eng i) (Run.sharedModule eng' i') fun _ a b => b = a := by
  refine hi.attach fun heq hid => ?_
  subst heq
  refine (sim_template hS hid.same).bind fun l hl t t' ht => ?_
  rw [ht.module]
  split
  · exact Sim.pure rfl
  · refine (sim_freshContext hS (S.same_mono hl hid.same) []).bind fun l₁ hl₁ c c' hc => ?_
    obtain ⟨rfl, hpin⟩ := hc
    refine (sim_makeModule h (hid.loaded.later (S.le_trans hl hl₁)) hpin).bind fun l₂ _ m m' hm => ?_
    subst hm
    exact Sim.agree_bind (hS.module _ hid.shared) fun _ _ _ => Sim.pure rfl

theorem sim_moduleFor (hS : S.Laws) (h : S.EngRel eng eng') {i i' : TemplateId}
    (hi : S.Loaded k i i') (context : Nat) :
    S.Sim k (Run.moduleFor eng i context) (Run.moduleFor eng' i' context) fun _ a b => b = a := by
  refine (sim_context context).bind fun l hl c c' hc => ?_
  obtain ⟨_, _, -, -⟩ := hc
  refine (sim_template hS (S.same_mono hl hi.same)).bind fun l₁ hl₁ t t' ht => ?_
  have hi₁ := hi.later (S.le_trans hl hl₁)
  rw [globalsOf_eq ht]
  dsimp only
  split
  · exact sim_sharedModule hS h hi₁
  · refine Sim.agree_bind (Agree.mapM (fun key => ?_) _) fun l₂ hl₂ data => ?_
    · split
      · exact .pure _
      · exact .accident _
    · have hi₂ := hi₁.later hl₂
      refine (sim_freshContext hS hi₂.same data).bind fun l₃ hl₃ d d' hd => ?_
      obtain ⟨rfl, hpin⟩ := hd
      exact sim_makeModule h (hi₂.later hl₃) hpin

end Simulation

end Stencil
