import Stencil.Proofs.Embed.Steady
import Stencil.Proofs.Simulation.Extracted
import Stencil.Proofs.Simulation.Service

/-!
# An embed and the inclusion of a template with its tree

Some embeds are made a template of their own, which is included where they stood. The sources before
and after are asked for the same templates: whatever is loaded on one side is loaded on the other,
the tree of an embed where the new template is read. Keys are different where an embed holds another
one that was replaced, and positions in messages call a template by its key on one side and by its
name on the other.

## Main definitions

- `Sources.Extraction`: sources before and after some embeds are made a template
- `Simulation.extracting`: two runs, before and after

## Key results

- `Simulation.verdict_extracted`: the check says the same of a tree before and after
-/

namespace Stencil

/-! ## Sources before and after -/

namespace Sources

/-- Sources before and after embeds with the tree `child` are made a template called `name`. Every
source that may be asked for can be read on both sides or is the same on both. -/
structure Extraction (S S' : Sources) (name : String) (child : List Stmt) : Prop where
  env_eq : S'.env = S.env
  names_eq : S'.names = name :: S.names
  plain : ∀ n ∈ S'.names, Embed.isKey n = false
  unasked : name ∉ S.names
  registry : S.env.flavour.hasRegistry = true
  unshown : S.env.options.undefinedKind ≠ .debug
  told : S.Told
  told' : S'.Told
  made : ∃ source t, S'.Written name source t ∧ t.body = child
  sources : ∀ n ∈ S.names,
    (∃ source t source' t', S.Written n source t ∧ S'.Written n source' t' ∧
      Stmt.ExtractedAll name child t.body t'.body) ∨
    S'.env.loader.find S'.store n = S.env.loader.find S.store n ∧
      ∀ source t, ¬ S.Written n source t

/-- An embed of one of the sources that is registered. -/
def Registered (S : Sources) (L : Library) (e : Embedded) : Prop :=
  S.Embeds e ∧ ∃ t, L.registry.tree? e.key = some t

theorem Later.registered {S : Sources} {K L : Library} (h : S.Later K L) {e : Embedded}
    (he : S.Registered K e) : S.Registered L e := by
  obtain ⟨hembeds, t, ht⟩ := he
  exact ⟨hembeds, t, h.trees _ t ht⟩

end Sources

/-! ## What is known of the libraries -/

/-- What is known of the libraries before and after: which embeds are registered, which templates
were loaded in the same place, and below which number functions are known to run. -/
structure Known where
  left : Embedded → Prop
  right : Embedded → Prop
  pairs : TemplateId → TemplateId → Prop
  live : Nat

namespace Known

/-- What is known later. -/
structure Le (k l : Known) : Prop where
  left : ∀ e, k.left e → l.left e
  right : ∀ e, k.right e → l.right e
  pairs : ∀ i i', k.pairs i i' → l.pairs i i'
  live : k.live ≤ l.live

/-- Keys of embeds that are the same but for embeds in them that are made a template. -/
inductive Tag (name : String) (child : List Stmt) (k : Known) : String → String → Prop
  | mk {host host' : Option String} {l l' : Nat} {e e' : Expr} {body body' : List Stmt}
      (he : Expr.Alike anyLine e e') (hbody : Stmt.ExtractedAll name child body body')
      (hleft : ∀ d ∈ ((Stmt.embed l e body).detach host).2, k.left d)
      (hright : ∀ d ∈ ((Stmt.embed l' e' body').detach host').2, k.right d) :
      Tag name child k (Embedded.ofTag host l e body).key (Embedded.ofTag host' l' e' body').key

/-- Keys of embeds that are made a template. -/
inductive Child (child : List Stmt) (k : Known) : String → Prop
  | mk {host : Option String} {l : Nat} {e : Expr} {body : List Stmt}
      (htree : Stmt.AlikeAll (.extend l e :: body) child)
      (hleft : ∀ d ∈ ((Stmt.embed l e body).detach host).2, k.left d) :
      Child child k (Embedded.ofTag host l e body).key

variable {name : String} {child : List Stmt} {k l : Known}

theorem Le.tag_mono (h : Le k l) {key key' : String} (hk : Tag name child k key key') :
    Tag name child l key key' := by
  obtain ⟨he, hbody, hleft, hright⟩ := hk
  exact .mk he hbody (fun d hd => h.left d (hleft d hd)) fun d hd => h.right d (hright d hd)

theorem Le.child_mono (h : Le k l) {key : String} (hk : Child child k key) : Child child l key := by
  obtain ⟨htree, hleft⟩ := hk
  exact .mk htree fun d hd => h.left d (hleft d hd)

/-- It is known that a function starts to run. -/
def starting (k : Known) (n : Nat) : Known :=
  { k with live := max k.live (n + 1) }

theorem le_starting (k : Known) (n : Nat) : k.Le (k.starting n) :=
  ⟨fun _ he => he, fun _ he => he, fun _ _ hi => hi, Nat.le_max_left ..⟩

theorem lt_starting (k : Known) (n : Nat) : n < (k.starting n).live :=
  Nat.lt_of_lt_of_le (Nat.lt_succ_self n) (Nat.le_max_right ..)

theorem of_lt_starting (k : Known) (n a : Nat) (ha : a < (k.starting n).live) :
    a < k.live ∨ a ≤ n := by
  change a < max k.live (n + 1) at ha
  omega

/-- It is known that two templates are loaded in the same place. -/
def pairing (k : Known) (i i' : TemplateId) : Known :=
  { k with pairs := fun j j' => k.pairs j j' ∨ j = i ∧ j' = i' }

theorem le_pairing (k : Known) (i i' : TemplateId) : k.Le (k.pairing i i') :=
  ⟨fun _ he => he, fun _ he => he, fun _ _ => .inl, Nat.le_refl _⟩

end Known

/-- A template that is asked for by a name other than the new one. -/
def TemplateId.OtherThan (name : String) (id : TemplateId) : Prop :=
  id.isEmbed = false ∧ id.name ≠ some name

namespace Library

variable {S S' : Sources} {name : String} {child : List Stmt} {k : Known}
  {K K' L L' : Library}

/-- Two libraries before and after. -/
structure Beside (S S' : Sources) (name : String) (child : List Stmt) (k : Known)
    (L L' : Library) : Prop where
  left : S.Steady L
  right : S'.Steady L'
  capacity_eq : L'.cache.capacity = L.cache.capacity
  known_left : ∀ e, k.left e ↔ S.Registered L e
  known_right : ∀ e, k.right e ↔ S'.Registered L' e
  cached_eq : ∀ n, n ≠ name → L'.cache.entries.lookup n = L.cache.entries.lookup n
  module_eq : ∀ {id : TemplateId}, id.OtherThan name → ∀ {t t' : LoadedTemplate},
    L.templates.lookup id = some t → L'.templates.lookup id = some t' → t'.module = t.module
  unused : ∀ {t : LoadedTemplate}, L'.templates.lookup ⟨some name, 0⟩ = some t → t.module = none
  paired : ∀ {i i' : TemplateId}, k.pairs i i' →
    i.isEmbed = true ∧ (i'.isEmbed = true ∨ i'.name = some name) ∧ ∃ t t' origin,
      L.templates.lookup i = some (.ofTree t [] .given) ∧
      L'.templates.lookup i' = some (.ofTree t' [] origin) ∧
      Stmt.Tied name child k.left k.right t.body t'.body

/-- What is known after some loading. -/
def knownAfter (S S' : Sources) (k : Known) (L L' : Library) : Known :=
  { k with left := S.Registered L, right := S'.Registered L' }

theorem Beside.le_after (h : Beside S S' name child k K K') (hL : S.Later K L)
    (hL' : S'.Later K' L') : k.Le (knownAfter S S' k L L') where
  left _ he := hL.registered ((h.known_left _).1 he)
  right _ he := hL'.registered ((h.known_right _).1 he)
  pairs _ _ hi := hi
  live := Nat.le_refl _

/-- Libraries stay beside each other if as much is loaded on both sides. -/
theorem Beside.after (h : Beside S S' name child k K K') (hL : S.Later K L) (hL' : S'.Later K' L')
    (hcached : ∀ n, n ≠ name → L'.cache.entries.lookup n = L.cache.entries.lookup n)
    (hmodule : ∀ {id : TemplateId}, id.OtherThan name → ∀ {t t' : LoadedTemplate},
      L.templates.lookup id = some t → L'.templates.lookup id = some t' → t'.module = t.module)
    (hunused : ∀ {t : LoadedTemplate}, L'.templates.lookup ⟨some name, 0⟩ = some t →
      t.module = none) : Beside S S' name child (knownAfter S S' k L L') L L' where
  left := hL.steady
  right := hL'.steady
  capacity_eq := by rw [hL.capacity_eq, hL'.capacity_eq, h.capacity_eq]
  known_left _ := Iff.rfl
  known_right _ := Iff.rfl
  cached_eq := hcached
  module_eq := hmodule
  unused := hunused
  paired hi := by
    have hle := h.le_after hL hL'
    obtain ⟨hembed, hembed', t, t', origin, ht, ht', htied⟩ := h.paired hi
    exact ⟨hembed, hembed', t, t', origin, hL.kept _ _ ht, hL'.kept _ _ ht',
      htied.mono hle.left hle.right⟩

/-- Templates that were loaded in the same place are paired. -/
theorem Beside.pair (h : Beside S S' name child k L L') {i i' : TemplateId}
    (hi : i.isEmbed = true) (hi' : i'.isEmbed = true ∨ i'.name = some name) {t t' : Template}
    {origin : Origin} (ht : L.templates.lookup i = some (.ofTree t [] .given))
    (ht' : L'.templates.lookup i' = some (.ofTree t' [] origin))
    (htied : Stmt.Tied name child k.left k.right t.body t'.body) :
    Beside S S' name child (k.pairing i i') L L' :=
  { h with
    paired := by
      rintro j j' (hj | ⟨rfl, rfl⟩)
      · exact h.paired hj
      · exact ⟨hi, hi', t, t', origin, ht, ht', htied⟩ }

end Library

/-- Names of templates in messages before and after: an embed may be called by another key
afterwards, or by the name of the new template. -/
def Embed.Renamed (name : String) (n n' : Option String) : Prop :=
  n' = n ∨ n.any isKey = true ∧ (n'.any isKey = true ∨ n' = some name)

/-! ## Two runs, before and after -/

namespace Simulation

open Library (Beside)

variable {S S' : Sources} {name : String} {child : List Stmt}

/-- Two runs, before and after embeds are made a template. -/
def extracting (h : S.Extraction S' name child) : Simulation where
  Stage := Known
  le := Known.Le
  le_refl k := ⟨fun _ he => he, fun _ he => he, fun _ _ hi => hi, Nat.le_refl k.live⟩
  le_trans hk hl := ⟨fun e he => hl.left e (hk.left e he), fun e he => hl.right e (hk.right e he),
    fun i i' hi => hl.pairs i i' (hk.pairs i i' hi), Nat.le_trans hk.live hl.live⟩
  line := anyLine
  line_refl _ := trivial
  host := Embed.Renamed name
  slot a := a
  slot_injective h := h
  loose := False
  bad e := match e with
    | .reference _ => True
    | .request n => n ∉ S.names
    | _ => False
  missing _ := True
  pins _ := none
  holds _ := none
  live k a := a < k.live
  live_mono h _ ha := Nat.lt_of_lt_of_le ha h.live
  marked _ _ := False
  marked_mono _ _ h := h
  dynamic := True
  names _ := True
  library := Beside S S' name child
  same k i i' := i' = i ∧ i.OtherThan name ∨
    i.isEmbed = true ∧ (i'.isEmbed = true ∨ i'.name = some name) ∧ k.pairs i i'
  same_mono h _ _ hi := hi.imp_right fun hp => ⟨hp.1, hp.2.1, h.pairs _ _ hp.2.2⟩
  shared := TemplateId.OtherThan name
  tag := Known.Tag name child
  tag_mono h _ _ hk := h.tag_mono hk
  child k key n := n = name ∧ Known.Child child k key
  child_mono h _ _ hk := ⟨hk.1, h.child_mono hk.2⟩
  root k := Stmt.Tied name child k.left k.right
  root_mono h _ _ hss := hss.mono h.left h.right
  grow k n := ⟨k.starting n, k.le_starting n, k.lt_starting n, k.of_lt_starting n, fun _ h => h,
    fun hL => { hL with }⟩
  library_options hL := by rw [hL.left.env_eq, hL.right.env_eq, h.env_eq]
  library_flavour hL := by rw [hL.left.env_eq, hL.right.env_eq, h.env_eq]
  library_loader hL := by rw [hL.left.env_eq, hL.right.env_eq, h.env_eq]
  library_capacity hL := hL.capacity_eq
  same_host := by
    rintro k i i' (⟨rfl, -⟩ | ⟨hembed, hembed' | hname, -⟩)
    · exact .inl rfl
    · exact .inr ⟨hembed, .inl hembed'⟩
    · exact .inr ⟨hembed, .inr hname⟩
  same_shared := by
    rintro k i i' s (⟨rfl, -⟩ | ⟨hembed, hembed', -⟩) hs
    · rfl
    · refine iff_of_false ?_ ?_
      · rintro rfl
        rw [hs.1] at hembed
        cases hembed
      · rintro rfl
        obtain hembed' | hname := hembed'
        · rw [hs.1] at hembed'
          cases hembed'
        · exact hs.2 hname
  reference := .inr fun _ => trivial
  debug hL hdebug := by
    rw [hL.left.env_eq] at hdebug
    exact absurd hdebug h.unshown

variable (h : S.Extraction S' name child)

/-- Positions, lines and missing names that correspond to each other may be more. -/
theorem Alike.imp {T U : Simulation} (hhost : ∀ n n', T.host n n' → U.host n n')
    (hline : ∀ l l', T.line l l' → U.line l l') {a b : String} (hab : T.Alike a b) :
    U.Alike a b := by
  induction hab with
  | refl s => exact .refl s
  | append _ _ iha ihb => exact .append iha ihb
  | position hp hl => exact .position (hhost _ _ hp) (hline _ _ hl)

theorem FaultRel.imp {T U : Simulation} (hhost : ∀ n n', T.host n n' → U.host n n')
    (hline : ∀ l l', T.line l l' → U.line l l') (hmissing : ∀ d, T.missing d → U.missing d)
    {f f' : Fault} (hf : T.FaultRel f f') : U.FaultRel f f' := by
  cases hf with
  | syntaxError hl f => exact .syntaxError (hline _ _ hl) f
  | notFound hm d => exact .notFound (hmissing _ hm) d
  | noneFound hm => exact .noneFound (hm.imp hhost hline)
  | undefined hm => exact .undefined (hm.imp hhost hline)
  | runtime hm => exact .runtime (hm.imp hhost hline)
  | filterArgument m => exact .filterArgument m
  | noLoader => exact .noLoader
  | accident a => exact .accident a
  | notConstant => exact .notConstant

/-- The places of embeds correspond to each other. -/
theorem places_extracting (k : Known) :
    Places (extracting h) k name child k.left k.right where
  line_eq := rfl
  dynamic := trivial
  pins _ := rfl
  holds _ := rfl
  tag he hbody hleft hright := .mk he hbody hleft hright
  child htree hleft := ⟨rfl, .mk htree hleft⟩

/-! ## Verdicts -/

/-- Two checks in one environment, before and after embeds are made a template. Nothing is loaded in
a check, and no position in its messages has a name. -/
def checking (h : S.Extraction S' name child) : Simulation :=
  { extracting h with
    host := fun n n' => n' = n
    bad := fun _ => False
    library := fun _ L L' => L.env = S.env ∧ L'.env = S.env ∧ L'.cache.capacity = L.cache.capacity
    same := fun _ i i' => i' = i
    same_mono := fun _ _ _ hi => hi
    shared := fun _ => True
    grow := fun k n => ⟨Known.starting k n, Known.le_starting k n, Known.lt_starting k n,
      Known.of_lt_starting k n, fun _ h => h, fun hL => hL⟩
    library_options := fun hL => by rw [hL.1, hL.2.1]
    library_flavour := fun hL => by rw [hL.1, hL.2.1]
    library_loader := fun hL => by rw [hL.1, hL.2.1]
    library_capacity := fun hL => hL.2.2
    same_host := fun hi => by rw [hi]
    same_shared := fun hi _ => by rw [hi]
    reference := reference_of_eq
    debug := fun hL hdebug => by
      rw [hL.1] at hdebug
      exact absurd hdebug h.unshown }

theorem places_checking (k : Known) : Places (checking h) k name child k.left k.right where
  line_eq := rfl
  dynamic := trivial
  pins _ := rfl
  holds _ := rfl
  tag he hbody hleft hright := .mk he hbody hleft hright
  child htree hleft := ⟨rfl, .mk htree hleft⟩

/-- The check says the same of a tree before and after. -/
theorem verdict_extracted {k : Known} {t t' : Template}
    (htied : Stmt.Tied name child k.left k.right t.body t'.body) :
    (Load.verdict S.env t = .ok () ∧ Load.verdict S.env t' = .ok ()) ∨
      ∃ f f', Load.verdict S.env t = .error f ∧ Load.verdict S.env t' = .error f' ∧
        (extracting h).FaultRel f f' := by
  -- a check loads nothing, so that it can be compared from new worlds
  let k' : Known := { k with live := 0 }
  have hbody : (checking h).StmtsRel k' none t.body t'.body :=
    (places_checking h k').tied none htied
  have hnew : (checking h).Rel k' { env := S.env } { env := S.env } :=
    rel_new ⟨rfl, rfl, rfl⟩ (fun _ => rfl) Nat.not_lt_zero (fun _ h => h) (fun _ => rfl) fun _ => rfl
  have hcheck := agree_checkTemplate (engRel_ofConstants Engine.callDepth) hbody
  obtain ⟨e, -, hbad⟩ | ho := hcheck k' _ _ hnew
  · exact hbad.elim
  rw [Load.verdict, Load.verdict]
  generalize Run.exec (Check.template _ t) _ = r, Run.exec (Check.template _ t') _ = r' at ho ⊢
  cases ho with
  | deep _ _ hl => exact hl.elim
  | done _ _ _ => exact .inl ⟨rfl, rfl⟩
  | failed _ _ hf =>
    have hhost (n n' : Option String) (hn : n' = n) : (extracting h).host n n' := .inl hn
    have hfault := FaultRel.imp (T := checking h) (U := extracting h) hhost (fun _ _ hl => hl)
      (fun _ hm => hm) hf
    exact .inr ⟨_, _, rfl, rfl, hfault⟩

end Simulation

end Stencil
