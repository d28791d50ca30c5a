import Stencil.Proofs.Tree.Alike
import Stencil.Proofs.Render.Execution
import Stencil.Proofs.Simulation.Keyed

/-!
# Two runs side by side

Two runs of templates are compared state by state. The values that templates compute with are the
same on both sides; what may differ is where things come from: the sources at hand and what was
loaded from them, the names and lines that messages mention, the numbers of running functions, and
whether an embedded template is reached by its tag or by an inclusion.

A `Simulation` says how much may differ. What is known of the two libraries grows while templates
are loaded, so that relations between trees and templates belong to a stage.

## Main definitions

- `Simulation`: what may differ between two runs
- `Simulation.StmtRel`: statements that do the same on both sides
- `Simulation.Rel`: states that correspond to each other
-/

namespace Stencil

/-! ## Arrays with related elements -/

/-- Two arrays of the same size with related elements. -/
structure Paired {α β : Type} (R : α → β → Prop) (a : Array α) (b : Array β) : Prop where
  size_eq : b.size = a.size
  rel : ∀ {i : Nat} {x : α} {y : β}, a[i]? = some x → b[i]? = some y → R x y

namespace Paired

variable {α β : Type} {R R' : α → β → Prop} {a : Array α} {b : Array β}

theorem get? (h : Paired R a b) (i : Nat) :
    (a[i]? = none ∧ b[i]? = none) ∨ ∃ x y, a[i]? = some x ∧ b[i]? = some y ∧ R x y := by
  by_cases hi : i < a.size
  · have hi' : i < b.size := h.size_eq ▸ hi
    have hx : a[i]? = some a[i] := Array.getElem?_eq_getElem hi
    have hy : b[i]? = some b[i] := Array.getElem?_eq_getElem hi'
    exact .inr ⟨_, _, hx, hy, h.rel hx hy⟩
  · have hb : ¬ i < b.size := h.size_eq ▸ hi
    exact .inl ⟨Array.getElem?_eq_none (Nat.le_of_not_lt hi),
      Array.getElem?_eq_none (Nat.le_of_not_lt hb)⟩

theorem push {x : α} {y : β} (h : Paired R a b) (hxy : R x y) : Paired R (a.push x) (b.push y) := by
  refine ⟨by rw [Array.size_push, Array.size_push, h.size_eq], fun {i u v} hu hv => ?_⟩
  rw [Array.getElem?_push] at hu hv
  rw [h.size_eq] at hv
  split at hu
  · rename_i hi
    rw [if_pos hi] at hv
    cases hu
    cases hv
    exact hxy
  · rename_i hi
    rw [if_neg hi] at hv
    exact h.rel hu hv

theorem modify {f : α → α} {g : β → β} (i : Nat) (h : Paired R a b)
    (hfg : ∀ x y, R x y → R (f x) (g y)) : Paired R (a.modify i f) (b.modify i g) := by
  refine ⟨by rw [Array.size_modify, Array.size_modify, h.size_eq], fun {j u v} hu hv => ?_⟩
  rw [Array.getElem?_modify] at hu hv
  split at hu
  · rename_i hij
    rw [if_pos hij] at hv
    rw [Option.map_eq_some_iff] at hu hv
    obtain ⟨x, hx, rfl⟩ := hu
    obtain ⟨y, hy, rfl⟩ := hv
    exact hfg x y (h.rel hx hy)
  · rename_i hij
    rw [if_neg hij] at hv
    exact h.rel hu hv

theorem setIfInBounds {x : α} {y : β} (i : Nat) (h : Paired R a b) (hxy : R x y) :
    Paired R (a.setIfInBounds i x) (b.setIfInBounds i y) := by
  refine ⟨by rw [Array.size_setIfInBounds, Array.size_setIfInBounds, h.size_eq],
    fun {j u v} hu hv => ?_⟩
  rw [Array.getElem?_setIfInBounds] at hu hv
  rw [h.size_eq] at hv
  split at hu
  · rename_i hij
    rw [if_pos hij] at hv
    split at hu
    · rename_i hi
      rw [if_pos hi] at hv
      cases hu
      cases hv
      exact hxy
    · exact nomatch hu
  · rename_i hij
    rw [if_neg hij] at hv
    exact h.rel hu hv

theorem mono (h : Paired R a b) (hR : ∀ x y, R x y → R' x y) : Paired R' a b :=
  ⟨h.size_eq, fun hx hy => hR _ _ (h.rel hx hy)⟩

end Paired

/-! ## What may differ -/

/-- What may differ between two runs. The first run is the one on the left. -/
structure Simulation where
  /-- What is known of the libraries. -/
  Stage : Type
  le : Stage → Stage → Prop
  le_refl : ∀ k, le k k
  le_trans : ∀ {k l m}, le k l → le l m → le k m
  /-- Lines that correspond to each other. -/
  line : Nat → Nat → Prop
  line_refl : ∀ l, line l l
  /-- Names of templates that correspond to each other. -/
  host : Option String → Option String → Prop
  /-- The number that a running function has on the right. -/
  slot : Nat → Nat
  slot_injective : ∀ {a b}, slot a = slot b → a = b
  /-- Whether the right run may run out of depth where the left one does not. -/
  loose : Prop
  /-- Events after which nothing is said any more. -/
  bad : Event → Prop
  /-- What may be reported as a template that does not exist. -/
  missing : Datum → Prop
  /-- Contexts whose blocks do not change. -/
  pins : Nat → Option (List (String × List BlockDef))
  /-- Running templates that go on extending the same one, or none. -/
  holds : Nat → Option (Option TemplateId)
  /-- Functions that are known to run. -/
  live : Stage → Nat → Prop
  live_mono : ∀ {k l}, le k l → ∀ {a}, live k a → live l a
  /-- Running templates that are known to extend another. -/
  marked : Stage → Nat → Prop
  marked_mono : ∀ {k l}, le k l → ∀ {a}, marked k a → marked l a
  /-- Whether templates may be asked for by names that are computed. -/
  dynamic : Prop
  /-- Names by which templates may be asked for. -/
  names : String → Prop
  /-- Libraries that correspond to each other. -/
  library : Stage → Library → Library → Prop
  /-- Loaded templates that correspond to each other. -/
  same : Stage → TemplateId → TemplateId → Prop
  same_mono : ∀ {k l}, le k l → ∀ {i j}, same k i j → same l i j
  /-- Templates that are asked for by name: they are the same on both sides. -/
  shared : TemplateId → Prop
  /-- Keys of embedded templates that correspond to each other. -/
  tag : Stage → String → String → Prop
  tag_mono : ∀ {k l}, le k l → ∀ {a b}, tag k a b → tag l a b
  /-- Keys of embedded templates that are included by a name on the right. -/
  child : Stage → String → String → Prop
  child_mono : ∀ {k l}, le k l → ∀ {a b}, child k a b → child l a b
  /-- Bodies of templates that correspond to each other. -/
  root : Stage → List Stmt → List Stmt → Prop
  root_mono : ∀ {k l}, le k l → ∀ {ss ts}, root k ss ts → root l ss ts
  /-- A function that starts to run can be known to do so. -/
  grow : ∀ k n, ∃ l, le k l ∧ live l n ∧ (∀ a, live l a → live k a ∨ a ≤ n) ∧
    (∀ a, marked l a → marked k a) ∧ ∀ {L L'}, library k L L' → library l L L'
  library_options : ∀ {k L L'}, library k L L' → L'.env.options = L.env.options
  library_flavour : ∀ {k L L'}, library k L L' → L'.env.flavour = L.env.flavour
  library_loader : ∀ {k L L'}, library k L L' → L'.env.loader = L.env.loader
  library_capacity : ∀ {k L L'}, library k L L' → L'.cache.capacity = L.cache.capacity
  same_host : ∀ {k i j}, same k i j → host i.name j.name
  same_shared : ∀ {k i j s}, same k i j → shared s → (i = s ↔ j = s)
  /-- Names are shown on request only where they are the same. -/
  reference : (∀ h h', host h h' → h' = h) ∨ ∀ c, bad (.reference c)
  /-- Positions are shown only where they are the same. -/
  debug : ∀ {k L L'}, library k L L' → L.env.options.undefinedKind = .debug →
    (∀ h h', host h h' → h' = h) ∧ ∀ l l', line l l' → l' = l

namespace Simulation

/-- Related hosts that are equal need no event to be left out. -/
theorem reference_of_eq : (∀ h h' : Option String, h' = h → h' = h) ∨ ∀ _ : Nat, False :=
  .inl fun _ _ h => h

variable (S : Simulation)

/-! ## Faults -/

/-- Texts that differ in the positions they mention only. -/
inductive Alike : String → String → Prop
  | refl (s : String) : Alike s s
  | append {a a' b b' : String} (ha : Alike a a') (hb : Alike b b') : Alike (a ++ b) (a' ++ b')
  | position {p p' : Position} (hhost : S.host p.host p'.host) (hline : S.line p.line p'.line) :
      Alike p.text p'.text

/-- Faults of the same kind that differ in positions only. -/
inductive FaultRel : Fault → Fault → Prop
  | syntaxError {l l' : Nat} (hline : S.line l l') (f : SyntaxFault) :
      FaultRel (.syntaxError ⟨l, f⟩) (.syntaxError ⟨l', f⟩)
  | notFound {message : Datum} (h : S.missing message) (display : String) :
      FaultRel (.notFound message display) (.notFound message display)
  | noneFound {m m' : String} (h : S.Alike m m') : FaultRel (.noneFound m) (.noneFound m')
  | undefined {m m' : String} (h : S.Alike m m') : FaultRel (.undefined m) (.undefined m')
  | runtime {m m' : String} (h : S.Alike m m') : FaultRel (.runtime m) (.runtime m')
  | filterArgument (m : String) : FaultRel (.filterArgument m) (.filterArgument m)
  | noLoader : FaultRel .noLoader .noLoader
  | accident (a : Accident) : FaultRel (.accident a) (.accident a)
  | notConstant : FaultRel .notConstant .notConstant

variable {S} in
theorem FaultRel.refl (f : Fault) (h : ∀ m d, f = .notFound m d → S.missing m) :
    S.FaultRel f f := by
  cases f with
  | syntaxError e => exact .syntaxError (S.line_refl e.line) e.fault
  | notFound m d => exact .notFound (h m d rfl) d
  | noneFound m => exact .noneFound (.refl m)
  | undefined m => exact .undefined (.refl m)
  | runtime m => exact .runtime (.refl m)
  | filterArgument m => exact .filterArgument m
  | noLoader => exact .noLoader
  | accident a => exact .accident a
  | notConstant => exact .notConstant

section Exact

variable {S : Simulation} (hhost : ∀ h h', S.host h h' → h' = h)
  (hline : ∀ l l', S.line l l' → l' = l)
include hhost hline

/-- Texts are the same where positions are. -/
theorem Alike.eq {a b : String} (h : S.Alike a b) : b = a := by
  induction h with
  | refl s => rfl
  | append _ _ iha ihb => rw [iha, ihb]
  | @position p p' hp hl =>
    obtain ⟨host, line⟩ := p
    obtain ⟨host', line'⟩ := p'
    cases hhost _ _ hp
    cases hline _ _ hl
    rfl

theorem FaultRel.eq {f f' : Fault} (h : S.FaultRel f f') : f' = f := by
  cases h with
  | syntaxError hl f => rw [hline _ _ hl]
  | notFound h d => rfl
  | noneFound h => rw [h.eq hhost hline]
  | undefined h => rw [h.eq hhost hline]
  | runtime h => rw [h.eq hhost hline]
  | filterArgument m => rfl
  | noLoader => rfl
  | accident a => rfl
  | notConstant => rfl

end Exact

/-! ## Trees -/

/-- Names of templates to include or import: computed ones are the same but for lines, literal ones
may be asked for. -/
def Allowed (e e' : Expr) : Prop :=
  (S.dynamic ∧ Expr.Alike S.line e e') ∨
    ∃ l l' s, S.line l l' ∧ S.names s ∧ e = .const l (.text s) ∧ e' = .const l' (.text s)

variable {S} in
theorem Allowed.alike {e e' : Expr} : S.Allowed e e' → Expr.Alike S.line e e' := by
  rintro (⟨-, h⟩ | ⟨l, l', s, hl, -, rfl, rfl⟩)
  · exact h
  · exact .const hl (.text s)

/-- What must hold of an `extends` at the top level of a running template: it may change the blocks
of its context and what the running template extends, and asks for an allowed template unless the
running template extends another already. -/
def Extends (k : S.Stage) (top : Option (Nat × Nat)) (e e' : Expr) : Prop :=
  ∀ a c, top = some (a, c) →
    S.pins c = none ∧ S.holds a = none ∧ (S.Allowed e e' ∨ S.marked k a)

mutual

/-- Statements that do the same on both sides. At the top level `top` is the running function with
its context. -/
inductive StmtRel (S : Simulation) (k : S.Stage) : Option (Nat × Nat) → Stmt → Stmt → Prop
  | output {top : Option (Nat × Nat)} {l l' : Nat} {es es' : List Expr} (hl : S.line l l')
      (hes : Expr.AlikeAll S.line es es') : StmtRel S k top (.output l es) (.output l' es')
  | extend {top : Option (Nat × Nat)} {l l' : Nat} {e e' : Expr} (hl : S.line l l')
      (he : Expr.Alike S.line e e') (htop : S.Extends k top e e') :
      StmtRel S k top (.extend l e) (.extend l' e')
  | loop {top : Option (Nat × Nat)} {l l' : Nat} {t t' : Target} {e e' : Expr}
      {body body' orElse orElse' : List Stmt} {test test' : Option Expr} (hl : S.line l l')
      (ht : Target.Alike S.line t t') (he : Expr.Alike S.line e e')
      (hbody : StmtsRel S k none body body') (horElse : StmtsRel S k none orElse orElse')
      (htest : Expr.AlikeOption S.line test test') (recursive : Bool) :
      StmtRel S k top (.loop l t e body orElse test recursive)
        (.loop l' t' e' body' orElse' test' recursive)
  | branch {top : Option (Nat × Nat)} {l l' : Nat} {e e' : Expr}
      {body body' elifs elifs' orElse orElse' : List Stmt} (hl : S.line l l')
      (he : Expr.Alike S.line e e') (hbody : StmtsRel S k top body body')
      (helifs : StmtsRel S k top elifs elifs') (horElse : StmtsRel S k top orElse orElse') :
      StmtRel S k top (.branch l e body elifs orElse) (.branch l' e' body' elifs' orElse')
  | macroDef {top : Option (Nat × Nat)} {l l' : Nat} {defaults defaults' : List Expr}
      {body body' : List Stmt} (hl : S.line l l') (name : String) (params : List String)
      (hdefaults : Expr.AlikeAll S.line defaults defaults') (hbody : StmtsRel S k none body body') :
      StmtRel S k top (.macroDef l name params defaults body)
        (.macroDef l' name params defaults' body')
  | callBlock {top : Option (Nat × Nat)} {l l' cl cl' : Nat} {e e' : Expr} {args args' : Args}
      {defaults defaults' : List Expr} {body body' : List Stmt} (hl : S.line l l')
      (hcl : S.line cl cl') (he : Expr.Alike S.line e e') (hargs : Args.Alike S.line args args')
      (params : List String) (hdefaults : Expr.AlikeAll S.line defaults defaults')
      (hbody : StmtsRel S k none body body') :
      StmtRel S k top (.callBlock l cl e args params defaults body)
        (.callBlock l' cl' e' args' params defaults' body')
  | filterBlock {top : Option (Nat × Nat)} {l l' : Nat} {e e' : Expr} {body body' : List Stmt}
      (hl : S.line l l') (he : Expr.Alike S.line e e') (hbody : StmtsRel S k none body body') :
      StmtRel S k top (.filterBlock l e body) (.filterBlock l' e' body')
  | withBlock {top : Option (Nat × Nat)} {l l' : Nat} {bs bs' : List (Target × Expr)}
      {body body' : List Stmt} (hl : S.line l l')
      (hbs : List.Forall₂ (fun b b' => Target.Alike S.line b.1 b'.1 ∧ Expr.Alike S.line b.2 b'.2)
        bs bs')
      (hbody : StmtsRel S k none body body') :
      StmtRel S k top (.withBlock l bs body) (.withBlock l' bs' body')
  | block {top : Option (Nat × Nat)} {l l' : Nat} {body body' : List Stmt} (hl : S.line l l')
      (name : String) (hbody : StmtsRel S k none body body') (isScoped isRequired : Bool) :
      StmtRel S k top (.block l name body isScoped isRequired)
        (.block l' name body' isScoped isRequired)
  | inclusion {top : Option (Nat × Nat)} {l l' : Nat} {e e' : Expr} (hl : S.line l l')
      (he : S.Allowed e e') (withContext ignoreMissing : Bool) :
      StmtRel S k top (.inclusion l e withContext ignoreMissing)
        (.inclusion l' e' withContext ignoreMissing)
  | importModule {top : Option (Nat × Nat)} {l l' : Nat} {e e' : Expr} (hl : S.line l l')
      (he : S.Allowed e e') (target : String) (withContext : Bool) :
      StmtRel S k top (.importModule l e target withContext)
        (.importModule l' e' target withContext)
  | importNames {top : Option (Nat × Nat)} {l l' : Nat} {e e' : Expr} (hl : S.line l l')
      (he : S.Allowed e e') (names : List ImportName) (withContext : Bool) :
      StmtRel S k top (.importNames l e names withContext) (.importNames l' e' names withContext)
  | exprStmt {top : Option (Nat × Nat)} {l l' : Nat} {e e' : Expr} (hl : S.line l l')
      (he : Expr.Alike S.line e e') : StmtRel S k top (.exprStmt l e) (.exprStmt l' e')
  | assign {top : Option (Nat × Nat)} {l l' : Nat} {t t' : Target} {e e' : Expr}
      (hl : S.line l l') (ht : Target.Alike S.line t t') (he : Expr.Alike S.line e e') :
      StmtRel S k top (.assign l t e) (.assign l' t' e')
  | assignBlock {top : Option (Nat × Nat)} {l l' : Nat} {t t' : Target} {e e' : Option Expr}
      {body body' : List Stmt} (hl : S.line l l') (ht : Target.Alike S.line t t')
      (he : Expr.AlikeOption S.line e e') (hbody : StmtsRel S k none body body') :
      StmtRel S k top (.assignBlock l t e body) (.assignBlock l' t' e' body')
  | autoescape {top : Option (Nat × Nat)} {l l' : Nat} {e e' : Expr} {body body' : List Stmt}
      (hl : S.line l l') (he : Expr.Alike S.line e e') (hbody : StmtsRel S k none body body') :
      StmtRel S k top (.autoescape l e body) (.autoescape l' e' body')
  | continueLoop {top : Option (Nat × Nat)} {l l' : Nat} (hl : S.line l l') :
      StmtRel S k top (.continueLoop l) (.continueLoop l')
  | breakLoop {top : Option (Nat × Nat)} {l l' : Nat} (hl : S.line l l') :
      StmtRel S k top (.breakLoop l) (.breakLoop l')
  | embed {top : Option (Nat × Nat)} {l l' : Nat} {e e' : Expr} {body body' : List Stmt}
      (hl : S.line l l') (he : Expr.Alike S.line e e') (hbody : StmtsRel S k none body body') :
      StmtRel S k top (.embed l e body) (.embed l' e' body')
  | embedded {top : Option (Nat × Nat)} {l l' : Nat} {key key' : String} (hl : S.line l l')
      (htag : S.tag k key key') : StmtRel S k top (.embedded l key) (.embedded l' key')
  | child {top : Option (Nat × Nat)} {l l' el : Nat} {key name : String} (hl : S.line l l')
      (hchild : S.child k key name) :
      StmtRel S k top (.embedded l key) (.inclusion l' (.const el (.text name)) true false)

inductive StmtsRel (S : Simulation) (k : S.Stage) :
    Option (Nat × Nat) → List Stmt → List Stmt → Prop
  | nil {top : Option (Nat × Nat)} : StmtsRel S k top [] []
  | cons {top : Option (Nat × Nat)} {s s' : Stmt} {ss ss' : List Stmt}
      (hs : StmtRel S k top s s') (hss : StmtsRel S k top ss ss') :
      StmtsRel S k top (s :: ss) (s' :: ss')

end

section Mono

variable {S : Simulation}

mutual

/-- Related statements stay related in a later stage, and at a place of less importance. -/
theorem StmtRel.mono {k l : S.Stage} (hk : S.le k l) {top top' : Option (Nat × Nat)}
    (htop : ∀ p, top' = some p → top = some p) {s s' : Stmt} :
    S.StmtRel k top s s' → S.StmtRel l top' s s'
  | .output hl hes => .output hl hes
  -- what was marked as extended before is so later
  | .extend hl he h => .extend hl he fun a c hac => by
    obtain ⟨hpin, hhold, hallowed⟩ := h a c (htop _ hac)
    exact ⟨hpin, hhold, hallowed.imp_right (S.marked_mono hk)⟩
  | .loop hl ht he hbody horElse htest r =>
    .loop hl ht he (hbody.mono hk fun _ h => h) (horElse.mono hk fun _ h => h) htest r
  | .branch hl he hbody helifs horElse =>
    .branch hl he (hbody.mono hk htop) (helifs.mono hk htop) (horElse.mono hk htop)
  | .macroDef hl name params hdefaults hbody =>
    .macroDef hl name params hdefaults (hbody.mono hk fun _ h => h)
  | .callBlock hl hcl he hargs params hdefaults hbody =>
    .callBlock hl hcl he hargs params hdefaults (hbody.mono hk fun _ h => h)
  | .filterBlock hl he hbody => .filterBlock hl he (hbody.mono hk fun _ h => h)
  | .withBlock hl hbs hbody => .withBlock hl hbs (hbody.mono hk fun _ h => h)
  | .block hl name hbody sc rq => .block hl name (hbody.mono hk fun _ h => h) sc rq
  | .inclusion hl he wc im => .inclusion hl he wc im
  | .importModule hl he t wc => .importModule hl he t wc
  | .importNames hl he ns wc => .importNames hl he ns wc
  | .exprStmt hl he => .exprStmt hl he
  | .assign hl ht he => .assign hl ht he
  | .assignBlock hl ht he hbody => .assignBlock hl ht he (hbody.mono hk fun _ h => h)
  | .autoescape hl he hbody => .autoescape hl he (hbody.mono hk fun _ h => h)
  | .continueLoop hl => .continueLoop hl
  | .breakLoop hl => .breakLoop hl
  | .embed hl he hbody => .embed hl he (hbody.mono hk fun _ h => h)
  | .embedded hl htag => .embedded hl (S.tag_mono hk htag)
  | .child hl hchild => .child hl (S.child_mono hk hchild)

theorem StmtsRel.mono {k l : S.Stage} (hk : S.le k l) {top top' : Option (Nat × Nat)}
    (htop : ∀ p, top' = some p → top = some p) {ss ss' : List Stmt} :
    S.StmtsRel k top ss ss' → S.StmtsRel l top' ss ss'
  | .nil => .nil
  | .cons hs hss => .cons (hs.mono hk htop) (hss.mono hk htop)

end

theorem StmtsRel.later {k l : S.Stage} (hk : S.le k l) {top : Option (Nat × Nat)}
    {ss ss' : List Stmt} (h : S.StmtsRel k top ss ss') : S.StmtsRel l top ss ss' :=
  h.mono hk fun _ hp => hp

theorem StmtsRel.nested {k : S.Stage} {top : Option (Nat × Nat)} {ss ss' : List Stmt}
    (h : S.StmtsRel k top ss ss') : S.StmtsRel k none ss ss' :=
  h.mono (S.le_refl k) fun _ hp => by cases hp

end Mono

/-! ## Cells -/

/-- A frame as it is on the right. -/
def frame (f : Frame) (host : Option String) : Frame :=
  { f with activation := S.slot f.activation, host }

/-- A running function as it is on the right. -/
def activation (a : Activation) : Activation :=
  { a with outer := a.outer.map S.slot }

/-- Definitions of a block: corresponding ones belong to corresponding templates, and are equal to
others on the left where they are on the right. -/
structure DefsRel (k : S.Stage) (ds ds' : List BlockDef) : Prop where
  all : List.Forall₂ (fun d d' => d'.name = d.name ∧ S.same k d.template d'.template) ds ds'
  pattern : ∀ {i j : Nat} {d e d' e' : BlockDef}, ds[i]? = some d → ds[j]? = some e → ds'[i]? = some d' →
    ds'[j]? = some e' → (d = e ↔ d' = e')

/-- Blocks of a context. -/
def TableRel (k : S.Stage) : List (String × List BlockDef) → List (String × List BlockDef) → Prop :=
  Keyed (S.DefsRel k)

inductive ContextRel (k : S.Stage) : Context → Context → Prop
  | mk (c : Context) (name : Option String) (blocks : List (String × List BlockDef))
      (hname : S.host c.name name) (hblocks : S.TableRel k c.blocks blocks) :
      ContextRel k c { c with name, blocks }

inductive LoopBodyRel (k : S.Stage) : LoopBody → LoopBody → Prop
  | mk {t t' : Target} {body body' orElse orElse' : List Stmt} {test test' : Option Expr}
      (f : Frame) (host : Option String) (ht : Target.Alike S.line t t')
      (hbody : S.StmtsRel k none body body') (horElse : S.StmtsRel k none orElse orElse')
      (htest : Expr.AlikeOption S.line test test') (hhost : S.host f.host host)
      (hlive : S.live k f.activation) :
      LoopBodyRel k ⟨t, body, orElse, test, f⟩ ⟨t', body', orElse', test', S.frame f host⟩

inductive LoopRel (k : S.Stage) : LoopCell → LoopCell → Prop
  | plain (l : LoopCell) (h : l.recurse = none) : LoopRel k l l
  | recursive (l : LoopCell) {b b' : LoopBody} (h : l.recurse = some b)
      (hb : S.LoopBodyRel k b b') : LoopRel k l { l with recurse := some b' }

inductive MacroRel (k : S.Stage) : MacroCell → MacroCell → Prop
  | mk (m : MacroCell) {defaults : List Expr} {body : List Stmt} (host : Option String)
      (hdefaults : Expr.AlikeAll S.line m.defaults defaults)
      (hbody : S.StmtsRel k none m.body body) (hhost : S.host m.frame.host host)
      (htop : m.frame.toplevel = false) (hlive : S.live k m.frame.activation) :
      MacroRel k m { m with defaults, body, frame := S.frame m.frame host }

/-- What a filter was given to work with, or why it cannot work. -/
inductive HowRel {α : Type} : Except Fault α → Except Fault α → Prop
  | ok (a : α) : HowRel (.ok a) (.ok a)
  | error {f f' : Fault} (h : S.FaultRel f f') : HowRel (.error f) (.error f')

inductive IteratorRel (k : S.Stage) : IteratorCell → IteratorCell → Prop
  | items (rest : List Value) : IteratorRel k (.items rest) (.items rest)
  | listFrom (cell position : Nat) :
      IteratorRel k (.listFrom cell position) (.listFrom cell position)
  | rangeFrom (next stop step : Int) :
      IteratorRel k (.rangeFrom next stop step) (.rangeFrom next stop step)
  | failing {f f' : Fault} (h : S.FaultRel f f') : IteratorRel k (.failing f) (.failing f')
  | mapNew {how how' : Except Fault Mapping} (source : Value) (h : S.HowRel how how')
      (context : Nat) : IteratorRel k (.mapNew source how context) (.mapNew source how' context)
  | mapRest (source : Nat) (how : Mapping) (context : Nat) :
      IteratorRel k (.mapRest source how context) (.mapRest source how context)
  | selectNew {how how' : Except Fault Selection} (source : Value) (h : S.HowRel how how')
      (context : Nat) :
      IteratorRel k (.selectNew source how context) (.selectNew source how' context)
  | selectRest (source : Nat) (how : Selection) (context : Nat) :
      IteratorRel k (.selectRest source how context) (.selectRest source how context)
  | unique (source : Nat) (caseSensitive : Bool) (path seen : List Value) :
      IteratorRel k (.unique source caseSensitive path seen) (.unique source caseSensitive path seen)
  | tested {t t' : Target} {e e' : Expr} (source : Nat) (f : Frame) (host : Option String)
      (ht : Target.Alike S.line t t') (he : Expr.Alike S.line e e') (hhost : S.host f.host host)
      (hlive : S.live k f.activation) :
      IteratorRel k (.tested source t e f) (.tested source t' e' (S.frame f host))
  | loopItems (loop : Nat) : IteratorRel k (.loopItems loop) (.loopItems loop)

inductive NoteRel : Note → Note → Prop
  | noAlternative {p p' : Position} (hhost : S.host p.host p'.host) (hline : S.line p.line p'.line) :
      NoteRel (.noAlternative p) (.noAlternative p')
  | notExported {p p' : Position} (module : Option String) (hhost : S.host p.host p'.host)
      (hline : S.line p.line p'.line) (name : String) :
      NoteRel (.notExported module p name) (.notExported module p' name)

/-- Loaded templates that do the same. -/
structure TemplateRel (k : S.Stage) (t t' : LoadedTemplate) : Prop where
  body : S.root k t.tree.body t'.tree.body
  stmts : S.StmtsRel k none t.tree.body t'.tree.body
  blocks : Keyed (S.StmtsRel k none) t.blocks t'.blocks
  globals : t'.globals = t.globals
  module : t'.module = t.module

/-! ## States -/

/-- States that correspond to each other. -/
structure Rel (k : S.Stage) (w w' : World) : Prop where
  library : S.library k w.toLibrary w'.toLibrary
  contexts : Paired (S.ContextRel k) w.contexts w'.contexts
  activations : ∀ i, w'.activations[S.slot i]? = w.activations[i]?.map S.activation
  slots : ∀ n, S.slot (w.activations.size + n) = w'.activations.size + n
  lists : w'.lists = w.lists
  spaces : w'.spaces = w.spaces
  cyclers : w'.cyclers = w.cyclers
  joiners : w'.joiners = w.joiners
  iterators : Paired (S.IteratorRel k) w.iterators w'.iterators
  loops : Paired (S.LoopRel k) w.loops w'.loops
  macros : Paired (S.MacroRel k) w.macros w'.macros
  modules : w'.modules = w.modules
  notes : Paired S.NoteRel w.notes w'.notes
  sinks : w'.sinks = w.sinks
  live : ∀ a, S.live k a → a < w.activations.size
  outer : ∀ {a b : Nat} {act : Activation}, w.activations[a]? = some act → act.outer = some b →
    S.live k b
  marked : ∀ a, S.marked k a → ∃ act, w.activations[a]? = some act ∧ act.extended.isSome
  extended : ∀ {a : Nat} {act : Activation} {id : TemplateId}, w.activations[a]? = some act →
    act.extended = some id → S.same k id id
  pins : ∀ c t, S.pins c = some t → ∃ ctx, w.contexts[c]? = some ctx ∧ ctx.blocks = t
  holds : ∀ a o, S.holds a = some o → ∃ act, w.activations[a]? = some act ∧ act.extended = o

variable {S} in
/-- States in which nothing runs yet correspond to each other if their libraries do. -/
theorem rel_new {k : S.Stage} {L L' : Library} (h : S.library k L L') (hslot : ∀ n, S.slot n = n)
    (hlive : ∀ a, ¬ S.live k a) (hmarked : ∀ a, ¬ S.marked k a) (hpins : ∀ c, S.pins c = none)
    (hholds : ∀ a, S.holds a = none) : S.Rel k { toLibrary := L } { toLibrary := L' } where
  library := h
  contexts := ⟨rfl, fun h => by simp at h⟩
  activations i := by simp
  slots n := hslot _
  lists := rfl
  spaces := rfl
  cyclers := rfl
  joiners := rfl
  iterators := ⟨rfl, fun h => by simp at h⟩
  loops := ⟨rfl, fun h => by simp at h⟩
  macros := ⟨rfl, fun h => by simp at h⟩
  modules := rfl
  notes := ⟨rfl, fun h => by simp at h⟩
  sinks := rfl
  live a h := absurd h (hlive a)
  outer h := by simp at h
  marked a h := absurd h (hmarked a)
  extended h := by simp at h
  pins c t h := by rw [hpins c] at h; exact nomatch h
  holds a id h := by rw [hholds a] at h; exact nomatch h

section Later

variable {S : Simulation} {k l : S.Stage} (hk : S.le k l)
include hk

theorem DefsRel.later {ds ds' : List BlockDef} (h : S.DefsRel k ds ds') : S.DefsRel l ds ds' :=
  ⟨h.all.imp fun _ _ hd => ⟨hd.1, S.same_mono hk hd.2⟩, h.pattern⟩

theorem TableRel.later {t t' : List (String × List BlockDef)} (h : S.TableRel k t t') :
    S.TableRel l t t' :=
  Keyed.imp h fun _ _ hds => hds.later hk

theorem ContextRel.later {c c' : Context} (h : S.ContextRel k c c') : S.ContextRel l c c' := by
  obtain ⟨name, blocks, hname, hblocks⟩ := h
  exact .mk c name blocks hname (hblocks.later hk)

theorem LoopBodyRel.later {b b' : LoopBody} (h : S.LoopBodyRel k b b') : S.LoopBodyRel l b b' := by
  obtain ⟨f, host, ht, hbody, horElse, htest, hhost, hlive⟩ := h
  exact .mk f host ht (hbody.later hk) (horElse.later hk) htest hhost (S.live_mono hk hlive)

theorem LoopRel.later {c c' : LoopCell} (h : S.LoopRel k c c') : S.LoopRel l c c' := by
  cases h with
  | plain h => exact .plain c h
  | recursive h hb => exact .recursive c h (hb.later hk)

theorem MacroRel.later {m m' : MacroCell} (h : S.MacroRel k m m') : S.MacroRel l m m' := by
  obtain ⟨host, hdefaults, hbody, hhost, htop, hlive⟩ := h
  exact .mk m host hdefaults (hbody.later hk) hhost htop (S.live_mono hk hlive)

theorem IteratorRel.later {c c' : IteratorCell} (h : S.IteratorRel k c c') :
    S.IteratorRel l c c' := by
  cases h with
  | items rest => exact .items rest
  | listFrom cell position => exact .listFrom cell position
  | rangeFrom next stop step => exact .rangeFrom next stop step
  | failing h => exact .failing h
  | mapNew source h context => exact .mapNew source h context
  | mapRest source how context => exact .mapRest source how context
  | selectNew source h context => exact .selectNew source h context
  | selectRest source how context => exact .selectRest source how context
  | unique source caseSensitive path seen => exact .unique source caseSensitive path seen
  | tested source f host ht he hhost hlive =>
    exact .tested source f host ht he hhost (S.live_mono hk hlive)
  | loopItems loop => exact .loopItems loop

/-- Corresponding states stay so at a later stage, if its libraries correspond and what it knows of
running functions is so. -/
theorem Rel.later {w w' : World} (h : S.Rel k w w') {L L' : Library} (hlibrary : S.library l L L')
    (hlive : ∀ a, S.live l a → a < w.activations.size)
    (hmarked : ∀ a, S.marked l a →
      ∃ act, w.activations[a]? = some act ∧ act.extended.isSome) :
    S.Rel l { w with toLibrary := L } { w' with toLibrary := L' } :=
  { h with
    library := hlibrary
    contexts := h.contexts.mono fun _ _ hc => hc.later hk
    iterators := h.iterators.mono fun _ _ hi => hi.later hk
    loops := h.loops.mono fun _ _ hl => hl.later hk
    macros := h.macros.mono fun _ _ hm => hm.later hk
    live := hlive
    outer := fun hact hb => S.live_mono hk (h.outer hact hb)
    marked := hmarked
    extended := fun hact hid => S.same_mono hk (h.extended hact hid) }

end Later

end Simulation

end Stencil
