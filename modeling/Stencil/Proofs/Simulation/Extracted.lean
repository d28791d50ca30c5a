import Stencil.Proofs.Embed.Key
import Stencil.Proofs.Simulation.Scopes
import Stencil.Proofs.Tree.Extracted

/-!
# Embeds and the inclusions that take their place

Templates are run without their embeds: keys stand in their places. If some embeds of a template are
made a template of their own, keys change as well, since an embed that holds another one is not
written as before. Where a simulation relates the keys of such embeds, it relates the statements.

## Main definitions

- `Stmt.Tied`: statements without their embeds, before and after
- `Simulation.Places`: what a simulation says of the places of embeds

## Key results

- `Simulation.Places.tied`: bodies of templates without their embeds correspond to each other
-/

namespace Stencil

/-- Statements without their embeds, before and after some embeds are made a template, wherever they
stand. The embeds that were taken out are among `P` before, and among `Q` after. -/
def Stmt.Tied (name : String) (child : List Stmt) (P Q : Embedded → Prop) (ss ss' : List Stmt) :
    Prop :=
  ∃ host host' ts ts', Stmt.ExtractedAll name child ts ts' ∧
    (∀ d ∈ (Stmt.detachList host ts).2, P d) ∧ (∀ d ∈ (Stmt.detachList host' ts').2, Q d) ∧
    Stmt.AlikeAll (Stmt.detachList host ts).1 ss ∧ Stmt.AlikeAll (Stmt.detachList host' ts').1 ss'

theorem Stmt.Tied.mono {name : String} {child : List Stmt} {P P' Q Q' : Embedded → Prop}
    (hP : ∀ d, P d → P' d) (hQ : ∀ d, Q d → Q' d) {ss ss' : List Stmt}
    (h : Stmt.Tied name child P Q ss ss') : Stmt.Tied name child P' Q' ss ss' := by
  obtain ⟨host, host', ts, ts', hts, hleft, hright, hss, hss'⟩ := h
  exact ⟨host, host', ts, ts', hts, fun d hd => hP d (hleft d hd), fun d hd => hQ d (hright d hd),
    hss, hss'⟩

namespace Simulation

variable {T : Simulation} {k : T.Stage} {name : String} {child : List Stmt}
  {P Q : Embedded → Prop}

/-- A simulation in which lines do not matter and the keys of embeds correspond to each other before
and after some of them are made a template, if all that are taken out are among `P` and `Q`. -/
structure Places (T : Simulation) (k : T.Stage) (name : String) (child : List Stmt)
    (P Q : Embedded → Prop) : Prop where
  line_eq : T.line = anyLine
  dynamic : T.dynamic
  pins : ∀ c, T.pins c = none
  holds : ∀ a, T.holds a = none
  tag : ∀ {host host' : Option String} {l l' : Nat} {e e' : Expr} {body body' : List Stmt},
    Expr.Alike anyLine e e' → Stmt.ExtractedAll name child body body' →
    (∀ d ∈ ((Stmt.embed l e body).detach host).2, P d) →
    (∀ d ∈ ((Stmt.embed l' e' body').detach host').2, Q d) →
      T.tag k (Embedded.ofTag host l e body).key (Embedded.ofTag host' l' e' body').key
  child : ∀ {host : Option String} {l : Nat} {e : Expr} {body : List Stmt},
    Stmt.AlikeAll (.extend l e :: body) child → (∀ d ∈ ((Stmt.embed l e body).detach host).2, P d) →
      T.child k (Embedded.ofTag host l e body).key name

namespace Places

section Parts

variable (h : T.Places k name child P Q)
include h

theorem line (l l' : Nat) : T.line l l' := by
  rw [h.line_eq]
  trivial

theorem expr {e e' : Expr} (he : Expr.Alike anyLine e e') : Expr.Alike T.line e e' :=
  h.line_eq ▸ he

theorem exprs {es es' : List Expr} (hes : Expr.AlikeAll anyLine es es') :
    Expr.AlikeAll T.line es es' :=
  h.line_eq ▸ hes

theorem exprOption {o o' : Option Expr} (ho : Expr.AlikeOption anyLine o o') :
    Expr.AlikeOption T.line o o' :=
  h.line_eq ▸ ho

theorem args {a a' : Args} (ha : Args.Alike anyLine a a') : Args.Alike T.line a a' :=
  h.line_eq ▸ ha

theorem target {t t' : Target} (ht : Target.Alike anyLine t t') : Target.Alike T.line t t' :=
  h.line_eq ▸ ht

theorem bindings {bs bs' : List (Target × Expr)} (hbs : Stmt.BindingsAlike bs bs') :
    List.Forall₂ (fun b b' => Target.Alike T.line b.1 b'.1 ∧ Expr.Alike T.line b.2 b'.2) bs bs' :=
  h.line_eq ▸ hbs

theorem exprBetween {e e' u u' : Expr} (he : Expr.Alike T.line e e')
    (hu : Expr.Alike anyLine e u) (hu' : Expr.Alike anyLine e' u') : Expr.Alike T.line u u' :=
  h.expr ((h.line_eq ▸ he : Expr.Alike anyLine e e').between hu hu')

theorem exprsBetween {es es' us us' : List Expr} (hes : Expr.AlikeAll T.line es es')
    (hus : Expr.AlikeAll anyLine es us) (hus' : Expr.AlikeAll anyLine es' us') :
    Expr.AlikeAll T.line us us' :=
  h.exprs ((h.line_eq ▸ hes : Expr.AlikeAll anyLine es es').between hus hus')

theorem exprOptionBetween {o o' u u' : Option Expr} (ho : Expr.AlikeOption T.line o o')
    (hu : Expr.AlikeOption anyLine o u) (hu' : Expr.AlikeOption anyLine o' u') :
    Expr.AlikeOption T.line u u' :=
  h.exprOption ((h.line_eq ▸ ho : Expr.AlikeOption anyLine o o').between hu hu')

theorem argsBetween {a a' u u' : Args} (ha : Args.Alike T.line a a')
    (hu : Args.Alike anyLine a u) (hu' : Args.Alike anyLine a' u') : Args.Alike T.line u u' :=
  h.args ((h.line_eq ▸ ha : Args.Alike anyLine a a').between hu hu')

theorem targetBetween {t t' u u' : Target} (ht : Target.Alike T.line t t')
    (hu : Target.Alike anyLine t u) (hu' : Target.Alike anyLine t' u') : Target.Alike T.line u u' :=
  h.target ((h.line_eq ▸ ht : Target.Alike anyLine t t').between hu hu')

theorem bindingsBetween {bs bs' us us' : List (Target × Expr)}
    (hbs : List.Forall₂ (fun b b' => Target.Alike T.line b.1 b'.1 ∧ Expr.Alike T.line b.2 b'.2)
      bs bs') (hus : Stmt.BindingsAlike bs us) (hus' : Stmt.BindingsAlike bs' us') :
    List.Forall₂ (fun b b' => Target.Alike T.line b.1 b'.1 ∧ Expr.Alike T.line b.2 b'.2) us us' := by
  have hbindings : Stmt.BindingsAlike bs bs' := by
    rw [Stmt.BindingsAlike, ← h.line_eq]
    exact hbs
  exact h.bindings (hbindings.between hus hus')

theorem allowed {e e' : Expr} (he : Expr.Alike anyLine e e') : T.Allowed e e' :=
  .inl ⟨h.dynamic, h.expr he⟩

theorem extends_ {e e' : Expr} (he : Expr.Alike T.line e e') (top : Option (Nat × Nat)) :
    T.Extends k top e e' :=
  fun a c _ => ⟨h.pins c, h.holds a, .inl (.inl ⟨h.dynamic, he⟩)⟩

end Parts

variable {host host' : Option String}

mutual

/-- A statement without its embeds does what it does after some of them are made a template. -/
theorem stmt (h : T.Places k name child P Q) {s s' : Stmt} (top : Option (Nat × Nat)) :
    Stmt.Extracted name child s s' → (∀ d ∈ (s.detach host).2, P d) →
      (∀ d ∈ (s'.detach host').2, Q d) → T.StmtRel k top (s.detach host).1 (s'.detach host').1
  | .output hes, _, _ => .output (h.line _ _) (h.exprs hes)
  | .extend he, _, _ => .extend (h.line _ _) (h.expr he) (h.extends_ (h.expr he) top)
  | .loop ht he hbody horElse htest r, hP, hQ => by
    simp only [Stmt.detach] at hP hQ ⊢
    rw [List.forall_mem_append] at hP hQ
    exact .loop (h.line _ _) (h.target ht) (h.expr he) (stmts h none hbody hP.1 hQ.1)
      (stmts h none horElse hP.2 hQ.2) (h.exprOption htest) r
  | .branch he hbody helifs horElse, hP, hQ => by
    simp only [Stmt.detach] at hP hQ ⊢
    rw [List.forall_mem_append, List.forall_mem_append] at hP hQ
    exact .branch (h.line _ _) (h.expr he) (stmts h top hbody hP.1.1 hQ.1.1)
      (stmts h top helifs hP.1.2 hQ.1.2) (stmts h top horElse hP.2 hQ.2)
  | .macroDef n ps hdefaults hbody, hP, hQ =>
    .macroDef (h.line _ _) n ps (h.exprs hdefaults) (stmts h none hbody hP hQ)
  | .callBlock he hargs ps hdefaults hbody, hP, hQ =>
    .callBlock (h.line _ _) (h.line _ _) (h.expr he) (h.args hargs) ps (h.exprs hdefaults)
      (stmts h none hbody hP hQ)
  | .filterBlock he hbody, hP, hQ =>
    .filterBlock (h.line _ _) (h.expr he) (stmts h none hbody hP hQ)
  | .withBlock hbs hbody, hP, hQ =>
    .withBlock (h.line _ _) (h.bindings hbs) (stmts h none hbody hP hQ)
  | .block n hbody sc rq, hP, hQ => .block (h.line _ _) n (stmts h none hbody hP hQ) sc rq
  | .inclusion he wc im, _, _ => .inclusion (h.line _ _) (h.allowed he) wc im
  | .importModule he t wc, _, _ => .importModule (h.line _ _) (h.allowed he) t wc
  | .importNames he ns wc, _, _ => .importNames (h.line _ _) (h.allowed he) ns wc
  | .exprStmt he, _, _ => .exprStmt (h.line _ _) (h.expr he)
  | .assign ht he, _, _ => .assign (h.line _ _) (h.target ht) (h.expr he)
  | .assignBlock ht he hbody, hP, hQ =>
    .assignBlock (h.line _ _) (h.target ht) (h.exprOption he) (stmts h none hbody hP hQ)
  | .autoescape he hbody, hP, hQ =>
    .autoescape (h.line _ _) (h.expr he) (stmts h none hbody hP hQ)
  | .continueLoop, _, _ => .continueLoop (h.line _ _)
  | .breakLoop, _, _ => .breakLoop (h.line _ _)
  | .embed he hbody, hP, hQ => .embedded (h.line _ _) (h.tag he hbody hP hQ)
  | .included htree, hP, _ => .child (h.line _ _) (h.child htree hP)

theorem stmts (h : T.Places k name child P Q) {ss ss' : List Stmt} (top : Option (Nat × Nat)) :
    Stmt.ExtractedAll name child ss ss' → (∀ d ∈ (Stmt.detachList host ss).2, P d) →
      (∀ d ∈ (Stmt.detachList host' ss').2, Q d) →
        T.StmtsRel k top (Stmt.detachList host ss).1 (Stmt.detachList host' ss').1
  | .nil, _, _ => .nil
  | .cons hs hss, hP, hQ => by
    simp only [Stmt.detachList] at hP hQ ⊢
    rw [List.forall_mem_append] at hP hQ
    exact .cons (stmt h top hs hP.1 hQ.1) (stmts h top hss hP.2 hQ.2)

end

mutual

/-- Statements correspond to each other wherever they stand. -/
theorem moved (h : T.Places k name child P Q) {top : Option (Nat × Nat)} {s s' u u' : Stmt} :
    T.StmtRel k top s s' → Stmt.Alike s u → Stmt.Alike s' u' → T.StmtRel k top u u'
  | .output _ hes, .output hu, .output hu' => .output (h.line _ _) (h.exprsBetween hes hu hu')
  | .extend _ he _, .extend hu, .extend hu' =>
    .extend (h.line _ _) (h.exprBetween he hu hu') (h.extends_ (h.exprBetween he hu hu') top)
  | .loop _ ht he hbody horElse htest r, .loop ut ue ubody uorElse utest _,
      .loop ut' ue' ubody' uorElse' utest' _ =>
    .loop (h.line _ _) (h.targetBetween ht ut ut') (h.exprBetween he ue ue')
      (movedAll h hbody ubody ubody') (movedAll h horElse uorElse uorElse')
      (h.exprOptionBetween htest utest utest') r
  | .branch _ he hbody helifs horElse, .branch ue ubody uelifs uorElse,
      .branch ue' ubody' uelifs' uorElse' =>
    .branch (h.line _ _) (h.exprBetween he ue ue') (movedAll h hbody ubody ubody')
      (movedAll h helifs uelifs uelifs') (movedAll h horElse uorElse uorElse')
  | .macroDef _ n ps hdefaults hbody, .macroDef _ _ udefaults ubody,
      .macroDef _ _ udefaults' ubody' =>
    .macroDef (h.line _ _) n ps (h.exprsBetween hdefaults udefaults udefaults')
      (movedAll h hbody ubody ubody')
  | .callBlock _ _ he hargs ps hdefaults hbody, .callBlock ue uargs _ udefaults ubody,
      .callBlock ue' uargs' _ udefaults' ubody' =>
    .callBlock (h.line _ _) (h.line _ _) (h.exprBetween he ue ue') (h.argsBetween hargs uargs uargs')
      ps (h.exprsBetween hdefaults udefaults udefaults') (movedAll h hbody ubody ubody')
  | .filterBlock _ he hbody, .filterBlock ue ubody, .filterBlock ue' ubody' =>
    .filterBlock (h.line _ _) (h.exprBetween he ue ue') (movedAll h hbody ubody ubody')
  | .withBlock _ hbs hbody, .withBlock ubs ubody, .withBlock ubs' ubody' =>
    .withBlock (h.line _ _) (h.bindingsBetween hbs ubs ubs') (movedAll h hbody ubody ubody')
  | .block _ n hbody sc rq, .block _ ubody _ _, .block _ ubody' _ _ =>
    .block (h.line _ _) n (movedAll h hbody ubody ubody') sc rq
  | .inclusion _ he wc im, .inclusion hu _ _, .inclusion hu' _ _ =>
    .inclusion (h.line _ _) (.inl ⟨h.dynamic, h.exprBetween he.alike hu hu'⟩) wc im
  | .importModule _ he t wc, .importModule hu _ _, .importModule hu' _ _ =>
    .importModule (h.line _ _) (.inl ⟨h.dynamic, h.exprBetween he.alike hu hu'⟩) t wc
  | .importNames _ he ns wc, .importNames hu _ _, .importNames hu' _ _ =>
    .importNames (h.line _ _) (.inl ⟨h.dynamic, h.exprBetween he.alike hu hu'⟩) ns wc
  | .exprStmt _ he, .exprStmt hu, .exprStmt hu' =>
    .exprStmt (h.line _ _) (h.exprBetween he hu hu')
  | .assign _ ht he, .assign ut ue, .assign ut' ue' =>
    .assign (h.line _ _) (h.targetBetween ht ut ut') (h.exprBetween he ue ue')
  | .assignBlock _ ht he hbody, .assignBlock ut ue ubody, .assignBlock ut' ue' ubody' =>
    .assignBlock (h.line _ _) (h.targetBetween ht ut ut') (h.exprOptionBetween he ue ue')
      (movedAll h hbody ubody ubody')
  | .autoescape _ he hbody, .autoescape ue ubody, .autoescape ue' ubody' =>
    .autoescape (h.line _ _) (h.exprBetween he ue ue') (movedAll h hbody ubody ubody')
  | .continueLoop _, .continueLoop, .continueLoop => .continueLoop (h.line _ _)
  | .breakLoop _, .breakLoop, .breakLoop => .breakLoop (h.line _ _)
  | .embed _ he hbody, .embed ue ubody, .embed ue' ubody' =>
    .embed (h.line _ _) (h.exprBetween he ue ue') (movedAll h hbody ubody ubody')
  | .embedded _ htag, .embedded _, .embedded _ => .embedded (h.line _ _) htag
  | .child _ hchild, .embedded _, .inclusion (.const _ _) _ _ => .child (h.line _ _) hchild

theorem movedAll (h : T.Places k name child P Q) {top : Option (Nat × Nat)}
    {ss ss' us us' : List Stmt} : T.StmtsRel k top ss ss' → Stmt.AlikeAll ss us →
      Stmt.AlikeAll ss' us' → T.StmtsRel k top us us'
  | .nil, .nil, .nil => .nil
  | .cons hs hss, .cons hu hus, .cons hu' hus' => .cons (moved h hs hu hu') (movedAll h hss hus hus')

end

/-- Bodies of templates correspond to each other. -/
theorem tied (h : T.Places k name child P Q) (top : Option (Nat × Nat)) {ss ss' : List Stmt}
    (hss : Stmt.Tied name child P Q ss ss') : T.StmtsRel k top ss ss' := by
  obtain ⟨host, host', ts, ts', hts, hP, hQ, hleft, hright⟩ := hss
  exact h.movedAll (h.stmts top hts hP hQ) hleft hright

end Places

end Simulation

end Stencil
