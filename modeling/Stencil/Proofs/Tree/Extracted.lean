import Stencil.Proofs.Tree.Labelled
import Stencil.Proofs.Tree.Written

/-!
# Embeds that are made templates of their own

An embed can be taken out of a template by hand: its tree becomes a template of its own, and the
place where it stood includes this template by its name. `Stmt.Extracted` relates the statements
before and after; lines may be different, since the new statements need not take as much room.

## Main definitions

- `Stmt.Extracted`: statements before and after some embeds are made a template of their own
-/

namespace Stencil

/-! ## Any lines -/

section Between

variable {line : Nat → Nat → Prop}

theorem Expr.Alike.between {e e' u u' : Expr} (h : Expr.Alike anyLine e e')
    (hu : Expr.Alike anyLine e u) (hu' : Expr.Alike anyLine e' u') : Expr.Alike anyLine u u' :=
  Expr.alike_of_outline_eq u u' (by rw [hu.outline_eq, hu'.outline_eq, h.outline_eq])

theorem Expr.AlikeAll.between {es es' us us' : List Expr} (h : Expr.AlikeAll anyLine es es')
    (hu : Expr.AlikeAll anyLine es us) (hu' : Expr.AlikeAll anyLine es' us') :
    Expr.AlikeAll anyLine us us' :=
  Expr.alikeAll_of_outline_eq us us' (by rw [hu.outline_eq, hu'.outline_eq, h.outline_eq])

theorem Expr.AlikeOption.between {o o' u u' : Option Expr} (h : Expr.AlikeOption anyLine o o')
    (hu : Expr.AlikeOption anyLine o u) (hu' : Expr.AlikeOption anyLine o' u') :
    Expr.AlikeOption anyLine u u' :=
  Expr.alikeOption_of_outline_eq u u' (by rw [hu.outline_eq, hu'.outline_eq, h.outline_eq])

theorem Args.Alike.between {a a' u u' : Args} (h : Args.Alike anyLine a a')
    (hu : Args.Alike anyLine a u) (hu' : Args.Alike anyLine a' u') : Args.Alike anyLine u u' :=
  Args.alike_of_outline_eq u u' (by rw [hu.outline_eq, hu'.outline_eq, h.outline_eq])

theorem Target.Alike.between {t t' u u' : Target} (h : Target.Alike anyLine t t')
    (hu : Target.Alike anyLine t u) (hu' : Target.Alike anyLine t' u') :
    Target.Alike anyLine u u' :=
  Target.alike_of_outline_eq "store" u u'
    (by rw [hu.outline_eq, hu'.outline_eq, h.outline_eq])

end Between

/-- The targets of a `with` statement with their values, in which lines may differ. -/
def Stmt.BindingsAlike (bs bs' : List (Target × Expr)) : Prop :=
  List.Forall₂ (fun b b' => Target.Alike anyLine b.1 b'.1 ∧ Expr.Alike anyLine b.2 b'.2) bs bs'

theorem Stmt.BindingsAlike.between {bs bs' us us' : List (Target × Expr)}
    (h : BindingsAlike bs bs') (hu : BindingsAlike bs us) (hu' : BindingsAlike bs' us') :
    BindingsAlike us us' := by
  induction h generalizing us us' with
  | nil =>
    cases hu
    cases hu'
    exact .nil
  | cons hb _ ih =>
    cases hu with
    | cons hu hus =>
      cases hu' with
      | cons hu' hus' =>
        exact .cons ⟨hb.1.between hu.1 hu'.1, hb.2.between hu.2 hu'.2⟩ (ih hus hus')

/-! ## Before and after -/

mutual

/-- Statements, as they are written, before and after some embeds with the tree `child` are made a
template called `name`: each of them is included there by this name. Lines may differ. -/
inductive Stmt.Extracted (name : String) (child : List Stmt) : Stmt → Stmt → Prop
  | output {l l' : Nat} {es es' : List Expr} (hes : Expr.AlikeAll anyLine es es') :
      Stmt.Extracted name child (.output l es) (.output l' es')
  | extend {l l' : Nat} {e e' : Expr} (he : Expr.Alike anyLine e e') :
      Stmt.Extracted name child (.extend l e) (.extend l' e')
  | loop {l l' : Nat} {t t' : Target} {e e' : Expr} {body body' orElse orElse' : List Stmt}
      {test test' : Option Expr} (ht : Target.Alike anyLine t t') (he : Expr.Alike anyLine e e')
      (hbody : Stmt.ExtractedAll name child body body')
      (horElse : Stmt.ExtractedAll name child orElse orElse')
      (htest : Expr.AlikeOption anyLine test test') (recursive : Bool) :
      Stmt.Extracted name child (.loop l t e body orElse test recursive)
        (.loop l' t' e' body' orElse' test' recursive)
  | branch {l l' : Nat} {e e' : Expr} {body body' elifs elifs' orElse orElse' : List Stmt}
      (he : Expr.Alike anyLine e e') (hbody : Stmt.ExtractedAll name child body body')
      (helifs : Stmt.ExtractedAll name child elifs elifs')
      (horElse : Stmt.ExtractedAll name child orElse orElse') :
      Stmt.Extracted name child (.branch l e body elifs orElse) (.branch l' e' body' elifs' orElse')
  | macroDef {l l' : Nat} {defaults defaults' : List Expr} {body body' : List Stmt}
      (macroName : String) (params : List String)
      (hdefaults : Expr.AlikeAll anyLine defaults defaults')
      (hbody : Stmt.ExtractedAll name child body body') :
      Stmt.Extracted name child (.macroDef l macroName params defaults body)
        (.macroDef l' macroName params defaults' body')
  | callBlock {l l' cl cl' : Nat} {e e' : Expr} {args args' : Args}
      {defaults defaults' : List Expr} {body body' : List Stmt} (he : Expr.Alike anyLine e e')
      (hargs : Args.Alike anyLine args args') (params : List String)
      (hdefaults : Expr.AlikeAll anyLine defaults defaults')
      (hbody : Stmt.ExtractedAll name child body body') :
      Stmt.Extracted name child (.callBlock l cl e args params defaults body)
        (.callBlock l' cl' e' args' params defaults' body')
  | filterBlock {l l' : Nat} {e e' : Expr} {body body' : List Stmt} (he : Expr.Alike anyLine e e')
      (hbody : Stmt.ExtractedAll name child body body') :
      Stmt.Extracted name child (.filterBlock l e body) (.filterBlock l' e' body')
  | withBlock {l l' : Nat} {bs bs' : List (Target × Expr)} {body body' : List Stmt}
      (hbs : Stmt.BindingsAlike bs bs') (hbody : Stmt.ExtractedAll name child body body') :
      Stmt.Extracted name child (.withBlock l bs body) (.withBlock l' bs' body')
  | block {l l' : Nat} {body body' : List Stmt} (blockName : String)
      (hbody : Stmt.ExtractedAll name child body body') (isScoped isRequired : Bool) :
      Stmt.Extracted name child (.block l blockName body isScoped isRequired)
        (.block l' blockName body' isScoped isRequired)
  | inclusion {l l' : Nat} {e e' : Expr} (he : Expr.Alike anyLine e e')
      (withContext ignoreMissing : Bool) :
      Stmt.Extracted name child (.inclusion l e withContext ignoreMissing)
        (.inclusion l' e' withContext ignoreMissing)
  | importModule {l l' : Nat} {e e' : Expr} (he : Expr.Alike anyLine e e') (target : String)
      (withContext : Bool) :
      Stmt.Extracted name child (.importModule l e target withContext)
        (.importModule l' e' target withContext)
  | importNames {l l' : Nat} {e e' : Expr} (he : Expr.Alike anyLine e e')
      (names : List ImportName) (withContext : Bool) :
      Stmt.Extracted name child (.importNames l e names withContext)
        (.importNames l' e' names withContext)
  | exprStmt {l l' : Nat} {e e' : Expr} (he : Expr.Alike anyLine e e') :
      Stmt.Extracted name child (.exprStmt l e) (.exprStmt l' e')
  | assign {l l' : Nat} {t t' : Target} {e e' : Expr} (ht : Target.Alike anyLine t t')
      (he : Expr.Alike anyLine e e') : Stmt.Extracted name child (.assign l t e) (.assign l' t' e')
  | assignBlock {l l' : Nat} {t t' : Target} {e e' : Option Expr} {body body' : List Stmt}
      (ht : Target.Alike anyLine t t') (he : Expr.AlikeOption anyLine e e')
      (hbody : Stmt.ExtractedAll name child body body') :
      Stmt.Extracted name child (.assignBlock l t e body) (.assignBlock l' t' e' body')
  | autoescape {l l' : Nat} {e e' : Expr} {body body' : List Stmt} (he : Expr.Alike anyLine e e')
      (hbody : Stmt.ExtractedAll name child body body') :
      Stmt.Extracted name child (.autoescape l e body) (.autoescape l' e' body')
  | continueLoop {l l' : Nat} : Stmt.Extracted name child (.continueLoop l) (.continueLoop l')
  | breakLoop {l l' : Nat} : Stmt.Extracted name child (.breakLoop l) (.breakLoop l')
  | embed {l l' : Nat} {e e' : Expr} {body body' : List Stmt} (he : Expr.Alike anyLine e e')
      (hbody : Stmt.ExtractedAll name child body body') :
      Stmt.Extracted name child (.embed l e body) (.embed l' e' body')
  | included {l l' el : Nat} {e : Expr} {body : List Stmt}
      (htree : Stmt.AlikeAll (.extend l e :: body) child) :
      Stmt.Extracted name child (.embed l e body)
        (.inclusion l' (.const el (.text name)) true false)

inductive Stmt.ExtractedAll (name : String) (child : List Stmt) : List Stmt → List Stmt → Prop
  | nil : Stmt.ExtractedAll name child [] []
  | cons {s s' : Stmt} {ss ss' : List Stmt} (hs : Stmt.Extracted name child s s')
      (hss : Stmt.ExtractedAll name child ss ss') :
      Stmt.ExtractedAll name child (s :: ss) (s' :: ss')

end

section Unchanged

variable {name : String} {child : List Stmt}

mutual

/-- No embed needs to be taken out of statements as they are written. -/
theorem Stmt.Alike.extracted {s s' : Stmt} :
    Stmt.Alike s s' → Stmt.gather Stmt.place true s' = [] → Stmt.Extracted name child s s'
  | .output hes, _ => .output hes
  | .extend he, _ => .extend he
  | .loop ht he hbody horElse htest r, h => by
    simp only [Stmt.gather, Stmt.place, List.append_nil, List.append_eq_nil_iff] at h
    exact .loop ht he (hbody.extracted h.1) (horElse.extracted h.2) htest r
  | .branch he hbody helifs horElse, h => by
    simp only [Stmt.gather, Stmt.place, List.append_nil, List.append_eq_nil_iff] at h
    exact .branch he (hbody.extracted h.1.1) (helifs.extracted h.1.2) (horElse.extracted h.2)
  | .macroDef n ps hdefaults hbody, h => by
    simp only [Stmt.gather, Stmt.place, List.append_nil] at h
    exact .macroDef n ps hdefaults (hbody.extracted h)
  | .callBlock he hargs ps hdefaults hbody, h => by
    simp only [Stmt.gather, Stmt.place, List.append_nil] at h
    exact .callBlock he hargs ps hdefaults (hbody.extracted h)
  | .filterBlock he hbody, h => by
    simp only [Stmt.gather, Stmt.place, List.append_nil] at h
    exact .filterBlock he (hbody.extracted h)
  | .withBlock hbs hbody, h => by
    simp only [Stmt.gather, Stmt.place, List.append_nil] at h
    exact .withBlock hbs (hbody.extracted h)
  | .block n hbody sc rq, h => by
    simp only [Stmt.gather, Stmt.place, List.append_nil] at h
    exact .block n (hbody.extracted h) sc rq
  | .inclusion he wc im, _ => .inclusion he wc im
  | .importModule he t wc, _ => .importModule he t wc
  | .importNames he ns wc, _ => .importNames he ns wc
  | .exprStmt he, _ => .exprStmt he
  | .assign ht he, _ => .assign ht he
  | .assignBlock ht he hbody, h => by
    simp only [Stmt.gather, Stmt.place, List.append_nil] at h
    exact .assignBlock ht he (hbody.extracted h)
  | .autoescape he hbody, h => by
    simp only [Stmt.gather, Stmt.place, List.append_nil] at h
    exact .autoescape he (hbody.extracted h)
  | .continueLoop, _ => .continueLoop
  | .breakLoop, _ => .breakLoop
  | .embed he hbody, h => by
    simp only [Stmt.gather, Stmt.place, List.append_nil, if_true] at h
    exact .embed he (hbody.extracted h)
  | .embedded key, h => by simp [Stmt.gather, Stmt.place] at h

theorem Stmt.AlikeAll.extracted {ss ss' : List Stmt} :
    Stmt.AlikeAll ss ss' → Stmt.keys ss' = [] → Stmt.ExtractedAll name child ss ss'
  | .nil, _ => .nil
  | .cons hs hss, h => by
    rw [Stmt.keys_cons, List.append_eq_nil_iff] at h
    exact .cons (hs.extracted h.1) (hss.extracted h.2)

end

end Unchanged

section Same

theorem anyLine_refl (l : Nat) : anyLine l l :=
  trivial

mutual

theorem Stmt.Alike.refl : (s : Stmt) → Stmt.Alike s s
  | .output _ es => .output (.refl anyLine_refl es)
  | .extend _ e => .extend (.refl anyLine_refl e)
  | .loop _ t e body orElse test r =>
    .loop (.refl anyLine_refl t) (.refl anyLine_refl e) (Stmt.AlikeAll.refl body)
      (Stmt.AlikeAll.refl orElse) (.refl anyLine_refl test) r
  | .branch _ e body elifs orElse =>
    .branch (.refl anyLine_refl e) (Stmt.AlikeAll.refl body) (Stmt.AlikeAll.refl elifs)
      (Stmt.AlikeAll.refl orElse)
  | .macroDef _ n ps defaults body =>
    .macroDef n ps (.refl anyLine_refl defaults) (Stmt.AlikeAll.refl body)
  | .callBlock _ _ e args ps defaults body =>
    .callBlock (.refl anyLine_refl e) (.refl anyLine_refl args) ps (.refl anyLine_refl defaults)
      (Stmt.AlikeAll.refl body)
  | .filterBlock _ e body => .filterBlock (.refl anyLine_refl e) (Stmt.AlikeAll.refl body)
  | .withBlock _ _ body =>
    .withBlock (List.forall₂_same.2 fun b _ => ⟨.refl anyLine_refl b.1, .refl anyLine_refl b.2⟩)
      (Stmt.AlikeAll.refl body)
  | .block _ n body sc rq => .block n (Stmt.AlikeAll.refl body) sc rq
  | .inclusion _ e wc im => .inclusion (.refl anyLine_refl e) wc im
  | .importModule _ e t wc => .importModule (.refl anyLine_refl e) t wc
  | .importNames _ e ns wc => .importNames (.refl anyLine_refl e) ns wc
  | .exprStmt _ e => .exprStmt (.refl anyLine_refl e)
  | .assign _ t e => .assign (.refl anyLine_refl t) (.refl anyLine_refl e)
  | .assignBlock _ t o body =>
    .assignBlock (.refl anyLine_refl t) (.refl anyLine_refl o) (Stmt.AlikeAll.refl body)
  | .autoescape _ e body => .autoescape (.refl anyLine_refl e) (Stmt.AlikeAll.refl body)
  | .continueLoop _ => .continueLoop
  | .breakLoop _ => .breakLoop
  | .embed _ e body => .embed (.refl anyLine_refl e) (Stmt.AlikeAll.refl body)
  | .embedded _ key => .embedded key

theorem Stmt.AlikeAll.refl : (ss : List Stmt) → Stmt.AlikeAll ss ss
  | [] => .nil
  | s :: ss => .cons (Stmt.Alike.refl s) (Stmt.AlikeAll.refl ss)

end

end Same

end Stencil
