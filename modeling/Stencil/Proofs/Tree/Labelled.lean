import Mathlib.Data.List.Forall2
import Stencil.Proofs.Tree.Alike
import Stencil.Tree.Embed

/-!
# Trees and their labelled forms

The labelled form of a tree shows all but the lines. So trees that differ in lines only have the
same labelled form, and trees with the same labelled form differ in lines only, once embeds are
taken out of them.

## Key results

- `Stmt.AlikeAll.outline_eq`: trees that differ in lines only have the same labelled form
- `Stmt.alike_of_outline_eq`: trees with the same labelled form differ in lines only
-/

namespace Stencil

/-- Any two lines. -/
def anyLine (_ _ : Nat) : Prop := True

/-! ## Statements that differ in lines only -/

mutual

/-- Statements that differ in lines only. -/
inductive Stmt.Alike : Stmt → Stmt → Prop
  | output {l l' : Nat} {es es' : List Expr} (hes : Expr.AlikeAll anyLine es es') :
      Stmt.Alike (.output l es) (.output l' es')
  | extend {l l' : Nat} {e e' : Expr} (he : Expr.Alike anyLine e e') :
      Stmt.Alike (.extend l e) (.extend l' e')
  | loop {l l' : Nat} {t t' : Target} {e e' : Expr} {body body' orElse orElse' : List Stmt}
      {test test' : Option Expr} (ht : Target.Alike anyLine t t') (he : Expr.Alike anyLine e e')
      (hbody : Stmt.AlikeAll body body') (horElse : Stmt.AlikeAll orElse orElse')
      (htest : Expr.AlikeOption anyLine test test') (recursive : Bool) :
      Stmt.Alike (.loop l t e body orElse test recursive)
        (.loop l' t' e' body' orElse' test' recursive)
  | branch {l l' : Nat} {e e' : Expr} {body body' elifs elifs' orElse orElse' : List Stmt}
      (he : Expr.Alike anyLine e e') (hbody : Stmt.AlikeAll body body')
      (helifs : Stmt.AlikeAll elifs elifs') (horElse : Stmt.AlikeAll orElse orElse') :
      Stmt.Alike (.branch l e body elifs orElse) (.branch l' e' body' elifs' orElse')
  | macroDef {l l' : Nat} {defaults defaults' : List Expr} {body body' : List Stmt} (name : String)
      (params : List String) (hdefaults : Expr.AlikeAll anyLine defaults defaults')
      (hbody : Stmt.AlikeAll body body') :
      Stmt.Alike (.macroDef l name params defaults body) (.macroDef l' name params defaults' body')
  | callBlock {l l' cl cl' : Nat} {e e' : Expr} {args args' : Args}
      {defaults defaults' : List Expr} {body body' : List Stmt} (he : Expr.Alike anyLine e e')
      (hargs : Args.Alike anyLine args args') (params : List String)
      (hdefaults : Expr.AlikeAll anyLine defaults defaults') (hbody : Stmt.AlikeAll body body') :
      Stmt.Alike (.callBlock l cl e args params defaults body)
        (.callBlock l' cl' e' args' params defaults' body')
  | filterBlock {l l' : Nat} {e e' : Expr} {body body' : List Stmt} (he : Expr.Alike anyLine e e')
      (hbody : Stmt.AlikeAll body body') :
      Stmt.Alike (.filterBlock l e body) (.filterBlock l' e' body')
  | withBlock {l l' : Nat} {bs bs' : List (Target × Expr)} {body body' : List Stmt}
      (hbs : List.Forall₂ (fun b b' => Target.Alike anyLine b.1 b'.1 ∧ Expr.Alike anyLine b.2 b'.2)
        bs bs') (hbody : Stmt.AlikeAll body body') :
      Stmt.Alike (.withBlock l bs body) (.withBlock l' bs' body')
  | block {l l' : Nat} {body body' : List Stmt} (name : String) (hbody : Stmt.AlikeAll body body')
      (isScoped isRequired : Bool) :
      Stmt.Alike (.block l name body isScoped isRequired) (.block l' name body' isScoped isRequired)
  | inclusion {l l' : Nat} {e e' : Expr} (he : Expr.Alike anyLine e e')
      (withContext ignoreMissing : Bool) :
      Stmt.Alike (.inclusion l e withContext ignoreMissing)
        (.inclusion l' e' withContext ignoreMissing)
  | importModule {l l' : Nat} {e e' : Expr} (he : Expr.Alike anyLine e e') (target : String)
      (withContext : Bool) :
      Stmt.Alike (.importModule l e target withContext) (.importModule l' e' target withContext)
  | importNames {l l' : Nat} {e e' : Expr} (he : Expr.Alike anyLine e e')
      (names : List ImportName) (withContext : Bool) :
      Stmt.Alike (.importNames l e names withContext) (.importNames l' e' names withContext)
  | exprStmt {l l' : Nat} {e e' : Expr} (he : Expr.Alike anyLine e e') :
      Stmt.Alike (.exprStmt l e) (.exprStmt l' e')
  | assign {l l' : Nat} {t t' : Target} {e e' : Expr} (ht : Target.Alike anyLine t t')
      (he : Expr.Alike anyLine e e') : Stmt.Alike (.assign l t e) (.assign l' t' e')
  | assignBlock {l l' : Nat} {t t' : Target} {e e' : Option Expr} {body body' : List Stmt}
      (ht : Target.Alike anyLine t t') (he : Expr.AlikeOption anyLine e e')
      (hbody : Stmt.AlikeAll body body') :
      Stmt.Alike (.assignBlock l t e body) (.assignBlock l' t' e' body')
  | autoescape {l l' : Nat} {e e' : Expr} {body body' : List Stmt} (he : Expr.Alike anyLine e e')
      (hbody : Stmt.AlikeAll body body') :
      Stmt.Alike (.autoescape l e body) (.autoescape l' e' body')
  | continueLoop {l l' : Nat} : Stmt.Alike (.continueLoop l) (.continueLoop l')
  | breakLoop {l l' : Nat} : Stmt.Alike (.breakLoop l) (.breakLoop l')
  | embed {l l' : Nat} {e e' : Expr} {body body' : List Stmt} (he : Expr.Alike anyLine e e')
      (hbody : Stmt.AlikeAll body body') : Stmt.Alike (.embed l e body) (.embed l' e' body')
  | embedded {l l' : Nat} (key : String) : Stmt.Alike (.embedded l key) (.embedded l' key)

inductive Stmt.AlikeAll : List Stmt → List Stmt → Prop
  | nil : Stmt.AlikeAll [] []
  | cons {s s' : Stmt} {ss ss' : List Stmt} (hs : Stmt.Alike s s') (hss : Stmt.AlikeAll ss ss') :
      Stmt.AlikeAll (s :: ss) (s' :: ss')

end

/-- Templates that differ in lines only. -/
def Template.Alike (t t' : Template) : Prop :=
  Stmt.AlikeAll t.body t'.body

/-! ## The labelled form leaves lines out -/

mutual

theorem Expr.Alike.outline_eq {line : Nat → Nat → Prop} {e e' : Expr} :
    Expr.Alike line e e' → e'.outline = e.outline
  | .name _ _ => rfl
  | .const _ _ => rfl
  | .data _ _ => rfl
  | .tuple _ hes => by simp only [Expr.outline, hes.outline_eq]
  | .list _ hes => by simp only [Expr.outline, hes.outline_eq]
  | .dict _ hps => by simp only [Expr.outline, hps.outline_eq]
  | .cond _ ht hv ho => by simp only [Expr.outline, ht.outline_eq, hv.outline_eq, ho.outline_eq]
  | .filter _ hs _ hargs => by simp only [Expr.outline, hs.outline_eq, hargs.outline_eq]
  | .test _ hs _ hargs => by simp only [Expr.outline, hs.outline_eq, hargs.outline_eq]
  | .call _ hs hargs => by simp only [Expr.outline, hs.outline_eq, hargs.outline_eq]
  | .item _ hs hi => by simp only [Expr.outline, hs.outline_eq, hi.outline_eq]
  | .member _ hs _ => by simp only [Expr.outline, hs.outline_eq]
  | .slice _ ha hb hc => by simp only [Expr.outline, ha.outline_eq, hb.outline_eq, hc.outline_eq]
  | .concat _ hes => by simp only [Expr.outline, hes.outline_eq]
  | .compare _ hs hops => by simp only [Expr.outline, hs.outline_eq, hops.outline_eq]
  | .binary _ _ ha hb => by simp only [Expr.outline, ha.outline_eq, hb.outline_eq]
  | .unary _ _ ha => by simp only [Expr.outline, ha.outline_eq]

theorem Expr.AlikeAll.outline_eq {line : Nat → Nat → Prop} {es es' : List Expr} :
    Expr.AlikeAll line es es' → Expr.outlineList es' = Expr.outlineList es
  | .nil => rfl
  | .cons he hes => by simp only [Expr.outlineList, he.outline_eq, hes.outline_eq]

theorem Expr.AlikeOption.outline_eq {line : Nat → Nat → Prop} {o o' : Option Expr} :
    Expr.AlikeOption line o o' → Expr.outlineOption o' = Expr.outlineOption o
  | .none => rfl
  | .some he => by simp only [Expr.outlineOption, he.outline_eq]

theorem Expr.AlikePairs.outline_eq {line : Nat → Nat → Prop} {ps ps' : List (Expr × Expr)} :
    Expr.AlikePairs line ps ps' → Expr.outlinePairs ps' = Expr.outlinePairs ps
  | .nil => rfl
  | .cons hk hv hps => by
    simp only [Expr.outlinePairs, hk.outline_eq, hv.outline_eq, hps.outline_eq]

theorem Expr.AlikeOperands.outline_eq {line : Nat → Nat → Prop}
    {ops ops' : List (Comparison × Expr)} :
    Expr.AlikeOperands line ops ops' → Expr.outlineOperands ops' = Expr.outlineOperands ops
  | .nil => rfl
  | .cons _ he hops => by simp only [Expr.outlineOperands, he.outline_eq, hops.outline_eq]

theorem Expr.AlikeNamed.outline_eq {line : Nat → Nat → Prop} {ns ns' : List (String × Expr)} :
    Expr.AlikeNamed line ns ns' → Expr.outlineNamed ns' = Expr.outlineNamed ns
  | .nil => rfl
  | .cons _ he hns => by simp only [Expr.outlineNamed, he.outline_eq, hns.outline_eq]

theorem Args.Alike.outline_eq {line : Nat → Nat → Prop} {args args' : Args} :
    Args.Alike line args args' → Expr.outlineArgs args' = Expr.outlineArgs args
  | .mk hes hns hs hr => by
    simp only [Expr.outlineArgs, hes.outline_eq, hns.outline_eq, hs.outline_eq, hr.outline_eq]

end

mutual

theorem Target.Alike.outline_eq {line : Nat → Nat → Prop} (use : String) {t t' : Target} :
    Target.Alike line t t' → t'.outline use = t.outline use
  | .name _ _ => rfl
  | .member _ _ _ => rfl
  | .tuple _ hts => by simp only [Target.outline, hts.outline_eq use]

theorem Target.AlikeAll.outline_eq {line : Nat → Nat → Prop} (use : String) {ts ts' : List Target} :
    Target.AlikeAll line ts ts' → Target.outlineList use ts' = Target.outlineList use ts
  | .nil => rfl
  | .cons ht hts => by simp only [Target.outlineList, ht.outline_eq use, hts.outline_eq use]

end

theorem map_outline_eq {α β : Type} {R : α → α → Prop} {f : α → β} (h : ∀ a a', R a a' → f a' = f a)
    {as as' : List α} (has : List.Forall₂ R as as') : as'.map f = as.map f := by
  induction has with
  | nil => rfl
  | cons ha _ ih => rw [List.map_cons, List.map_cons, h _ _ ha, ih]

mutual

/-- Statements that differ in lines only have the same labelled form. -/
theorem Stmt.Alike.outline_eq {s s' : Stmt} : Stmt.Alike s s' → s'.outline = s.outline
  | .output hes => by simp only [Stmt.outline, hes.outline_eq]
  | .extend he => by simp only [Stmt.outline, he.outline_eq]
  | .loop ht he hbody horElse htest _ => by
    simp only [Stmt.outline, ht.outline_eq, he.outline_eq, hbody.outline_eq, horElse.outline_eq,
      htest.outline_eq]
  | .branch he hbody helifs horElse => by
    simp only [Stmt.outline, he.outline_eq, hbody.outline_eq, helifs.outline_eq, horElse.outline_eq]
  | .macroDef _ _ hdefaults hbody => by
    simp only [Stmt.outline, hdefaults.outline_eq, hbody.outline_eq]
  | .callBlock he hargs _ hdefaults hbody => by
    simp only [Stmt.outline, he.outline_eq, hargs.outline_eq, hdefaults.outline_eq,
      hbody.outline_eq]
  | .filterBlock he hbody => by simp only [Stmt.outline, he.outline_eq, hbody.outline_eq]
  | .withBlock hbs hbody => by
    simp only [Stmt.outline, hbody.outline_eq,
      map_outline_eq (f := fun b : Target × Expr => Field.node (b.1.outline "param"))
        (fun _ _ h => congrArg Field.node (h.1.outline_eq "param")) hbs,
      map_outline_eq (f := fun b : Target × Expr => Field.node b.2.outline)
        (fun _ _ h => congrArg Field.node h.2.outline_eq) hbs]
  | .block _ hbody _ _ => by simp only [Stmt.outline, hbody.outline_eq]
  | .inclusion he _ _ => by simp only [Stmt.outline, he.outline_eq]
  | .importModule he _ _ => by simp only [Stmt.outline, he.outline_eq]
  | .importNames he _ _ => by simp only [Stmt.outline, he.outline_eq]
  | .exprStmt he => by simp only [Stmt.outline, he.outline_eq]
  | .assign ht he => by simp only [Stmt.outline, ht.outline_eq, he.outline_eq]
  | .assignBlock ht he hbody => by
    simp only [Stmt.outline, ht.outline_eq, he.outline_eq, hbody.outline_eq]
  | .autoescape he hbody => by simp only [Stmt.outline, he.outline_eq, hbody.outline_eq]
  | .continueLoop => rfl
  | .breakLoop => rfl
  | .embed _ _ => rfl
  | .embedded _ => rfl

theorem Stmt.AlikeAll.outline_eq {ss ss' : List Stmt} :
    Stmt.AlikeAll ss ss' → Stmt.outlineList ss' = Stmt.outlineList ss
  | .nil => rfl
  | .cons hs hss => by simp only [Stmt.outlineList, hs.outline_eq, hss.outline_eq]

end

/-- Templates that differ in lines only have the same written form. -/
theorem Template.Alike.dump_eq {t t' : Template} (h : t.Alike t') : t'.dump = t.dump := by
  rw [Template.dump, Template.dump, Template.outline, Template.outline, Stmt.AlikeAll.outline_eq h]

/-! ## The labelled form shows all but lines -/

/-- The fields of a node, of which there are no more than its kind has. -/
theorem Outline.fields_inj {kind : Kind} {fs fs' : List Field} (h : node kind fs = node kind fs')
    (hlen : fs.length ≤ kind.fields.length) (hlen' : fs'.length ≤ kind.fields.length) : fs = fs' := by
  have hzip : kind.fields.zip fs = kind.fields.zip fs' := (Node.mk.inj h).2.1
  have hfields := congrArg (List.map Prod.snd) hzip
  rwa [List.map_snd_zip hlen, List.map_snd_zip hlen'] at hfields

/-- Whether a kind is that of an operator. -/
def Kind.isOperator (k : Kind) : Bool :=
  k.fields == ["left", "right"] || k.fields == ["node"]

theorem BinaryOp.fields_kind (op : BinaryOp) : op.kind.fields = ["left", "right"] := by
  cases op <;> rfl

theorem BinaryOp.kind_inj {op op' : BinaryOp} (h : op.kind = op'.kind) : op = op' := by
  cases op <;> cases op' <;> first | rfl | exact nomatch h

theorem UnaryOp.fields_kind (op : UnaryOp) : op.kind.fields = ["node"] := by
  cases op <;> rfl

theorem UnaryOp.kind_inj {op op' : UnaryOp} (h : op.kind = op'.kind) : op = op' := by
  cases op <;> cases op' <;> first | rfl | exact nomatch h

theorem BinaryOp.ne_kind (op : BinaryOp) {k : Kind} (h : k.isOperator = false) : k ≠ op.kind := by
  rintro rfl
  rw [Kind.isOperator, op.fields_kind] at h
  exact nomatch h

theorem UnaryOp.ne_kind (op : UnaryOp) {k : Kind} (h : k.isOperator = false) : k ≠ op.kind := by
  rintro rfl
  rw [Kind.isOperator, op.fields_kind] at h
  exact nomatch h

theorem Comparison.label_inj {op op' : Comparison} (h : op.label = op'.label) : op = op' := by
  cases op <;> cases op' <;> first | rfl | exact absurd h (by decide)

theorem Expr.length_outlineArgs (args : Args) : (Expr.outlineArgs args).length = 4 := by
  cases args
  rfl

theorem Expr.length_call_fields (s : Expr) (args : Args) :
    (Field.node s.outline :: Expr.outlineArgs args).length ≤ Kind.call.fields.length := by
  rw [List.length_cons, Expr.length_outlineArgs]
  decide

theorem Expr.length_filter_fields (s : Option Expr) (n : String) (args : Args) :
    (Expr.outlineOption s :: Outline.text n :: Expr.outlineArgs args).length ≤
      Kind.filter.fields.length := by
  rw [List.length_cons, List.length_cons, Expr.length_outlineArgs]
  decide

theorem Expr.kind_outline (e : Expr) : e.outline.kind = e.kind := by
  cases e <;> rfl

theorem Expr.kind_eq_of_outline_eq {e e' : Expr} (h : e.outline = e'.outline) : e.kind = e'.kind := by
  rw [← e.kind_outline, ← e'.kind_outline, h]

/-- A kind, or the number of operands of the operators that have it. -/
def Kind.form (k : Kind) : Kind ⊕ Nat :=
  if k.isOperator then .inr k.fields.length else .inl k

/-- What tells expressions from each other before their operators are looked at. -/
def Expr.form : Expr → Kind ⊕ Nat
  | .binary _ _ _ _ => .inr 2
  | .unary _ _ _ => .inr 1
  | e => .inl e.kind

theorem Expr.form_kind (e : Expr) : e.kind.form = e.form := by
  cases e with
  | binary l op a b => simp [kind, Kind.form, Kind.isOperator, op.fields_kind, form]
  | unary l op a => simp [kind, Kind.form, Kind.isOperator, op.fields_kind, form]
  | _ => rfl

/-- Expressions with the same labelled form are made in the same way. -/
theorem Expr.form_eq_of_outline_eq {e e' : Expr} (h : e.outline = e'.outline) : e.form = e'.form := by
  rw [← e.form_kind, ← e'.form_kind, kind_eq_of_outline_eq h]

mutual

/-- Expressions with the same labelled form differ in lines only. -/
theorem Expr.alike_of_outline_eq : (e e' : Expr) → e.outline = e'.outline →
    Expr.Alike anyLine e e'
  | .name l id, e', h => by
    have hform := Expr.form_eq_of_outline_eq h
    cases e' with
    | name l' id' =>
      simp [Expr.outline, Outline.node, Kind.fields, Outline.text] at h
      subst h
      exact .name trivial id
    | _ => exact nomatch hform
  | .const l d, e', h => by
    have hform := Expr.form_eq_of_outline_eq h
    cases e' with
    | const l' d' =>
      simp [Expr.outline, Outline.node, Kind.fields] at h
      subst h
      exact .const trivial d
    | _ => exact nomatch hform
  | .data l s, e', h => by
    have hform := Expr.form_eq_of_outline_eq h
    cases e' with
    | data l' s' =>
      simp [Expr.outline, Outline.node, Kind.fields, Outline.text] at h
      subst h
      exact .data trivial s
    | _ => exact nomatch hform
  | .tuple l es, e', h => by
    have hform := Expr.form_eq_of_outline_eq h
    cases e' with
    | tuple l' es' =>
      simp [Expr.outline, Outline.node, Kind.fields, Outline.text] at h
      exact .tuple trivial (Expr.alikeAll_of_outline_eq es es' h)
    | _ => exact nomatch hform
  | .list l es, e', h => by
    have hform := Expr.form_eq_of_outline_eq h
    cases e' with
    | list l' es' =>
      simp [Expr.outline, Outline.node, Kind.fields] at h
      exact .list trivial (Expr.alikeAll_of_outline_eq es es' h)
    | _ => exact nomatch hform
  | .dict l ps, e', h => by
    have hform := Expr.form_eq_of_outline_eq h
    cases e' with
    | dict l' ps' =>
      simp [Expr.outline, Outline.node, Kind.fields] at h
      exact .dict trivial (Expr.alikePairs_of_outline_eq ps ps' h)
    | _ => exact nomatch hform
  | .cond l t v o, e', h => by
    have hform := Expr.form_eq_of_outline_eq h
    cases e' with
    | cond l' t' v' o' =>
      simp [Expr.outline, Outline.node, Kind.fields] at h
      exact .cond trivial (Expr.alike_of_outline_eq t t' h.1) (Expr.alike_of_outline_eq v v' h.2.1)
        (Expr.alikeOption_of_outline_eq o o' h.2.2)
    | _ => exact nomatch hform
  | .filter l s n args, e', h => by
    have hform := Expr.form_eq_of_outline_eq h
    cases e' with
    | filter l' s' n' args' =>
      have hf := Outline.fields_inj h (Expr.length_filter_fields s n args)
        (Expr.length_filter_fields s' n' args')
      simp only [List.cons.injEq, Outline.text, Field.datum.injEq, Datum.text.injEq] at hf
      obtain ⟨hs, rfl, hargs⟩ := hf
      exact .filter trivial (Expr.alikeOption_of_outline_eq s s' hs) n
        (Args.alike_of_outline_eq args args' hargs)
    | _ => exact nomatch hform
  | .test l s n args, e', h => by
    have hform := Expr.form_eq_of_outline_eq h
    cases e' with
    | test l' s' n' args' =>
      have hf := Outline.fields_inj h (Expr.length_filter_fields (some s) n args)
        (Expr.length_filter_fields (some s') n' args')
      simp only [List.cons.injEq, Outline.text, Field.datum.injEq, Datum.text.injEq,
        Field.node.injEq] at hf
      obtain ⟨hs, rfl, hargs⟩ := hf
      exact .test trivial (Expr.alike_of_outline_eq s s' hs) n
        (Args.alike_of_outline_eq args args' hargs)
    | _ => exact nomatch hform
  | .call l s args, e', h => by
    have hform := Expr.form_eq_of_outline_eq h
    cases e' with
    | call l' s' args' =>
      have hf := Outline.fields_inj h (Expr.length_call_fields s args)
        (Expr.length_call_fields s' args')
      simp only [List.cons.injEq, Field.node.injEq] at hf
      exact .call trivial (Expr.alike_of_outline_eq s s' hf.1)
        (Args.alike_of_outline_eq args args' hf.2)
    | _ => exact nomatch hform
  | .item l s i, e', h => by
    have hform := Expr.form_eq_of_outline_eq h
    cases e' with
    | item l' s' i' =>
      simp [Expr.outline, Outline.node, Kind.fields, Outline.text] at h
      exact .item trivial (Expr.alike_of_outline_eq s s' h.1) (Expr.alike_of_outline_eq i i' h.2)
    | _ => exact nomatch hform
  | .member l s n, e', h => by
    have hform := Expr.form_eq_of_outline_eq h
    cases e' with
    | member l' s' n' =>
      simp [Expr.outline, Outline.node, Kind.fields, Outline.text] at h
      obtain ⟨hs, rfl⟩ := h
      exact .member trivial (Expr.alike_of_outline_eq s s' hs) n
    | _ => exact nomatch hform
  | .slice l a b c, e', h => by
    have hform := Expr.form_eq_of_outline_eq h
    cases e' with
    | slice l' a' b' c' =>
      simp [Expr.outline, Outline.node, Kind.fields] at h
      exact .slice trivial (Expr.alikeOption_of_outline_eq a a' h.1)
        (Expr.alikeOption_of_outline_eq b b' h.2.1) (Expr.alikeOption_of_outline_eq c c' h.2.2)
    | _ => exact nomatch hform
  | .concat l es, e', h => by
    have hform := Expr.form_eq_of_outline_eq h
    cases e' with
    | concat l' es' =>
      simp [Expr.outline, Outline.node, Kind.fields] at h
      exact .concat trivial (Expr.alikeAll_of_outline_eq es es' h)
    | _ => exact nomatch hform
  | .compare l s ops, e', h => by
    have hform := Expr.form_eq_of_outline_eq h
    cases e' with
    | compare l' s' ops' =>
      simp [Expr.outline, Outline.node, Kind.fields] at h
      exact .compare trivial (Expr.alike_of_outline_eq s s' h.1)
        (Expr.alikeOperands_of_outline_eq ops ops' h.2)
    | _ => exact nomatch hform
  | .binary l op a b, e', h => by
    have hform := Expr.form_eq_of_outline_eq h
    cases e' with
    | binary l' op' a' b' =>
      obtain rfl := BinaryOp.kind_inj (Expr.kind_eq_of_outline_eq h)
      have hlen : 2 ≤ op.kind.fields.length := Nat.le_of_eq (congrArg List.length op.fields_kind).symm
      have hf := Outline.fields_inj h hlen hlen
      simp only [List.cons.injEq, Field.node.injEq, and_true] at hf
      exact .binary trivial op (Expr.alike_of_outline_eq a a' hf.1)
        (Expr.alike_of_outline_eq b b' hf.2)
    | _ => exact nomatch hform
  | .unary l op a, e', h => by
    have hform := Expr.form_eq_of_outline_eq h
    cases e' with
    | unary l' op' a' =>
      obtain rfl := UnaryOp.kind_inj (Expr.kind_eq_of_outline_eq h)
      have hlen : 1 ≤ op.kind.fields.length := Nat.le_of_eq (congrArg List.length op.fields_kind).symm
      have hf := Outline.fields_inj h hlen hlen
      simp only [List.cons.injEq, Field.node.injEq, and_true] at hf
      exact .unary trivial op (Expr.alike_of_outline_eq a a' hf)
    | _ => exact nomatch hform
termination_by structural e => e

theorem Expr.alikeAll_of_outline_eq : (xs xs' : List Expr) →
    Expr.outlineList xs = Expr.outlineList xs' → Expr.AlikeAll anyLine xs xs'
  | [], [], _ => .nil
  | [], _ :: _, h => nomatch h
  | _ :: _, [], h => nomatch h
  | e :: xs, e' :: xs', h => by
    simp only [Expr.outlineList, List.cons.injEq, Field.node.injEq] at h
    exact .cons (Expr.alike_of_outline_eq e e' h.1) (Expr.alikeAll_of_outline_eq xs xs' h.2)
termination_by structural e => e

theorem Expr.alikeOption_of_outline_eq : (o o' : Option Expr) →
    Expr.outlineOption o = Expr.outlineOption o' → Expr.AlikeOption anyLine o o'
  | none, none, _ => .none
  | none, some _, h => nomatch h
  | some _, none, h => nomatch h
  | some e, some e', h => .some (Expr.alike_of_outline_eq e e' (Field.node.inj h))
termination_by structural e => e

theorem Expr.alikePairs_of_outline_eq : (xs xs' : List (Expr × Expr)) →
    Expr.outlinePairs xs = Expr.outlinePairs xs' → Expr.AlikePairs anyLine xs xs'
  | [], [], _ => .nil
  | [], _ :: _, h => nomatch h
  | _ :: _, [], h => nomatch h
  | (k, v) :: xs, (k', v') :: xs', h => by
    simp [Expr.outlinePairs, Outline.node, Kind.fields] at h
    exact .cons (Expr.alike_of_outline_eq k k' h.1.1) (Expr.alike_of_outline_eq v v' h.1.2)
      (Expr.alikePairs_of_outline_eq xs xs' h.2)
termination_by structural e => e

theorem Expr.alikeOperands_of_outline_eq : (xs xs' : List (Comparison × Expr)) →
    Expr.outlineOperands xs = Expr.outlineOperands xs' → Expr.AlikeOperands anyLine xs xs'
  | [], [], _ => .nil
  | [], _ :: _, h => nomatch h
  | _ :: _, [], h => nomatch h
  | (op, e) :: xs, (op', e') :: xs', h => by
    simp [Expr.outlineOperands, Outline.node, Kind.fields, Outline.text] at h
    obtain ⟨⟨hop, he⟩, hxs⟩ := h
    obtain rfl := Comparison.label_inj hop
    exact .cons op (Expr.alike_of_outline_eq e e' he)
      (Expr.alikeOperands_of_outline_eq xs xs' hxs)
termination_by structural e => e

theorem Expr.alikeNamed_of_outline_eq : (xs xs' : List (String × Expr)) →
    Expr.outlineNamed xs = Expr.outlineNamed xs' → Expr.AlikeNamed anyLine xs xs'
  | [], [], _ => .nil
  | [], _ :: _, h => nomatch h
  | _ :: _, [], h => nomatch h
  | (n, e) :: xs, (n', e') :: xs', h => by
    simp [Expr.outlineNamed, Outline.node, Kind.fields, Outline.text] at h
    obtain ⟨⟨rfl, he⟩, hxs⟩ := h
    exact .cons n (Expr.alike_of_outline_eq e e' he) (Expr.alikeNamed_of_outline_eq xs xs' hxs)
termination_by structural e => e

theorem Args.alike_of_outline_eq : (args args' : Args) →
    Expr.outlineArgs args = Expr.outlineArgs args' → Args.Alike anyLine args args'
  | .mk es ns s r, .mk es' ns' s' r', h => by
    simp only [Expr.outlineArgs, List.cons.injEq, Field.list.injEq, and_true] at h
    exact .mk (Expr.alikeAll_of_outline_eq es es' h.1) (Expr.alikeNamed_of_outline_eq ns ns' h.2.1)
      (Expr.alikeOption_of_outline_eq s s' h.2.2.1) (Expr.alikeOption_of_outline_eq r r' h.2.2.2)

termination_by structural e => e
end

mutual

theorem Target.alike_of_outline_eq (use : String) : (t t' : Target) →
    t.outline use = t'.outline use → Target.Alike anyLine t t'
  | .name l id, t', h => by
    cases t' with
    | name l' id' =>
      simp [Target.outline, Outline.node, Kind.fields, Outline.text] at h
      subst h
      exact .name trivial id
    | _ => exact nomatch congrArg Node.kind h
  | .member l s n, t', h => by
    cases t' with
    | member l' s' n' =>
      simp [Target.outline, Outline.node, Kind.fields, Outline.text] at h
      obtain ⟨rfl, rfl⟩ := h
      exact .member trivial s n
    | _ => exact nomatch congrArg Node.kind h
  | .tuple l ts, t', h => by
    cases t' with
    | tuple l' ts' =>
      simp [Target.outline, Outline.node, Kind.fields, Outline.text] at h
      exact .tuple trivial (Target.alikeAll_of_outline_eq use ts ts' h)
    | _ => exact nomatch congrArg Node.kind h

theorem Target.alikeAll_of_outline_eq (use : String) : (ts ts' : List Target) →
    Target.outlineList use ts = Target.outlineList use ts' → Target.AlikeAll anyLine ts ts'
  | [], [], _ => .nil
  | [], _ :: _, h => nomatch h
  | _ :: _, [], h => nomatch h
  | t :: ts, t' :: ts', h => by
    simp only [Target.outlineList, List.cons.injEq, Field.node.injEq] at h
    exact .cons (Target.alike_of_outline_eq use t t' h.1) (Target.alikeAll_of_outline_eq use ts ts' h.2)

end

/-- The kind of a statement in the labelled form. -/
def Stmt.kind : Stmt → Kind
  | output _ _ => .output
  | extend _ _ => .parent
  | loop _ _ _ _ _ _ _ => .loop
  | branch _ _ _ _ _ => .branch
  | macroDef _ _ _ _ _ => .macroDef
  | callBlock _ _ _ _ _ _ _ => .callBlock
  | filterBlock _ _ _ => .filterBlock
  | withBlock _ _ _ => .withBlock
  | block _ _ _ _ _ => .block
  | inclusion _ _ _ _ | embed _ _ _ | embedded _ _ => .inclusion
  | importModule _ _ _ _ => .moduleImport
  | importNames _ _ _ _ => .nameImport
  | exprStmt _ _ => .exprStmt
  | assign _ _ _ => .assign
  | assignBlock _ _ _ _ => .assignBlock
  | autoescape _ _ _ => .scope
  | continueLoop _ => .continueLoop
  | breakLoop _ => .breakLoop

theorem Stmt.kind_detach (host : Option String) (s : Stmt) : (s.detach host).1.outline.kind = s.kind := by
  cases s <;> rfl

theorem Stmt.kind_eq_of_outline_eq {host host' : Option String} {s s' : Stmt}
    (h : (s.detach host).1.outline = (s'.detach host').1.outline) : s.kind = s'.kind := by
  rw [← s.kind_detach host, ← s'.kind_detach host', h]

theorem Stmt.outlineParams_inj {params params' : List String}
    (h : outlineParams params = outlineParams params') : params = params' := by
  refine List.map_injective_iff.2 (fun p p' hp => ?_) (Field.list.inj h)
  simpa [Outline.node, Kind.fields, Outline.text] using hp

theorem ImportName.outline_inj {n n' : ImportName} (h : n.outline = n'.outline) : n = n' := by
  obtain ⟨name, rename⟩ := n
  obtain ⟨name', rename'⟩ := n'
  cases rename <;> cases rename' <;> simp_all [ImportName.outline, Outline.text]

theorem Stmt.bindings_alike {bs bs' : List (Target × Expr)}
    (htargets : bs.map (fun b => Field.node (b.1.outline "param")) =
      bs'.map fun b => Field.node (b.1.outline "param"))
    (hvalues : bs.map (fun b => Field.node b.2.outline) = bs'.map fun b => Field.node b.2.outline) :
    List.Forall₂ (fun b b' => Target.Alike anyLine b.1 b'.1 ∧ Expr.Alike anyLine b.2 b'.2) bs bs' := by
  induction bs generalizing bs' with
  | nil =>
    cases bs' with
    | nil => exact .nil
    | cons b' bs' => exact nomatch htargets
  | cons b bs ih =>
    cases bs' with
    | nil => exact nomatch htargets
    | cons b' bs' =>
      obtain ⟨ht, hts⟩ := List.cons.inj htargets
      obtain ⟨hv, hvs⟩ := List.cons.inj hvalues
      exact .cons ⟨Target.alike_of_outline_eq _ _ _ (Field.node.inj ht),
        Expr.alike_of_outline_eq _ _ (Field.node.inj hv)⟩ (ih hts hvs)

/-- No source can write the name of an embedded template. -/
theorem Expr.outline_ne_embedCall (e : Expr) (key : String) : e.outline ≠ embedCall key := by
  intro h
  have hkind : e.kind = .call := by rw [← e.kind_outline, h]; rfl
  have hform : e.form = .inl .call := by rw [← e.form_kind, hkind]; rfl
  cases e with
  | call l callee args =>
    have hf := Outline.fields_inj h (Expr.length_call_fields callee args) (Nat.le_refl _)
    have hcallee : callee.kind = .extensionAttribute := by
      rw [← callee.kind_outline, Field.node.inj (List.cons.inj hf).1]
      rfl
    have hforms : callee.form = .inl .extensionAttribute := by rw [← callee.form_kind, hcallee]; rfl
    -- no expression that can be written is of this kind
    cases callee <;> exact nomatch hforms
  | _ => exact nomatch hform

theorem Stmt.outline_inclusion_ne (l : Nat) (e : Expr) (wc im : Bool) (l' : Nat) (key : String) :
    (inclusion l e wc im).outline ≠ (embedded l' key).outline := by
  intro h
  have hf := Outline.fields_inj h (Nat.le_refl _) (Nat.le_refl _)
  exact e.outline_ne_embedCall key (Field.node.inj (List.cons.inj hf).1)

theorem Stmt.embedded_alike {l l' : Nat} {key key' : String}
    (h : (embedded l key).outline = (embedded l' key').outline) :
    Stmt.Alike (embedded l key) (embedded l' key') := by
  simp [Stmt.outline, Expr.embedCall, Outline.node, Kind.fields, Outline.text] at h
  subst h
  exact .embedded key

mutual

/-- Statements with the same labelled form differ in lines only, once embeds are taken out. -/
theorem Stmt.alike_of_outline_eq (host host' : Option String) : (s s' : Stmt) →
    (s.detach host).1.outline = (s'.detach host').1.outline →
    Stmt.Alike (s.detach host).1 (s'.detach host').1
  | .output l es, s', h => by
    have hkind := Stmt.kind_eq_of_outline_eq h
    cases s' with
    | output l' es' =>
      simp [Stmt.detach, Stmt.outline, Outline.node, Kind.fields] at h
      exact .output (Expr.alikeAll_of_outline_eq es es' h)
    | _ => exact nomatch hkind
  | .extend l e, s', h => by
    have hkind := Stmt.kind_eq_of_outline_eq h
    cases s' with
    | extend l' e' =>
      simp [Stmt.detach, Stmt.outline, Outline.node, Kind.fields] at h
      exact .extend (Expr.alike_of_outline_eq e e' h)
    | _ => exact nomatch hkind
  | .loop l t e body orElse test recursive, s', h => by
    have hkind := Stmt.kind_eq_of_outline_eq h
    cases s' with
    | loop l' t' e' body' orElse' test' recursive' =>
      simp [Stmt.detach, Stmt.outline, Outline.node, Kind.fields, Outline.flag] at h
      obtain ⟨ht, he, hbody, horElse, htest, rfl⟩ := h
      exact .loop (Target.alike_of_outline_eq _ t t' ht) (Expr.alike_of_outline_eq e e' he)
        (Stmt.alikeAll_of_outline_eq host host' body body' hbody)
        (Stmt.alikeAll_of_outline_eq host host' orElse orElse' horElse)
        (Expr.alikeOption_of_outline_eq test test' htest) recursive
    | _ => exact nomatch hkind
  | .branch l e body elifs orElse, s', h => by
    have hkind := Stmt.kind_eq_of_outline_eq h
    cases s' with
    | branch l' e' body' elifs' orElse' =>
      simp [Stmt.detach, Stmt.outline, Outline.node, Kind.fields] at h
      obtain ⟨he, hbody, helifs, horElse⟩ := h
      exact .branch (Expr.alike_of_outline_eq e e' he)
        (Stmt.alikeAll_of_outline_eq host host' body body' hbody)
        (Stmt.alikeAll_of_outline_eq host host' elifs elifs' helifs)
        (Stmt.alikeAll_of_outline_eq host host' orElse orElse' horElse)
    | _ => exact nomatch hkind
  | .macroDef l name params defaults body, s', h => by
    have hkind := Stmt.kind_eq_of_outline_eq h
    cases s' with
    | macroDef l' name' params' defaults' body' =>
      simp [Stmt.detach, Stmt.outline, Outline.node, Kind.fields, Outline.text] at h
      obtain ⟨rfl, hparams, hdefaults, hbody⟩ := h
      obtain rfl := Stmt.outlineParams_inj hparams
      exact .macroDef name params (Expr.alikeAll_of_outline_eq defaults defaults' hdefaults)
        (Stmt.alikeAll_of_outline_eq host host' body body' hbody)
    | _ => exact nomatch hkind
  | .callBlock l cl e args params defaults body, s', h => by
    have hkind := Stmt.kind_eq_of_outline_eq h
    cases s' with
    | callBlock l' cl' e' args' params' defaults' body' =>
      have hf := Outline.fields_inj h (Nat.le_refl _) (Nat.le_refl _)
      simp only [List.cons.injEq, Field.node.injEq, Field.list.injEq, and_true] at hf
      obtain ⟨hcall, hparams, hdefaults, hbody⟩ := hf
      have hargs := Outline.fields_inj hcall (Expr.length_call_fields e args)
        (Expr.length_call_fields e' args')
      simp only [List.cons.injEq, Field.node.injEq] at hargs
      obtain rfl := Stmt.outlineParams_inj hparams
      exact .callBlock (Expr.alike_of_outline_eq e e' hargs.1)
        (Args.alike_of_outline_eq args args' hargs.2) params
        (Expr.alikeAll_of_outline_eq defaults defaults' hdefaults)
        (Stmt.alikeAll_of_outline_eq host host' body body' hbody)
    | _ => exact nomatch hkind
  | .filterBlock l e body, s', h => by
    have hkind := Stmt.kind_eq_of_outline_eq h
    cases s' with
    | filterBlock l' e' body' =>
      simp [Stmt.detach, Stmt.outline, Outline.node, Kind.fields] at h
      exact .filterBlock (Expr.alike_of_outline_eq e e' h.2)
        (Stmt.alikeAll_of_outline_eq host host' body body' h.1)
    | _ => exact nomatch hkind
  | .withBlock l bs body, s', h => by
    have hkind := Stmt.kind_eq_of_outline_eq h
    cases s' with
    | withBlock l' bs' body' =>
      simp [Stmt.detach, Stmt.outline, Outline.node, Kind.fields] at h
      obtain ⟨htargets, hvalues, hbody⟩ := h
      exact .withBlock (Stmt.bindings_alike htargets hvalues)
        (Stmt.alikeAll_of_outline_eq host host' body body' hbody)
    | _ => exact nomatch hkind
  | .block l name body isScoped isRequired, s', h => by
    have hkind := Stmt.kind_eq_of_outline_eq h
    cases s' with
    | block l' name' body' isScoped' isRequired' =>
      simp [Stmt.detach, Stmt.outline, Outline.node, Kind.fields, Outline.text, Outline.flag] at h
      obtain ⟨rfl, hbody, rfl, rfl⟩ := h
      exact .block name (Stmt.alikeAll_of_outline_eq host host' body body' hbody) isScoped isRequired
    | _ => exact nomatch hkind
  | .importModule l e target wc, s', h => by
    have hkind := Stmt.kind_eq_of_outline_eq h
    cases s' with
    | importModule l' e' target' wc' =>
      simp [Stmt.detach, Stmt.outline, Outline.node, Kind.fields, Outline.text, Outline.flag] at h
      obtain ⟨he, rfl, rfl⟩ := h
      exact .importModule (Expr.alike_of_outline_eq e e' he) target wc
    | _ => exact nomatch hkind
  | .importNames l e names wc, s', h => by
    have hkind := Stmt.kind_eq_of_outline_eq h
    cases s' with
    | importNames l' e' names' wc' =>
      simp [Stmt.detach, Stmt.outline, Outline.node, Kind.fields, Outline.flag] at h
      obtain ⟨he, hnames, rfl⟩ := h
      obtain rfl := List.map_injective_iff.2 (fun _ _ => ImportName.outline_inj) hnames
      exact .importNames (Expr.alike_of_outline_eq e e' he) names wc
    | _ => exact nomatch hkind
  | .exprStmt l e, s', h => by
    have hkind := Stmt.kind_eq_of_outline_eq h
    cases s' with
    | exprStmt l' e' =>
      simp [Stmt.detach, Stmt.outline, Outline.node, Kind.fields] at h
      exact .exprStmt (Expr.alike_of_outline_eq e e' h)
    | _ => exact nomatch hkind
  | .assign l t e, s', h => by
    have hkind := Stmt.kind_eq_of_outline_eq h
    cases s' with
    | assign l' t' e' =>
      simp [Stmt.detach, Stmt.outline, Outline.node, Kind.fields] at h
      exact .assign (Target.alike_of_outline_eq _ t t' h.1) (Expr.alike_of_outline_eq e e' h.2)
    | _ => exact nomatch hkind
  | .assignBlock l t o body, s', h => by
    have hkind := Stmt.kind_eq_of_outline_eq h
    cases s' with
    | assignBlock l' t' o' body' =>
      simp [Stmt.detach, Stmt.outline, Outline.node, Kind.fields] at h
      obtain ⟨ht, ho, hbody⟩ := h
      exact .assignBlock (Target.alike_of_outline_eq _ t t' ht) (Expr.alikeOption_of_outline_eq o o' ho)
        (Stmt.alikeAll_of_outline_eq host host' body body' hbody)
    | _ => exact nomatch hkind
  | .autoescape l e body, s', h => by
    have hkind := Stmt.kind_eq_of_outline_eq h
    cases s' with
    | autoescape l' e' body' =>
      simp [Stmt.detach, Stmt.outline, Outline.node, Kind.fields, Outline.text] at h
      exact .autoescape (Expr.alike_of_outline_eq e e' h.1)
        (Stmt.alikeAll_of_outline_eq host host' body body' h.2)
    | _ => exact nomatch hkind
  | .continueLoop l, s', h => by
    have hkind := Stmt.kind_eq_of_outline_eq h
    cases s' with
    | continueLoop l' => exact .continueLoop
    | _ => exact nomatch hkind
  | .breakLoop l, s', h => by
    have hkind := Stmt.kind_eq_of_outline_eq h
    cases s' with
    | breakLoop l' => exact .breakLoop
    | _ => exact nomatch hkind
  | .inclusion l e wc im, s', h => by
    have hkind := Stmt.kind_eq_of_outline_eq h
    cases s' with
    | inclusion l' e' wc' im' =>
      simp [Stmt.detach, Stmt.outline, Outline.node, Kind.fields, Outline.flag] at h
      obtain ⟨he, rfl, rfl⟩ := h
      exact .inclusion (Expr.alike_of_outline_eq e e' he) wc im
    | embed l' e' body' => exact absurd h (Stmt.outline_inclusion_ne l e wc im _ _)
    | embedded l' key => exact absurd h (Stmt.outline_inclusion_ne l e wc im _ _)
    | _ => exact nomatch hkind
  | .embed l e body, s', h => by
    have hkind := Stmt.kind_eq_of_outline_eq h
    cases s' with
    | inclusion l' e' wc' im' => exact absurd h.symm (Stmt.outline_inclusion_ne l' e' wc' im' _ _)
    | embed l' e' body' => exact Stmt.embedded_alike h
    | embedded l' key => exact Stmt.embedded_alike h
    | _ => exact nomatch hkind
  | .embedded l key, s', h => by
    have hkind := Stmt.kind_eq_of_outline_eq h
    cases s' with
    | inclusion l' e' wc' im' => exact absurd h.symm (Stmt.outline_inclusion_ne l' e' wc' im' _ _)
    | embed l' e' body' => exact Stmt.embedded_alike h
    | embedded l' key' => exact Stmt.embedded_alike h
    | _ => exact nomatch hkind
termination_by structural s => s

theorem Stmt.alikeAll_of_outline_eq (host host' : Option String) : (ss ss' : List Stmt) →
    Stmt.outlineList (Stmt.detachList host ss).1 = Stmt.outlineList (Stmt.detachList host' ss').1 →
    Stmt.AlikeAll (Stmt.detachList host ss).1 (Stmt.detachList host' ss').1
  | [], [], _ => .nil
  | [], _ :: _, h => nomatch h
  | _ :: _, [], h => nomatch h
  | s :: ss, s' :: ss', h => by
    simp only [Stmt.detachList, Stmt.outlineList, List.cons.injEq, Field.node.injEq] at h
    exact .cons (Stmt.alike_of_outline_eq host host' s s' h.1)
      (Stmt.alikeAll_of_outline_eq host host' ss ss' h.2)

termination_by structural s => s
end

end Stencil
