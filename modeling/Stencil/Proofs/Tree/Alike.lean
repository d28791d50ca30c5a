import Stencil.Scope.Parts

/-!
# Trees that differ in lines only

Two expressions are alike if they are the same but for the lines they stand on, and corresponding
lines are related. What is read off an expression without its lines is then the same.
-/

namespace Stencil

mutual

/-- Expressions that differ in lines only. -/
inductive Expr.Alike (line : Nat → Nat → Prop) : Expr → Expr → Prop
  | name {l l' : Nat} (hl : line l l') (id : String) :
      Expr.Alike line (.name l id) (.name l' id)
  | const {l l' : Nat} (hl : line l l') (d : Datum) :
      Expr.Alike line (.const l d) (.const l' d)
  | data {l l' : Nat} (hl : line l l') (s : String) :
      Expr.Alike line (.data l s) (.data l' s)
  | tuple {l l' : Nat} {es es' : List Expr} (hl : line l l') (hes : Expr.AlikeAll line es es') :
      Expr.Alike line (.tuple l es) (.tuple l' es')
  | list {l l' : Nat} {es es' : List Expr} (hl : line l l') (hes : Expr.AlikeAll line es es') :
      Expr.Alike line (.list l es) (.list l' es')
  | dict {l l' : Nat} {ps ps' : List (Expr × Expr)} (hl : line l l')
      (hps : Expr.AlikePairs line ps ps') : Expr.Alike line (.dict l ps) (.dict l' ps')
  | cond {l l' : Nat} {t t' v v' : Expr} {o o' : Option Expr} (hl : line l l')
      (ht : Expr.Alike line t t') (hv : Expr.Alike line v v') (ho : Expr.AlikeOption line o o') :
      Expr.Alike line (.cond l t v o) (.cond l' t' v' o')
  | filter {l l' : Nat} {s s' : Option Expr} {args args' : Args} (hl : line l l')
      (hs : Expr.AlikeOption line s s') (name : String) (hargs : Args.Alike line args args') :
      Expr.Alike line (.filter l s name args) (.filter l' s' name args')
  | test {l l' : Nat} {s s' : Expr} {args args' : Args} (hl : line l l')
      (hs : Expr.Alike line s s') (name : String) (hargs : Args.Alike line args args') :
      Expr.Alike line (.test l s name args) (.test l' s' name args')
  | call {l l' : Nat} {s s' : Expr} {args args' : Args} (hl : line l l')
      (hs : Expr.Alike line s s') (hargs : Args.Alike line args args') :
      Expr.Alike line (.call l s args) (.call l' s' args')
  | item {l l' : Nat} {s s' i i' : Expr} (hl : line l l') (hs : Expr.Alike line s s')
      (hi : Expr.Alike line i i') : Expr.Alike line (.item l s i) (.item l' s' i')
  | member {l l' : Nat} {s s' : Expr} (hl : line l l') (hs : Expr.Alike line s s')
      (name : String) : Expr.Alike line (.member l s name) (.member l' s' name)
  | slice {l l' : Nat} {a a' b b' c c' : Option Expr} (hl : line l l')
      (ha : Expr.AlikeOption line a a') (hb : Expr.AlikeOption line b b')
      (hc : Expr.AlikeOption line c c') : Expr.Alike line (.slice l a b c) (.slice l' a' b' c')
  | concat {l l' : Nat} {es es' : List Expr} (hl : line l l') (hes : Expr.AlikeAll line es es') :
      Expr.Alike line (.concat l es) (.concat l' es')
  | compare {l l' : Nat} {s s' : Expr} {ops ops' : List (Comparison × Expr)} (hl : line l l')
      (hs : Expr.Alike line s s') (hops : Expr.AlikeOperands line ops ops') :
      Expr.Alike line (.compare l s ops) (.compare l' s' ops')
  | binary {l l' : Nat} {a a' b b' : Expr} (hl : line l l') (op : BinaryOp)
      (ha : Expr.Alike line a a') (hb : Expr.Alike line b b') :
      Expr.Alike line (.binary l op a b) (.binary l' op a' b')
  | unary {l l' : Nat} {a a' : Expr} (hl : line l l') (op : UnaryOp) (ha : Expr.Alike line a a') :
      Expr.Alike line (.unary l op a) (.unary l' op a')

inductive Expr.AlikeAll (line : Nat → Nat → Prop) : List Expr → List Expr → Prop
  | nil : Expr.AlikeAll line [] []
  | cons {e e' : Expr} {es es' : List Expr} (he : Expr.Alike line e e')
      (hes : Expr.AlikeAll line es es') : Expr.AlikeAll line (e :: es) (e' :: es')

inductive Expr.AlikeOption (line : Nat → Nat → Prop) : Option Expr → Option Expr → Prop
  | none : Expr.AlikeOption line none none
  | some {e e' : Expr} (he : Expr.Alike line e e') : Expr.AlikeOption line (some e) (some e')

inductive Expr.AlikePairs (line : Nat → Nat → Prop) :
    List (Expr × Expr) → List (Expr × Expr) → Prop
  | nil : Expr.AlikePairs line [] []
  | cons {k k' v v' : Expr} {ps ps' : List (Expr × Expr)} (hk : Expr.Alike line k k')
      (hv : Expr.Alike line v v') (hps : Expr.AlikePairs line ps ps') :
      Expr.AlikePairs line ((k, v) :: ps) ((k', v') :: ps')

inductive Expr.AlikeOperands (line : Nat → Nat → Prop) :
    List (Comparison × Expr) → List (Comparison × Expr) → Prop
  | nil : Expr.AlikeOperands line [] []
  | cons {e e' : Expr} {ops ops' : List (Comparison × Expr)} (op : Comparison)
      (he : Expr.Alike line e e') (hops : Expr.AlikeOperands line ops ops') :
      Expr.AlikeOperands line ((op, e) :: ops) ((op, e') :: ops')

inductive Expr.AlikeNamed (line : Nat → Nat → Prop) :
    List (String × Expr) → List (String × Expr) → Prop
  | nil : Expr.AlikeNamed line [] []
  | cons {e e' : Expr} {ns ns' : List (String × Expr)} (name : String)
      (he : Expr.Alike line e e') (hns : Expr.AlikeNamed line ns ns') :
      Expr.AlikeNamed line ((name, e) :: ns) ((name, e') :: ns')

inductive Args.Alike (line : Nat → Nat → Prop) : Args → Args → Prop
  | mk {es es' : List Expr} {ns ns' : List (String × Expr)} {s s' r r' : Option Expr}
      (hes : Expr.AlikeAll line es es') (hns : Expr.AlikeNamed line ns ns')
      (hs : Expr.AlikeOption line s s') (hr : Expr.AlikeOption line r r') :
      Args.Alike line (.mk es ns s r) (.mk es' ns' s' r')

end

mutual

/-- Targets that differ in lines only. -/
inductive Target.Alike (line : Nat → Nat → Prop) : Target → Target → Prop
  | name {l l' : Nat} (hl : line l l') (id : String) :
      Target.Alike line (.name l id) (.name l' id)
  | member {l l' : Nat} (hl : line l l') (subject name : String) :
      Target.Alike line (.member l subject name) (.member l' subject name)
  | tuple {l l' : Nat} {ts ts' : List Target} (hl : line l l')
      (hts : Target.AlikeAll line ts ts') : Target.Alike line (.tuple l ts) (.tuple l' ts')

inductive Target.AlikeAll (line : Nat → Nat → Prop) : List Target → List Target → Prop
  | nil : Target.AlikeAll line [] []
  | cons {t t' : Target} {ts ts' : List Target} (ht : Target.Alike line t t')
      (hts : Target.AlikeAll line ts ts') : Target.AlikeAll line (t :: ts) (t' :: ts')

end

variable {line : Nat → Nat → Prop}

/-! ## Every tree is like itself -/

mutual

theorem Expr.Alike.refl (hline : ∀ l, line l l) : (e : Expr) → Expr.Alike line e e
  | .name _ id => .name (hline _) id
  | .const _ d => .const (hline _) d
  | .data _ s => .data (hline _) s
  | .tuple _ es => .tuple (hline _) (Expr.AlikeAll.refl hline es)
  | .list _ es => .list (hline _) (Expr.AlikeAll.refl hline es)
  | .dict _ ps => .dict (hline _) (Expr.AlikePairs.refl hline ps)
  | .cond _ t v o =>
    .cond (hline _) (Expr.Alike.refl hline t) (Expr.Alike.refl hline v)
      (Expr.AlikeOption.refl hline o)
  | .filter _ s n args =>
    .filter (hline _) (Expr.AlikeOption.refl hline s) n (Args.Alike.refl hline args)
  | .test _ s n args =>
    .test (hline _) (Expr.Alike.refl hline s) n (Args.Alike.refl hline args)
  | .call _ s args => .call (hline _) (Expr.Alike.refl hline s) (Args.Alike.refl hline args)
  | .item _ s i => .item (hline _) (Expr.Alike.refl hline s) (Expr.Alike.refl hline i)
  | .member _ s n => .member (hline _) (Expr.Alike.refl hline s) n
  | .slice _ a b c =>
    .slice (hline _) (Expr.AlikeOption.refl hline a) (Expr.AlikeOption.refl hline b)
      (Expr.AlikeOption.refl hline c)
  | .concat _ es => .concat (hline _) (Expr.AlikeAll.refl hline es)
  | .compare _ s ops =>
    .compare (hline _) (Expr.Alike.refl hline s) (Expr.AlikeOperands.refl hline ops)
  | .binary _ op a b => .binary (hline _) op (Expr.Alike.refl hline a) (Expr.Alike.refl hline b)
  | .unary _ op a => .unary (hline _) op (Expr.Alike.refl hline a)

theorem Expr.AlikeAll.refl (hline : ∀ l, line l l) : (es : List Expr) → Expr.AlikeAll line es es
  | [] => .nil
  | e :: es => .cons (Expr.Alike.refl hline e) (Expr.AlikeAll.refl hline es)

theorem Expr.AlikeOption.refl (hline : ∀ l, line l l) :
    (o : Option Expr) → Expr.AlikeOption line o o
  | none => .none
  | some e => .some (Expr.Alike.refl hline e)

theorem Expr.AlikePairs.refl (hline : ∀ l, line l l) :
    (ps : List (Expr × Expr)) → Expr.AlikePairs line ps ps
  | [] => .nil
  | (k, v) :: ps =>
    .cons (Expr.Alike.refl hline k) (Expr.Alike.refl hline v) (Expr.AlikePairs.refl hline ps)

theorem Expr.AlikeOperands.refl (hline : ∀ l, line l l) :
    (ops : List (Comparison × Expr)) → Expr.AlikeOperands line ops ops
  | [] => .nil
  | (op, e) :: ops => .cons op (Expr.Alike.refl hline e) (Expr.AlikeOperands.refl hline ops)

theorem Expr.AlikeNamed.refl (hline : ∀ l, line l l) :
    (ns : List (String × Expr)) → Expr.AlikeNamed line ns ns
  | [] => .nil
  | (n, e) :: ns => .cons n (Expr.Alike.refl hline e) (Expr.AlikeNamed.refl hline ns)

theorem Args.Alike.refl (hline : ∀ l, line l l) : (args : Args) → Args.Alike line args args
  | .mk es ns s r =>
    .mk (Expr.AlikeAll.refl hline es) (Expr.AlikeNamed.refl hline ns)
      (Expr.AlikeOption.refl hline s) (Expr.AlikeOption.refl hline r)

end

mutual

theorem Target.Alike.refl (hline : ∀ l, line l l) : (t : Target) → Target.Alike line t t
  | .name _ id => .name (hline _) id
  | .member _ s n => .member (hline _) s n
  | .tuple _ ts => .tuple (hline _) (Target.AlikeAll.refl hline ts)

theorem Target.AlikeAll.refl (hline : ∀ l, line l l) :
    (ts : List Target) → Target.AlikeAll line ts ts
  | [] => .nil
  | t :: ts => .cons (Target.Alike.refl hline t) (Target.AlikeAll.refl hline ts)

end

/-! ## What does not depend on lines -/

mutual

theorem Expr.Alike.names_eq {e e' : Expr} : Expr.Alike line e e' → e'.names = e.names
  | .name _ _ | .const _ _ | .data _ _ => by simp only [Expr.names]
  | .tuple _ hes | .list _ hes | .concat _ hes => by
    simp only [Expr.names, Expr.AlikeAll.names_eq hes]
  | .dict _ hps => by simp only [Expr.names, Expr.AlikePairs.names_eq hps]
  | .cond _ ht hv ho => by
    simp only [Expr.names, Expr.Alike.names_eq ht, Expr.Alike.names_eq hv,
      Expr.AlikeOption.names_eq ho]
  | .filter _ hs _ hargs => by
    simp only [Expr.names, Expr.AlikeOption.names_eq hs, Args.Alike.names_eq hargs]
  | .test _ hs _ hargs | .call _ hs hargs => by
    simp only [Expr.names, Expr.Alike.names_eq hs, Args.Alike.names_eq hargs]
  | .item _ hs hi => by simp only [Expr.names, Expr.Alike.names_eq hs, Expr.Alike.names_eq hi]
  | .member _ hs _ => by simp only [Expr.names, Expr.Alike.names_eq hs]
  | .slice _ ha hb hc => by
    simp only [Expr.names, Expr.AlikeOption.names_eq ha, Expr.AlikeOption.names_eq hb,
      Expr.AlikeOption.names_eq hc]
  | .compare _ hs hops => by
    simp only [Expr.names, Expr.Alike.names_eq hs, Expr.AlikeOperands.names_eq hops]
  | .binary _ _ ha hb => by simp only [Expr.names, Expr.Alike.names_eq ha, Expr.Alike.names_eq hb]
  | .unary _ _ ha => by simp only [Expr.names, Expr.Alike.names_eq ha]

theorem Expr.AlikeAll.names_eq {es es' : List Expr} :
    Expr.AlikeAll line es es' → Expr.namesOfList es' = Expr.namesOfList es
  | .nil => rfl
  | .cons he hes => by
    simp only [Expr.namesOfList, Expr.Alike.names_eq he, Expr.AlikeAll.names_eq hes]

theorem Expr.AlikeOption.names_eq {o o' : Option Expr} :
    Expr.AlikeOption line o o' → Expr.namesOfOption o' = Expr.namesOfOption o
  | .none => rfl
  | .some he => by simp only [Expr.namesOfOption, Expr.Alike.names_eq he]

theorem Expr.AlikePairs.names_eq {ps ps' : List (Expr × Expr)} :
    Expr.AlikePairs line ps ps' → Expr.namesOfPairs ps' = Expr.namesOfPairs ps
  | .nil => rfl
  | .cons hk hv hps => by
    simp only [Expr.namesOfPairs, Expr.Alike.names_eq hk, Expr.Alike.names_eq hv,
      Expr.AlikePairs.names_eq hps]

theorem Expr.AlikeOperands.names_eq {ops ops' : List (Comparison × Expr)} :
    Expr.AlikeOperands line ops ops' → Expr.namesOfOperands ops' = Expr.namesOfOperands ops
  | .nil => rfl
  | .cons _ he hops => by
    simp only [Expr.namesOfOperands, Expr.Alike.names_eq he, Expr.AlikeOperands.names_eq hops]

theorem Expr.AlikeNamed.names_eq {ns ns' : List (String × Expr)} :
    Expr.AlikeNamed line ns ns' → Expr.namesOfNamed ns' = Expr.namesOfNamed ns
  | .nil => rfl
  | .cons _ he hns => by
    simp only [Expr.namesOfNamed, Expr.Alike.names_eq he, Expr.AlikeNamed.names_eq hns]

theorem Args.Alike.names_eq {args args' : Args} :
    Args.Alike line args args' → Expr.namesOfArgs args' = Expr.namesOfArgs args
  | .mk hes hns hs hr => by
    simp only [Expr.namesOfArgs, Expr.AlikeAll.names_eq hes, Expr.AlikeNamed.names_eq hns,
      Expr.AlikeOption.names_eq hs, Expr.AlikeOption.names_eq hr]

end

theorem Expr.AlikeAll.length_eq {es es' : List Expr} :
    Expr.AlikeAll line es es' → es'.length = es.length
  | .nil => rfl
  | .cons _ hes => by rw [List.length_cons, List.length_cons, Expr.AlikeAll.length_eq hes]

mutual

theorem Target.Alike.names_eq {t t' : Target} : Target.Alike line t t' → t'.names = t.names
  | .name _ _ | .member _ _ _ => by simp only [Target.names]
  | .tuple _ hts => by simp only [Target.names, Target.AlikeAll.names_eq hts]

theorem Target.AlikeAll.names_eq {ts ts' : List Target} :
    Target.AlikeAll line ts ts' → Target.namesOfList ts' = Target.namesOfList ts
  | .nil => rfl
  | .cons ht hts => by
    simp only [Target.namesOfList, Target.Alike.names_eq ht, Target.AlikeAll.names_eq hts]

end

mutual

theorem Target.Alike.subjects_eq {t t' : Target} :
    Target.Alike line t t' → t'.subjects = t.subjects
  | .name _ _ | .member _ _ _ => by simp only [Target.subjects]
  | .tuple _ hts => by simp only [Target.subjects, Target.AlikeAll.subjects_eq hts]

theorem Target.AlikeAll.subjects_eq {ts ts' : List Target} :
    Target.AlikeAll line ts ts' → Target.subjectsOfList ts' = Target.subjectsOfList ts
  | .nil => rfl
  | .cons ht hts => by
    simp only [Target.subjectsOfList, Target.Alike.subjects_eq ht,
      Target.AlikeAll.subjects_eq hts]

end

mutual

theorem Target.Alike.visit_eq {t t' : Target} (s : Scope) :
    Target.Alike line t t' → s.visitTarget t' = s.visitTarget t
  | .name _ _ | .member _ _ _ => by simp only [Scope.visitTarget]
  | .tuple _ hts => by simp only [Scope.visitTarget, Target.AlikeAll.visit_eq s hts]

theorem Target.AlikeAll.visit_eq {ts ts' : List Target} (s : Scope) :
    Target.AlikeAll line ts ts' → s.visitTargets ts' = s.visitTargets ts
  | .nil => rfl
  | .cons ht hts => by
    simp only [Scope.visitTargets, Target.Alike.visit_eq s ht, Target.AlikeAll.visit_eq _ hts]

end

theorem Target.AlikeAll.length_eq {ts ts' : List Target} :
    Target.AlikeAll line ts ts' → ts'.length = ts.length
  | .nil => rfl
  | .cons _ hts => by rw [List.length_cons, List.length_cons, Target.AlikeAll.length_eq hts]

end Stencil
