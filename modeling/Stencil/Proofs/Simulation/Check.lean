import Stencil.Proofs.Simulation.Machine

/-!
# Checking corresponding templates

The check of a template depends on its text alone, so that corresponding templates pass it or fail
it in the same way. A check also keeps track of what it has seen so far: `S.CheckAgree` says that two
checks agree from every such point.

## Main statements

- `engRel_ofConstants`: the engines that checks work with do the same on both sides
- `agree_checkTemplate`: corresponding templates pass the check or fail it in the same way
-/

namespace Stencil

namespace Simulation

variable {S : Simulation} {eng eng' : Engine} {k : S.Stage} {α β γ δ : Type}

/-! ## Values known beforehand -/

theorem agree_attemptOnly (h : S.EngRel eng eng') (esc : Escaping) {e e' : Expr}
    (he : Expr.Alike S.line e e') :
    S.Agree (Constant.attemptOnly eng esc e) (Constant.attemptOnly eng' esc e') :=
  (agree_ifKnown (agree_value h esc he)).discard

mutual

theorem agree_probe (h : S.EngRel eng eng') (esc : Escaping) {e e' : Expr} :
    Expr.Alike S.line e e' → S.Agree (Constant.probe eng esc e) (Constant.probe eng' esc e')
  | .name _ _ | .const _ _ | .data _ _ => .pure _
  | .tuple hl hes =>
    (agree_probeList h esc hes).bind fun _ => agree_attemptOnly h esc (.tuple hl hes)
  | .list hl hes =>
    (agree_probeList h esc hes).bind fun _ => agree_attemptOnly h esc (.list hl hes)
  | .dict hl hps =>
    (agree_probePairs h esc hps).bind fun _ => agree_attemptOnly h esc (.dict hl hps)
  | .cond hl ht hv ho =>
    (agree_probe h esc ht).bind fun _ => (agree_probe h esc hv).bind fun _ =>
      (agree_probeOption h esc ho).bind fun _ => agree_attemptOnly h esc (.cond hl ht hv ho)
  | .filter hl hs name hargs =>
    (agree_probeOption h esc hs).bind fun _ => (agree_probeArgs h esc hargs).bind fun _ =>
      agree_attemptOnly h esc (.filter hl hs name hargs)
  | .test hl hs name hargs =>
    (agree_probe h esc hs).bind fun _ => (agree_probeArgs h esc hargs).bind fun _ =>
      agree_attemptOnly h esc (.test hl hs name hargs)
  | .call _ hs hargs => (agree_probe h esc hs).bind fun _ => agree_probeArgs h esc hargs
  | .item hl hs hi =>
    (agree_probe h esc hs).bind fun _ => (agree_probe h esc hi).bind fun _ =>
      agree_attemptOnly h esc (.item hl hs hi)
  | .member hl hs name =>
    (agree_probe h esc hs).bind fun _ => agree_attemptOnly h esc (.member hl hs name)
  | .slice hl ha hb hc =>
    (agree_probeOption h esc ha).bind fun _ => (agree_probeOption h esc hb).bind fun _ =>
      (agree_probeOption h esc hc).bind fun _ => agree_attemptOnly h esc (.slice hl ha hb hc)
  | .concat hl hes =>
    (agree_probeList h esc hes).bind fun _ => agree_attemptOnly h esc (.concat hl hes)
  | .compare hl hs hops =>
    (agree_probe h esc hs).bind fun _ => (agree_probeOperands h esc hops).bind fun _ =>
      agree_attemptOnly h esc (.compare hl hs hops)
  | .binary hl op ha hb =>
    (agree_probe h esc ha).bind fun _ => (agree_probe h esc hb).bind fun _ =>
      agree_attemptOnly h esc (.binary hl op ha hb)
  | .unary hl op ha =>
    (agree_probe h esc ha).bind fun _ => agree_attemptOnly h esc (.unary hl op ha)

theorem agree_probeList (h : S.EngRel eng eng') (esc : Escaping) {es es' : List Expr} :
    Expr.AlikeAll S.line es es' →
      S.Agree (Constant.probeList eng esc es) (Constant.probeList eng' esc es')
  | .nil => .pure _
  | .cons he hes => (agree_probe h esc he).bind fun _ => agree_probeList h esc hes

theorem agree_probeOption (h : S.EngRel eng eng') (esc : Escaping) {o o' : Option Expr} :
    Expr.AlikeOption S.line o o' →
      S.Agree (Constant.probeOption eng esc o) (Constant.probeOption eng' esc o')
  | .none => .pure _
  | .some he => agree_probe h esc he

theorem agree_probePairs (h : S.EngRel eng eng') (esc : Escaping) {ps ps' : List (Expr × Expr)} :
    Expr.AlikePairs S.line ps ps' →
      S.Agree (Constant.probePairs eng esc ps) (Constant.probePairs eng' esc ps')
  | .nil => .pure _
  | .cons hk hv hps => (agree_probe h esc hk).bind fun _ => (agree_probe h esc hv).bind fun _ =>
      agree_probePairs h esc hps

theorem agree_probeOperands (h : S.EngRel eng eng') (esc : Escaping)
    {ops ops' : List (Comparison × Expr)} :
    Expr.AlikeOperands S.line ops ops' →
      S.Agree (Constant.probeOperands eng esc ops) (Constant.probeOperands eng' esc ops')
  | .nil => .pure _
  | .cons _ he hops => (agree_probe h esc he).bind fun _ => agree_probeOperands h esc hops

theorem agree_probeNamed (h : S.EngRel eng eng') (esc : Escaping) {ns ns' : List (String × Expr)} :
    Expr.AlikeNamed S.line ns ns' →
      S.Agree (Constant.probeNamed eng esc ns) (Constant.probeNamed eng' esc ns')
  | .nil => .pure _
  | .cons _ he hns => (agree_probe h esc he).bind fun _ => agree_probeNamed h esc hns

theorem agree_probeArgs (h : S.EngRel eng eng') (esc : Escaping) {args args' : Args} :
    Args.Alike S.line args args' →
      S.Agree (Constant.probeArgs eng esc args) (Constant.probeArgs eng' esc args')
  | .mk hes hns hs hr =>
    (agree_probeList h esc hes).bind fun _ => (agree_probeNamed h esc hns).bind fun _ =>
      (agree_probeOption h esc hs).bind fun _ => agree_probeOption h esc hr

end

/-- The engines that checks work with do the same on both sides. -/
theorem engRel_ofConstants (n : Nat) : S.EngRel (.ofConstants n) (.ofConstants n) := by
  induction n with
  | zero => exact engRel_stuck
  | succ n ih =>
    exact {
      engRel_stuck with
      next := fun cell => agree_nextItem ih cell
      filter := fun site name v args named => agree_applyFilter ih site name v args named
      test := fun site name v args named => agree_applyTest ih site name v args named }

/-! ## Checks in progress -/

/-- Two checks do the same whatever they have seen so far. -/
def CheckSim (S : Simulation) (c : Check α) (c' : Check β) (V : α → β → Prop) : Prop :=
  ∀ s k, S.Sim k (c.run s) (c'.run s) fun _ r r' => V r.1 r'.1 ∧ r'.2 = r.2

/-- Two checks do the same, with equal results. -/
def CheckAgree (S : Simulation) (c c' : Check α) : Prop :=
  S.CheckSim c c' fun a b => b = a

theorem CheckSim.pure {V : α → β → Prop} {a : α} {b : β} (h : V a b) :
    S.CheckSim (pure a) (pure b) V :=
  fun _ _ => Sim.pure ⟨h, rfl⟩

theorem CheckSim.bind {V : α → β → Prop} {U : γ → δ → Prop} {c : Check γ} {c' : Check δ}
    {f : γ → Check α} {f' : δ → Check β} (hc : S.CheckSim c c' U)
    (hf : ∀ a b, U a b → S.CheckSim (f a) (f' b) V) : S.CheckSim (c >>= f) (c' >>= f') V := by
  intro s k
  rw [StateT.run_bind, StateT.run_bind]
  refine (hc s k).bind fun l _ r r' hr => ?_
  obtain ⟨a, t⟩ := r
  obtain ⟨b, t'⟩ := r'
  obtain ⟨hab, rfl⟩ := hr
  exact hf a b hab _ l

namespace CheckAgree

theorem pure (a : α) : S.CheckAgree (pure a) (pure a) :=
  CheckSim.pure rfl

theorem bind {c c' : Check α} {f f' : α → Check β} (hc : S.CheckAgree c c')
    (hf : ∀ a, S.CheckAgree (f a) (f' a)) : S.CheckAgree (c >>= f) (c' >>= f') := by
  refine CheckSim.bind hc fun a b hab => ?_
  subst hab
  exact hf b

theorem lift {x x' : Run α} (hx : S.Agree x x') : S.CheckAgree (liftM x) (liftM x') :=
  fun _ _ => Sim.agree_bind hx fun _ _ _ => Sim.pure ⟨rfl, rfl⟩

theorem throw {f f' : Fault} (h : S.FaultRel f f') :
    S.CheckAgree (throw f : Check α) (throw f') :=
  lift (.throw h)

theorem fail {l l' : Nat} (hl : S.line l l') (f : SyntaxFault) :
    S.CheckAgree (Check.fail l f : Check α) (Check.fail l' f) :=
  throw (.syntaxError hl f)

theorem get : S.CheckAgree get get :=
  fun _ _ => Sim.pure ⟨rfl, rfl⟩

theorem modify (f : Check.Progress → Check.Progress) : S.CheckAgree (modify f) (modify f) :=
  fun _ _ => Sim.pure ⟨rfl, rfl⟩

theorem ite {c : Prop} [Decidable c] {x x' y y' : Check α} (hx : S.CheckAgree x x')
    (hy : S.CheckAgree y y') : S.CheckAgree (if c then x else y) (if c then x' else y') := by
  split
  · exact hx
  · exact hy

/-- What is done unless a condition holds, and what follows. -/
theorem skipIf {c : Prop} [Decidable c] {x x' : Check Unit} {y y' : Unit → Check α}
    (hx : S.CheckAgree x x') (hy : S.CheckAgree (y ()) (y' ())) :
    S.CheckAgree (if c then y () else x >>= y) (if c then y' () else x' >>= y') :=
  .ite hy (hx.bind fun _ => hy)

end CheckAgree

theorem checkAgree_unlessFolded (h : S.EngRel eng eng') (p : Check.Place) {e e' : Expr}
    (he : Expr.Alike S.line e e') {c c' : Check Unit} (hc : S.CheckAgree c c') :
    S.CheckAgree (Check.unlessFolded eng p e c) (Check.unlessFolded eng' p e' c') := by
  refine .ite (.bind (.pure none) fun known => ?_)
    (.bind (.lift (agree_probe h p.escaping he)) fun _ =>
      .bind (.lift (agree_folded h p.escaping he)) fun known => ?_)
  -- folded or not, what is known decides whether the expression is checked
  all_goals
    cases known with
    | none => exact hc
    | some v => exact .pure _

theorem checkAgree_distinctNames (names : List String) :
    S.CheckAgree (Check.distinctNames names) (Check.distinctNames names) :=
  .ite (.pure _) (.modify _)

theorem alikeNamed_keys {ns ns' : List (String × Expr)} :
    Expr.AlikeNamed S.line ns ns' → ns'.map (·.1) = ns.map (·.1)
  | .nil => rfl
  | .cons name _ hns => by rw [List.map_cons, List.map_cons, alikeNamed_keys hns]

mutual

theorem checkAgree_expr (h : S.EngRel eng eng') (p : Check.Place) (isIndex : Bool) {e e' : Expr} :
    Expr.Alike S.line e e' →
      S.CheckAgree (Check.expr eng p isIndex e) (Check.expr eng' p isIndex e')
  | .name _ id => by
    unfold Check.expr
    split
    · exact .pure _
    · exact .throw (.accident _)
  | .const _ _ | .data _ _ => .pure _
  | .tuple _ hes => checkAgree_exprs h p hes
  | .list _ hes => checkAgree_exprs h p hes
  | .dict _ hps => checkAgree_pairs h p hps
  -- the branches are checked in the order in which they are written out, not evaluated
  | .cond hl ht hv ho =>
    checkAgree_unlessFolded h p (.cond hl ht hv ho) <|
      (checkAgree_expr h p.soft false hv).bind fun _ =>
        (checkAgree_expr h p.soft false ht).bind fun _ => checkAgree_optional h p.soft ho
  | .filter hl hs name hargs =>
    checkAgree_unlessFolded h p (.filter hl hs name hargs) <|
      .skipIf (.fail hl _) <|
        (checkAgree_optional h p hs).bind fun _ => checkAgree_arguments h p hargs
  | .test hl hs name hargs =>
    checkAgree_unlessFolded h p (.test hl hs name hargs) <|
      .skipIf (.fail hl _) <|
        (checkAgree_expr h p false hs).bind fun _ => checkAgree_arguments h p hargs
  | .call hl hs hargs =>
    checkAgree_unlessFolded h p (.call hl hs hargs) <|
      (checkAgree_expr h p false hs).bind fun _ => checkAgree_arguments h p hargs
  | .item hl hs hi =>
    checkAgree_unlessFolded h p (.item hl hs hi) <|
      (checkAgree_expr h p false hs).bind fun _ => checkAgree_expr h p true hi
  | .member hl hs name =>
    checkAgree_unlessFolded h p (.member hl hs name) (checkAgree_expr h p false hs)
  | .slice _ ha hb hc =>
    (checkAgree_optional h p ha).bind fun _ => (checkAgree_optional h p hb).bind fun _ =>
      (checkAgree_optional h p hc).bind fun _ => .ite (.pure _) (.modify _)
  | .concat hl hes => checkAgree_unlessFolded h p (.concat hl hes) (checkAgree_exprs h p hes)
  | .compare hl hs hops =>
    checkAgree_unlessFolded h p (.compare hl hs hops) <|
      (checkAgree_expr h p false hs).bind fun _ => checkAgree_operands h p hops
  | .binary hl op ha hb =>
    checkAgree_unlessFolded h p (.binary hl op ha hb) <|
      (checkAgree_expr h p false ha).bind fun _ => checkAgree_expr h p false hb
  | .unary hl op ha => checkAgree_unlessFolded h p (.unary hl op ha) (checkAgree_expr h p false ha)

theorem checkAgree_exprs (h : S.EngRel eng eng') (p : Check.Place) {es es' : List Expr} :
    Expr.AlikeAll S.line es es' → S.CheckAgree (Check.exprs eng p es) (Check.exprs eng' p es')
  | .nil => .pure _
  | .cons he hes => (checkAgree_expr h p false he).bind fun _ => checkAgree_exprs h p hes

theorem checkAgree_optional (h : S.EngRel eng eng') (p : Check.Place) {o o' : Option Expr} :
    Expr.AlikeOption S.line o o' →
      S.CheckAgree (Check.optional eng p o) (Check.optional eng' p o')
  | .none => .pure _
  | .some he => checkAgree_expr h p false he

theorem checkAgree_pairs (h : S.EngRel eng eng') (p : Check.Place) {ps ps' : List (Expr × Expr)} :
    Expr.AlikePairs S.line ps ps' → S.CheckAgree (Check.pairs eng p ps) (Check.pairs eng' p ps')
  | .nil => .pure _
  | .cons hk hv hps => (checkAgree_expr h p false hk).bind fun _ =>
      (checkAgree_expr h p false hv).bind fun _ => checkAgree_pairs h p hps

theorem checkAgree_operands (h : S.EngRel eng eng') (p : Check.Place)
    {ops ops' : List (Comparison × Expr)} :
    Expr.AlikeOperands S.line ops ops' →
      S.CheckAgree (Check.operands eng p ops) (Check.operands eng' p ops')
  | .nil => .pure _
  | .cons _ he hops => (checkAgree_expr h p false he).bind fun _ => checkAgree_operands h p hops

theorem checkAgree_named (h : S.EngRel eng eng') (p : Check.Place) {ns ns' : List (String × Expr)} :
    Expr.AlikeNamed S.line ns ns' → S.CheckAgree (Check.named eng p ns) (Check.named eng' p ns')
  | .nil => .pure _
  | .cons _ he hns => (checkAgree_expr h p false he).bind fun _ => checkAgree_named h p hns

theorem checkAgree_arguments (h : S.EngRel eng eng') (p : Check.Place) {args args' : Args} :
    Args.Alike S.line args args' →
      S.CheckAgree (Check.arguments eng p args) (Check.arguments eng' p args')
  | .mk hes hns hs hr => by
    simp only [Check.arguments, alikeNamed_keys hns]
    exact (checkAgree_exprs h p hes).bind fun _ => (checkAgree_named h p hns).bind fun _ =>
      (checkAgree_optional h p hs).bind fun _ => (checkAgree_optional h p hr).bind fun _ =>
        checkAgree_distinctNames _

end

/-! ## Statements -/

theorem alikeAll_iff {es es' : List Expr} :
    Expr.AlikeAll S.line es es' ↔ List.Forall₂ (Expr.Alike S.line) es es' := by
  constructor
  · intro h
    induction es generalizing es' with
    | nil => cases h; exact .nil
    | cons e es ih =>
      cases h with
      | cons he hes => exact .cons he (ih hes)
  · intro h
    induction h with
    | nil => exact .nil
    | cons he _ ih => exact .cons he ih

/-- The items that pass a test are the same on both sides, but for their lines. -/
theorem checkSim_filterM {f f' : Expr → Check Bool}
    (hf : ∀ e e', Expr.Alike S.line e e' → S.CheckAgree (f e) (f' e')) {es es' : List Expr}
    (hes : List.Forall₂ (Expr.Alike S.line) es es') :
    S.CheckSim (es.filterM f) (es'.filterM f') (List.Forall₂ (Expr.Alike S.line)) := by
  have haux : ∀ {acc acc' : List Expr}, List.Forall₂ (Expr.Alike S.line) acc acc' →
      S.CheckSim (es.filterAuxM f acc) (es'.filterAuxM f' acc')
        (List.Forall₂ (Expr.Alike S.line)) := by
    induction hes with
    | nil => exact fun hacc => CheckSim.pure hacc
    | cons he _ ih =>
      intro acc acc' hacc
      refine CheckSim.bind (hf _ _ he) fun b b' hb => ?_
      subst hb
      cases b' with
      | true => exact ih (.cons he hacc)
      | false => exact ih hacc
  exact CheckSim.bind (haux .nil) fun _ _ hr => CheckSim.pure (List.rel_reverse hr)

theorem checkAgree_output (h : S.EngRel eng eng') (p : Check.Place) {es es' : List Expr}
    (hes : Expr.AlikeAll S.line es es') :
    S.CheckAgree (Check.output eng p es) (Check.output eng' p es') := by
  refine CheckSim.bind (checkSim_filterM (fun e e' he => ?_) (alikeAll_iff.1 hes)) fun r r' hr => ?_
  · exact .bind (.lift (agree_printed h p.escaping he)) fun o => .pure o.isNone
  · exact checkAgree_exprs h p (alikeAll_iff.2 hr)

theorem checkAgree_macroDef (h : S.EngRel eng eng') (p : Check.Place) {l l' : Nat}
    (hl : S.line l l') (params : List String) {defaults defaults' : List Expr}
    (hdefaults : Expr.AlikeAll S.line defaults defaults') {body body' : List Stmt}
    (hbody : S.StmtsRel k none body body') {c c' : Check.Place → Check Unit}
    (hc : ∀ p, S.CheckAgree (c p) (c' p)) :
    S.CheckAgree (Check.macroDef eng p l params defaults body c)
      (Check.macroDef eng' p l' params defaults' body' c') := by
  simp only [Check.macroDef, hbody.signature_eq, inMacro_eq hdefaults hbody, hdefaults.length_eq]
  have hparts (p : Check.Place) : S.CheckAgree
      (do Check.exprs eng p defaults; c p) (do Check.exprs eng' p defaults'; c' p) :=
    (checkAgree_exprs h p hdefaults).bind fun _ => hc p
  exact .skipIf (.fail hl _) (.ite (.bind (.modify _) fun _ => hparts _) (hparts _))

/-- Names with their lines. -/
def StoredRel (S : Simulation) : List (Nat × String) → List (Nat × String) → Prop :=
  List.Forall₂ fun a b => S.line a.1 b.1 ∧ b.2 = a.2

mutual

theorem storedByTarget_rel {t t' : Target} :
    Target.Alike S.line t t' → S.StoredRel (Stmt.storedByTarget t) (Stmt.storedByTarget t')
  | .name hl _ => by simpa [Stmt.storedByTarget, StoredRel] using hl
  | .member _ _ _ => by simp [Stmt.storedByTarget, StoredRel]
  | .tuple _ hts => by
    simp only [Stmt.storedByTarget]
    exact storedByTargets_rel hts

theorem storedByTargets_rel {ts ts' : List Target} :
    Target.AlikeAll S.line ts ts' → S.StoredRel (Stmt.storedByTargets ts) (Stmt.storedByTargets ts')
  | .nil => .nil
  | .cons ht hts => List.rel_append (storedByTarget_rel ht) (storedByTargets_rel hts)

end

mutual

theorem StmtRel.stored {top : Option (Nat × Nat)} {s s' : Stmt} :
    S.StmtRel k top s s' → S.StoredRel s.stored s'.stored
  | .loop _ ht _ hbody horElse _ _ =>
    List.rel_append (List.rel_append (storedByTarget_rel ht) hbody.stored) horElse.stored
  | .branch _ _ hbody helifs horElse =>
    List.rel_append (List.rel_append hbody.stored helifs.stored) horElse.stored
  | .macroDef _ _ _ _ hbody | .callBlock _ _ _ _ _ _ hbody | .filterBlock _ _ hbody
  | .withBlock _ _ hbody | .block _ _ hbody _ _ | .autoescape _ _ hbody => hbody.stored
  | .assign _ ht _ => storedByTarget_rel ht
  | .assignBlock _ ht _ hbody => List.rel_append (storedByTarget_rel ht) hbody.stored
  | .output _ _ | .extend _ _ _ | .inclusion _ _ _ _ | .importModule _ _ _ _
  | .importNames _ _ _ _ | .exprStmt _ _ | .continueLoop _ | .breakLoop _ | .embed _ _ _
  | .embedded _ _ | .child _ _ => .nil

theorem StmtsRel.stored {top : Option (Nat × Nat)} {ss ss' : List Stmt} :
    S.StmtsRel k top ss ss' → S.StoredRel (Stmt.storedByList ss) (Stmt.storedByList ss')
  | .nil => .nil
  | .cons hs hss => List.rel_append hs.stored hss.stored

end

/-- The first of some names with their lines is found on both sides or on none. -/
theorem StoredRel.find {as bs : List (Nat × String)} (h : S.StoredRel as bs) (name : String) :
    (as.find? (fun a => a.2 == name) = none ∧ bs.find? (fun b => b.2 == name) = none) ∨
      ∃ a b, as.find? (fun a => a.2 == name) = some a ∧ bs.find? (fun b => b.2 == name) = some b ∧
        S.line a.1 b.1 := by
  induction h with
  | nil => exact .inl ⟨rfl, rfl⟩
  | @cons a b _ _ hab _ ih =>
    rw [List.find?_cons, List.find?_cons, hab.2]
    cases a.2 == name with
    | true => exact .inr ⟨a, b, rfl, rfl, hab.1⟩
    | false => exact ih

theorem loopAssignment_rel {t t' : Target} {body body' orElse orElse' : List Stmt}
    (ht : Target.Alike S.line t t') (hbody : S.StmtsRel k none body body')
    (horElse : S.StmtsRel k none orElse orElse') :
    (Check.loopAssignment? t body orElse = none ∧ Check.loopAssignment? t' body' orElse' = none) ∨
      ∃ l l', Check.loopAssignment? t body orElse = some l ∧
        Check.loopAssignment? t' body' orElse' = some l' ∧ S.line l l' := by
  have hstored : S.StoredRel
      (Stmt.storedByTarget t ++ Stmt.storedByList body ++ Stmt.storedByList orElse)
      (Stmt.storedByTarget t' ++ Stmt.storedByList body' ++ Stmt.storedByList orElse') :=
    List.rel_append (List.rel_append (storedByTarget_rel ht) hbody.stored) horElse.stored
  obtain ⟨h, h'⟩ | ⟨a, b, h, h', hl⟩ := hstored.find "loop"
  · exact .inl ⟨by rw [Check.loopAssignment?, h]; rfl, by rw [Check.loopAssignment?, h']; rfl⟩
  · exact .inr ⟨a.1, b.1, by rw [Check.loopAssignment?, h]; rfl,
      by rw [Check.loopAssignment?, h']; rfl, hl⟩

theorem bindings_rel {bs bs' : List (Target × Expr)} (h : S.BindingsRel bs bs') :
    Expr.AlikeAll S.line (bs.map (·.2)) (bs'.map (·.2)) := by
  induction h with
  | nil => exact .nil
  | cons hb _ ih => exact .cons hb.2 ih

/-- A statement of which one expression is checked. -/
theorem checkAgree_only (h : S.EngRel eng eng') (p : Check.Place) {e e' : Expr}
    (he : Expr.Alike S.line e e') :
    S.CheckAgree (do Check.expr eng p false e; return false)
      (do Check.expr eng' p false e'; return false) :=
  (checkAgree_expr h p false he).bind fun _ => .pure false

mutual

theorem checkAgree_stmt (h : S.EngRel eng eng') (p : Check.Place) {top : Option (Nat × Nat)}
    {s s' : Stmt} :
    S.StmtRel k top s s' → S.CheckAgree (Check.stmt eng p s) (Check.stmt eng' p s')
  | .output _ hes => by
    unfold Check.stmt
    exact CheckAgree.get.bind fun s =>
      .ite (.pure _) ((checkAgree_output h p hes).bind fun _ => .pure _)
  | .extend hl he _ => by
    unfold Check.stmt
    refine .skipIf (.fail hl _) (CheckAgree.get.bind fun s => .ite (.pure _) ?_)
    exact (checkAgree_expr h p false he).bind fun _ => (CheckAgree.modify _).bind fun _ => .pure _
  | .loop _ ht he hbody horElse htest recursive => by
    have hparts (q r : Check.Place) : S.CheckAgree
        (do
          Check.stmts eng q _
          Check.stmts eng r _
          if recursive then Check.expr eng p false _
          return false)
        (do
          Check.stmts eng' q _
          Check.stmts eng' r _
          if recursive then Check.expr eng' p false _
          return false) :=
      (checkAgree_stmts h q hbody).bind fun _ => (checkAgree_stmts h r horElse).bind fun _ =>
        .ite ((checkAgree_expr h p false he).bind fun _ => .pure _) (.pure _)
    simp only [Check.stmt, loopProvided_eq hbody horElse, inLoop_eq ht hbody, horElse.visitAll_eq]
    -- an assignment to `loop` is complained about on both sides, at corresponding lines
    obtain ⟨hnone, hnone'⟩ | ⟨l, l', hsome, hsome', hl⟩ := loopAssignment_rel ht hbody horElse
    · rw [hnone, hnone']
      cases htest with
      | none => exact .skipIf (checkAgree_expr h p false he) (hparts _ _)
      | some hte =>
        dsimp only
        rw [ofLoopTest_eq ht hte]
        exact (checkAgree_expr h _ false hte).bind fun _ => .skipIf (checkAgree_expr h p false he) (hparts _ _)
    · rw [hsome, hsome']
      cases htest with
      | none => exact (CheckAgree.fail hl _).bind fun _ => .skipIf (checkAgree_expr h p false he) (hparts _ _)
      | some hte =>
        dsimp only
        rw [ofLoopTest_eq ht hte]
        exact (checkAgree_expr h _ false hte).bind fun _ =>
          (CheckAgree.fail hl _).bind fun _ => .skipIf (checkAgree_expr h p false he) (hparts _ _)
  | .branch _ he hbody helifs horElse => by
    unfold Check.stmt
    exact (checkAgree_expr h p.soft false he).bind fun _ =>
      (checkAgree_stmts h p.soft hbody).bind fun _ =>
      (checkAgree_stmts h p.soft helifs).bind fun _ =>
      (checkAgree_stmts h p.soft horElse).bind fun _ => .pure _
  | .macroDef hl _ params hdefaults hbody => by
    unfold Check.stmt
    exact (checkAgree_macroDef h p hl params hdefaults hbody
      fun p => checkAgree_stmts h p hbody).bind fun _ => .pure _
  | .callBlock hl hcl he hargs params hdefaults hbody => by
    unfold Check.stmt
    refine (checkAgree_macroDef h p hl params hdefaults hbody
      fun p => checkAgree_stmts h p hbody).bind fun _ => ?_
    refine (checkAgree_expr h p false (.call hcl he hargs)).bind fun _ => ?_
    obtain ⟨-, hns, -, -⟩ := hargs
    dsimp only
    rw [alikeNamed_keys hns]
    exact (checkAgree_distinctNames _).bind fun _ => .pure _
  | .filterBlock _ he hbody => by
    unfold Check.stmt
    rw [ofFilterBlock_eq he hbody]
    exact (checkAgree_stmts h _ hbody).bind fun _ => checkAgree_only h _ he
  | .withBlock _ hbs hbody => by
    unfold Check.stmt
    rw [ofWith_eq hbs hbody]
    exact (checkAgree_exprs h p (bindings_rel hbs)).bind fun _ =>
      (checkAgree_stmts h _ hbody).bind fun _ => .pure _
  | .inclusion _ he _ _ | .importModule _ he _ _ | .importNames _ he _ _ => by
    unfold Check.stmt
    exact checkAgree_only h p he.alike
  | .exprStmt _ he | .assign _ _ he | .embed _ he _ => by
    unfold Check.stmt
    exact checkAgree_only h p he
  | .assignBlock _ _ ho hbody => by
    unfold Check.stmt
    rw [hbody.visitAll_eq]
    exact (checkAgree_stmts h _ hbody).bind fun _ =>
      (checkAgree_optional h _ ho).bind fun _ => .pure _
  | .autoescape _ he hbody => by
    unfold Check.stmt
    rw [ofAutoescape_eq he hbody]
    refine (checkAgree_expr h _ false he).bind fun _ => ?_
    refine (CheckAgree.lift (agree_escapingIn h p.escaping he)).bind fun escaping => ?_
    exact (checkAgree_stmts h _ hbody).bind fun _ => .pure _
  | .continueLoop _ | .breakLoop _ => by
    unfold Check.stmt
    exact .skipIf (.modify _) (.pure _)
  | .block _ _ _ _ _ | .embedded _ _ | .child _ _ => .pure _

theorem checkAgree_stmts (h : S.EngRel eng eng') (p : Check.Place) {top : Option (Nat × Nat)}
    {ss ss' : List Stmt} :
    S.StmtsRel k top ss ss' → S.CheckAgree (Check.stmts eng p ss) (Check.stmts eng' p ss')
  | .nil => .pure _
  | .cons hs hss => by
    unfold Check.stmts
    exact (checkAgree_stmt h p hs).bind fun isLast => .ite (.pure _) (checkAgree_stmts h p hss)

end

/-! ## Templates -/

theorem CheckAgree.forM {f f' : γ → Check PUnit} {R : γ → γ → Prop}
    (h : ∀ a b, R a b → S.CheckAgree (f a) (f' b)) {xs ys : List γ} (hxs : List.Forall₂ R xs ys) :
    S.CheckAgree (xs.forM f) (ys.forM f') := by
  induction hxs with
  | nil => exact .pure _
  | cons hab _ ih => exact (h _ _ hab).bind fun _ => ih

/-- A block that is defined twice is found on both sides or on none. -/
theorem repeatedBlock_rel {as bs : List (Nat × String)} (h : S.StoredRel as bs)
    (seen : List String) :
    (Check.repeatedBlock? seen as = none ∧ Check.repeatedBlock? seen bs = none) ∨
      ∃ l l' name, Check.repeatedBlock? seen as = some (l, name) ∧
        Check.repeatedBlock? seen bs = some (l', name) ∧ S.line l l' := by
  induction h generalizing seen with
  | nil => exact .inl ⟨rfl, rfl⟩
  | @cons a b _ _ hab _ ih =>
    obtain ⟨l, name⟩ := a
    obtain ⟨l', name'⟩ := b
    obtain ⟨hl, rfl⟩ : S.line l l' ∧ name' = name := hab
    rw [Check.repeatedBlock?, Check.repeatedBlock?]
    split
    · exact .inr ⟨l, l', name', rfl, rfl, hl⟩
    · exact ih (name' :: seen)

theorem checkAgree_bodies (h : S.EngRel eng eng') {ss ss' : List Stmt} {top : Option (Nat × Nat)}
    (hss : S.StmtsRel k top ss ss') (root : Check.Place) (escaping : Escaping) : S.CheckAgree
    (do
      Check.stmts eng root ss
      (Stmt.blocksOfList ss).forM fun (_, _, body, _, _) =>
        Check.stmts eng { scope := Scope.ofBlock body, escaping } body)
    (do
      Check.stmts eng' root ss'
      (Stmt.blocksOfList ss').forM fun (_, _, body, _, _) =>
        Check.stmts eng' { scope := Scope.ofBlock body, escaping } body) := by
  refine (checkAgree_stmts h root hss).bind fun _ => CheckAgree.forM (fun b b' hb => ?_) hss.blocks
  obtain ⟨-, -, hbody, -⟩ := hb
  dsimp only
  rw [hbody.ofBlock_eq]
  exact checkAgree_stmts h _ hbody

/-- Corresponding templates pass the check or fail it in the same way. -/
theorem agree_checkTemplate (h : S.EngRel eng eng') {t t' : Template} {top : Option (Nat × Nat)}
    (ht : S.StmtsRel k top t.body t'.body) :
    S.Agree (Check.template eng t) (Check.template eng' t') := by
  have hstored : S.StoredRel ((Stmt.blocksOfList t.body).map fun b => (b.1, b.2.1))
      ((Stmt.blocksOfList t'.body).map fun b => (b.1, b.2.1)) :=
    List.forall₂_map_left_iff.2 (List.forall₂_map_right_iff.2
      (ht.blocks.imp fun _ _ hb => ⟨hb.1, hb.2.1⟩))
  obtain ⟨hnone, hnone'⟩ | ⟨l, l', name, hsome, hsome', hl⟩ := repeatedBlock_rel hstored []
  · simp only [Check.template, hnone, hnone', ht.ofTemplate_eq, ht.anyExtends_eq]
    refine Agree.read_bind fun _ w w' hw => ?_
    rw [S.library_options hw.library]
    refine Agree.bind (fun k => ?_) fun r => .ite (.pure _) (.accident _)
    refine (checkAgree_bodies h ht _ _ {} k).imp fun _ _ r r' hr => ?_
    exact Prod.ext hr.1 hr.2
  · simp only [Check.template, hsome, hsome']
    exact fun k w w' hw => .inr (.failed (S.le_refl k) hw (.syntaxError hl _))

end Simulation

end Stencil
