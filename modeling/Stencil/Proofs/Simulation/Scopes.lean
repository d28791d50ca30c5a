import Stencil.Proofs.Simulation.Relation

/-!
# Scopes of related statements

What is read off statements without their lines is the same for related ones: the variables of their
scopes, the names that they leave undeclared, and their blocks. An inclusion of a literal name uses
no names, so that it can stand for an embedded template.
-/

namespace Stencil

namespace Simulation

variable {S : Simulation} {k : S.Stage} {top : Option (Nat × Nat)}

/-- Bindings of a `with` block. -/
abbrev BindingsRel (S : Simulation) (bs bs' : List (Target × Expr)) : Prop :=
  List.Forall₂ (fun b b' => Target.Alike S.line b.1 b'.1 ∧ Expr.Alike S.line b.2 b'.2) bs bs'

theorem BindingsRel.targets_eq {bs bs' : List (Target × Expr)} (h : S.BindingsRel bs bs') :
    (bs'.flatMap fun b => b.1.names) = bs.flatMap fun b => b.1.names := by
  induction h with
  | nil => rfl
  | cons hb _ ih => rw [List.flatMap_cons, List.flatMap_cons, hb.1.names_eq, ih]

theorem BindingsRel.names_eq {bs bs' : List (Target × Expr)} (h : S.BindingsRel bs bs') :
    (bs'.flatMap fun b => b.2.names) = bs.flatMap fun b => b.2.names := by
  induction h with
  | nil => rfl
  | cons hb _ ih => rw [List.flatMap_cons, List.flatMap_cons, hb.2.names_eq, ih]

/-! ## Variables -/

mutual

theorem StmtRel.visit_eq {top : Option (Nat × Nat)} {s s' : Stmt} (sc : Scope) :
    S.StmtRel k top s s' → sc.visit s' = sc.visit s
  | .output _ hes => by simp only [Scope.visit, hes.names_eq]
  | .extend _ he _ | .exprStmt _ he | .loop _ _ he _ _ _ _ | .filterBlock _ he _
  | .embed _ he _ => by
    simp only [Scope.visit, he.names_eq]
  | .branch _ he hbody helifs horElse => by
    simp only [Scope.visit, he.names_eq, StmtsRel.visitAll_eq _ hbody, StmtsRel.visitAll_eq _ helifs,
      StmtsRel.visitAll_eq _ horElse]
  | .macroDef _ _ _ _ _ | .block _ _ _ _ _ | .autoescape _ _ _ | .continueLoop _ | .breakLoop _
  | .embedded _ _ => by
    simp only [Scope.visit]
  | .callBlock _ _ he hargs _ _ _ => by simp only [Scope.visit, he.names_eq, hargs.names_eq]
  | .withBlock _ hbs _ => by simp only [Scope.visit, BindingsRel.names_eq hbs]
  | .inclusion _ he _ _ | .importModule _ he _ _ | .importNames _ he _ _ => by
    simp only [Scope.visit, he.alike.names_eq]
  | .assign _ ht he => by simp only [Scope.visit, he.names_eq, ht.visit_eq]
  | .assignBlock _ ht _ _ => by simp only [Scope.visit, ht.visit_eq]
  | .child _ _ => by simp only [Scope.visit, Expr.names, Scope.loads, List.foldl_nil]

theorem StmtsRel.visitAll_eq {top : Option (Nat × Nat)} {ss ss' : List Stmt} (sc : Scope) :
    S.StmtsRel k top ss ss' → sc.visitAll ss' = sc.visitAll ss
  | .nil => rfl
  | .cons hs hss => by
    simp only [Scope.visitAll, StmtRel.visit_eq _ hs, StmtsRel.visitAll_eq _ hss]

end

/-! ## Undeclared names -/

mutual

theorem StmtRel.undeclared_eq {top : Option (Nat × Nat)} {s s' : Stmt} (u : Undeclared) :
    S.StmtRel k top s s' → u.visit s' = u.visit s
  | .output _ hes => by simp only [Undeclared.visit, hes.names_eq]
  | .extend _ he _ | .exprStmt _ he => by simp only [Undeclared.visit, he.names_eq]
  | .loop _ ht he hbody horElse htest _ => by
    simp only [Undeclared.visit, ht.names_eq, he.names_eq, htest.names_eq,
      StmtsRel.undeclared_eq _ hbody, StmtsRel.undeclared_eq _ horElse]
  | .branch _ he hbody helifs horElse => by
    simp only [Undeclared.visit, he.names_eq, StmtsRel.undeclared_eq _ hbody,
      StmtsRel.undeclared_eq _ helifs, StmtsRel.undeclared_eq _ horElse]
  | .macroDef _ _ _ hdefaults hbody => by
    simp only [Undeclared.visit, hdefaults.names_eq, StmtsRel.undeclared_eq _ hbody]
  | .callBlock _ _ he hargs _ hdefaults hbody => by
    simp only [Undeclared.visit, he.names_eq, hargs.names_eq, hdefaults.names_eq,
      StmtsRel.undeclared_eq _ hbody]
  | .filterBlock _ he hbody | .autoescape _ he hbody | .embed _ he hbody => by
    simp only [Undeclared.visit, he.names_eq, StmtsRel.undeclared_eq _ hbody]
  | .withBlock _ hbs hbody => by
    simp only [Undeclared.visit, BindingsRel.targets_eq hbs, BindingsRel.names_eq hbs,
      StmtsRel.undeclared_eq _ hbody]
  | .block _ _ _ _ _ | .continueLoop _ | .breakLoop _ | .embedded _ _ => by
    simp only [Undeclared.visit]
  | .inclusion _ he _ _ | .importModule _ he _ _ | .importNames _ he _ _ => by
    simp only [Undeclared.visit, he.alike.names_eq]
  | .assign _ ht he => by simp only [Undeclared.visit, ht.names_eq, he.names_eq]
  | .assignBlock _ ht he hbody => by
    simp only [Undeclared.visit, ht.names_eq, he.names_eq, StmtsRel.undeclared_eq _ hbody]
  | .child _ _ => by
    simp only [Undeclared.visit, Expr.names, Undeclared.use, List.filter_nil, List.append_nil]

theorem StmtsRel.undeclared_eq {top : Option (Nat × Nat)} {ss ss' : List Stmt} (u : Undeclared) :
    S.StmtsRel k top ss ss' → u.visitAll ss' = u.visitAll ss
  | .nil => rfl
  | .cons hs hss => by
    simp only [Undeclared.visitAll, StmtRel.undeclared_eq _ hs, StmtsRel.undeclared_eq _ hss]

end

theorem StmtsRel.find_eq {ss ss' : List Stmt} (h : S.StmtsRel k top ss ss') (names : List String) :
    Undeclared.find names ss' = Undeclared.find names ss := by
  rw [Undeclared.find, Undeclared.find, h.undeclared_eq]

/-! ## Blocks -/

/-- Blocks as they are found in a template: line, name, body, and whether they are scoped and
required. -/
def BlockRel (S : Simulation) (k : S.Stage) (b b' : Nat × String × List Stmt × Bool × Bool) : Prop :=
  S.line b.1 b'.1 ∧ b'.2.1 = b.2.1 ∧ S.StmtsRel k none b.2.2.1 b'.2.2.1 ∧ b'.2.2.2 = b.2.2.2

mutual

theorem StmtRel.blocks {top : Option (Nat × Nat)} {s s' : Stmt} :
    S.StmtRel k top s s' → List.Forall₂ (S.BlockRel k) s.blocks s'.blocks
  | .loop _ _ _ hbody horElse _ _ => List.rel_append hbody.blocks horElse.blocks
  | .branch _ _ hbody helifs horElse =>
    List.rel_append (List.rel_append hbody.blocks helifs.blocks) horElse.blocks
  | .macroDef _ _ _ _ hbody | .callBlock _ _ _ _ _ _ hbody | .filterBlock _ _ hbody
  | .withBlock _ _ hbody | .assignBlock _ _ _ hbody | .autoescape _ _ hbody => hbody.blocks
  | .block hl _ hbody _ _ => .cons ⟨hl, rfl, hbody, rfl⟩ hbody.blocks
  | .output _ _ | .extend _ _ _ | .inclusion _ _ _ _ | .importModule _ _ _ _
  | .importNames _ _ _ _ | .exprStmt _ _ | .assign _ _ _ | .continueLoop _ | .breakLoop _
  | .embed _ _ _ | .embedded _ _ | .child _ _ => .nil

theorem StmtsRel.blocks {top : Option (Nat × Nat)} {ss ss' : List Stmt} :
    S.StmtsRel k top ss ss' →
      List.Forall₂ (S.BlockRel k) (Stmt.blocksOfList ss) (Stmt.blocksOfList ss')
  | .nil => .nil
  | .cons hs hss => List.rel_append hs.blocks hss.blocks

end

mutual

theorem StmtRel.hasExtends_eq {top : Option (Nat × Nat)} {s s' : Stmt} :
    S.StmtRel k top s s' → s'.hasExtends = s.hasExtends
  | .loop _ _ _ hbody horElse _ _ => by
    simp only [Stmt.hasExtends, hbody.anyExtends_eq, horElse.anyExtends_eq]
  | .branch _ _ hbody helifs horElse => by
    simp only [Stmt.hasExtends, hbody.anyExtends_eq, helifs.anyExtends_eq, horElse.anyExtends_eq]
  | .macroDef _ _ _ _ hbody | .callBlock _ _ _ _ _ _ hbody | .filterBlock _ _ hbody
  | .withBlock _ _ hbody | .assignBlock _ _ _ hbody | .autoescape _ _ hbody
  | .block _ _ hbody _ _ => by
    simp only [Stmt.hasExtends, hbody.anyExtends_eq]
  | .output _ _ | .extend _ _ _ | .inclusion _ _ _ _ | .importModule _ _ _ _
  | .importNames _ _ _ _ | .exprStmt _ _ | .assign _ _ _ | .continueLoop _ | .breakLoop _
  | .embed _ _ _ | .embedded _ _ | .child _ _ => rfl

theorem StmtsRel.anyExtends_eq {top : Option (Nat × Nat)} {ss ss' : List Stmt} :
    S.StmtsRel k top ss ss' → Stmt.anyExtends ss' = Stmt.anyExtends ss
  | .nil => rfl
  | .cons hs hss => by simp only [Stmt.anyExtends, hs.hasExtends_eq, hss.anyExtends_eq]

end

theorem StmtsRel.append {ss ss' ts ts' : List Stmt} :
    S.StmtsRel k top ss ss' → S.StmtsRel k top ts ts' → S.StmtsRel k top (ss ++ ts) (ss' ++ ts')
  | .nil, ht => ht
  | .cons hs hss, ht => .cons hs (hss.append ht)

/-! ## Scopes of the parts of a template -/

theorem StmtsRel.ofTemplate_eq {ss ss' : List Stmt} (h : S.StmtsRel k top ss ss') :
    Scope.ofTemplate ss' = Scope.ofTemplate ss := by
  rw [Scope.ofTemplate, Scope.ofTemplate, h.find_eq, h.visitAll_eq]

theorem StmtsRel.providedInBlock_eq {ss ss' : List Stmt} (h : S.StmtsRel k top ss ss') :
    Scope.providedInBlock ss' = Scope.providedInBlock ss := by
  rw [Scope.providedInBlock, Scope.providedInBlock, h.find_eq]

theorem StmtsRel.ofBlock_eq {ss ss' : List Stmt} (h : S.StmtsRel k top ss ss') :
    Scope.ofBlock ss' = Scope.ofBlock ss := by
  rw [Scope.ofBlock, Scope.ofBlock, h.providedInBlock_eq, h.visitAll_eq]

/-- Whether some block of a list is scoped. -/
theorem any_scoped_eq {bs bs' : List (Nat × String × List Stmt × Bool × Bool)}
    (h : List.Forall₂ (S.BlockRel k) bs bs') :
    (bs'.any fun b => b.2.2.2.1) = bs.any fun b => b.2.2.2.1 := by
  induction h with
  | nil => rfl
  | cons hb _ ih =>
    obtain ⟨-, -, -, hflags⟩ := hb
    rw [List.any_cons, List.any_cons, hflags, ih]

theorem loopProvided_eq {body body' orElse orElse' : List Stmt} (hbody : S.StmtsRel k none body body')
    (horElse : S.StmtsRel k none orElse orElse') (recursive : Bool) :
    Stmt.loopProvided body' orElse' recursive = Stmt.loopProvided body orElse recursive := by
  rw [Stmt.loopProvided, Stmt.loopProvided, hbody.find_eq,
    any_scoped_eq (hbody.append horElse).blocks]

theorem inLoop_eq {t t' : Target} {body body' : List Stmt} (ht : Target.Alike S.line t t')
    (hbody : S.StmtsRel k top body body') (sc : Scope) (provided : Bool) :
    sc.inLoop t' body' provided = sc.inLoop t body provided := by
  rw [Scope.inLoop, Scope.inLoop, Scope.ofLoop, Scope.ofLoop, ht.names_eq, hbody.visitAll_eq]

theorem ofLoopTest_eq {t t' : Target} {e e' : Expr} (ht : Target.Alike S.line t t')
    (he : Expr.Alike S.line e e') (sc : Scope) : sc.ofLoopTest t' e' = sc.ofLoopTest t e := by
  rw [Scope.ofLoopTest, Scope.ofLoopTest, ht.names_eq, he.names_eq]

theorem StmtsRel.signature_eq {body body' : List Stmt} (hbody : S.StmtsRel k top body body')
    (params : List String) : Signature.ofBody params body' = Signature.ofBody params body := by
  rw [Signature.ofBody, Signature.ofBody, hbody.find_eq]

theorem inMacro_eq {defaults defaults' : List Expr} {body body' : List Stmt}
    (hdefaults : Expr.AlikeAll S.line defaults defaults') (hbody : S.StmtsRel k top body body')
    (sc : Scope) (sig : Signature) : sc.inMacro sig defaults' body' = sc.inMacro sig defaults body := by
  rw [Scope.inMacro, Scope.inMacro, Scope.ofMacro, Scope.ofMacro, hdefaults.names_eq,
    hbody.visitAll_eq]

theorem ofFilterBlock_eq {e e' : Expr} {body body' : List Stmt} (he : Expr.Alike S.line e e')
    (hbody : S.StmtsRel k top body body') (sc : Scope) :
    sc.ofFilterBlock e' body' = sc.ofFilterBlock e body := by
  rw [Scope.ofFilterBlock, Scope.ofFilterBlock, he.names_eq, hbody.visitAll_eq]

theorem ofWith_eq {bs bs' : List (Target × Expr)} {body body' : List Stmt}
    (hbs : S.BindingsRel bs bs') (hbody : S.StmtsRel k top body body') (sc : Scope) :
    sc.ofWith bs' body' = sc.ofWith bs body := by
  rw [Scope.ofWith, Scope.ofWith, hbs.targets_eq, hbody.visitAll_eq]

theorem ofAutoescape_eq {e e' : Expr} {body body' : List Stmt} (he : Expr.Alike S.line e e')
    (hbody : S.StmtsRel k top body body') (sc : Scope) :
    sc.ofAutoescape e' body' = sc.ofAutoescape e body := by
  rw [Scope.ofAutoescape, Scope.ofAutoescape, he.names_eq, hbody.visitAll_eq]

end Simulation

end Stencil
