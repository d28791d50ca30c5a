import Stencil.Proofs.Inspect.Literal
import Stencil.Proofs.Tree.Gather
import Stencil.Proofs.Tree.Outline
import Stencil.Proofs.Workspace.Operations

/-!
# What inspection finds

Inspection searches a labelled tree that no longer holds the bodies of embeds, and a list of the
templates that were taken out. Here its answer is given by the tree of the source itself, in which
every embed stands in its place with its parent and body.

## Key results

- `Stmt.collect_detachList`: the inclusions left in a host are those outside the bodies of embeds
- `Stmt.parents_detachList`: the parents of the templates taken out are those of the embeds, inner
  before outer
- `Workspace.linked_eq_gather`: the answer of inspection
-/

namespace Stencil

/-- The value of an expression that is a literal. -/
def Expr.literal? : Expr → Option Datum
  | .const _ d => some d
  | _ => none

namespace Stmt

/-- The literal target of an inclusion, if it names a template. -/
def inclusionTarget : Stmt → List Datum
  | inclusion _ e _ _ => (e.literal?.filter Node.isTarget).toList
  | _ => []

/-- The literal parent of an embed. -/
def embedParent : Stmt → List Datum
  | embed _ parent _ => parent.literal?.toList
  | _ => []

/-- The literal target of the first `extends` that stands directly in a body. -/
def firstParent : List Stmt → List Datum
  | [] => []
  | extend _ e :: _ => e.literal?.toList
  | _ :: ss => firstParent ss

end Stmt

/-! ## Inclusions -/

namespace Node

section

variable {sel : Selector} {P : Kind → Prop}

mutual

/-- Nothing is found in a tree that has no node to be chosen. -/
theorem collect_eq_nil (hP : ∀ k, P k → sel.takes k = false) : (n : Node) → n.Only P → collect sel n = []
  | .mk kind fields _, h => by
    rw [Node.only_mk] at h
    rw [collect, collectFields_eq_nil hP fields h.2, hP kind h.1]
    rfl

theorem collectFields_eq_nil (hP : ∀ k, P k → sel.takes k = false) :
    (fs : List (String × Field)) → Field.OnlyNamed P fs → collectFields sel fs = []
  | [], _ => by rw [collectFields]
  | (_, f) :: fs, h => by
    rw [Field.onlyNamed_cons] at h
    rw [collectFields, collectField_eq_nil hP f h.1, collectFields_eq_nil hP fs h.2]
    rfl

theorem collectField_eq_nil (hP : ∀ k, P k → sel.takes k = false) :
    (f : Field) → f.Only P → collectField sel f = []
  | .node n, h => by
    rw [Field.only_node] at h
    rw [collectField, collect_eq_nil hP n h]
  | .list items, h => by
    rw [Field.only_list] at h
    rw [collectField, collectItems_eq_nil hP items h]
  | .tuple _, _ => by rw [collectField]
  | .datum _, _ => by rw [collectField]

theorem collectItems_eq_nil (hP : ∀ k, P k → sel.takes k = false) :
    (fs : List Field) → Field.OnlyAll P fs → collectItems sel fs = []
  | [], _ => by rw [collectItems]
  | .node n :: fs, h => by
    rw [Field.onlyAll_cons, Field.only_node] at h
    rw [collectItems, collect_eq_nil hP n h.1, collectItems_eq_nil hP fs h.2]
    rfl
  | .list _ :: fs, h | .tuple _ :: fs, h | .datum _ :: fs, h => by
    rw [Field.onlyAll_cons] at h
    rw [collectItems, collectItems_eq_nil hP fs h.2]
    all_goals exact nofun

end

end

end Node

namespace Stmt

/-- Expressions hold no inclusions. -/
theorem not_takes_inclusion (k : Kind) (h : k.isWritten) :
    (Selector.kind .inclusion).takes k = false := by
  cases k with
  | inclusion => exact absurd h (by decide)
  | _ => rfl

@[simp]
theorem collect_expr (e : Expr) : Node.collect (.kind .inclusion) e.outline = [] :=
  Node.collect_eq_nil not_takes_inclusion _ e.only_outline

@[simp]
theorem collectItems_exprs (es : List Expr) :
    Node.collectItems (.kind .inclusion) (Expr.outlineList es) = [] :=
  Node.collectItems_eq_nil not_takes_inclusion _ (Expr.only_outlineList es)

@[simp]
theorem collectField_option (e : Option Expr) :
    Node.collectField (.kind .inclusion) (Expr.outlineOption e) = [] :=
  Node.collectField_eq_nil not_takes_inclusion _ (Expr.only_outlineOption e)

@[simp]
theorem collect_target (t : Target) (use : String) :
    Node.collect (.kind .inclusion) (t.outline use) = [] :=
  Node.collect_eq_nil not_takes_inclusion _ (t.only_outline use)

@[simp]
theorem collectField_params (ps : List String) :
    Node.collectField (.kind .inclusion) (outlineParams ps) = [] :=
  Node.collectField_eq_nil not_takes_inclusion _ (only_outlineParams ps)

/-- What is found in a node are the targets in its fields and, for an inclusion, its own. -/
theorem collect_node (k : Kind) (fs : List Field) :
    Node.collect (.kind .inclusion) (Outline.node k fs) =
      Node.collectFields (.kind .inclusion) (k.fields.zip fs) ++
        (if k = .inclusion then (Outline.node k fs).target?.toList else []) := by
  rw [Outline.node, Node.collect]
  cases k <;> rfl

theorem collectItems_map {α : Type} (f : α → Node) (as : List α)
    (h : ∀ a, Node.collect (.kind .inclusion) (f a) = []) :
    Node.collectItems (.kind .inclusion) (as.map fun a => .node (f a)) = [] := by
  induction as with
  | nil => rw [List.map_nil, Node.collectItems]
  | cons a as ih => rw [List.map_cons, Node.collectItems, h a, ih, List.append_nil]

theorem literal?_outline (e : Expr) : Node.literal? (.node e.outline) = e.literal? := by
  cases e with
  | binary l op a b => cases op <;> rfl
  | unary l op a => cases op <;> rfl
  | _ => rfl

theorem target?_inclusion (e : Expr) (fs : List Field) :
    (Outline.node .inclusion (.node e.outline :: fs)).target? =
      e.literal?.filter Node.isTarget := by
  rw [← literal?_outline e]
  rfl

mutual

/-- The inclusions left in a statement are those outside the bodies of embeds. -/
theorem collect_detach (host : Option String) : (s : Stmt) →
    Node.collect (.kind .inclusion) (s.detach host).1.outline = s.gather inclusionTarget false
  | loop l t i body orElse test recursive => by
    simp [detach, outline, collect_node, Kind.fields, Node.collectFields, Node.collectField,
      Outline.flag, gather, inclusionTarget, collect_detachList host body,
      collect_detachList host orElse]
  | branch l test body elifs orElse => by
    simp [detach, outline, collect_node, Kind.fields, Node.collectFields, Node.collectField,
      gather, inclusionTarget, collect_detachList host body, collect_detachList host elifs,
      collect_detachList host orElse]
  | macroDef _ _ _ _ body | filterBlock _ _ body | block _ _ body _ _ | assignBlock _ _ _ body => by
    simp [detach, outline, collect_node, Kind.fields, Node.collectFields, Node.collectField,
      Outline.flag, Outline.text, gather, inclusionTarget, collect_detachList host body]
  | callBlock _ _ callee args _ _ body => by
    have hcall := collect_expr (.call 0 callee args)
    rw [Expr.outline] at hcall
    rw [detach, outline, collect_node]
    simp [Kind.fields, Node.collectFields, Node.collectField, hcall, gather, inclusionTarget,
      collect_detachList host body]
  | withBlock _ bindings body => by
    have htargets := collectItems_map (fun b : Target × Expr => b.1.outline "param") bindings
      fun b => collect_target b.1 "param"
    have hvalues := collectItems_map (fun b : Target × Expr => b.2.outline) bindings
      fun b => collect_expr b.2
    simp [detach, outline, collect_node, Kind.fields, Node.collectFields, Node.collectField,
      gather, inclusionTarget, collect_detachList host body, htargets, hvalues]
  | autoescape _ v body => by
    simp [detach, outline, collect_node, Kind.fields, Node.collectFields, Node.collectField,
      Node.collectItems, Outline.text, gather, inclusionTarget, collect_detachList host body]
  | inclusion _ e _ _ => by
    simp [detach, outline, collect_node, Kind.fields, Node.collectFields, Node.collectField,
      Outline.flag, gather, inclusionTarget, target?_inclusion]
  | importNames _ _ names _ => by
    simp [detach, outline, collect_node, Kind.fields, Node.collectFields, Node.collectField,
      Outline.flag, gather, inclusionTarget,
      Node.collectItems_eq_nil not_takes_inclusion _ (only_importNames names)]
  | embed _ _ _ | embedded _ _ => by
    simp only [detach, outline, collect_node, gather, inclusionTarget]
    rfl
  | output _ _ | extend _ _ | importModule _ _ _ _ | exprStmt _ _ | assign _ _ _ | continueLoop _
  | breakLoop _ => by
    simp [detach, outline, collect_node, Kind.fields, Node.collectFields, Node.collectField,
      Outline.flag, Outline.text, gather, inclusionTarget]

theorem collect_detachList (host : Option String) : (ss : List Stmt) →
    Node.collectItems (.kind .inclusion) (outlineList (detachList host ss).1) =
      gatherAll inclusionTarget false ss
  | [] => by simp only [detachList, outlineList, Node.collectItems, gatherAll]
  | s :: ss => by
    simp only [detachList, outlineList, Node.collectItems, gatherAll]
    rw [collect_detach host s, collect_detachList host ss]

end

/-! ## Parents -/

/-- The parent of a template is the literal target of the first `extends` in its body. -/
theorem parents_outline (l : Nat) (ss : List Stmt) (es : List Node) :
    (Template.outline ⟨l, ss⟩ es).parents = .ok (firstParent ss) := by
  induction ss with
  | nil => rfl
  | cons s ss ih =>
    cases s with
    | extend l' e =>
      cases e with
      | binary _ op _ _ => cases op <;> rfl
      | unary _ op _ => cases op <;> rfl
      | _ => rfl
    | _ =>
      refine (parents_cons ?_ l ss es).trans ih
      exact nofun

/-- Taking out embeds keeps the first `extends`. -/
theorem firstParent_detachList (host : Option String) (ss : List Stmt) :
    firstParent (detachList host ss).1 = firstParent ss := by
  induction ss with
  | nil => rfl
  | cons s ss ih =>
    cases s with
    | extend l e => rfl
    | _ => exact ih

/-- The parents that inspection finds for templates that were taken out. -/
def parentsOf (es : List Embedded) : List Datum :=
  es.flatMap fun e => firstParent e.template.body

theorem parentsOf_append (es fs : List Embedded) :
    parentsOf (es ++ fs) = parentsOf es ++ parentsOf fs :=
  List.flatMap_append

mutual

/-- The parents of the templates taken out of a statement are those of its embeds. -/
theorem parents_detach (host : Option String) : (s : Stmt) →
    parentsOf (s.detach host).2 = s.gather embedParent true
  | loop _ _ _ body orElse _ _ => by
    simp only [detach, gather, parentsOf_append, parents_detachList host body,
      parents_detachList host orElse, embedParent, List.append_nil]
  | branch _ _ body elifs orElse => by
    simp only [detach, gather, parentsOf_append, parents_detachList host body,
      parents_detachList host elifs, parents_detachList host orElse, embedParent,
      List.append_nil]
  | macroDef _ _ _ _ body | callBlock _ _ _ _ _ _ body | filterBlock _ _ body
  | withBlock _ _ body | block _ _ body _ _ | assignBlock _ _ _ body | autoescape _ _ body => by
    simp only [detach, gather, parents_detachList host body, embedParent, List.append_nil]
  | embed l parent body => by
    -- the template taken out last is the one whose body the others stand in
    simp only [detach, gather, parentsOf_append, parents_detachList host body, if_true,
      embedParent]
    simp [parentsOf, firstParent]
  | output _ _ | extend _ _ | inclusion _ _ _ _ | importModule _ _ _ _ | importNames _ _ _ _
  | exprStmt _ _ | assign _ _ _ | continueLoop _ | breakLoop _ | embedded _ _ => by
    simp [detach, gather, embedParent, parentsOf]

theorem parents_detachList (host : Option String) : (ss : List Stmt) →
    parentsOf (detachList host ss).2 = gatherAll embedParent true ss
  | [] => by simp [detachList, gatherAll, parentsOf]
  | s :: ss => by
    simp only [detachList, gatherAll, parentsOf_append, parents_detach host s,
      parents_detachList host ss]

end

end Stmt

/-! ## Sources -/

open Stmt

/-- The parents of several templates are found one by one. -/
theorem mapM_parents (es : List Embedded) :
    (es.map fun e => e.template.outline []).mapM Node.parents =
      .ok (es.map fun e => firstParent e.template.body) := by
  induction es with
  | nil => rfl
  | cons e es ih =>
    rw [List.map_cons, List.mapM_cons, ih,
      show (e.template.outline []).parents = _ from parents_outline e.template.line _ []]
    rfl

/-- Inspection of a source that can be read gives the references of its tree. -/
theorem Language.linked_of_parseTree {lang : Language} {code : String} {t : Template}
    (ht : lang.parseTree code = .ok t) (name : Option String) :
    lang.linked true name code = .ok (gatherAll inclusionTarget false t.body ++
      gatherAll embedParent true t.body ++ firstParent t.body) := by
  have hparse : lang.parse name code = .ok (t.detach name) := by
    rw [Language.parse, ht]
    rfl
  have hparents : (t.detach name).outline.parents = .ok (firstParent t.body) :=
    (parents_outline t.line _ _).trans (congrArg _ (firstParent_detachList name t.body))
  have hinclusions : Node.collect (.kind .inclusion) (t.detach name).outline =
      gatherAll inclusionTarget false t.body := by
    rw [← collect_detachList name t.body]
    change Node.collectFields _ [_] ++ [] = _
    rw [Node.collectFields, Node.collectFields, Node.collectField]
    simp [Template.detach]
  have hlinked := linked_eq (mapM_parents (t.detach name).embeds) hparents
  -- each embed is inspected as a template of its own, in the order in which it was recorded
  have hembeds : ((t.detach name).embeds.map fun e => firstParent e.template.body).flatten =
      gatherAll embedParent true t.body :=
    parents_detachList name t.body
  rw [hinclusions, hembeds] at hlinked
  rw [Language.linked, Language.outline, hparse]
  change Except.ok ((t.detach name).outline.linked.toOption.getD []) = _
  rw [hlinked]
  rfl

namespace Workspace

/-- What the inspection of a source finds: the literal targets of its inclusions outside the bodies
of embeds, the literal parents of all embeds, inner before outer, and its own literal parent. -/
theorem linked_eq_gather (ws : Workspace) (hreg : ws.world.env.flavour.hasRegistry = true)
    (name : Datum) (code : String) (t : Template)
    (ht : ws.world.env.options.language.parseTree code = .ok t) :
    (linked name code ws).1 = .ok (gatherAll inclusionTarget false t.body ++
      gatherAll embedParent true t.body ++ firstParent t.body) := by
  rw [linked, perform_eq]
  simp only [Run.exec_bind, Run.exec_get, Run.andThen_ok, hreg,
    Language.linked_of_parseTree ht name.text?]
  rfl

/-- A source with inclusions inside and outside of nested embeds. -/
def nestedEmbeds : String :=
  "\x7b% extends 'base' %\x7d\x7b% include 'a' %\x7d\x7b% for x in y %\x7d" ++
  "\x7b% embed 'outer' %\x7d\x7b% block b %\x7d\x7b% include 'hidden' %\x7d" ++
  "\x7b% embed 'inner' %\x7d\x7b% endembed %\x7d\x7b% endblock %\x7d\x7b% endembed %\x7d" ++
  "\x7b% include 'b' %\x7d\x7b% endfor %\x7d\x7b% include 'not_used' %\x7d"

/-- A workspace without sources in which embeds can be written. -/
def bare : Workspace where
  world := { env := {
    flavour := .pattern
    loader := .named
    options := { language := { extensions := { embedTag := true } } } } }
  settings := {}
  usesFiles := false
  infoBlock := ""

/-- The inclusion inside an embed is not found; the parent of the inner embed comes first. -/
theorem linked_eq_gather_nestedEmbeds : bare.world.env.flavour.hasRegistry = true ∧
    (∃ t, bare.world.env.options.language.parseTree nestedEmbeds = .ok t) ∧
    (linked .null nestedEmbeds bare).1.toOption.map (·.map Datum.display) =
      some ["a", "b", "inner", "outer", "base"] := by
  have hread : (bare.world.env.options.language.parseTree nestedEmbeds).toOption.map
      (fun t => (gatherAll inclusionTarget false t.body ++ gatherAll embedParent true t.body ++
        firstParent t.body).map Datum.display) =
      some ["a", "b", "inner", "outer", "base"] := by decide +kernel
  cases ht : bare.world.env.options.language.parseTree nestedEmbeds with
  | error e =>
    rw [ht] at hread
    exact nomatch hread
  | ok t =>
    rw [ht] at hread
    rw [linked_eq_gather bare rfl .null nestedEmbeds t ht]
    exact ⟨rfl, ⟨t, rfl⟩, hread⟩

end Workspace

end Stencil
