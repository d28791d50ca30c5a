import Stencil.Tree.Outline

/-!
# The kinds of nodes in the labelled form of expressions

Statements and embedded templates leave nodes of their own kinds in a labelled tree. No expression,
target or argument does, so that a search for statements, or for the names of embedded templates,
finds nothing inside them.

## Key results

- `Expr.only_outline`: an expression is shown by nodes for expressions only
- `Target.only_outline`: so is a target
-/

namespace Stencil

/-- The kinds that show an expression, or a part of one, as it is written in a source. -/
def Kind.isWritten (k : Kind) : Prop :=
  (k.family = .expression ∨ k.family = .helper) ∧ k ≠ .extensionAttribute

instance (k : Kind) : Decidable k.isWritten :=
  inferInstanceAs (Decidable (_ ∧ _))

mutual

/-- A labelled tree with nodes of certain kinds only; embedded templates do not count. -/
def Node.Only (P : Kind → Prop) : Node → Prop
  | .mk kind fields _ => P kind ∧ Field.OnlyNamed P fields

/-- `Node.Only` for the fields of a node. -/
def Field.OnlyNamed (P : Kind → Prop) : List (String × Field) → Prop
  | [] => True
  | (_, f) :: fs => f.Only P ∧ Field.OnlyNamed P fs

/-- `Node.Only` for the content of a field. -/
def Field.Only (P : Kind → Prop) : Field → Prop
  | .node n => n.Only P
  | .list items => Field.OnlyAll P items
  | .tuple items => Field.OnlyAll P items
  | .datum _ => True

/-- `Node.Only` for the items of a list. -/
def Field.OnlyAll (P : Kind → Prop) : List Field → Prop
  | [] => True
  | f :: fs => f.Only P ∧ Field.OnlyAll P fs

end

section

variable {P : Kind → Prop}

theorem Node.only_mk (kind : Kind) (fields : List (String × Field)) (es : List Node) :
    (Node.mk kind fields es).Only P ↔ P kind ∧ Field.OnlyNamed P fields :=
  Iff.rfl

@[simp]
theorem Field.only_node (n : Node) : (Field.node n).Only P ↔ n.Only P :=
  Iff.rfl

@[simp]
theorem Field.only_list (items : List Field) : (Field.list items).Only P ↔ Field.OnlyAll P items :=
  Iff.rfl

@[simp]
theorem Field.only_tuple (items : List Field) :
    (Field.tuple items).Only P ↔ Field.OnlyAll P items :=
  Iff.rfl

@[simp]
theorem Field.only_datum (d : Datum) : (Field.datum d).Only P :=
  trivial

@[simp]
theorem Field.onlyAll_nil : Field.OnlyAll P [] :=
  trivial

@[simp]
theorem Field.onlyAll_cons (f : Field) (fs : List Field) :
    Field.OnlyAll P (f :: fs) ↔ f.Only P ∧ Field.OnlyAll P fs :=
  Iff.rfl

theorem Field.onlyNamed_nil : Field.OnlyNamed P [] :=
  trivial

theorem Field.onlyNamed_cons (name : String) (f : Field) (fs : List (String × Field)) :
    Field.OnlyNamed P ((name, f) :: fs) ↔ f.Only P ∧ Field.OnlyNamed P fs :=
  Iff.rfl

theorem Field.onlyNamed_zip (names : List String) {fs : List Field} (h : Field.OnlyAll P fs) :
    Field.OnlyNamed P (names.zip fs) := by
  induction names generalizing fs with
  | nil => exact Field.onlyNamed_nil
  | cons n ns ih =>
    cases fs with
    | nil => exact Field.onlyNamed_nil
    | cons f fs =>
      rw [Field.onlyAll_cons] at h
      rw [List.zip_cons_cons, Field.onlyNamed_cons]
      exact ⟨h.1, ih h.2⟩

theorem Outline.only_node {kind : Kind} {fs : List Field} (hk : P kind)
    (h : Field.OnlyAll P fs) : (Outline.node kind fs).Only P := by
  rw [Outline.node, Node.only_mk]
  exact ⟨hk, Field.onlyNamed_zip _ h⟩

@[simp]
theorem Outline.only_text (s : String) : (Outline.text s).Only P :=
  Field.only_datum _

@[simp]
theorem Outline.only_flag (b : Bool) : (Outline.flag b).Only P :=
  Field.only_datum _

@[simp]
theorem Outline.only_absent : Outline.absent.Only P :=
  Field.only_datum _

theorem Field.onlyAll_map {α : Type} {f : α → Field} {as : List α}
    (h : ∀ a ∈ as, (f a).Only P) : Field.OnlyAll P (as.map f) := by
  induction as with
  | nil => exact Field.onlyAll_nil
  | cons a as ih =>
    rw [List.map_cons, Field.onlyAll_cons]
    exact ⟨h a List.mem_cons_self, ih fun b hb => h b (List.mem_cons_of_mem _ hb)⟩

end

namespace Expr

mutual

/-- An expression is shown by nodes for expressions only. -/
@[simp]
theorem only_outline : (e : Expr) → e.outline.Only Kind.isWritten
  | name _ _ | const _ _ | data _ _ => by
    rw [outline]
    exact Outline.only_node (by decide) (by simp)
  | tuple _ items | list _ items | concat _ items => by
    rw [outline]
    exact Outline.only_node (by decide) (by simp [only_outlineList items])
  | dict _ items => by
    rw [outline]
    exact Outline.only_node (by decide) (by simp [only_outlinePairs items])
  | cond _ c v e => by
    rw [outline]
    exact Outline.only_node (by decide)
      (by simp [only_outline c, only_outline v, only_outlineOption e])
  | filter _ s n args => by
    rw [outline]
    exact Outline.only_node (by decide) (by simp [only_outlineOption s, only_outlineArgs args])
  | test _ s n args | call _ s args => by
    rw [outline]
    exact Outline.only_node (by decide) (by simp [only_outline s, only_outlineArgs args])
  | item _ s i => by
    rw [outline]
    exact Outline.only_node (by decide) (by simp [only_outline s, only_outline i])
  | member _ s n => by
    rw [outline]
    exact Outline.only_node (by decide) (by simp [only_outline s])
  | slice _ a b c => by
    rw [outline]
    exact Outline.only_node (by decide)
      (by simp [only_outlineOption a, only_outlineOption b, only_outlineOption c])
  | compare _ s ops => by
    rw [outline]
    exact Outline.only_node (by decide) (by simp [only_outline s, only_outlineOperands ops])
  | binary _ op l r => by
    rw [outline]
    exact Outline.only_node (by cases op <;> decide) (by simp [only_outline l, only_outline r])
  | unary _ op e => by
    rw [outline]
    exact Outline.only_node (by cases op <;> decide) (by simp [only_outline e])

@[simp]
theorem only_outlineList : (es : List Expr) → Field.OnlyAll Kind.isWritten (outlineList es)
  | [] => by simp [outlineList]
  | e :: es => by simp [outlineList, only_outline e, only_outlineList es]

theorem only_outlinePairs : (ps : List (Expr × Expr)) →
    Field.OnlyAll Kind.isWritten (outlinePairs ps)
  | [] => by simp [outlinePairs]
  | (k, v) :: rest => by
    have hpair : (Outline.node .pair [.node k.outline, .node v.outline]).Only Kind.isWritten :=
      Outline.only_node (by decide) (by simp [only_outline k, only_outline v])
    simp [outlinePairs, hpair, only_outlinePairs rest]

@[simp]
theorem only_outlineOption : (o : Option Expr) → (outlineOption o).Only Kind.isWritten
  | none => by simp [outlineOption]
  | some e => by simp [outlineOption, only_outline e]

theorem only_outlineOperands : (ops : List (Comparison × Expr)) →
    Field.OnlyAll Kind.isWritten (outlineOperands ops)
  | [] => by simp [outlineOperands]
  | (op, e) :: rest => by
    have hop : (Outline.node .operand [Outline.text op.label, .node e.outline]).Only
        Kind.isWritten :=
      Outline.only_node (by decide) (by simp [only_outline e])
    rw [outlineOperands, Field.onlyAll_cons, Field.only_node]
    exact ⟨hop, only_outlineOperands rest⟩

theorem only_outlineNamed : (ns : List (String × Expr)) →
    Field.OnlyAll Kind.isWritten (outlineNamed ns)
  | [] => by simp [outlineNamed]
  | (k, e) :: rest => by
    have hkey : (Outline.node .keyword [Outline.text k, .node e.outline]).Only Kind.isWritten :=
      Outline.only_node (by decide) (by simp [only_outline e])
    rw [outlineNamed, Field.onlyAll_cons, Field.only_node]
    exact ⟨hkey, only_outlineNamed rest⟩

@[simp]
theorem only_outlineArgs : (args : Args) → Field.OnlyAll Kind.isWritten (outlineArgs args)
  | .mk positional named spread spreadNamed => by
    simp [outlineArgs, only_outlineList positional, only_outlineNamed named,
      only_outlineOption spread, only_outlineOption spreadNamed]

end

end Expr

namespace Target

mutual

/-- A target is shown by nodes for expressions only. -/
@[simp]
theorem only_outline (use : String) : (t : Target) → (t.outline use).Only Kind.isWritten
  | name _ _ | member _ _ _ => by
    rw [outline]
    exact Outline.only_node (by decide) (by simp)
  | tuple _ items => by
    rw [outline]
    exact Outline.only_node (by decide) (by simp [only_outlineList use items])

theorem only_outlineList (use : String) : (ts : List Target) →
    Field.OnlyAll Kind.isWritten (outlineList use ts)
  | [] => by simp [outlineList]
  | t :: ts => by simp [outlineList, only_outline use t, only_outlineList use ts]

end

end Target

namespace Stmt

@[simp]
theorem only_outlineParams (params : List String) :
    (outlineParams params).Only Kind.isWritten := by
  rw [outlineParams, Field.only_list]
  refine Field.onlyAll_map fun p _ => ?_
  rw [Field.only_node]
  exact Outline.only_node (by decide) (by simp)

@[simp]
theorem only_importNames (names : List ImportName) :
    Field.OnlyAll Kind.isWritten (names.map ImportName.outline) := by
  refine Field.onlyAll_map fun n _ => ?_
  rw [ImportName.outline]
  split <;> simp

end Stmt

end Stencil
