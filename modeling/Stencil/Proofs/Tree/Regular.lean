import Stencil.Proofs.Embed.Key
import Stencil.Proofs.Node.Regular
import Stencil.Proofs.Tree.Labelled

/-!
# Written forms tell trees apart

The labelled form of a tree is regular, so that it can be told from the written form. Together with
what the labelled form shows of a tree this means: two embedded templates have the same written form
iff they differ in lines only.

## Key results

- `Template.regular_outline`: the labelled form of a template is regular
- `Embedded.dump_eq_iff`: embeds with the same written form differ in lines only
-/

namespace Stencil

/-! ## The labelled form is regular -/

@[simp]
theorem Field.regular_node (n : Node) : (Field.node n).Regular false ↔ n.Regular := by
  rw [Field.Regular]
  exact ⟨fun h => h.2, fun h => ⟨rfl, h⟩⟩

@[simp]
theorem Field.regular_list (items : List Field) :
    (Field.list items).Regular false ↔ Field.RegularAll items := by
  rw [Field.Regular]
  exact ⟨fun h => h.2, fun h => ⟨rfl, h⟩⟩

@[simp]
theorem Field.regular_tuple (items : List Field) :
    (Field.tuple items).Regular false ↔ Field.RegularAll items := by
  rw [Field.Regular]
  exact ⟨fun h => h.2, fun h => ⟨rfl, h⟩⟩

@[simp]
theorem Field.regularAll_nil : Field.RegularAll [] := by
  rw [Field.RegularAll]
  trivial

@[simp]
theorem Field.regularAll_cons (f : Field) (fs : List Field) :
    Field.RegularAll (f :: fs) ↔ f.Regular false ∧ Field.RegularAll fs := by
  rw [Field.RegularAll]

@[simp]
theorem Outline.regular_text (s : String) : (Outline.text s).Regular false := by
  rw [Outline.text, Field.Regular]
  exact .inr rfl

@[simp]
theorem Outline.regular_flag (b : Bool) : (Outline.flag b).Regular false := by
  rw [Outline.flag, Field.Regular]
  exact .inr rfl

@[simp]
theorem Outline.regular_absent : Outline.absent.Regular false := by
  rw [Outline.absent, Field.Regular]
  exact .inr rfl

theorem Field.regularNamed_zip (names : List String) {fs : List Field} (h : Field.RegularAll fs) :
    Field.RegularNamed false (names.zip fs) := by
  induction names generalizing fs with
  | nil => simp only [List.zip_nil_left, Field.RegularNamed]
  | cons n ns ih =>
    cases fs with
    | nil => simp only [List.zip_nil_right, Field.RegularNamed]
    | cons f fs =>
      rw [Field.regularAll_cons] at h
      simp only [List.zip_cons_cons, Field.RegularNamed]
      exact ⟨h.1, ih h.2⟩

theorem Field.regularAll_map {α : Type} {f : α → Field} {as : List α}
    (h : ∀ a ∈ as, (f a).Regular false) : Field.RegularAll (as.map f) := by
  induction as with
  | nil => simp
  | cons a as ih =>
    rw [List.map_cons, Field.regularAll_cons]
    exact ⟨h a List.mem_cons_self, ih fun b hb => h b (List.mem_cons_of_mem _ hb)⟩

/-- A node other than a literal is regular if it has as many fields as its kind, all regular. -/
theorem Outline.regular_node {kind : Kind} {fs : List Field} (h : Field.RegularAll fs)
    (hlen : fs.length = kind.fields.length) (hkind : kind ≠ .const := by decide) :
    (Outline.node kind fs).Regular := by
  rw [Outline.node, Node.Regular, beq_false_of_ne hkind]
  exact ⟨rfl, List.map_fst_zip (Nat.le_of_eq hlen.symm), Field.regularNamed_zip _ h⟩

theorem Outline.regular_const (d : Datum) : (Outline.node .const [.datum d]).Regular := by
  rw [Outline.node, Node.Regular]
  refine ⟨rfl, rfl, ?_⟩
  simp only [Kind.fields, List.zip_cons_cons, List.zip_nil_left, Field.RegularNamed, Field.Regular]
  exact ⟨.inl rfl, trivial⟩

namespace Expr

mutual

@[simp]
theorem regular_outline : (e : Expr) → e.outline.Regular
  | .name _ _ => Outline.regular_node (by simp) rfl
  | .const _ d => Outline.regular_const d
  | .data _ _ => Outline.regular_node (by simp) rfl
  | .tuple _ es => Outline.regular_node (by simp [regular_outlineList es]) rfl
  | .list _ es => Outline.regular_node (by simp [regular_outlineList es]) rfl
  | .dict _ ps => Outline.regular_node (by simp [regular_outlinePairs ps]) rfl
  | .cond _ c v o => Outline.regular_node
    (by simp [regular_outline c, regular_outline v, regular_outlineOption o]) rfl
  | .filter _ s _ args => Outline.regular_node
    (by simp [regular_outlineOption s, regular_outlineArgs args]) (by simp [length_outlineArgs, Kind.fields])
  | .test _ s _ args => Outline.regular_node
    (by simp [regular_outline s, regular_outlineArgs args]) (by simp [length_outlineArgs, Kind.fields])
  | .call _ f args => Outline.regular_node
    (by simp [regular_outline f, regular_outlineArgs args]) (by simp [length_outlineArgs, Kind.fields])
  | .item _ s i => Outline.regular_node (by simp [regular_outline s, regular_outline i]) rfl
  | .member _ s _ => Outline.regular_node (by simp [regular_outline s]) rfl
  | .slice _ a b c => Outline.regular_node
    (by simp [regular_outlineOption a, regular_outlineOption b, regular_outlineOption c]) rfl
  | .concat _ es => Outline.regular_node (by simp [regular_outlineList es]) rfl
  | .compare _ s ops => Outline.regular_node
    (by simp [regular_outline s, regular_outlineOperands ops]) rfl
  | .binary _ op l r => Outline.regular_node (by simp [regular_outline l, regular_outline r])
    (by rw [op.fields_kind]; rfl) (op.ne_kind rfl).symm
  | .unary _ op e => Outline.regular_node (by simp [regular_outline e])
    (by rw [op.fields_kind]; rfl) (op.ne_kind rfl).symm

@[simp]
theorem regular_outlineList : (es : List Expr) → Field.RegularAll (outlineList es)
  | [] => by simp [outlineList]
  | e :: es => by simp [outlineList, regular_outline e, regular_outlineList es]

theorem regular_outlinePairs : (ps : List (Expr × Expr)) → Field.RegularAll (outlinePairs ps)
  | [] => by simp [outlinePairs]
  | (k, v) :: ps => by
    have hpair : (Outline.node .pair [.node k.outline, .node v.outline]).Regular :=
      Outline.regular_node (by simp [regular_outline k, regular_outline v]) rfl
    simp [outlinePairs, hpair, regular_outlinePairs ps]

@[simp]
theorem regular_outlineOption : (o : Option Expr) → (outlineOption o).Regular false
  | none => by simp [outlineOption]
  | some e => by simp [outlineOption, regular_outline e]

theorem regular_outlineOperands : (ops : List (Comparison × Expr)) →
    Field.RegularAll (outlineOperands ops)
  | [] => by simp [outlineOperands]
  | (op, e) :: ops => by
    have hoperand : (Outline.node .operand [Outline.text op.label, .node e.outline]).Regular :=
      Outline.regular_node (by simp [regular_outline e]) rfl
    simp [outlineOperands, hoperand, regular_outlineOperands ops]

theorem regular_outlineNamed : (ns : List (String × Expr)) → Field.RegularAll (outlineNamed ns)
  | [] => by simp [outlineNamed]
  | (n, e) :: ns => by
    have hkeyword : (Outline.node .keyword [Outline.text n, .node e.outline]).Regular :=
      Outline.regular_node (by simp [regular_outline e]) rfl
    simp [outlineNamed, hkeyword, regular_outlineNamed ns]

@[simp]
theorem regular_outlineArgs : (args : Args) → Field.RegularAll (outlineArgs args)
  | .mk es ns s r => by
    simp [outlineArgs, regular_outlineList es, regular_outlineNamed ns, regular_outlineOption s,
      regular_outlineOption r]

end

theorem regular_embedCall (key : String) : (embedCall key).Regular := by
  have hname (s t : String) : (Outline.node .extensionAttribute [Outline.text s, Outline.text t]).Regular :=
    Outline.regular_node (by simp) rfl
  have hkey : (Outline.node .const [Outline.text key]).Regular := Outline.regular_const _
  exact Outline.regular_node (by simp [hname, hkey]) rfl

end Expr

namespace Target

mutual

@[simp]
theorem regular_outline (use : String) : (t : Target) → (t.outline use).Regular
  | .name _ _ => Outline.regular_node (by simp) rfl
  | .member _ _ _ => Outline.regular_node (by simp) rfl
  | .tuple _ ts => Outline.regular_node (by simp [regular_outlineList use ts]) rfl

theorem regular_outlineList (use : String) : (ts : List Target) →
    Field.RegularAll (outlineList use ts)
  | [] => by simp [outlineList]
  | t :: ts => by simp [outlineList, regular_outline use t, regular_outlineList use ts]

end

end Target

namespace Stmt

@[simp]
theorem regular_outlineParams (params : List String) : (outlineParams params).Regular false := by
  rw [outlineParams, Field.regular_list]
  refine Field.regularAll_map fun p _ => ?_
  rw [Field.regular_node]
  exact Outline.regular_node (by simp) rfl

theorem regular_importNames (names : List ImportName) :
    Field.RegularAll (names.map ImportName.outline) := by
  refine Field.regularAll_map fun n _ => ?_
  obtain ⟨name, rename⟩ := n
  cases rename with
  | none => exact Outline.regular_text name
  | some r =>
    rw [ImportName.outline, Field.regular_tuple]
    simp

mutual

theorem regular_outline : (s : Stmt) → s.outline.Regular
  | .output _ es => Outline.regular_node (by simp) rfl
  | .extend _ p => Outline.regular_node (by simp) rfl
  | .loop _ t i body orElse test _ => Outline.regular_node
    (by simp [regular_outlineList body, regular_outlineList orElse]) rfl
  | .branch _ _ body elifs orElse => Outline.regular_node
    (by simp [regular_outlineList body, regular_outlineList elifs, regular_outlineList orElse]) rfl
  | .macroDef _ _ _ _ body => Outline.regular_node (by simp [regular_outlineList body]) rfl
  | .callBlock _ _ callee args _ _ body => by
    have hcall : (Outline.node .call (.node callee.outline :: Expr.outlineArgs args)).Regular :=
      Outline.regular_node (by simp) (by simp [Expr.length_outlineArgs, Kind.fields])
    exact Outline.regular_node (by simp [hcall, regular_outlineList body]) rfl
  | .filterBlock _ _ body => Outline.regular_node (by simp [regular_outlineList body]) rfl
  | .withBlock _ bindings body => by
    have htargets : Field.RegularAll (bindings.map fun b => .node (b.1.outline "param")) :=
      Field.regularAll_map fun _ _ => by simp
    have hvalues : Field.RegularAll (bindings.map fun b => .node b.2.outline) :=
      Field.regularAll_map fun _ _ => by simp
    exact Outline.regular_node (by simp [htargets, hvalues, regular_outlineList body]) rfl
  | .block _ _ body _ _ => Outline.regular_node (by simp [regular_outlineList body]) rfl
  | .inclusion _ _ _ _ => Outline.regular_node (by simp) rfl
  | .importModule _ _ _ _ => Outline.regular_node (by simp) rfl
  | .importNames _ _ names _ => Outline.regular_node (by simp [regular_importNames names]) rfl
  | .exprStmt _ _ => Outline.regular_node (by simp) rfl
  | .assign _ _ _ => Outline.regular_node (by simp) rfl
  | .assignBlock _ _ _ body => Outline.regular_node (by simp [regular_outlineList body]) rfl
  | .autoescape _ v body => by
    have hoption : (Outline.node .keyword [Outline.text "autoescape", .node v.outline]).Regular :=
      Outline.regular_node (by simp) rfl
    have hscope : (Outline.node .optionScope [
        .list [.node (Outline.node .keyword [Outline.text "autoescape", .node v.outline])],
        .list (outlineList body)]).Regular :=
      Outline.regular_node (by simp [hoption, regular_outlineList body]) rfl
    exact Outline.regular_node (by simp [hscope]) rfl
  | .continueLoop _ => Outline.regular_node (by simp) rfl
  | .breakLoop _ => Outline.regular_node (by simp) rfl
  | .embed _ _ _ => Outline.regular_node (by simp) rfl
  | .embedded _ key => Outline.regular_node (by simp [Expr.regular_embedCall key]) rfl

theorem regular_outlineList : (ss : List Stmt) → Field.RegularAll (outlineList ss)
  | [] => by simp [outlineList]
  | s :: ss => by simp [outlineList, regular_outline s, regular_outlineList ss]

end

end Stmt

/-- The labelled form of a template is regular. -/
theorem Template.regular_outline (t : Template) : (t.outline []).Regular := by
  change (Outline.node .template [.list (Stmt.outlineList t.body)]).Regular
  exact Outline.regular_node (by simp [Stmt.regular_outlineList t.body]) rfl

/-! ## Embeds -/

/-- The floating point numbers in a template. -/
def Template.floats (t : Template) : List Binary64 :=
  (t.outline []).floats

/-- Embeds have the same written form iff they differ in lines only, as long as their numbers are
told apart by their texts. -/
theorem Embedded.dump_eq_iff {host host' : Option String} {ss ss' : List Stmt} {e e' : Embedded}
    (he : e ∈ (Stmt.detachList host ss).2) (he' : e' ∈ (Stmt.detachList host' ss').2)
    (htold : Binary64.Told e.template.floats e'.template.floats) :
    e.template.dump = e'.template.dump ↔ e.template.Alike e'.template := by
  constructor
  · intro hdump
    have houtline := Node.eq_of_dump_eq e.template.regular_outline e'.template.regular_outline
      htold hdump
    obtain ⟨l, parent, body, rfl⟩ := Stmt.mem_detachList host ss e he
    obtain ⟨l', parent', body', rfl⟩ := Stmt.mem_detachList host' ss' e' he'
    have hfields := (Node.mk.inj houtline).2.1
    have hbody := Field.list.inj (Prod.mk.inj (List.cons.inj hfields).1).2
    -- the parent of an embed stands in front of what is left of its body
    exact Stmt.alikeAll_of_outline_eq host host' (.extend l parent :: body)
      (.extend l' parent' :: body') hbody
  · intro halike
    exact halike.dump_eq.symm

end Stencil
