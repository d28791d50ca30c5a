import Stencil.Proofs.Embed.Key
import Stencil.Proofs.Node.Regular
import Stencil.Proofs.Tree.Detach
import Stencil.Proofs.Tree.Outline

/-!
# Places of embeds in the written form of a template

The written form of a template shows the keys of the embeds that were taken out of it: they are the
arguments of calls of an extension, which no source can write. So templates with the same written
form have the same places.

## Key results

- `Stmt.keysAll_shapes`: the keys in statements without embeds are those that their shape shows
- `Embedded.keys_eq_of_dump_eq`: embeds with the same written form have the same places
-/

namespace Stencil

namespace Shape

/-- The text that is the only argument of a call. -/
def argument : List Shape → List String
  | .group _ _ [.group _ _ [.text key]] :: _ => [String.ofList key]
  | _ => []

/-- Whether a shape is that of an extension. -/
def isExtension : Shape → Bool
  | .group head _ _ => head == Kind.extensionAttribute.head
  | _ => false

mutual

/-- The arguments of the calls of an extension in a shape. -/
def keys : Shape → List String
  | .group _ _ items => keysAll items
  | .single item => keys item
  | .entry _ value => keys value
  | _ => []

/-- The arguments of the calls of an extension in items. Where the extension comes first, its
argument follows. -/
def keysAll : List Shape → List String
  | [] => []
  | s :: rest => if s.isExtension then argument rest else keys s ++ keysAll rest

end

theorem keys_ofTuple {ss : List Shape} (h : keysAll ss = []) (hext : ∀ s ∈ ss, s.isExtension = false) :
    (ofTuple ss).keys = [] := by
  unfold ofTuple
  split
  · simpa [keysAll, hext, keys] using h
  · rwa [keys]

end Shape

theorem Kind.head_ne_extension {k : Kind} (h : k ≠ .extensionAttribute) :
    (k.head == Kind.extensionAttribute.head) = false :=
  beq_eq_false_iff_ne.2 fun heq => h (Kind.head_inj heq)

/-! ## Values and expressions -/

theorem Datum.isExtension_shape (d : Datum) : d.shape.isExtension = false := by
  cases d with
  | bool b => cases b <;> rfl
  | list items => rw [Datum.shape]; rfl
  | object fields => rw [Datum.shape]; rfl
  | _ => rfl

mutual

theorem Datum.keys_shape : (d : Datum) → d.shape.keys = []
  | .null | .bool true | .bool false | .int _ | .float _ | .text _ => by
    rw [Datum.shape, Shape.keys]
    all_goals exact nofun
  | .list items => by rw [Datum.shape, Shape.keys, Datum.keysAll_shapes items]
  | .object fields => by rw [Datum.shape, Shape.keys, Datum.keysAll_entries fields]

theorem Datum.keysAll_shapes : (ds : List Datum) → Shape.keysAll (Datum.shapes ds) = []
  | [] => by rw [Datum.shapes, Shape.keysAll]
  | d :: ds => by
    rw [Datum.shapes, Shape.keysAll, Datum.isExtension_shape, Datum.keys_shape d,
      Datum.keysAll_shapes ds]
    rfl

theorem Datum.keysAll_entries : (fs : List (String × Datum)) →
    Shape.keysAll (Datum.entries fs) = []
  | [] => by rw [Datum.entries, Shape.keysAll]
  | (k, d) :: fs => by
    rw [Datum.entries, Shape.keysAll, Shape.keys, Datum.keys_shape d, Datum.keysAll_entries fs]
    rfl

end

section

variable {P : Kind → Prop} (hP : ¬ P .extensionAttribute)

include hP

theorem Node.isExtension_shape {n : Node} (h : n.Only P) : n.shape.isExtension = false := by
  cases n with
  | mk kind fields es =>
    rw [Node.only_mk] at h
    rw [Node.shape]
    exact Kind.head_ne_extension fun heq => hP (heq ▸ h.1)

theorem Field.isExtension_shape {f : Field} (h : f.Only P) : f.shape.isExtension = false := by
  cases f with
  | node n =>
    rw [Field.only_node] at h
    rw [Field.shape]
    exact Node.isExtension_shape hP h
  | list items => rw [Field.shape]; rfl
  | tuple items =>
    rw [Field.shape, Shape.ofTuple.eq_def]
    split <;> rfl
  | datum d => rw [Field.shape]; exact d.isExtension_shape

theorem Field.isExtension_shapes {fs : List Field} (h : Field.OnlyAll P fs) :
    ∀ s ∈ Field.shapes fs, s.isExtension = false := by
  induction fs with
  | nil =>
    rw [Field.shapes]
    exact fun _ hs => nomatch hs
  | cons f fs ih =>
    rw [Field.onlyAll_cons] at h
    rw [Field.shapes]
    exact List.forall_mem_cons.2 ⟨Field.isExtension_shape hP h.1, ih h.2⟩

end

section

variable {P : Kind → Prop}

mutual

/-- Nodes of other kinds show no keys. -/
theorem Node.keys_shape (hP : ¬ P .extensionAttribute) : (n : Node) → n.Only P → n.shape.keys = []
  | .mk kind fields _, h => by
    rw [Node.only_mk] at h
    rw [Node.shape, Shape.keys, Field.keysAll_namedShapes hP fields h.2]

theorem Field.keysAll_namedShapes (hP : ¬ P .extensionAttribute) : (fs : List (String × Field)) →
    Field.OnlyNamed P fs → Shape.keysAll (Field.namedShapes fs) = []
  | [], _ => by rw [Field.namedShapes, Shape.keysAll]
  | (_, f) :: fs, h => by
    rw [Field.onlyNamed_cons] at h
    rw [Field.namedShapes, Shape.keysAll, Field.isExtension_shape hP h.1,
      Field.keys_shape hP f h.1, Field.keysAll_namedShapes hP fs h.2]
    rfl

theorem Field.keys_shape (hP : ¬ P .extensionAttribute) : (f : Field) → f.Only P →
    f.shape.keys = []
  | .node n, h => by
    rw [Field.only_node] at h
    rw [Field.shape, Node.keys_shape hP n h]
  | .list items, h => by
    rw [Field.only_list] at h
    rw [Field.shape, Shape.keys, Field.keysAll_shapes hP items h]
  | .tuple items, h => by
    rw [Field.only_tuple] at h
    rw [Field.shape]
    exact Shape.keys_ofTuple (Field.keysAll_shapes hP items h) (Field.isExtension_shapes hP h)
  | .datum d, _ => by rw [Field.shape, Datum.keys_shape d]

theorem Field.keysAll_shapes (hP : ¬ P .extensionAttribute) : (fs : List Field) →
    Field.OnlyAll P fs → Shape.keysAll (Field.shapes fs) = []
  | [], _ => by rw [Field.shapes, Shape.keysAll]
  | f :: fs, h => by
    rw [Field.onlyAll_cons] at h
    rw [Field.shapes, Shape.keysAll, Field.isExtension_shape hP h.1, Field.keys_shape hP f h.1,
      Field.keysAll_shapes hP fs h.2]
    rfl

end

end

/-! ## Statements -/

namespace Stmt

theorem not_isWritten_extension : ¬ Kind.isWritten .extensionAttribute := by
  decide

/-- What the fields of a node show, if none of them is an extension. -/
theorem keys_node (kind : Kind) (fs : List Field) :
    (Outline.node kind fs).shape.keys = Shape.keysAll (Field.namedShapes (kind.fields.zip fs)) := by
  rw [Outline.node, Node.shape, Shape.keys]

theorem keysAll_cons {f : Field} {fs : List Shape} (h : f.shape.isExtension = false) :
    Shape.keysAll (f.shape :: fs) = f.shape.keys ++ Shape.keysAll fs := by
  rw [Shape.keysAll, h]
  rfl

theorem isExtension_outline (s : Stmt) : s.outline.shape.isExtension = false := by
  cases s <;> exact Kind.head_ne_extension (by decide)

/-- Fields without an extension show nothing. -/
theorem keysAll_skip {f : Field} {fs : List Shape} (h : f.Only Kind.isWritten) :
    Shape.keysAll (f.shape :: fs) = Shape.keysAll fs := by
  rw [keysAll_cons (Field.isExtension_shape not_isWritten_extension h),
    Field.keys_shape not_isWritten_extension f h, List.nil_append]

theorem keysAll_body {items : List Field} {fs : List Shape} :
    Shape.keysAll ((Field.list items).shape :: fs) =
      Shape.keysAll (Field.shapes items) ++ Shape.keysAll fs := by
  rw [keysAll_cons (by rw [Field.shape]; rfl), Field.shape, Shape.keys]

theorem keysAll_nil : Shape.keysAll [] = [] := by
  rw [Shape.keysAll]

theorem keysAll_node {kind : Kind} (h : kind ≠ .extensionAttribute) (fs : List Field)
    (rest : List Shape) :
    Shape.keysAll ((Field.node (Outline.node kind fs)).shape :: rest) =
      Shape.keysAll (Field.namedShapes (kind.fields.zip fs)) ++ Shape.keysAll rest := by
  rw [keysAll_cons (by rw [Field.shape]; exact Kind.head_ne_extension h), Field.shape, keys_node]

/-- The place of an embed shows its key. -/
theorem keys_embedded (l : Nat) (key : String) : (embedded l key).outline.shape.keys = [key] := by
  have hcall : Shape.keysAll (Field.namedShapes (Kind.call.fields.zip [
      .node (Outline.node .extensionAttribute [
        Outline.text "pattern_inspector.engines.jinja.extensions.EmbedExtension",
        Outline.text "_embed_target"]),
      .list [.node (Outline.node .const [Outline.text key])],
      .list [], Outline.absent, Outline.absent])) = [key] := by
    have hext (fs : List Field) (rest : List Shape) : Shape.keysAll
        ((Field.node (Outline.node .extensionAttribute fs)).shape :: rest) = Shape.argument rest := by
      rw [Shape.keysAll, if_pos]
      rw [Field.shape, Outline.node, Node.shape]
      exact beq_self_eq_true _
    simp only [Kind.fields, List.zip_cons_cons, Field.namedShapes]
    rw [hext]
    simp [Shape.argument, Field.shape, Field.shapes, Outline.node, Node.shape, Kind.fields,
      Field.namedShapes, Outline.text, Datum.shape]
  rw [outline, keys_node, Expr.embedCall]
  simp only [Kind.fields, List.zip_cons_cons, Field.namedShapes]
  rw [keysAll_node (by decide), hcall, keysAll_skip (by simp), keysAll_skip (by simp)]
  simp [Field.namedShapes, keysAll_nil]

mutual

/-- The keys in a statement without embeds are those that its shape shows. -/
theorem keys_shape (host : Option String) : (s : Stmt) →
    (s.detach host).1.outline.shape.keys = gather place true (s.detach host).1
  | loop l t i body orElse test recursive => by
    simp [detach, outline, gather, place, keys_node, Kind.fields, Field.namedShapes, keysAll_skip,
      keysAll_body, keysAll_nil, keysAll_shapes host body, keysAll_shapes host orElse, keys]
  | branch l test body elifs orElse => by
    simp [detach, outline, gather, place, keys_node, Kind.fields, Field.namedShapes, keysAll_skip,
      keysAll_body, keysAll_nil, keysAll_shapes host body, keysAll_shapes host elifs,
      keysAll_shapes host orElse, keys]
  | macroDef _ _ _ _ body | filterBlock _ _ body | block _ _ body _ _ | assignBlock _ _ _ body => by
    simp [detach, outline, gather, place, keys_node, Kind.fields, Field.namedShapes, keysAll_skip,
      keysAll_body, keysAll_nil, keysAll_shapes host body, keys]
  | callBlock _ _ callee args _ _ body => by
    have hcall : (Outline.node .call (.node callee.outline :: Expr.outlineArgs args)).Only
        Kind.isWritten := Outline.only_node (by decide) (by simp)
    simp [detach, outline, gather, place, keys_node, Kind.fields, Field.namedShapes, keysAll_skip,
      keysAll_body, keysAll_nil, keysAll_shapes host body, keys, hcall]
  | withBlock _ bindings body => by
    have htargets : Field.OnlyAll Kind.isWritten
        (bindings.map fun b => .node (b.1.outline "param")) :=
      Field.onlyAll_map fun _ _ => by simp
    have hvalues : Field.OnlyAll Kind.isWritten (bindings.map fun b => .node b.2.outline) :=
      Field.onlyAll_map fun _ _ => by simp
    simp [detach, outline, gather, place, keys_node, Kind.fields, Field.namedShapes, keysAll_skip,
      keysAll_body, keysAll_nil, keysAll_shapes host body, keys, htargets, hvalues]
  | autoescape _ v body => by
    have hkey : (Outline.node .keyword [Outline.text "autoescape", .node v.outline]).Only
        Kind.isWritten := Outline.only_node (by decide) (by simp)
    simp [detach, outline, gather, place, keys_node, Kind.fields, Field.namedShapes, Field.shapes,
      keysAll_node, keysAll_skip, keysAll_body, keysAll_nil, keysAll_shapes host body, keys, hkey]
  | inclusion _ _ _ _ | importModule _ _ _ _ | importNames _ _ _ _ | output _ _ | extend _ _
  | exprStmt _ _ | assign _ _ _ | continueLoop _ | breakLoop _ => by
    simp [detach, outline, gather, place, keys_node, Kind.fields, Field.namedShapes, keysAll_skip,
      keysAll_nil]
  | embed l _ _ | embedded l _ => by
    simp only [detach, gather, place, List.nil_append]
    exact keys_embedded l _

theorem keysAll_shapes (host : Option String) : (ss : List Stmt) →
    Shape.keysAll (Field.shapes (outlineList (detachList host ss).1)) = keys (detachList host ss).1
  | [] => by simp [detachList, outlineList, Field.shapes, Shape.keysAll]
  | s :: ss => by
    simp only [detachList, outlineList, Field.shapes, keys_cons]
    rw [keysAll_cons (by rw [Field.shape]; exact isExtension_outline _), Field.shape,
      keys_shape host s, keysAll_shapes host ss]

end

/-- The keys of an embed are those that its written form shows. -/
def ShowsKeys (e : Embedded) : Prop :=
  (e.template.outline []).shape.keys = e.template.keys

theorem showsKeys_detachList (host : Option String) (ss : List Stmt) (e : Embedded)
    (he : e ∈ (detachList host ss).2) : ShowsKeys e := by
  obtain ⟨l, parent, body, rfl⟩ := mem_detachList host ss e he
  have hextend : (extend l parent).outline.shape.keys = [] := keys_shape host (extend l parent)
  simp only [ShowsKeys, Embedded.ofTag, Template.outline, Template.keys, Node.shape, Shape.keys,
    Field.namedShapes, keysAll_body, keysAll_nil, List.append_nil, outlineList, Field.shapes]
  rw [keysAll_cons (by rw [Field.shape]; exact isExtension_outline _), Field.shape, hextend,
    keysAll_shapes host body]
  simp [gather, place]

end Stmt

/-- Embeds with the same written form have the same places. -/
theorem Embedded.keys_eq_of_dump_eq {e d : Embedded} (he : Stmt.ShowsKeys e)
    (hd : Stmt.ShowsKeys d) (h : e.template.dump = d.template.dump) :
    e.template.keys = d.template.keys := by
  rw [← he, ← hd, Node.shape_eq_of_dump_eq h]

end Stencil
