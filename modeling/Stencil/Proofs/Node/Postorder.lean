import Mathlib.Data.List.Basic
import Stencil.Node.References

/-!
# What a search of a tree visits

The nodes below a node are those in its fields, in the order that its kind gives them, and those in
its lists. `Node.postorder` lists them all, each behind the nodes below it. Searching a tree for the
targets of some nodes picks these nodes out of that list; a chosen node whose target is a literal
without a value makes the search fail.

## Main definitions

- `Node.postorder`: all nodes of a tree, each behind those below it
- `Node.Proper`: every node has fields of its own kind only
- `Node.Names`: a node names a template literally

## Key results

- `Node.collect_eq_children`, `Node.hasBlankTarget_eq_children`: what a search does at one node
- `Node.walk_postorder`: what it finds in a whole tree
-/

namespace Stencil

theorem Kind.nodup_fields (k : Kind) : k.fields.Nodup := by
  cases k <;> decide

/-- The nodes that a field holds: a single one, or those that are items of its list. -/
def Field.nodes : Field → List Node
  | .node n => [n]
  | .list items => items.filterMap fun item =>
    match item with
    | .node n => some n
    | _ => none
  | _ => []

theorem Field.sizeOf_lt_of_mem_nodes {m : Node} {f : Field} (h : m ∈ f.nodes) :
    sizeOf m < sizeOf f := by
  unfold nodes at h
  split at h
  · rw [List.mem_singleton] at h
    subst h
    simp
  · rename_i items
    obtain ⟨item, hitem, heq⟩ := List.mem_filterMap.1 h
    have hlt := List.sizeOf_lt_of_mem hitem
    split at heq
    · cases heq
      simp only [Field.node.sizeOf_spec, Field.list.sizeOf_spec] at hlt ⊢
      omega
    · cases heq
  · cases h

namespace Node

/-- The nodes right below a node: those of the fields that are set, in the order of its kind. -/
def children (n : Node) : List Node :=
  n.kind.fields.flatMap fun name => (n.field? name).elim [] Field.nodes

theorem sizeOf_lt_of_mem_children {m n : Node} (h : m ∈ n.children) : sizeOf m < sizeOf n := by
  obtain ⟨name, -, hm⟩ := List.mem_flatMap.1 h
  cases hf : n.field? name with
  | none =>
    rw [hf] at hm
    cases hm
  | some f =>
    rw [hf] at hm
    have hle := Field.sizeOf_lt_of_mem_nodes hm
    have hmem : (name, f) ∈ n.fields := by
      obtain ⟨l₁, l₂, hfields, -⟩ := List.lookup_eq_some_iff.1 hf
      rw [hfields]
      exact List.mem_append_right _ List.mem_cons_self
    have hlt := List.sizeOf_lt_of_mem hmem
    cases n
    simp only [Node.fields, Prod.mk.sizeOf_spec, Node.mk.sizeOf_spec] at hlt ⊢
    omega

/-- All nodes of a tree, each behind the nodes below it. -/
def postorder (n : Node) : List Node :=
  n.children.attach.flatMap (fun m => postorder m.1) ++ [n]
termination_by sizeOf n
decreasing_by exact sizeOf_lt_of_mem_children m.2

theorem postorder_eq (n : Node) : n.postorder = n.children.flatMap postorder ++ [n] := by
  rw [postorder]
  conv_rhs => rw [← List.attach_map_subtype_val n.children, List.flatMap_map]

/-- What holds of a node if it holds of the nodes right below it holds of every node. -/
theorem induction_children {P : Node → Prop} (step : ∀ n, (∀ m ∈ n.children, P m) → P n) (n : Node) :
    P n :=
  step n fun m _ => induction_children step m
termination_by sizeOf n
decreasing_by exact sizeOf_lt_of_mem_children ‹_›

theorem mem_postorder_self (n : Node) : n ∈ n.postorder := by
  rw [postorder_eq]
  exact List.mem_append_right _ List.mem_cons_self

theorem mem_postorder_of_mem_children {m n k : Node} (hm : m ∈ n.children) (hk : k ∈ m.postorder) :
    k ∈ n.postorder := by
  rw [postorder_eq]
  exact List.mem_append_left _ (List.mem_flatMap.2 ⟨m, hm, hk⟩)

/-! ## Nodes with fields of their own kind -/

/-- Whether the fields that are set are fields of the node's kind, in their order. -/
def Ordered (n : Node) : Prop :=
  (n.fields.map (·.1)).Sublist n.kind.fields

/-- Whether all nodes of a tree have fields of their own kind only. -/
def Proper (n : Node) : Prop :=
  ∀ m ∈ n.postorder, m.Ordered

theorem Proper.ordered {n : Node} (h : n.Proper) : n.Ordered :=
  h n n.mem_postorder_self

theorem Proper.child {m n : Node} (h : n.Proper) (hm : m ∈ n.children) : m.Proper :=
  fun _ hk => h _ (mem_postorder_of_mem_children hm hk)

/-- Looking fields up in the order of the names finds them in their own order. -/
theorem flatMap_lookup {names : List String} {fs : List (String × Field)} (hnames : names.Nodup)
    (hfs : (fs.map (·.1)).Sublist names) {α : Type} (g : Field → List α) :
    names.flatMap (fun name => (fs.lookup name).elim [] g) = fs.flatMap (g ·.2) := by
  induction names generalizing fs with
  | nil =>
    rw [List.sublist_nil, List.map_eq_nil_iff] at hfs
    rw [hfs]
    rfl
  | cons name names ih =>
    rw [List.nodup_cons] at hnames
    cases fs with
    | nil => simp
    | cons field fs =>
      obtain ⟨key, f⟩ := field
      rw [List.flatMap_cons]
      cases hfs with
      | cons _ hrest =>
        -- the name is that of no field, since it does not come a second time
        have hnone : List.lookup name ((key, f) :: fs) = none := by
          rw [List.lookup_eq_none_iff]
          intro p hp
          have hne : name ≠ p.1 := fun heq =>
            hnames.1 (heq ▸ hrest.subset (List.mem_map_of_mem (f := (·.1)) hp))
          exact bne_iff_ne.2 hne
        rw [hnone, ih hnames.2 hrest]
        rfl
      | cons_cons _ hrest =>
        have hothers : names.flatMap (fun k => (List.lookup k ((key, f) :: fs)).elim [] g) =
            names.flatMap fun k => (fs.lookup k).elim [] g := by
          refine List.flatMap_congr fun k hk => ?_
          have hne : k ≠ key := fun heq => hnames.1 (heq ▸ hk)
          rw [List.lookup_cons, beq_false_of_ne hne]
        rw [hothers, ih hnames.2 hrest, List.lookup_cons, beq_self_eq_true, List.flatMap_cons]
        rfl

theorem Ordered.children_eq {n : Node} (h : n.Ordered) :
    n.children = n.fields.flatMap (Field.nodes ·.2) :=
  flatMap_lookup n.kind.nodup_fields h Field.nodes

/-- Nodes are built with their fields in order. -/
theorem ordered_build (k : Kind) (given : List (String × Field)) (es : List Node) :
    (build k given es).Ordered := by
  change ((k.fields.filterMap _).map _).Sublist k.fields
  induction k.fields with
  | nil => exact List.Sublist.refl _
  | cons name names ih =>
    rw [List.filterMap_cons]
    cases given.lookup name with
    | none => exact ih.cons _
    | some f => exact ih.cons_cons _

/-! ## Searching at one node -/

theorem collectItems_eq (sel : Selector) (items : List Field) :
    collectItems sel items = (Field.list items).nodes.flatMap (collect sel) := by
  induction items with
  | nil => rfl
  | cons item items ih =>
    cases item with
    | node n => rw [collectItems, ih]; rfl
    | _ => rw [collectItems, ih] <;> first | rfl | nofun

theorem collectField_eq (sel : Selector) (f : Field) :
    collectField sel f = f.nodes.flatMap (collect sel) := by
  cases f with
  | node n => rw [collectField, Field.nodes, List.flatMap_singleton]
  | list items => rw [collectField, collectItems_eq]
  | tuple items => rfl
  | datum d => rfl

theorem collectFields_eq (sel : Selector) (fs : List (String × Field)) :
    collectFields sel fs = (fs.flatMap (Field.nodes ·.2)).flatMap (collect sel) := by
  induction fs with
  | nil => rfl
  | cons field fs ih =>
    rw [collectFields, ih, collectField_eq, List.flatMap_cons, List.flatMap_append]

/-- What a node itself adds to a search. -/
def pick (sel : Selector) (n : Node) : Option Datum :=
  if sel.takes n.kind then n.target? else none

/-- What is found below a node comes first. -/
theorem collect_eq_children (sel : Selector) {n : Node} (h : n.Ordered) :
    collect sel n = n.children.flatMap (collect sel) ++ (n.pick sel).toList := by
  rw [h.children_eq]
  cases n with
  | mk kind fs es =>
    rw [collect, collectFields_eq, pick]
    change _ = _ ++ Option.toList (if sel.takes kind = true then _ else none)
    split <;> rfl

theorem blankInItems_eq (sel : Selector) (items : List Field) :
    blankInItems sel items = (Field.list items).nodes.any (hasBlankTarget sel) := by
  induction items with
  | nil => rfl
  | cons item items ih =>
    cases item with
    | node n => rw [blankInItems, ih]; rfl
    | _ => rw [blankInItems, ih] <;> first | rfl | nofun

theorem blankInField_eq (sel : Selector) (f : Field) :
    blankInField sel f = f.nodes.any (hasBlankTarget sel) := by
  cases f with
  | node n => rw [blankInField, Field.nodes, List.any_cons, List.any_nil, Bool.or_false]
  | list items => rw [blankInField, blankInItems_eq]
  | tuple items => rfl
  | datum d => rfl

theorem blankInFields_eq (sel : Selector) (fs : List (String × Field)) :
    blankInFields sel fs = (fs.flatMap (Field.nodes ·.2)).any (hasBlankTarget sel) := by
  induction fs with
  | nil => rfl
  | cons field fs ih =>
    rw [blankInFields, ih, blankInField_eq, List.flatMap_cons, List.any_append]

/-- Whether the target of a node is a literal that has no value. -/
def Blank (n : Node) : Prop :=
  ∃ t : Node, n.field? "template" = some (.node t) ∧ t.kind = .const ∧ t.field? "value" = none

/-- A search fails at a node if it fails below it or the node is a chosen one with such a target. -/
theorem hasBlankTarget_eq_children (sel : Selector) {n : Node} (h : n.Ordered) :
    hasBlankTarget sel n = true ↔
      (∃ m ∈ n.children, hasBlankTarget sel m = true) ∨ sel.takes n.kind = true ∧ n.Blank := by
  rw [h.children_eq]
  cases n with
  | mk kind fs es =>
    rw [hasBlankTarget, Bool.or_eq_true, blankInFields_eq, List.any_eq_true, Bool.and_eq_true]
    refine or_congr Iff.rfl (and_congr Iff.rfl ?_)
    unfold Blank
    split
    · rename_i t ht
      simp [ht]
    · rename_i hother
      refine ⟨nofun, fun ⟨t, ht, _⟩ => absurd ht (hother t)⟩

/-! ## Searching a tree -/

/-- A search picks the chosen nodes out of the list of all. -/
theorem collect_eq_postorder (sel : Selector) (n : Node) (h : n.Proper) :
    collect sel n = n.postorder.filterMap (pick sel) := by
  induction n using induction_children with
  | step n ih =>
    rw [collect_eq_children sel h.ordered, postorder_eq, List.filterMap_append,
      List.filterMap_flatMap]
    refine congrArg₂ (· ++ ·) (List.flatMap_congr fun m hm => ih m hm (h.child hm)) ?_
    cases hpick : n.pick sel <;> simp [hpick]

theorem hasBlankTarget_iff (sel : Selector) (n : Node) (h : n.Proper) :
    hasBlankTarget sel n = true ↔ ∃ m ∈ n.postorder, sel.takes m.kind = true ∧ m.Blank := by
  induction n using induction_children with
  | step n ih =>
    have hbelow : (∃ m ∈ n.children, hasBlankTarget sel m = true) ↔
        ∃ m ∈ n.children.flatMap postorder, sel.takes m.kind = true ∧ m.Blank := by
      simp only [List.mem_flatMap]
      constructor
      · rintro ⟨m, hm, hblank⟩
        obtain ⟨k, hk, hchosen⟩ := (ih m hm (h.child hm)).1 hblank
        exact ⟨k, ⟨m, hm, hk⟩, hchosen⟩
      · rintro ⟨k, ⟨m, hm, hk⟩, hchosen⟩
        exact ⟨m, hm, (ih m hm (h.child hm)).2 ⟨k, hk, hchosen⟩⟩
    rw [hasBlankTarget_eq_children sel h.ordered, postorder_eq, hbelow]
    simp only [List.mem_append, List.mem_singleton, or_and_right, exists_or, exists_eq_left]

/-! ## What is named -/

/-- A node names a template literally: its target is a literal, whose value is not the one that
stands for no template. -/
def Names (n : Node) (d : Datum) : Prop :=
  ∃ (t : Node) (f : Field), n.field? "template" = some (.node t) ∧ t.kind = .const ∧
    t.field? "value" = some f ∧ f.toDatum = d ∧ d ≠ .text noTarget

theorem isTarget_iff (d : Datum) : isTarget d = true ↔ d ≠ .text noTarget := by
  cases d <;> simp [isTarget]

theorem literal?_eq_some_iff {f : Field} {d : Datum} :
    literal? f = some d ↔
      ∃ t v, f = .node t ∧ t.kind = .const ∧ t.field? "value" = some v ∧ v.toDatum = d := by
  cases f with
  | node t =>
    rw [literal?]
    split
    · rename_i hkind
      simp [beq_iff_eq.1 hkind]
    · rename_i hkind
      have hne : t.kind ≠ .const := fun heq => hkind (beq_iff_eq.2 heq)
      simp [hne]
  | _ => simp [literal?]

theorem target?_eq_some_iff {n : Node} {d : Datum} : n.target? = some d ↔ n.Names d := by
  unfold target? Names
  cases hf : n.field? "template" with
  | none => simp
  | some f =>
    simp only [Option.filter_eq_some_iff, literal?_eq_some_iff, isTarget_iff]
    constructor
    · rintro ⟨⟨t, v, rfl, hkind, hvalue, hd⟩, hne⟩
      exact ⟨t, v, rfl, hkind, hvalue, hd, hne⟩
    · rintro ⟨t, v, ht, hkind, hvalue, hd, hne⟩
      exact ⟨⟨t, v, Option.some.inj ht, hkind, hvalue, hd⟩, hne⟩

theorem pick_eq_some_iff {sel : Selector} {n : Node} {d : Datum} :
    n.pick sel = some d ↔ sel.takes n.kind = true ∧ n.Names d := by
  rw [pick, ← target?_eq_some_iff]
  split <;> simp [*]

/-- The kinds of nodes that refer to another template. -/
def referenceKinds : List Kind :=
  [.inclusion, .moduleImport, .nameImport, .parent]

/-- Only nodes of these kinds have a target. -/
theorem Ordered.kind_mem_referenceKinds {n : Node} (h : n.Ordered) {f : Field}
    (hf : n.field? "template" = some f) : n.kind ∈ referenceKinds := by
  obtain ⟨l₁, l₂, hfields, -⟩ := List.lookup_eq_some_iff.1 hf
  have hmem : "template" ∈ n.kind.fields := by
    refine h.subset ?_
    simp [hfields]
  revert hmem
  cases n.kind <;> decide

theorem pick_every (n : Node) : n.pick .every = n.target? := rfl

theorem pick_kind (k : Kind) (n : Node) :
    n.pick (.kind k) = if n.kind = k then n.target? else none := by
  rw [pick, Selector.takes]
  exact if_congr (by rw [beq_iff_eq, eq_comm]) rfl rfl

theorem takes_of_mem_referenceKinds {k : Kind} (h : k ∈ referenceKinds) :
    (Selector.family .statement).takes k = true := by
  revert h
  cases k <;> decide

/-- Statements are all that has a target. -/
theorem Ordered.pick_statement {n : Node} (h : n.Ordered) :
    n.pick (.family .statement) = n.pick .every := by
  cases hf : n.field? "template" with
  | none => simp [pick, target?, hf]
  | some f =>
    have htakes := takes_of_mem_referenceKinds (h.kind_mem_referenceKinds hf)
    rw [pick_every, pick, if_pos htakes]

theorem collect_statement {n : Node} (h : n.Proper) :
    collect (.family .statement) n = collect .every n := by
  rw [collect_eq_postorder _ n h, collect_eq_postorder _ n h]
  exact List.filterMap_congr fun m hm => (h m hm).pick_statement

theorem hasBlankTarget_statement {n : Node} (h : n.Proper) :
    hasBlankTarget (.family .statement) n = hasBlankTarget .every n := by
  rw [Bool.eq_iff_iff, hasBlankTarget_iff _ n h, hasBlankTarget_iff _ n h]
  refine exists_congr fun m => and_congr_right fun hm => and_congr_left fun ⟨_, hf, _⟩ => ?_
  exact iff_of_true (takes_of_mem_referenceKinds ((h m hm).kind_mem_referenceKinds hf)) rfl

theorem walk_of_blank {sel : Selector} {n : Node} (h : n.Proper)
    (hblank : ∃ m ∈ n.postorder, sel.takes m.kind = true ∧ m.Blank) :
    walk sel n = .error (.unset .const "value") := by
  rw [walk, if_pos ((hasBlankTarget_iff sel n h).2 hblank)]

theorem walk_of_not_blank {sel : Selector} {n : Node} (h : n.Proper)
    (hblank : ¬ ∃ m ∈ n.postorder, sel.takes m.kind = true ∧ m.Blank) :
    walk sel n = .ok (n.postorder.filterMap (pick sel)) := by
  rw [walk, if_neg fun htrue => hblank ((hasBlankTarget_iff sel n h).1 htrue),
    collect_eq_postorder sel n h]

/-- What is found, each with the kind of the node that names it. -/
def tagged (n : Node) : List (Kind × Datum) :=
  n.postorder.filterMap fun m => m.target?.map (m.kind, ·)

theorem map_tagged (n : Node) : n.tagged.map (·.2) = n.postorder.filterMap (pick .every) := by
  rw [tagged, List.map_filterMap]
  refine List.filterMap_congr fun m _ => ?_
  rw [Option.map_map, pick_every]
  exact congrFun Option.map_id _

theorem filter_tagged (n : Node) (k : Kind) :
    (n.tagged.filter (·.1 = k)).map (·.2) = n.postorder.filterMap (pick (.kind k)) := by
  rw [tagged, List.filter_filterMap, List.map_filterMap]
  refine List.filterMap_congr fun m _ => ?_
  rw [pick_kind]
  cases m.target? with
  | none => simp
  | some d => by_cases hk : m.kind = k <;> simp [hk]

/-- A search visits all nodes of a tree, each behind those below it, and finds the literal targets of
the chosen ones, unless one of these targets has no value. Searching all statements is searching all
nodes, and what is found is that of the four kinds of references, interleaved. -/
theorem walk_postorder (n : Node) (h : n.Proper) :
    (∀ sel, (∃ m ∈ n.postorder, sel.takes m.kind = true ∧ m.Blank) →
      walk sel n = .error (.unset .const "value")) ∧
    (∀ sel, (¬ ∃ m ∈ n.postorder, sel.takes m.kind = true ∧ m.Blank) →
      walk sel n = .ok (n.postorder.filterMap (pick sel))) ∧
    (∀ (sel : Selector) (m : Node) (d : Datum), m.pick sel = some d ↔ sel.takes m.kind = true ∧ m.Names d) ∧
    walk (.family .statement) n = walk .every n ∧
    ((¬ ∃ m ∈ n.postorder, m.Blank) → ∃ found : List (Kind × Datum),
      walk (.family .statement) n = .ok (found.map (·.2)) ∧
      (∀ p ∈ found, p.1 ∈ referenceKinds) ∧
      ∀ k ∈ referenceKinds, walk (.kind k) n = .ok ((found.filter (·.1 = k)).map (·.2))) := by
  have hstatement : walk (.family .statement) n = walk .every n := by
    rw [walk, walk, hasBlankTarget_statement h, collect_statement h]
  refine ⟨fun _ => walk_of_blank h, fun _ => walk_of_not_blank h,
    fun _ _ _ => pick_eq_some_iff, hstatement, fun hblank => ⟨n.tagged, ?_, ?_, ?_⟩⟩
  · rw [hstatement, walk_of_not_blank h fun ⟨m, hm, _, hb⟩ => hblank ⟨m, hm, hb⟩, map_tagged]
  · intro p hp
    obtain ⟨m, hm, heq⟩ := List.mem_filterMap.1 hp
    obtain ⟨d, hd, rfl⟩ := Option.map_eq_some_iff.1 heq
    -- only the kinds of references have a target among their fields
    obtain ⟨_, _, hf, _⟩ := target?_eq_some_iff.1 hd
    exact (h m hm).kind_mem_referenceKinds hf
  · intro k _
    rw [walk_of_not_blank h fun ⟨m, hm, _, hb⟩ => hblank ⟨m, hm, hb⟩, filter_tagged]

/-- An output of two inclusions, the first of which names no template. -/
theorem walk_postorder_inclusions :
    let literal (s : String) : Node := .mk .const [("value", .datum (.text s))] []
    let inclusion (s : String) : Node := .mk .inclusion [("template", .node (literal s))] []
    let tree : Node := .mk .template [("body", .list [.node (inclusion "not_used"),
      .datum .null, .node (inclusion "card")])] []
    tree.Proper ∧ walk (.kind .inclusion) tree = .ok [.text "card"] := by
  intro literal inclusion tree
  have hliteral (s : String) : (literal s).postorder = [literal s] := by
    rw [postorder_eq]
    rfl
  have hinclusion (s : String) : (inclusion s).postorder = [literal s, inclusion s] := by
    rw [postorder_eq]
    change [literal s].flatMap postorder ++ _ = _
    rw [List.flatMap_singleton, hliteral]
    rfl
  have htree : tree.postorder = [literal "not_used", inclusion "not_used", literal "card",
      inclusion "card", tree] := by
    rw [postorder_eq]
    change [inclusion "not_used", inclusion "card"].flatMap postorder ++ _ = _
    rw [List.flatMap_cons, List.flatMap_singleton, hinclusion, hinclusion]
    rfl
  have hproper : tree.Proper := by
    have hone (s : String) : (literal s).Ordered ∧ (inclusion s).Ordered :=
      ⟨List.Sublist.refl _, (List.nil_sublist _).cons_cons _⟩
    rw [Proper, htree]
    simp only [List.forall_mem_cons]
    exact ⟨(hone _).1, (hone _).2, (hone _).1, (hone _).2, List.Sublist.refl _, nofun⟩
  obtain ⟨-, hfound, -⟩ := walk_postorder tree hproper
  refine ⟨hproper, (hfound (.kind .inclusion) ?_).trans ?_⟩
  · rw [htree]
    rintro ⟨m, hm, -, t, ht, -, hvalue⟩
    -- both targets have a value
    simp only [List.mem_cons, List.not_mem_nil, or_false] at hm
    obtain rfl | rfl | rfl | rfl | rfl := hm <;> cases ht <;> cases hvalue
  · rw [htree]
    rfl

/-- An inclusion of a literal without a value: nothing is found, for the search fails. -/
theorem walk_unsetLiteral :
    let tree : Node := .mk .inclusion [("template", .node (.mk .const [] []))] []
    tree.Proper ∧ ∀ found, walk (.kind .inclusion) tree ≠ .ok found := by
  intro tree
  have htree : tree.postorder = [.mk .const [] [], tree] := by
    rw [postorder_eq]
    change [Node.mk .const [] []].flatMap postorder ++ _ = _
    rw [List.flatMap_singleton, postorder_eq]
    rfl
  have hproper : tree.Proper := by
    rw [Proper, htree]
    simp only [List.forall_mem_cons]
    exact ⟨List.nil_sublist _, (List.nil_sublist _).cons_cons _, nofun⟩
  refine ⟨hproper, fun found heq => ?_⟩
  cases heq

end Node

end Stencil
