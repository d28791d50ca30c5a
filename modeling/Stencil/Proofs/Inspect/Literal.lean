import Stencil.Inspect.Linked

/-!
# Templates that name others literally

Inspection finds the templates that a source names literally. In a source that names all templates
literally, and stands its `extends` where inspection looks for them, nothing else can be asked for:
the inclusions of the host are found, and of the host and of each embedded template the first
`extends`.

## Key results

- `allWithin_detachList`: the inclusions that remain in a host are those that inspection finds
- `rootWithin_detachList`: the first `extends` of a body is the one that inspection finds
- `linked_within`: what inspection finds is all that a host and its embeds can ask for
-/

namespace Stencil

/-- Whether an expression is the literal name of a template that inspection follows. -/
def Expr.namesTemplate : Expr → Bool
  | .const _ (.text s) => s != noTarget && !Text.startsWith s.toList Embed.keyStart.toList
  | _ => false

namespace Stmt

mutual

/-- Whether a statement inside a template names all templates literally. Nothing is imported, an
`extends` stands directly in the body of a template or embed, and inclusions may be ruled out, as
they are in the bodies of embeds. -/
def isLiteral (inclusions : Bool) : Stmt → Bool
  | .extend _ _ => false
  | .inclusion _ e _ _ => inclusions && e.namesTemplate
  | .importModule _ _ _ _ => false
  | .importNames _ _ _ _ => false
  | .embed _ parent body => parent.namesTemplate && isLiteralBody false body
  | .loop _ _ _ body orElse _ _ => areLiteral inclusions body && areLiteral inclusions orElse
  | .branch _ _ body elifs orElse =>
    areLiteral inclusions body && areLiteral inclusions elifs && areLiteral inclusions orElse
  | .macroDef _ _ _ _ body => areLiteral inclusions body
  | .callBlock _ _ _ _ _ _ body => areLiteral inclusions body
  | .filterBlock _ _ body => areLiteral inclusions body
  | .withBlock _ _ body => areLiteral inclusions body
  | .block _ _ body _ _ => areLiteral inclusions body
  | .assignBlock _ _ _ body => areLiteral inclusions body
  | .autoescape _ _ body => areLiteral inclusions body
  | _ => true

/-- Whether all statements inside a template are literal. -/
def areLiteral (inclusions : Bool) : List Stmt → Bool
  | [] => true
  | s :: ss => isLiteral inclusions s && areLiteral inclusions ss

/-- Whether the body of a template or embed is literal, in which an `extends` may stand. -/
def isLiteralBody (inclusions : Bool) : List Stmt → Bool
  | [] => true
  | .extend _ e :: ss => e.namesTemplate && isLiteralBody inclusions ss
  | s :: ss => isLiteral inclusions s && isLiteralBody inclusions ss

end

mutual

/-- Statements that include templates of a set only, and neither extend nor import one. -/
def Within (R : String → Prop) : Stmt → Prop
  | .extend _ _ => False
  | .inclusion _ e _ _ => ∃ l s, e = .const l (.text s) ∧ R s
  | .importModule _ _ _ _ => False
  | .importNames _ _ _ _ => False
  | .embed _ _ _ => False
  | .loop _ _ _ body orElse _ _ => AllWithin R body ∧ AllWithin R orElse
  | .branch _ _ body elifs orElse => AllWithin R body ∧ AllWithin R elifs ∧ AllWithin R orElse
  | .macroDef _ _ _ _ body => AllWithin R body
  | .callBlock _ _ _ _ _ _ body => AllWithin R body
  | .filterBlock _ _ body => AllWithin R body
  | .withBlock _ _ body => AllWithin R body
  | .block _ _ body _ _ => AllWithin R body
  | .assignBlock _ _ _ body => AllWithin R body
  | .autoescape _ _ body => AllWithin R body
  | _ => True

def AllWithin (R : String → Prop) : List Stmt → Prop
  | [] => True
  | s :: ss => Within R s ∧ AllWithin R ss

end

/-- The body of a template that asks for templates of a set only, as far as it comes: a second
`extends` fails before it asks for a template. -/
inductive RootWithin (R : String → Prop) : List Stmt → Prop
  | plain {ss : List Stmt} (h : AllWithin R ss) : RootWithin R ss
  | extending (pre : List Stmt) {post : List Stmt} (l el : Nat) {s : String}
      (hpre : AllWithin R pre) (hs : R s)
      (hpost : ∀ t ∈ post, t.Within R ∨ ∃ l e, t = .extend l e) :
      RootWithin R (pre ++ .extend l (.const el (.text s)) :: post)

/-! ## Inclusions -/

/-- All texts among the given values belong to a set. -/
def Listed (R : String → Prop) (ds : List Datum) : Prop :=
  ∀ s, Datum.text s ∈ ds → R s

theorem Listed.left {R : String → Prop} {ds es : List Datum} (h : Listed R (ds ++ es)) :
    Listed R ds :=
  fun s hs => h s (List.mem_append_left _ hs)

theorem Listed.right {R : String → Prop} {ds es : List Datum} (h : Listed R (ds ++ es)) :
    Listed R es :=
  fun s hs => h s (List.mem_append_right _ hs)

/-- The inclusions that inspection finds in statements. -/
abbrev inclusionsOf (ss : List Stmt) : List Datum :=
  Node.collectItems (.kind .inclusion) (outlineList ss)

theorem exists_of_namesTemplate {e : Expr} (h : e.namesTemplate = true) :
    ∃ l s, e = .const l (.text s) ∧ s ≠ noTarget ∧
      Text.startsWith s.toList Embed.keyStart.toList = false := by
  unfold Expr.namesTemplate at h
  split at h
  · rw [Bool.and_eq_true, bne_iff_ne, Bool.not_eq_true'] at h
    exact ⟨_, _, rfl, h⟩
  · exact nomatch h

theorem mem_collectFields {sel : Selector} {fields : List (String × Field)} {name : String}
    {f : Field} (hf : (name, f) ∈ fields) {d : Datum} (hd : d ∈ Node.collectField sel f) :
    d ∈ Node.collectFields sel fields := by
  induction fields with
  | nil => exact nomatch hf
  | cons g gs ih =>
    obtain ⟨n, g⟩ := g
    rw [Node.collectFields]
    obtain heq | hmem := List.mem_cons.1 hf
    · cases heq
      exact List.mem_append_left _ hd
    · exact List.mem_append_right _ (ih hmem)

/-- What is found in a list below a node is found in the node. -/
theorem Listed.field {R : String → Prop} {sel : Selector} {kind : Kind}
    {fields : List (String × Field)} {embedded : List Node}
    (h : Listed R (Node.collect sel (.mk kind fields embedded))) (name : String)
    {items : List Field} (hf : (name, .list items) ∈ fields) :
    Listed R (Node.collectItems sel items) := by
  intro s hs
  refine h s ?_
  rw [Node.collect]
  exact List.mem_append_left _ (mem_collectFields hf hs)

/-- The literal target of an inclusion is found. -/
theorem Listed.inclusion {R : String → Prop} {l el : Nat} {s : String} {c m : Bool}
    (hs : s ≠ noTarget)
    (h : Listed R (Node.collect (.kind .inclusion)
      (outline (.inclusion l (.const el (.text s)) c m)))) : R s := by
  refine h s ?_
  have htarget : Node.target? (outline (.inclusion l (.const el (.text s)) c m)) =
      some (.text s) := by
    change (some (Datum.text s)).filter Node.isTarget = _
    rw [Option.filter_some, if_pos]
    exact bne_iff_ne.2 hs
  have hcollect : Node.collect (.kind .inclusion) (outline (.inclusion l (.const el (.text s)) c m)) =
      Node.collectFields (.kind .inclusion) (Kind.inclusion.fields.zip
        [.node (Expr.outline (.const el (.text s))), Outline.flag c, Outline.flag m]) ++
      (Node.target? (outline (.inclusion l (.const el (.text s)) c m))).toList := by
    rw [outline, Outline.node, Node.collect]
    rfl
  rw [hcollect, htarget]
  exact List.mem_append_right _ (List.mem_singleton.2 rfl)

section Detach

variable {R : String → Prop} (host : Option String)

mutual

/-- A statement without embeds includes what inspection finds in it. -/
theorem within_detach (inclusions : Bool) : (s : Stmt) → s.isLiteral inclusions = true →
    (inclusions = true → Listed R (Node.collect (.kind .inclusion) (s.detach host).1.outline)) →
    (s.detach host).1.Within R
  | .output _ _, _, _ | .exprStmt _ _, _, _ | .assign _ _ _, _, _ | .continueLoop _, _, _
  | .breakLoop _, _, _ | .embedded _ _, _, _ | .embed _ _ _, _, _ => by
    simp only [detach, Within]
  | .extend _ _, h, _ | .importModule _ _ _ _, h, _ | .importNames _ _ _ _, h, _ => by
    simp only [isLiteral, Bool.false_eq_true] at h
  | .inclusion l e c m, h, hR => by
    simp only [isLiteral, Bool.and_eq_true] at h
    obtain ⟨el, s, rfl, hs, -⟩ := exists_of_namesTemplate h.2
    simp only [detach, Within]
    exact ⟨el, s, rfl, Listed.inclusion hs (hR h.1)⟩
  | .loop l t i body orElse test recursive, h, hR => by
    simp only [isLiteral, Bool.and_eq_true] at h
    simp only [detach] at hR ⊢
    rw [outline] at hR
    simp only [Within]
    refine ⟨allWithin_detachList inclusions body h.1 fun hi => ?_,
      allWithin_detachList inclusions orElse h.2 fun hi => ?_⟩
    · exact (hR hi).field "body" (by simp [Kind.fields])
    · exact (hR hi).field "else_" (by simp [Kind.fields])
  | .branch l test body elifs orElse, h, hR => by
    simp only [isLiteral, Bool.and_eq_true] at h
    simp only [detach] at hR ⊢
    rw [outline] at hR
    simp only [Within]
    refine ⟨allWithin_detachList inclusions body h.1.1 fun hi => ?_,
      allWithin_detachList inclusions elifs h.1.2 fun hi => ?_,
      allWithin_detachList inclusions orElse h.2 fun hi => ?_⟩
    · exact (hR hi).field "body" (by simp [Kind.fields])
    · exact (hR hi).field "elif_" (by simp [Kind.fields])
    · exact (hR hi).field "else_" (by simp [Kind.fields])
  | .macroDef _ _ _ _ body, h, hR | .callBlock _ _ _ _ _ _ body, h, hR
  | .filterBlock _ _ body, h, hR | .withBlock _ _ body, h, hR | .block _ _ body _ _, h, hR
  | .assignBlock _ _ _ body, h, hR => by
    simp only [isLiteral] at h
    simp only [detach] at hR ⊢
    rw [outline] at hR
    simp only [Within]
    refine allWithin_detachList inclusions body h fun hi => ?_
    exact (hR hi).field "body" (by simp [Kind.fields])
  | .autoescape l v body, h, hR => by
    simp only [isLiteral] at h
    simp only [detach] at hR ⊢
    rw [outline] at hR
    simp only [Within]
    refine allWithin_detachList inclusions body h fun hi => ?_
    have hscope := (hR hi).field "body" (List.mem_singleton.2 rfl)
    exact Listed.field (Listed.left hscope) "body" (by simp [Kind.fields])

theorem allWithin_detachList (inclusions : Bool) : (ss : List Stmt) →
    areLiteral inclusions ss = true →
    (inclusions = true → Listed R (inclusionsOf (detachList host ss).1)) →
    AllWithin R (detachList host ss).1
  | [], _, _ => by simp only [detachList, AllWithin]
  | s :: ss, h, hR => by
    simp only [areLiteral, Bool.and_eq_true] at h
    simp only [detachList, AllWithin]
    exact ⟨within_detach inclusions s h.1 fun hi => (hR hi).left,
      allWithin_detachList inclusions ss h.2 fun hi => (hR hi).right⟩

end

/-! ## Parents -/

/-- Anything but an `extends` is passed over in the search for a parent. -/
theorem parents_cons {s : Stmt} (hs : s.outline.kind ≠ .parent) (l : Nat) (ss : List Stmt)
    (es : List Node) :
    (Template.outline ⟨l, s :: ss⟩ es).parents = (Template.outline ⟨l, ss⟩ es).parents := by
  have hfirst : Node.firstParent? (outlineList (s :: ss)) = Node.firstParent? (outlineList ss) := by
    rw [outlineList, Node.firstParent?, if_neg]
    exact fun h => hs (beq_iff_eq.1 h)
  have hitems (ss : List Stmt) :
      (Template.outline ⟨l, ss⟩ es).bodyItems = .ok (outlineList ss) := rfl
  unfold Node.parents
  rw [hitems, hitems]
  simp only [bind, Except.bind, hfirst]
  rfl

/-- The first `extends` that names a template literally is the parent. -/
theorem parents_extend (l el : Nat) (s : String) (ln : Nat) (ss : List Stmt) (es : List Node) :
    (Template.outline ⟨ln, .extend l (.const el (.text s)) :: ss⟩ es).parents = .ok [.text s] :=
  rfl

/-- Only an `extends` is shown as one. -/
theorem kind_detach_ne_parent {inclusions : Bool} {s : Stmt} (h : s.isLiteral inclusions = true) :
    (s.detach host).1.outline.kind ≠ .parent := by
  cases s with
  | extend l e => simp only [isLiteral, Bool.false_eq_true] at h
  | _ => exact nofun

theorem RootWithin.cons {s : Stmt} (hs : s.Within R) {ss : List Stmt} (h : RootWithin R ss) :
    RootWithin R (s :: ss) := by
  cases h with
  | plain h => exact .plain ⟨hs, h⟩
  | extending pre l el hpre hn hpost => exact .extending (s :: pre) l el ⟨hs, hpre⟩ hn hpost

theorem isLiteralBody_tail {inclusions : Bool} {s : Stmt} {ss : List Stmt}
    (h : isLiteralBody inclusions (s :: ss) = true) : isLiteralBody inclusions ss = true := by
  cases s with
  | extend l e => exact (Bool.and_eq_true_iff.1 h).2
  | _ => exact (Bool.and_eq_true_iff.1 h).2

/-- What a body holds behind its first `extends`. -/
theorem within_or_extend (inclusions : Bool) (ss : List Stmt)
    (h : isLiteralBody inclusions ss = true)
    (hR : inclusions = true → Listed R (inclusionsOf (detachList host ss).1)) :
    ∀ t ∈ (detachList host ss).1, t.Within R ∨ ∃ l e, t = .extend l e := by
  induction ss with
  | nil => exact fun _ ht => nomatch ht
  | cons s ss ih =>
    have hrest := ih (isLiteralBody_tail h) fun hi => (hR hi).right
    intro t ht
    simp only [detachList, List.mem_cons] at ht
    obtain rfl | ht := ht
    · cases s with
      | extend l e => exact .inr ⟨l, e, rfl⟩
      | _ =>
        simp only [isLiteralBody, Bool.and_eq_true] at h
        exact .inl (within_detach host inclusions _ h.1 fun hi => (hR hi).left)
    · exact hrest t ht

/-- The body of a template or embed asks for its parent and for what inspection finds included. -/
theorem rootWithin_detachList (inclusions : Bool) (ss : List Stmt)
    (h : isLiteralBody inclusions ss = true)
    (hR : inclusions = true → Listed R (inclusionsOf (detachList host ss).1)) (l : Nat)
    (es : List Node) :
    ∃ ds, (Template.outline ⟨l, (detachList host ss).1⟩ es).parents = .ok ds ∧
      (Listed R ds → RootWithin R (detachList host ss).1) := by
  induction ss with
  | nil => exact ⟨[], rfl, fun _ => .plain trivial⟩
  | cons s ss ih =>
    by_cases hs : ∃ l e, s = .extend l e
    · obtain ⟨l', e, rfl⟩ := hs
      simp only [isLiteralBody, Bool.and_eq_true] at h
      obtain ⟨el, n, rfl, -, -⟩ := exists_of_namesTemplate h.1
      refine ⟨[.text n], parents_extend l' el n l _ es, fun hds => ?_⟩
      refine .extending [] l' el trivial (hds n (List.mem_singleton.2 rfl)) ?_
      exact within_or_extend host inclusions ss h.2 fun hi => (hR hi).right
    · have hsplit : s.isLiteral inclusions = true ∧ isLiteralBody inclusions ss = true := by
        cases s with
        | extend l e => exact absurd ⟨l, e, rfl⟩ hs
        | _ => simpa only [isLiteralBody, Bool.and_eq_true] using h
      obtain ⟨ds, hds, hroot⟩ := ih hsplit.2 fun hi => (hR hi).right
      refine ⟨ds, ?_, fun hlisted => RootWithin.cons ?_ (hroot hlisted)⟩
      · exact (parents_cons (kind_detach_ne_parent host hsplit.1) l _ es).trans hds
      · exact within_detach host inclusions s hsplit.1 fun hi => (hR hi).left

/-- A template that inspection finds embedded asks for the parent that inspection finds. -/
def EmbedWithin (R : String → Prop) (e : Embedded) : Prop :=
  ∃ ds, (e.template.outline []).parents = .ok ds ∧ (Listed R ds → RootWithin R e.template.body)

mutual

theorem embedWithin_detach (inclusions : Bool) : (s : Stmt) → s.isLiteral inclusions = true →
    ∀ e ∈ (s.detach host).2, EmbedWithin R e
  | .output _ _, _ | .exprStmt _ _, _ | .assign _ _ _, _ | .continueLoop _, _ | .breakLoop _, _
  | .embedded _ _, _ | .inclusion _ _ _ _, _ => by
    simp only [detach]
    exact fun _ he => nomatch he
  | .extend _ _, h | .importModule _ _ _ _, h | .importNames _ _ _ _, h => by
    simp only [isLiteral, Bool.false_eq_true] at h
  | .loop l t i body orElse test recursive, h => by
    simp only [isLiteral, Bool.and_eq_true] at h
    simp only [detach, List.mem_append]
    rintro e (he | he)
    · exact embedWithin_detachList inclusions body h.1 e he
    · exact embedWithin_detachList inclusions orElse h.2 e he
  | .branch l test body elifs orElse, h => by
    simp only [isLiteral, Bool.and_eq_true] at h
    simp only [detach, List.mem_append]
    rintro e ((he | he) | he)
    · exact embedWithin_detachList inclusions body h.1.1 e he
    · exact embedWithin_detachList inclusions elifs h.1.2 e he
    · exact embedWithin_detachList inclusions orElse h.2 e he
  | .macroDef _ _ _ _ body, h | .callBlock _ _ _ _ _ _ body, h | .filterBlock _ _ body, h
  | .withBlock _ _ body, h | .block _ _ body _ _, h | .assignBlock _ _ _ body, h
  | .autoescape _ _ body, h => by
    simp only [isLiteral] at h
    simp only [detach]
    exact embedWithin_detachList inclusions body h
  | .embed l parent body, h => by
    simp only [isLiteral, Bool.and_eq_true] at h
    obtain ⟨el, n, rfl, -, -⟩ := exists_of_namesTemplate h.1
    simp only [detach, List.mem_append, List.mem_singleton]
    rintro e (he | rfl)
    · exact embedWithin_detachBody false body h.2 e he
    · refine ⟨[.text n], rfl, fun hds => ?_⟩
      refine .extending [] l el trivial (hds n (List.mem_singleton.2 rfl)) ?_
      exact within_or_extend host false body h.2 fun hi => nomatch hi

theorem embedWithin_detachList (inclusions : Bool) : (ss : List Stmt) →
    areLiteral inclusions ss = true → ∀ e ∈ (detachList host ss).2, EmbedWithin R e
  | [], _ => fun _ he => nomatch he
  | s :: ss, h => by
    simp only [areLiteral, Bool.and_eq_true] at h
    simp only [detachList, List.mem_append]
    rintro e (he | he)
    · exact embedWithin_detach inclusions s h.1 e he
    · exact embedWithin_detachList inclusions ss h.2 e he

theorem embedWithin_detachBody (inclusions : Bool) : (ss : List Stmt) →
    isLiteralBody inclusions ss = true → ∀ e ∈ (detachList host ss).2, EmbedWithin R e
  | [], _ => fun _ he => nomatch he
  | s :: ss, h => by
    simp only [detachList, List.mem_append]
    rintro e (he | he)
    · cases s with
      | extend _ _ => exact nomatch he
      | _ =>
        simp only [isLiteralBody, Bool.and_eq_true] at h
        exact embedWithin_detach inclusions _ h.1 e he
    · exact embedWithin_detachBody inclusions ss (isLiteralBody_tail h) e he

end

end Detach

end Stmt

/-! ## Sources -/

open Stmt

theorem embedParents_within {R : String → Prop} {es : List Embedded}
    (h : ∀ e ∈ es, EmbedWithin R e) :
    ∃ dss, (es.map fun e => e.template.outline []).mapM Node.parents = .ok dss ∧
      (Listed R dss.flatten → ∀ e ∈ es, RootWithin R e.template.body) := by
  induction es with
  | nil => exact ⟨[], rfl, fun _ _ he => nomatch he⟩
  | cons e es ih =>
    obtain ⟨ds, hds, he⟩ := h e List.mem_cons_self
    obtain ⟨dss, hdss, hes⟩ := ih fun e' he' => h e' (List.mem_cons_of_mem _ he')
    refine ⟨ds :: dss, ?_, fun hlisted => ?_⟩
    · rw [List.map_cons, List.mapM_cons, hds, hdss]
      rfl
    · rw [List.flatten_cons] at hlisted
      refine List.forall_mem_cons.2 ⟨he hlisted.left, hes hlisted.right⟩

/-- The references of a parsed template: its inclusions, the parents of its embeds, and its own. -/
theorem linked_eq {p : Parsed} {dss : List (List Datum)} {ds : List Datum}
    (hdss : (p.embeds.map fun e => e.template.outline []).mapM Node.parents = .ok dss)
    (hds : p.outline.parents = .ok ds) :
    p.outline.linked = .ok (Node.collect (.kind .inclusion) p.outline ++ dss.flatten ++ ds) := by
  have hembeds : p.outline.embedParents = .ok dss.flatten := by
    rw [Node.embedParents]
    change (do return (← List.mapM Node.parents (p.embeds.map fun e : Embedded =>
      e.template.outline [])).flatten) = _
    rw [hdss]
    rfl
  rw [Node.linked, hembeds, hds]
  rfl

/-- What inspection finds in a literal source is all that its template, and the templates embedded in
it, can ask for. -/
theorem linked_within {R : String → Prop} {lang : Language} {name : Option String} {code : String}
    {t : Template} (ht : lang.parseTree code = .ok t) (hlit : isLiteralBody true t.body = true)
    {ds : List Datum} (hds : lang.linked true name code = .ok ds) (hR : Listed R ds) :
    RootWithin R (t.detach name).template.body ∧
      ∀ e ∈ (t.detach name).embeds, RootWithin R e.template.body := by
  have hparse : lang.parse name code = .ok (t.detach name) := by
    rw [Language.parse, ht]
    rfl
  have hlinked : ds = (t.detach name).outline.linked.toOption.getD [] := by
    rw [Language.linked, Language.outline, hparse] at hds
    exact (Except.ok.inj hds).symm
  obtain ⟨dss, hdss, hembeds⟩ := embedParents_within
    (embedWithin_detachBody (R := R) name true t.body hlit)
  -- that there is a list of parents does not depend on where the inclusions lead
  obtain ⟨ps, hps, -⟩ := rootWithin_detachList (R := fun _ => True) name true t.body hlit
    (fun _ _ _ => trivial) t.line ((t.detach name).embeds.map fun e => e.template.outline [])
  rw [linked_eq (p := t.detach name) hdss hps] at hlinked
  subst hlinked
  have hinclusions : Listed R (inclusionsOf (detachList name t.body).1) :=
    hR.left.left.field "body" (List.mem_singleton.2 rfl)
  obtain ⟨ps', hps', hroot⟩ := rootWithin_detachList name true t.body hlit (fun _ => hinclusions)
    t.line ((t.detach name).embeds.map fun e => e.template.outline [])
  cases Except.ok.inj (hps.symm.trans hps')
  exact ⟨hroot hR.right, hembeds hR.left.right⟩

end Stencil
