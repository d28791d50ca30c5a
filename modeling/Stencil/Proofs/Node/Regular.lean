import Stencil.Proofs.Node.Shape

/-!
# Trees that their written form tells apart

The written form of a tree leaves out the names of fields, and does not tell a list of nodes from a
list that is a literal. In a regular tree both are clear from the kinds of its nodes: every node has
exactly the fields of its kind, in their order, and only the nodes of literals hold values other
than words, numbers and texts. So two regular trees with the same written form are the same node for
node, as long as their numbers are told apart by their texts.

## Key results

- `Datum.eq_of_shape_eq`: a value is known by its literal
- `Node.eq_of_dump_eq`: regular trees with the same written form are the same
-/

namespace Stencil

/-! ## The numbers in a tree -/

mutual

/-- The floating point numbers in a value. -/
def Datum.floats : Datum → List Binary64
  | .float x => [x]
  | .list items => floatsAll items
  | .object fields => floatsNamed fields
  | _ => []

def Datum.floatsAll : List Datum → List Binary64
  | [] => []
  | d :: ds => d.floats ++ floatsAll ds

def Datum.floatsNamed : List (String × Datum) → List Binary64
  | [] => []
  | (_, d) :: ds => d.floats ++ floatsNamed ds

end

mutual

/-- The floating point numbers in a tree. -/
def Node.floats : Node → List Binary64
  | .mk _ fields _ => Field.floatsNamed fields

def Field.floatsNamed : List (String × Field) → List Binary64
  | [] => []
  | (_, f) :: fs => f.floats ++ Field.floatsNamed fs

def Field.floats : Field → List Binary64
  | .node n => n.floats
  | .list items => Field.floatsAll items
  | .tuple items => Field.floatsAll items
  | .datum d => d.floats

def Field.floatsAll : List Field → List Binary64
  | [] => []
  | f :: fs => f.floats ++ Field.floatsAll fs

end

/-- The texts of the numbers in the one list tell them from those in the other. -/
def Binary64.Told (xs ys : List Binary64) : Prop :=
  ∀ x ∈ xs, ∀ y ∈ ys, x.text = y.text → x = y

namespace Binary64.Told

variable {xs xs' ys ys' : List Binary64}

theorem left (h : Told (xs ++ xs') (ys ++ ys')) : Told xs ys :=
  fun x hx y hy => h x (List.mem_append_left _ hx) y (List.mem_append_left _ hy)

theorem right (h : Told (xs ++ xs') (ys ++ ys')) : Told xs' ys' :=
  fun x hx y hy => h x (List.mem_append_right _ hx) y (List.mem_append_right _ hy)

end Binary64.Told

/-! ## Numbers and words -/

/-- A number with a fraction or an exponent shows it, and so does one that is not finite. -/
theorem Binary64.exists_mark (x : Binary64) :
    ∃ c ∈ x.text.toList, c = '.' ∨ c = 'e' ∨ c = 'n' := by
  -- the digits are written with a point, or with an exponent
  have hpositioned (ds : List Char) (point : Int) :
      ∃ c ∈ positioned ds point, c = '.' ∨ c = 'e' ∨ c = 'n' := by
    simp only [positioned]
    split
    · refine ⟨'.', ?_, .inl rfl⟩
      split
      · simp
      split <;> simp
    · exact ⟨'e', by simp, .inr (.inl rfl)⟩
  unfold text
  split
  · exact ⟨'n', by decide, .inr (.inr rfl)⟩
  rw [String.toList_ofList]
  -- infinities have an `n`, and zero its point
  have hmagnitude : ∃ c ∈ (if x.isInfinite then ['i', 'n', 'f'] else if x.isZero then ['0', '.', '0']
      else positioned (trimZeros (Nat.toDigits 10 x.shortest.value)) x.shortest.point),
      c = '.' ∨ c = 'e' ∨ c = 'n' := by
    split
    · exact ⟨'n', by simp, .inr (.inr rfl)⟩
    split
    · exact ⟨'.', by simp, .inl rfl⟩
    · exact hpositioned _ _
  obtain ⟨c, hc, hmark⟩ := hmagnitude
  split
  · exact ⟨c, List.mem_cons_of_mem _ hc, hmark⟩
  · exact ⟨c, hc, hmark⟩

/-- An integer is not written like any other number. -/
theorem Binary64.text_ne_int (x : Binary64) (n : Int) : x.text.toList ≠ (toString n).toList := by
  intro h
  obtain ⟨c, hc, hmark⟩ := x.exists_mark
  rw [h] at hc
  obtain hdigit | rfl := Shape.isDigit_int n c hc
  · obtain rfl | rfl | rfl := hmark <;> exact nomatch hdigit
  · obtain h | h | h := hmark <;> exact absurd h (by decide)

/-- A word that starts with a capital letter is not a number. -/
theorem Shape.ne_of_isNumeral {cs : List Char} (h : ∀ c ∈ cs, isNumeral c = true) {c : Char}
    {rest : List Char} (hc : isNumeral c = false) : cs ≠ c :: rest := by
  rintro rfl
  rw [h c List.mem_cons_self] at hc
  exact nomatch hc

/-- Integers are told apart by their texts. -/
theorem Shape.int_inj {n m : Int} (h : (toString n).toList = (toString m).toList) : n = m := by
  have hnat {a b : Nat} (h : Nat.toDigits 10 a = Nat.toDigits 10 b) : a = b := by
    rw [← Nat.ofDigitChars_toDigits (b := 10) (n := a) (by decide) (by decide), h,
      Nat.ofDigitChars_toDigits (by decide) (by decide)]
  -- a sign is no digit
  have hsign {a b : Nat} : Nat.toDigits 10 a ≠ '-' :: Nat.toDigits 10 b := by
    intro h
    have hdigit := Nat.isDigit_of_mem_toDigits (n := a) (by decide) (by decide)
      (h ▸ List.mem_cons_self : '-' ∈ Nat.toDigits 10 a)
    exact nomatch hdigit
  rw [Int.toString_eq_repr, Int.toString_eq_repr, Int.repr_eq_if, Int.repr_eq_if] at h
  split at h <;> split at h <;>
    simp only [String.toList_append, Nat.toList_repr] at h
  · have := hnat h
    omega
  · exact absurd h hsign
  · exact absurd h.symm hsign
  · have := hnat (List.cons.inj h).2
    omega

/-! ## Values -/

/-- The literals that are words or numbers. -/
inductive Datum.IsWord : Datum → List Char → Prop
  | null : IsWord .null ['N', 'o', 'n', 'e']
  | yes : IsWord (.bool true) ['T', 'r', 'u', 'e']
  | no : IsWord (.bool false) ['F', 'a', 'l', 's', 'e']
  | int (n : Int) : IsWord (.int n) (toString n).toList
  | float (x : Binary64) : IsWord (.float x) x.text.toList

theorem Datum.isWord_of_shape {d : Datum} {cs : List Char} (h : d.shape = .word cs) :
    d.IsWord cs := by
  cases d with
  | null => rw [Datum.shape] at h; cases h; exact .null
  | bool b =>
    cases b with
    | true => rw [Datum.shape] at h; cases h; exact .yes
    | false => rw [Datum.shape] at h; cases h; exact .no
  | int n => rw [Datum.shape] at h; cases h; exact .int n
  | float x => rw [Datum.shape] at h; cases h; exact .float x
  | text s => rw [Datum.shape] at h; exact nomatch h
  | list items => rw [Datum.shape] at h; exact nomatch h
  | object fields => rw [Datum.shape] at h; exact nomatch h

/-- A word or number is known by its literal. -/
theorem Datum.IsWord.eq {d d' : Datum} {cs cs' : List Char} (h : d.IsWord cs) (h' : d'.IsWord cs')
    (htold : Binary64.Told d.floats d'.floats) (hcs : cs = cs') : d = d' := by
  have hint (n : Int) {c : Char} {rest : List Char} (hc : Shape.isNumeral c = false) :
      (toString n).toList ≠ c :: rest :=
    Shape.ne_of_isNumeral (Shape.isNumeral_int n) hc
  have hfloat (x : Binary64) {c : Char} {rest : List Char} (hc : Shape.isNumeral c = false) :
      x.text.toList ≠ c :: rest :=
    Shape.ne_of_isNumeral (Shape.isNumeral_float x) hc
  -- a word is told by its letters, of which a number has none at its start; numbers of the two types
  -- are told from each other by the mark that every float has
  cases h with
  | null =>
    cases h' with
    | null => rfl
    | int m => exact absurd hcs.symm (hint m rfl)
    | float y => exact absurd hcs.symm (hfloat y rfl)
    | _ => exact nomatch hcs
  | yes =>
    cases h' with
    | yes => rfl
    | int m => exact absurd hcs.symm (hint m rfl)
    | float y => exact absurd hcs.symm (hfloat y rfl)
    | _ => exact nomatch hcs
  | no =>
    cases h' with
    | no => rfl
    | int m => exact absurd hcs.symm (hint m rfl)
    | float y => exact absurd hcs.symm (hfloat y rfl)
    | _ => exact nomatch hcs
  | int n =>
    cases h' with
    | int m => rw [Shape.int_inj hcs]
    | float y => exact absurd hcs.symm (y.text_ne_int n)
    | _ => exact absurd hcs (hint n rfl)
  | float x =>
    cases h' with
    | int m => exact absurd hcs (x.text_ne_int m)
    | float y =>
      have htext : x.text = y.text := String.toList_injective hcs
      rw [Datum.floats, Datum.floats] at htold
      rw [htold x (List.mem_singleton_self x) y (List.mem_singleton_self y) htext]
    | _ => exact absurd hcs (hfloat x rfl)

mutual

/-- A value is known by its literal. -/
theorem Datum.eq_of_shape_eq : (d d' : Datum) → Binary64.Told d.floats d'.floats →
    d.shape = d'.shape → d = d'
  | .text s, d', _, h => by
    rw [Datum.shape] at h
    cases d' with
    | text s' =>
      rw [Datum.shape] at h
      rw [String.toList_injective (Shape.text.inj h)]
    | bool b => cases b <;> exact nomatch h
    | null => exact nomatch h
    | int m => exact nomatch h
    | float y => exact nomatch h
    | list items => rw [Datum.shape] at h; exact nomatch h
    | object fields => rw [Datum.shape] at h; exact nomatch h
  | .list items, d', htold, h => by
    rw [Datum.shape] at h
    cases d' with
    | list items' =>
      rw [Datum.shape] at h
      rw [Datum.floats, Datum.floats] at htold
      rw [Datum.eq_of_shapes_eq items items' htold (Shape.group.inj h).2.2]
    | bool b => cases b <;> exact nomatch h
    | object fields =>
      rw [Datum.shape] at h
      exact nomatch (Shape.group.inj h).2.1
    | null => exact nomatch h
    | int m => exact nomatch h
    | float y => exact nomatch h
    | text s => exact nomatch h
  | .object fields, d', htold, h => by
    rw [Datum.shape] at h
    cases d' with
    | object fields' =>
      rw [Datum.shape] at h
      rw [Datum.floats, Datum.floats] at htold
      rw [Datum.eq_of_entries_eq fields fields' htold (Shape.group.inj h).2.2]
    | bool b => cases b <;> exact nomatch h
    | list items =>
      rw [Datum.shape] at h
      exact nomatch (Shape.group.inj h).2.1
    | null => exact nomatch h
    | int m => exact nomatch h
    | float y => exact nomatch h
    | text s => exact nomatch h
  | .null, d', htold, h => by
    rw [Datum.shape] at h
    exact Datum.IsWord.null.eq (isWord_of_shape h.symm) htold rfl
  | .bool true, d', htold, h => by
    rw [Datum.shape] at h
    exact Datum.IsWord.yes.eq (isWord_of_shape h.symm) htold rfl
  | .bool false, d', htold, h => by
    rw [Datum.shape] at h
    exact Datum.IsWord.no.eq (isWord_of_shape h.symm) htold rfl
  | .int n, d', htold, h => by
    rw [Datum.shape] at h
    exact (Datum.IsWord.int n).eq (isWord_of_shape h.symm) htold rfl
  | .float x, d', htold, h => by
    rw [Datum.shape] at h
    exact (Datum.IsWord.float x).eq (isWord_of_shape h.symm) htold rfl

theorem Datum.eq_of_shapes_eq : (ds ds' : List Datum) →
    Binary64.Told (Datum.floatsAll ds) (Datum.floatsAll ds') → Datum.shapes ds = Datum.shapes ds' →
    ds = ds'
  | [], [], _, _ => rfl
  | [], d' :: ds', _, h => by rw [Datum.shapes, Datum.shapes] at h; exact nomatch h
  | d :: ds, [], _, h => by rw [Datum.shapes, Datum.shapes] at h; exact nomatch h
  | d :: ds, d' :: ds', htold, h => by
    rw [Datum.shapes, Datum.shapes] at h
    rw [Datum.floatsAll, Datum.floatsAll] at htold
    obtain ⟨hd, hds⟩ := List.cons.inj h
    rw [Datum.eq_of_shape_eq d d' htold.left hd, Datum.eq_of_shapes_eq ds ds' htold.right hds]

theorem Datum.eq_of_entries_eq : (fs fs' : List (String × Datum)) →
    Binary64.Told (Datum.floatsNamed fs) (Datum.floatsNamed fs') →
    Datum.entries fs = Datum.entries fs' → fs = fs'
  | [], [], _, _ => rfl
  | [], (k', d') :: fs', _, h => by rw [Datum.entries, Datum.entries] at h; exact nomatch h
  | (k, d) :: fs, [], _, h => by rw [Datum.entries, Datum.entries] at h; exact nomatch h
  | (k, d) :: fs, (k', d') :: fs', htold, h => by
    rw [Datum.entries, Datum.entries] at h
    rw [Datum.floatsNamed, Datum.floatsNamed] at htold
    obtain ⟨hd, hfs⟩ := List.cons.inj h
    obtain ⟨hk, hd⟩ := Shape.entry.inj hd
    rw [String.toList_injective hk, Datum.eq_of_shape_eq d d' htold.left hd,
      Datum.eq_of_entries_eq fs fs' htold.right hfs]

end

/-! ## Trees -/

/-- Whether a value is neither a list nor an object. -/
def Datum.isScalar : Datum → Bool
  | .list _ | .object _ => false
  | _ => true

mutual

/-- A tree in which every node has the fields of its kind, and only literals hold values other than
words, numbers and texts. -/
def Node.Regular : Node → Prop
  | .mk kind fields embedded =>
    embedded = [] ∧ fields.map (·.1) = kind.fields ∧ Field.RegularNamed (kind == .const) fields

/-- `Node.Regular` for the fields of a node. -/
def Field.RegularNamed (ofLiteral : Bool) : List (String × Field) → Prop
  | [] => True
  | (_, f) :: fs => f.Regular ofLiteral ∧ Field.RegularNamed ofLiteral fs

/-- `Node.Regular` for the content of a field; the field of a literal is its value. -/
def Field.Regular (ofLiteral : Bool) : Field → Prop
  | .node n => ofLiteral = false ∧ n.Regular
  | .list items => ofLiteral = false ∧ Field.RegularAll items
  | .tuple items => ofLiteral = false ∧ Field.RegularAll items
  | .datum d => ofLiteral = true ∨ d.isScalar = true

/-- `Node.Regular` for the items of a list. -/
def Field.RegularAll : List Field → Prop
  | [] => True
  | f :: fs => f.Regular false ∧ Field.RegularAll fs

end

theorem Kind.ofLabel?_label (k : Kind) : Kind.ofLabel? k.label = some k := by
  cases k <;> rfl

/-- Kinds are told apart by the words that their nodes start with. -/
theorem Kind.head_inj {k k' : Kind} (h : k.head = k'.head) : k = k' := by
  rw [Kind.head, Kind.head] at h
  have hlabel : k.label = k'.label := (String.append_right_inj _).1 (String.toList_injective h)
  have hkinds := congrArg Kind.ofLabel? hlabel
  rw [Kind.ofLabel?_label, Kind.ofLabel?_label] at hkinds
  exact Option.some.inj hkinds

theorem Kind.head_ne_nil (k : Kind) : k.head ≠ [] := by
  rw [Kind.head, String.toList_append]
  exact List.append_ne_nil_of_left_ne_nil (by decide) _

namespace Shape

/-- A shape in brackets. -/
def isGroup : Shape → Bool
  | group _ _ _ | single _ => true
  | _ => false

theorem isGroup_ofTuple (ss : List Shape) : (ofTuple ss).isGroup = true := by
  unfold ofTuple
  split <;> rfl

theorem ofTuple_inj {ss ss' : List Shape} (h : ofTuple ss = ofTuple ss') : ss = ss' := by
  unfold ofTuple at h
  split at h <;> split at h
  · rw [single.inj h]
  · exact nomatch h
  · exact nomatch h
  · exact (group.inj h).2.2

/-- A tuple has no word in front of it, and round brackets. -/
theorem ofTuple_ne_group (ss : List Shape) {head : List Char} {b : Bracket} (items : List Shape)
    (h : head ≠ [] ∨ b ≠ .round) : ofTuple ss ≠ group head b items := by
  intro heq
  unfold ofTuple at heq
  split at heq
  · exact nomatch heq
  · obtain ⟨hhead, hb, -⟩ := group.inj heq
    exact h.elim (fun h => h hhead.symm) fun h => h hb.symm

end Shape

theorem Datum.isGroup_shape {d : Datum} (h : d.isScalar = true) : d.shape.isGroup = false := by
  cases d with
  | bool b => cases b <;> rfl
  | list items => exact nomatch h
  | object fields => exact nomatch h
  | _ => rfl

theorem Node.exists_shape (n : Node) : ∃ items, n.shape = .group n.kind.head .round items := by
  obtain ⟨kind, fields, es⟩ := n
  rw [Node.shape]
  exact ⟨_, rfl⟩

/-- Where a node, list or tuple stands there is no plain value. -/
theorem Field.isGroup_shape {f : Field} (h : f.Regular false) :
    f.shape.isGroup = true ↔ ∀ d, f ≠ .datum d := by
  cases f with
  | node n =>
    obtain ⟨items, hitems⟩ := n.exists_shape
    rw [Field.shape, hitems]
    exact ⟨fun _ _ h => (nomatch h), fun _ => rfl⟩
  | list items =>
    rw [Field.shape]
    exact ⟨fun _ _ h => (nomatch h), fun _ => rfl⟩
  | tuple items =>
    rw [Field.shape]
    exact ⟨fun _ _ h => (nomatch h), fun _ => Shape.isGroup_ofTuple _⟩
  | datum d =>
    rw [Field.Regular] at h
    have hscalar := h.resolve_left Bool.false_ne_true
    rw [Field.shape, Datum.isGroup_shape hscalar]
    exact ⟨fun h => (nomatch h), fun h => absurd rfl (h d)⟩

/-- The field of a literal is a plain value. -/
theorem Field.Regular.eq_false {ofLiteral : Bool} {f : Field} (h : f.Regular ofLiteral)
    (hf : ∀ d, f ≠ .datum d) : ofLiteral = false := by
  cases f with
  | datum d => exact absurd rfl (hf d)
  | _ =>
    rw [Field.Regular] at h
    exact h.1

mutual

/-- Regular trees of the same shape are the same. -/
theorem Node.eq_of_shape_eq : (n n' : Node) → n.Regular → n'.Regular →
    Binary64.Told n.floats n'.floats → n.shape = n'.shape → n = n'
  | .mk kind fields es, .mk kind' fields' es', h, h', htold, hshape => by
    rw [Node.shape, Node.shape] at hshape
    obtain ⟨hhead, -, hfields⟩ := Shape.group.inj hshape
    obtain rfl := Kind.head_inj hhead
    rw [Node.Regular] at h h'
    rw [Node.floats, Node.floats] at htold
    obtain ⟨rfl, hnames, hregular⟩ := h
    obtain ⟨rfl, hnames', hregular'⟩ := h'
    rw [Field.eq_of_namedShapes_eq _ fields fields' (hnames.trans hnames'.symm) hregular hregular'
      htold hfields]

theorem Field.eq_of_namedShapes_eq (ofLiteral : Bool) : (fs fs' : List (String × Field)) →
    fs.map (·.1) = fs'.map (·.1) → Field.RegularNamed ofLiteral fs →
    Field.RegularNamed ofLiteral fs' →
    Binary64.Told (Field.floatsNamed fs) (Field.floatsNamed fs') →
    Field.namedShapes fs = Field.namedShapes fs' → fs = fs'
  | [], [], _, _, _, _, _ => rfl
  | [], _ :: _, hnames, _, _, _, _ => nomatch hnames
  | _ :: _, [], hnames, _, _, _, _ => nomatch hnames
  | (name, f) :: fs, (name', f') :: fs', hnames, h, h', htold, hshapes => by
    obtain ⟨hname, hnames⟩ := List.cons.inj hnames
    rw [Field.namedShapes, Field.namedShapes] at hshapes
    rw [Field.floatsNamed, Field.floatsNamed] at htold
    rw [Field.RegularNamed] at h h'
    obtain ⟨hf, hfs⟩ := List.cons.inj hshapes
    rw [show name = name' from hname, Field.eq_of_shape_eq _ f f' h.1 h'.1 htold.left hf,
      Field.eq_of_namedShapes_eq _ fs fs' hnames h.2 h'.2 htold.right hfs]

theorem Field.eq_of_shape_eq (ofLiteral : Bool) : (f f' : Field) → f.Regular ofLiteral →
    f'.Regular ofLiteral → Binary64.Told f.floats f'.floats → f.shape = f'.shape → f = f'
  | .node n, f', h, h', htold, hshape => by
    rw [Field.Regular] at h
    obtain ⟨rfl, h⟩ := h
    obtain ⟨parts, hparts⟩ := n.exists_shape
    cases f' with
    | node n' =>
      rw [Field.Regular] at h'
      rw [Field.shape, Field.shape] at hshape
      rw [Field.floats, Field.floats] at htold
      rw [Node.eq_of_shape_eq n n' h h'.2 htold hshape]
    | list items =>
      rw [Field.shape, Field.shape, hparts] at hshape
      exact nomatch (Shape.group.inj hshape).2.1
    | tuple items =>
      rw [Field.shape, Field.shape, hparts] at hshape
      exact absurd hshape.symm (Shape.ofTuple_ne_group _ _ (.inl n.kind.head_ne_nil))
    | datum d =>
      have hgroup := (Field.isGroup_shape h').1 (by rw [← hshape, Field.shape, hparts]; rfl)
      exact absurd rfl (hgroup d)
  | .list items, f', h, h', htold, hshape => by
    rw [Field.Regular] at h
    obtain ⟨rfl, h⟩ := h
    cases f' with
    | node n' =>
      obtain ⟨parts, hparts⟩ := n'.exists_shape
      rw [Field.shape, Field.shape, hparts] at hshape
      exact nomatch (Shape.group.inj hshape).2.1
    | list items' =>
      rw [Field.Regular] at h'
      rw [Field.shape, Field.shape] at hshape
      rw [Field.floats, Field.floats] at htold
      rw [Field.eq_of_shapes_eq items items' h h'.2 htold (Shape.group.inj hshape).2.2]
    | tuple items' =>
      rw [Field.shape, Field.shape] at hshape
      exact absurd hshape.symm (Shape.ofTuple_ne_group _ _ (.inr (by decide)))
    | datum d =>
      have hgroup := (Field.isGroup_shape h').1 (by rw [← hshape, Field.shape]; rfl)
      exact absurd rfl (hgroup d)
  | .tuple items, f', h, h', htold, hshape => by
    rw [Field.Regular] at h
    obtain ⟨rfl, h⟩ := h
    cases f' with
    | node n' =>
      obtain ⟨parts, hparts⟩ := n'.exists_shape
      rw [Field.shape, Field.shape, hparts] at hshape
      exact absurd hshape (Shape.ofTuple_ne_group _ _ (.inl n'.kind.head_ne_nil))
    | list items' =>
      rw [Field.shape, Field.shape] at hshape
      exact absurd hshape (Shape.ofTuple_ne_group _ _ (.inr (by decide)))
    | tuple items' =>
      rw [Field.Regular] at h'
      rw [Field.shape, Field.shape] at hshape
      rw [Field.floats, Field.floats] at htold
      rw [Field.eq_of_shapes_eq items items' h h'.2 htold (Shape.ofTuple_inj hshape)]
    | datum d =>
      have hgroup := (Field.isGroup_shape h').1
        (by rw [← hshape, Field.shape]; exact Shape.isGroup_ofTuple _)
      exact absurd rfl (hgroup d)
  | .datum d, f', h, h', htold, hshape => by
    cases f' with
    | datum d' =>
      rw [Field.shape, Field.shape] at hshape
      rw [Field.floats, Field.floats] at htold
      rw [Datum.eq_of_shape_eq d d' htold hshape]
    | _ =>
      obtain rfl := h'.eq_false fun _ h => nomatch h
      have hgroup := (Field.isGroup_shape h').2 fun _ h => nomatch h
      rw [← hshape] at hgroup
      exact absurd rfl ((Field.isGroup_shape h).1 hgroup d)

theorem Field.eq_of_shapes_eq : (fs fs' : List Field) → Field.RegularAll fs →
    Field.RegularAll fs' → Binary64.Told (Field.floatsAll fs) (Field.floatsAll fs') →
    Field.shapes fs = Field.shapes fs' → fs = fs'
  | [], [], _, _, _, _ => rfl
  | [], _ :: _, _, _, _, h => by rw [Field.shapes, Field.shapes] at h; exact nomatch h
  | _ :: _, [], _, _, _, h => by rw [Field.shapes, Field.shapes] at h; exact nomatch h
  | f :: fs, f' :: fs', h, h', htold, hshapes => by
    rw [Field.shapes, Field.shapes] at hshapes
    rw [Field.floatsAll, Field.floatsAll] at htold
    rw [Field.RegularAll] at h h'
    obtain ⟨hf, hfs⟩ := List.cons.inj hshapes
    rw [Field.eq_of_shape_eq false f f' h.1 h'.1 htold.left hf,
      Field.eq_of_shapes_eq fs fs' h.2 h'.2 htold.right hfs]

end

/-- Regular trees with the same written form are the same, if their numbers are told apart by their
texts. -/
theorem Node.eq_of_dump_eq {n n' : Node} (h : n.Regular) (h' : n'.Regular)
    (htold : Binary64.Told n.floats n'.floats) (hdump : n.dump = n'.dump) : n = n' :=
  Node.eq_of_shape_eq n n' h h' htold (Node.shape_eq_of_dump_eq hdump)

end Stencil
