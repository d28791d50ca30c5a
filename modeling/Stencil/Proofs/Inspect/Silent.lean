import Stencil.Proofs.Inspect.Collected
import Stencil.Proofs.Inspect.Rendering

/-!
# Templates that write nothing themselves

Where a template extends another first, and has only blocks and outputs beside, running it does
nothing but load the other and put its blocks into the context. Rendering a line of such templates
goes the way that inspection goes, and comes to the last template in the state that inspection ends
in, but for the functions that have run on the way.

## Main definitions

- `Template.Silent`: trees that extend another one and write nothing themselves
- `World.within`: a state in which a template runs that has written nothing

## Key results

- `Run.exec_runOwn_silent`: running a silent template
- `Run.exec_root_silent`: rendering goes up a line of silent templates as inspection does
-/

namespace Stencil

/-- Statements that do nothing in a template that extends another one. -/
def Stmt.isSilent : Stmt → Bool
  | .output _ _ => true
  | .block _ _ _ _ _ => true
  | _ => false

/-- A tree that extends another one first, and otherwise has only blocks and outputs in its body. -/
def Template.Silent (t : Template) : Prop :=
  ∃ l e rest, t.body = .extend l e :: rest ∧ ∀ s ∈ rest, s.isSilent = true

/-- A tree that consists of one block, which does not see variables around it and may be left as it
is. -/
def Template.IsBlock (t : Template) (name : String) : Prop :=
  ∃ l body, t.body = [.block l name body false false]

/-- A template that has written nothing runs in a function of its own, the latest to have started. -/
def World.within (w : World) (slots : List (Variable × Value)) (extended : Option TemplateId) : World :=
  { w with activations := w.activations.push { base := 0, slots, extended } }

/-! ## The variable of `self` -/

theorem Layer.has_define (l : Layer) (name : String) (start : Start) {n : String}
    (h : l.has n = true ∨ n = name) : (l.define name start).has n = true := by
  unfold define
  split
  · rename_i hhas
    have hn : l.has n = true := h.elim id fun heq => heq ▸ hhas
    obtain ⟨v, hv, heq⟩ := List.any_eq_true.1 hn
    refine List.any_eq_true.2 ⟨_, List.mem_map_of_mem hv, ?_⟩
    split
    · rename_i hname
      exact beq_iff_eq.2 ((beq_iff_eq.1 hname).symm.trans (beq_iff_eq.1 heq))
    · exact heq
  · refine List.any_eq_true.2 ?_
    obtain hn | rfl := h
    · obtain ⟨v, hv, heq⟩ := List.any_eq_true.1 hn
      exact ⟨v, List.mem_append_left _ hv, heq⟩
    · exact ⟨(n, start), List.mem_append_right _ List.mem_cons_self, beq_self_eq_true n⟩

namespace Scope

/-- The innermost layer has a variable of a name. -/
def Has (s : Scope) (name : String) : Prop :=
  ∃ l ls, s = l :: ls ∧ l.has name = true

variable {s : Scope} {n : String}

theorem Has.find (h : s.Has n) : (s.find? n).isSome = true := by
  obtain ⟨l, ls, rfl, hn⟩ := h
  rw [find?, if_pos hn]
  rfl

theorem Has.load (h : s.Has n) (name : String) : (s.load name).Has n := by
  obtain ⟨l, ls, rfl, hn⟩ := h
  unfold Scope.load
  split
  · exact ⟨l, ls, rfl, hn⟩
  · exact ⟨_, ls, rfl, l.has_define name .resolve (.inl hn)⟩

theorem Has.loads (h : s.Has n) (names : List String) : (s.loads names).Has n := by
  unfold Scope.loads
  induction names generalizing s with
  | nil => exact h
  | cons name names ih => exact ih (h.load name)

theorem has_params {l : Layer} {ls : List Layer} {names : List String}
    (h : l.has n = true ∨ n ∈ names) : (Scope.params (l :: ls) names).Has n := by
  unfold params
  induction names generalizing l with
  | nil => exact ⟨l, ls, rfl, h.resolve_right List.not_mem_nil⟩
  | cons name names ih =>
    refine ih ?_
    obtain hn | hn := h
    · exact .inl (Layer.has_define _ _ _ (.inl (by unfold Layer.addStore; split <;> exact hn)))
    · obtain rfl | hn := List.mem_cons.1 hn
      · exact .inl (Layer.has_define _ _ _ (.inr rfl))
      · exact .inr hn

end Scope

/-- What a silent statement asks of a scope are names to load. -/
theorem Scope.Has.visitAll {s : Scope} {n : String} (h : s.Has n) {ss : List Stmt}
    (hss : ∀ t ∈ ss, t.isSilent = true) : (s.visitAll ss).Has n := by
  induction ss generalizing s with
  | nil => exact h
  | cons t ts ih =>
    have hrest := fun u hu => hss u (List.mem_cons_of_mem _ hu)
    have ht := hss t List.mem_cons_self
    cases t with
    | output l parts => exact ih (h.loads _) hrest
    | block l name body isScoped isRequired => exact ih h hrest
    | _ => cases ht

/-- Names that are found in silent statements are among those looked for. -/
theorem Undeclared.found_visitAll {u : Undeclared} {ss : List Stmt}
    (hss : ∀ t ∈ ss, t.isSilent = true) {n : String} (hn : n ∈ (u.visitAll ss).found) :
    n ∈ u.found ∨ n ∈ u.sought := by
  induction ss generalizing u with
  | nil => exact .inl hn
  | cons t ts ih =>
    have hrest := fun u hu => hss u (List.mem_cons_of_mem _ hu)
    have ht := hss t List.mem_cons_self
    cases t with
    | output l parts =>
      obtain hfound | hsought := ih (u := u.use _) hrest hn
      · obtain hold | hnew := List.mem_append.1 hfound
        · exact .inl hold
        · exact .inr (List.contains_iff_mem.1 (List.mem_filter.1 hnew).2)
      · exact .inr hsought
    | block l name body isScoped isRequired => exact ih (u := u) hrest hn
    | _ => cases ht

namespace Template.Silent

/-- A silent template that uses `self` has a variable for it. -/
theorem has_self {t : Template} (h : t.Silent) (hself : Undeclared.find ["self"] t.body ≠ []) :
    ((Scope.ofTemplate t.body).find? "self").isSome = true := by
  obtain ⟨l, e, rest, hbody, hrest⟩ := h
  have hmem : "self" ∈ Undeclared.find ["self"] t.body := by
    obtain ⟨n, hn⟩ := List.exists_mem_of_ne_nil _ hself
    have hnames : n ∈ ["self"] := by
      rw [hbody, Undeclared.find, Undeclared.visitAll, Undeclared.visit] at hn
      obtain hfound | hsought := Undeclared.found_visitAll hrest hn
      · exact List.contains_iff_mem.1 (List.mem_filter.1 hfound).2
      · exact hsought
    rwa [List.mem_singleton.1 hnames] at hn
  have hparam : (Scope.root.params (Undeclared.find ["self"] t.body).eraseDups).Has "self" :=
    Scope.has_params (.inr (List.mem_eraseDups.2 hmem))
  rw [Scope.ofTemplate]
  generalize Scope.root.params _ = s at hparam
  rw [hbody, Scope.visitAll, Scope.visit]
  exact ((hparam.loads _).visitAll hrest).find

/-- The `extends` that comes first in a silent template is its only one. -/
theorem body_eq {t : Template} (h : t.Silent) {name : String} (hext : t.Extends name) :
    ∃ l el rest, t.body = .extend l (.const el (.text name)) :: rest ∧
      ∀ s ∈ rest, s.isSilent = true := by
  obtain ⟨l, e, rest, hbody, hrest⟩ := h
  obtain ⟨l', el, before, after, hextend, hbefore, -⟩ := hext.body_eq
  obtain rfl : e = .const el (.text name) := by
    rw [hbody] at hextend
    cases before with
    | nil => exact (Stmt.extend.inj (List.cons.inj hextend).1).2
    | cons s ss =>
      -- what stands before the `extends` of the line has none itself
      rw [← (List.cons.inj hextend).1] at hbefore
      cases hbefore
  exact ⟨l, el, rest, hbody, hrest⟩

end Template.Silent

namespace Run

variable {w : World} {slots : List (Variable × Value)} {extended : Option TemplateId}

/-! ## Variables of a running template -/

theorem activation_within (w : World) (slots : List (Variable × Value))
    (extended : Option TemplateId) :
    (w.within slots extended).activations[w.activations.size]? =
      some { base := 0, slots, extended } :=
  Array.getElem?_push_size

theorem holder_within (v : Variable) :
    holder (w.within slots extended) v (nestingOf (w.within slots extended) w.activations.size)
      w.activations.size = w.activations.size := by
  rw [nestingOf, activation_within, Option.map_some, Option.getD_some, holder, activation_within]
  dsimp only
  rw [if_pos (Nat.zero_le _)]

theorem modify_push {α : Type} (xs : Array α) (x : α) (f : α → α) :
    (xs.push x).modify xs.size f = xs.push (f x) := by
  refine Array.ext_getElem? fun i => ?_
  rw [Array.getElem?_modify, Array.getElem?_push, Array.getElem?_push]
  by_cases hi : xs.size = i
  · rw [if_pos hi, if_pos hi.symm, if_pos hi.symm]
    rfl
  · rw [if_neg hi, if_neg (Ne.symm hi), if_neg (Ne.symm hi)]

theorem exec_context {w : World} {cell : Nat} {ctx : Context} (h : w.contexts[cell]? = some ctx) :
    exec (context cell) w = (.ok ctx, w) := by
  rw [context, exec_bind, exec_get, andThen_ok, h]
  rfl

/-- A computation that succeeds in a running template, and changes its variables only. -/
def Scribbles {α : Type} (w : World) (extended : Option TemplateId) (x : Run α) : Prop :=
  ∀ slots, ∃ a slots', exec x (w.within slots extended) = (.ok a, w.within slots' extended)

namespace Scribbles

variable {α β : Type}

theorem pure (a : α) : Scribbles w extended (pure a : Run α) :=
  fun slots => ⟨a, slots, rfl⟩

theorem bind {x : Run α} {f : α → Run β} (hx : Scribbles w extended x)
    (hf : ∀ a, Scribbles w extended (f a)) : Scribbles w extended (x >>= f) := by
  intro slots
  obtain ⟨a, slots₁, ha⟩ := hx slots
  obtain ⟨b, slots₂, hb⟩ := hf a slots₁
  refine ⟨b, slots₂, ?_⟩
  rw [exec_bind, ha, andThen_ok, hb]

theorem forM {f : α → Run PUnit} (hf : ∀ a, Scribbles w extended (f a)) (as : List α) :
    Scribbles w extended (as.forM f) := by
  induction as with
  | nil => exact .pure _
  | cons a as ih => exact (hf a).bind fun _ => ih

theorem context {cell : Nat} {ctx : Context} (hctx : w.contexts[cell]? = some ctx) :
    Scribbles w extended (Run.context cell) := by
  intro slots
  exact ⟨ctx, slots, exec_context hctx⟩

theorem readVariable (activation : Nat) (v : Variable) :
    Scribbles w extended (Run.readVariable activation v) :=
  fun slots => ⟨_, slots, rfl⟩

theorem setVariable (v : Variable) (x : Option Value) :
    Scribbles w extended (Run.setVariable w.activations.size v x) := by
  intro slots
  rw [Run.setVariable, exec_bind, exec_get, andThen_ok, holder_within, exec_modify]
  have hmodify (g : Activation → Activation) :=
    congrArg (fun acts => ((.ok (), { w with activations := acts }) : Except Fault Unit × World))
      (modify_push w.activations { base := 0, slots, extended } g)
  cases x with
  | none => exact ⟨(), slots.filter (·.1 != v), hmodify _⟩
  | some x => exact ⟨(), (v, x) :: slots.filter (·.1 != v), hmodify _⟩

variable {f : Frame}

theorem setName (hf : f.activation = w.activations.size) {name : String}
    (hname : (f.scope.find? name).isSome = true) (x : Value) :
    Scribbles w extended (Run.setName f name x) := by
  obtain ⟨v, hv⟩ := Option.isSome_iff_exists.1 hname
  rw [Run.setName, hv, hf]
  exact .setVariable v (some x)

/-- The variables of the innermost layer get their first values. -/
theorem enter (hf : f.activation = w.activations.size) {ctx : Context}
    (hctx : w.contexts[f.context]? = some ctx) : Scribbles w extended (Run.enter f) := by
  unfold Run.enter
  split
  · exact .pure _
  · refine .forM (fun (name, start) => ?_) _
    rw [hf]
    cases start with
    | param => exact .pure _
    | resolve => exact ((context hctx).bind fun c => .pure _).bind fun x => setVariable _ x
    | copy level => exact (readVariable _ _).bind fun x => setVariable _ x
    | empty => exact setVariable _ none

/-- A template that has a variable for `self`, if it uses it, can be opened. -/
theorem opening (hf : f.activation = w.activations.size) {ctx : Context}
    (hctx : w.contexts[f.context]? = some ctx) {isUsed : Bool}
    (hself : isUsed = true → (f.scope.find? "self").isSome = true) :
    Scribbles w extended (do provideSelf f isUsed; Run.enter f) := by
  refine .bind ?_ fun _ => .enter hf hctx
  unfold provideSelf
  split
  · rename_i hused
    exact .setName hf (hself hused) _
  · exact .pure _

end Scribbles

theorem exec_isExtended_within (slots : List (Variable × Value)) (extended : Option TemplateId)
    {f : Frame} (hf : f.activation = w.activations.size) :
    exec (isExtended f) (w.within slots extended) = (.ok extended.isSome, w.within slots extended) := by
  rw [isExtended, exec_bind, exec_get, andThen_ok, exec_pure, hf, nestingOf, extendedIn,
    activation_within]
  simp only [Option.map_none, Option.getD_none, Bool.or_false]

/-- Silent statements do nothing where another template is extended. -/
theorem exec_runStmts_silent {eng : Engine} {f : Frame} (hf : f.activation = w.activations.size)
    (htop : f.toplevel = true) (hchecked : f.checked = true) {id : TemplateId} {ss : List Stmt}
    (hss : ∀ s ∈ ss, s.isSilent = true) :
    exec (runStmts eng f ss) (w.within slots (some id)) = (.ok .next, w.within slots (some id)) := by
  have hextended := exec_isExtended_within slots (some id) hf
  induction ss with
  | nil => rfl
  | cons s ss ih =>
    have hs := hss s List.mem_cons_self
    have hstmt : exec (runStmt eng f s) (w.within slots (some id)) =
        (.ok .next, w.within slots (some id)) := by
      cases s with
      | output l parts =>
        rw [runStmt, andNext, exec_bind, runOutput, hchecked]
        simp only [Bool.true_and, exec_bind, hextended, andThen_ok]
        rfl
      | block l name body isScoped isRequired =>
        rw [runStmt, andNext, exec_bind, runBlockHere, htop]
        simp only [Bool.true_and, exec_bind, hextended, andThen_ok]
        rfl
      | _ => cases hs
    rw [runStmts, exec_bind, hstmt, andThen_ok]
    exact ih fun t ht => hss t (List.mem_cons_of_mem _ ht)

end Run

/-! ## What neither looks at running functions nor at output -/

/-- The same state with other functions running, and other output. -/
def World.beside (w : World) (activations : Array Activation) (sinks : List Sink) : World :=
  { w with activations, sinks }

namespace Run

variable {w : World} {context : Nat} {α β : Type}

/-- A computation that neither looks at running functions and output nor changes them. -/
def Apart (x : Run α) : Prop :=
  ∀ w activations sinks, exec x (w.beside activations sinks) =
    ((exec x w).1, (exec x w).2.beside activations sinks)

namespace Apart

theorem pure (a : α) : Apart (pure a : Run α) :=
  fun _ _ _ => rfl

theorem bind {x : Run α} {f : α → Run β} (hx : Apart x) (hf : ∀ a, Apart (f a)) :
    Apart (x >>= f) := by
  intro w acts sinks
  rw [exec_bind, exec_bind, hx w acts sinks]
  generalize exec x w = r
  obtain ⟨r, u⟩ := r
  cases r with
  | error e => rfl
  | ok a => exact hf a u acts sinks

theorem of_onLibrary {x : Run α} (hx : OnLibrary x) : Apart x := by
  intro w acts sinks
  obtain ⟨L, H⟩ := w
  have hheap := hx.heap_eq ⟨L, H⟩
  change exec x ⟨L, { H with activations := acts, sinks }⟩ = _
  rw [hx L H]
  generalize exec x ⟨L, H⟩ = r at hheap ⊢
  obtain ⟨r, L₁, H₁⟩ := r
  obtain rfl : H₁ = H := hheap
  rfl

theorem appendBlocks (context : Nat) (id : TemplateId) : Apart (Run.appendBlocks context id) :=
  (of_onLibrary (.template id)).bind fun _ _ _ _ => rfl

end Apart

/-- Loads a template and puts its blocks behind those of a context. -/
def attach (eng : Engine) (context : Nat) (name : String) : Run TemplateId := do
  let id ← Load.template eng [] (.plain name)
  appendBlocks context id
  return id

/-! ## Running silent templates -/

/-- A template is extended while nothing else is, whatever runs beside. -/
theorem exec_extend_beside (eng : Engine) (name : String) (slots : List (Variable × Value))
    (sinks : List Sink) {activations : Array Activation} {f : Frame} (hf : f.activation = activations.size)
    (hcontext : f.context = context) (htop : f.toplevel = true) (l el : Nat) :
    (∀ id u, exec (attach eng context name) w = (.ok id, u) →
      exec (runStmt eng f (.extend l (.const el (.text name))))
          (w.beside (activations.push { base := 0, slots }) sinks) =
        (.ok .next, u.beside (activations.push { base := 0, slots, extended := some id }) sinks)) ∧
      ∀ e u, exec (attach eng context name) w = (.error e, u) →
        ∃ u', exec (runStmt eng f (.extend l (.const el (.text name))))
          (w.beside (activations.push { base := 0, slots }) sinks) = (.error e, u') := by
  have hload := Apart.of_onLibrary (Load.onLibrary_plain eng [] name) w
    (activations.push { base := 0, slots }) sinks
  have hisExtended : extendedIn (w.beside (activations.push { base := 0, slots }) sinks)
      (nestingOf (w.beside (activations.push { base := 0, slots }) sinks) f.activation)
      f.activation = false := by
    have hexec := exec_isExtended_within (w := w.beside activations sinks) slots none hf
    rw [isExtended, exec_bind, exec_get, andThen_ok, exec_pure] at hexec
    exact Except.ok.inj (congrArg Prod.fst hexec)
  -- both sides load the template first; where that succeeds, both put its blocks into the context
  rw [exec_extend htop, hisExtended, if_neg Bool.false_ne_true, hload, attach, exec_bind, hcontext, hf]
  generalize exec (Load.template eng [] (.plain name)) w = r
  obtain ⟨r, u⟩ := r
  cases r with
  | error e =>
    refine ⟨fun _ _ h => ?_, fun _ _ h => ?_⟩
    · cases h
    · cases h
      exact ⟨_, rfl⟩
  | ok id =>
    have hmodify := modify_push activations { base := 0, slots }
      fun a => { a with extended := some id }
    have happend := Apart.appendBlocks context id u
      (activations.push { base := 0, slots, extended := some id }) sinks
    simp only [andThen_ok, exec_bind, World.beside, hmodify] at happend ⊢
    rw [happend]
    generalize exec (appendBlocks context id) u = r
    obtain ⟨r, v⟩ := r
    cases r with
    | error e =>
      refine ⟨fun _ _ h => ?_, fun _ _ h => ?_⟩
      · cases h
      · cases h
        exact ⟨_, rfl⟩
    | ok _ =>
      refine ⟨fun _ _ h => ?_, fun _ _ h => ?_⟩
      · cases h
        rfl
      · cases h

/-- A silent template loads the one that it extends, and puts its blocks behind those of the
context. -/
theorem exec_runOwn_silent (eng : Engine) (activations : Array Activation) (sinks : List Sink)
    {name : String} {id : TemplateId} {t : LoadedTemplate}
    (ht : w.templates.lookup id = some t) (hsilent : t.tree.Silent) (hext : t.tree.Extends name)
    {ctx : Context} (hctx : w.contexts[context]? = some ctx) :
    (∀ i u, exec (attach eng context name) w = (.ok i, u) →
      ∃ slots, exec (runOwn eng id context) (w.beside activations sinks) = (.ok (some i),
        u.beside (activations.push { base := 0, slots, extended := some i }) sinks)) ∧
      ∀ e u, exec (attach eng context name) w = (.error e, u) →
        ∃ u', exec (runOwn eng id context) (w.beside activations sinks) = (.error e, u') := by
  obtain ⟨l, el, rest, hbody, hrest⟩ := hsilent.body_eq hext
  rw [exec_runOwn (w := w.beside activations sinks) ht]
  generalize hf : ownFrame (w.beside activations sinks) id t.tree.body _ context = f
  have hactivation : f.activation = activations.size := hf ▸ rfl
  have hcontext : f.context = context := hf ▸ rfl
  have htop : f.toplevel = true := hf ▸ rfl
  have hchecked : f.checked = true := by
    rw [← hf, ownFrame, hbody]
    rfl
  have hscope : f.scope = Scope.ofTemplate t.tree.body := hf ▸ rfl
  have hself : (!(Undeclared.find ["self"] t.tree.body).isEmpty) = true →
      (f.scope.find? "self").isSome = true := by
    intro hused
    refine hscope ▸ hsilent.has_self fun hnil => ?_
    rw [hnil] at hused
    cases hused
  have hcell : w.contexts[f.context]? = some ctx := hcontext ▸ hctx
  have hopening : Scribbles (w.beside activations sinks) none (do
      provideSelf f !(Undeclared.find ["self"] t.tree.body).isEmpty
      enter f) := Scribbles.opening (w := w.beside activations sinks) hactivation hcell hself
  obtain ⟨⟨⟩, slots, hopened⟩ := hopening []
  have hstart : exec (do
      provideSelf f !(Undeclared.find ["self"] t.tree.body).isEmpty
      enter f) { w.beside activations sinks with
        activations := (w.beside activations sinks).activations.push { base := 0 } } =
      (.ok (), w.beside (activations.push { base := 0, slots }) sinks) := hopened
  obtain ⟨hdone, hfailed⟩ := exec_extend_beside (w := w) eng name slots sinks hactivation
    hcontext htop l el
  rw [hstart, andThen_ok, hbody, runStmts, exec_bind]
  constructor
  · -- the statements behind the `extends` do nothing any more
    intro i u hattach
    have hrest : exec (runStmts eng f rest)
        (u.beside (activations.push { base := 0, slots, extended := some i }) sinks) =
          (.ok .next, u.beside (activations.push { base := 0, slots, extended := some i }) sinks) :=
      exec_runStmts_silent (w := u.beside activations sinks) hactivation htop hchecked hrest
    refine ⟨slots, ?_⟩
    rw [hdone i u hattach, andThen_ok]
    dsimp only
    rw [hrest, andThen_ok]
    refine Prod.ext (congrArg Except.ok ?_) rfl
    change ((activations.push _)[activations.size]?).bind _ = _
    rw [Array.getElem?_push_size]
    rfl
  · intro e u hattach
    obtain ⟨u', hextends⟩ := hfailed e u hattach
    exact ⟨u', by rw [hextends]; rfl⟩

end Run

/-! ## Going up side by side -/

namespace Run

variable {w u : World} {context : Nat} {name : String} {id : TemplateId}

/-- Which engine runs does not matter for loading by a name. -/
theorem exec_attach_congr (eng eng' : Engine) (context : Nat) (name : String) (w : World) :
    exec (attach eng context name) w = exec (attach eng' context name) w := by
  simp only [attach, exec_bind, Load.exec_plain]

theorem andThen_attach {α : Type} (eng : Engine) (context : Nat) (name : String) (w : World)
    (g : TemplateId → World → Except Fault α × World) :
    andThen (exec (attach eng context name) w) g =
      andThen (exec (Load.template eng [] (.plain name)) w) fun id w =>
        andThen (exec (appendBlocks context id) w) fun _ w => g id w := by
  rw [attach, exec_bind]
  generalize exec (Load.template eng [] (.plain name)) w = r
  obtain ⟨r, u⟩ := r
  cases r with
  | error e => rfl
  | ok id =>
    simp only [andThen_ok, exec_bind, exec_pure]
    generalize exec (appendBlocks context id) u = r
    obtain ⟨r, v⟩ := r
    cases r with
    | error e => rfl
    | ok _ => rfl

/-- A template of a line that is attached has its blocks behind the others. -/
theorem attach_ok {ts es : List (String × Template)} (hts : w.toLibrary.Settled ts)
    {d : String × Template} (hd : d ∈ ts) (hbuilt : w.Built context es) {eng : Engine}
    (h : exec (attach eng context d.1) w = (.ok id, u)) :
    Library.Steps w.toLibrary u.toLibrary ∧ u.toLibrary.Holds d id ∧ u.Built context (d :: es) ∧
      u.toHeap = { w.toHeap with contexts := u.contexts } := by
  have hsame := andThen_attach eng context d.1 w fun i v => (.ok i, v)
  rw [h] at hsame
  obtain ⟨i, v, hload, happend⟩ := exists_of_andThen hsame.symm
  obtain ⟨hid, -⟩ := hts.load hd hload
  obtain ⟨hsteps, hheap⟩ := Load.steps_of_template hload
  obtain ⟨contexts, happended, hbuilt'⟩ :=
    (hbuilt.loaded hheap (hts.grown hsteps)).appendBlocks hid
  rw [happended, andThen_ok] at happend
  cases happend
  refine ⟨hsteps, hid, hbuilt', ?_⟩
  rw [← hheap]

/-- How the rendering of a line of silent templates ends, beside the inspection of the line: both fail
in the same way, the rendering runs out of depth, or it goes on with the last template of the line, in
the state that inspection has come to but for the functions that run. -/
inductive Meets (w : World) (context depth steps : Nat) (last : String × Template)
    (es : List (String × Template)) (activations : Array Activation) (sinks : List Sink) :
    Except Fault Unit × World → Except Fault Unit × World → Prop
  | failed (f : Fault) (u u' : World) :
      Meets w context depth steps last es activations sinks (.error f, u) (.error f, u')
  | deep (r : Except Fault Unit × World) (u' : World) (hdepth : depth ≤ steps) :
      Meets w context depth steps last es activations sinks r (.error (.accident .tooDeep), u')
  | arrived {u : World} {id : TemplateId} {depth' : Nat} {activations' : Array Activation}
      (hdepth : depth = depth' + steps + 1) (hchecked : u.toLibrary.Checked)
      (hid : u.toLibrary.Holds last id)
      (hbuilt : u.Built context es) (hheap : u.toHeap = { w.toHeap with contexts := u.contexts })
      (hsize : activations.size ≤ activations'.size)
      (hsame : ∀ i < activations.size, activations'[i]? = activations[i]?)
      (houter : ∀ i act, activations.size ≤ i → activations'[i]? = some act → act.outer = none) :
      Meets w context depth steps last es activations sinks (.ok (), u)
        (exec (runRoot (.ofDepth depth') id context) (u.beside activations' sinks))

/-- What begins after a template has run begins one step higher, with one function more. -/
theorem Meets.step {depth steps : Nat} {last : String × Template} {es : List (String × Template)}
    {activations : Array Activation} {sinks : List Sink} {act : Activation}
    {r r' : Except Fault Unit × World} (hact : act.outer = none)
    (h : Meets u context depth steps last es (activations.push act) sinks r r')
    (hu : u.toHeap = { w.toHeap with contexts := u.contexts }) :
    Meets w context (depth + 1) (steps + 1) last es activations sinks r r' := by
  cases h with
  | failed f u u' => exact .failed f u u'
  | deep r u' hdepth => exact .deep r u' (Nat.succ_le_succ hdepth)
  | arrived hdepth hchecked hid hbuilt hheap hsize hsame houter =>
    -- of the functions that have run beside, the first is the one of the template itself
    rw [Array.size_push] at hsize hsame houter
    refine .arrived (by omega) hchecked hid hbuilt (by rw [hheap, hu]) (by omega) (fun i hi => ?_)
      fun i a hi ha => ?_
    · rw [hsame i (by omega), Array.getElem?_push, if_neg (Nat.ne_of_lt hi)]
    · by_cases heq : i = activations.size
      · rw [heq, hsame _ (Nat.lt_succ_self _), Array.getElem?_push_size] at ha
        cases ha
        exact hact
      · exact houter i a (by omega) ha

/-- Rendering goes up a line of silent templates as inspection does. -/
theorem exec_root_silent {e : String × Template} {rest ts done : List (String × Template)}
    (hup : Template.Ascends (e :: rest)) (hsub : e :: rest ⊆ ts) (hts : w.toLibrary.Settled ts)
    (hsilent : ∀ d ∈ (e :: rest).dropLast, d.2.Silent) (hdistinct : (rest.map Prod.fst).Nodup)
    {seen : List String} (hseen : ∀ d ∈ rest, d.1 ∉ seen) (hid : w.toLibrary.Holds e id)
    (hbuilt : w.Built context (e :: done)) {fuel : Nat} (hfuel : rest.length < fuel) (eng : Engine)
    (depth : Nat) (activations : Array Activation) (sinks : List Sink) :
    Meets w context depth rest.length ((e :: rest).getLast (List.cons_ne_nil e rest))
      (rest.reverse ++ e :: done) activations sinks
      (exec (Inspect.addAncestors eng context fuel seen id) w)
      (exec ((Engine.ofDepth depth).root id context) (w.beside activations sinks)) := by
  obtain ⟨fuel, rfl⟩ : ∃ n, fuel = n + 1 := ⟨fuel - 1, by omega⟩
  -- up the line: rendering uses up one of the depth for each template, and inspection one of the fuel
  induction rest generalizing e w id seen done fuel depth activations with
  | nil =>
    cases depth with
    | zero => exact .deep _ _ (Nat.le_refl 0)
    | succ depth =>
      cases hup with
      | top name hnone =>
        rw [Inspect.exec_addAncestors_top hts (hsub List.mem_cons_self) hid.name_eq hnone]
        refine .arrived rfl hts.checked hid hbuilt rfl (Nat.le_refl _) (fun _ _ => rfl) fun i act hi hact => ?_
        rw [Array.getElem?_eq_none hi] at hact
        cases hact
  | cons d rest ih =>
    cases depth with
    | zero => exact .deep _ _ (Nat.zero_le _)
    | succ depth =>
      cases hup with
      | @up name tree t' next _ hext hrest =>
        have hd : (next, t') ∈ ts := hsub (List.mem_cons_of_mem _ List.mem_cons_self)
        rw [List.length_cons] at hfuel
        have hups := Inspect.exec_addAncestors_up hts (hsub List.mem_cons_self) hid.name_eq hext
          (hseen _ List.mem_cons_self) eng context fuel
        rw [← andThen_attach (g := fun id w =>
          exec (Inspect.addAncestors eng context fuel (next :: seen) id) w)] at hups
        obtain ⟨t, ht, rfl, -⟩ := hid.blockNames_eq
        have ⟨ctx, hctx, _⟩ := hbuilt
        obtain ⟨hdone, hfailed⟩ := exec_runOwn_silent (.ofDepth depth) activations sinks ht
          (hsilent _ List.mem_cons_self) hext hctx
        -- both do the same with the next template: they attach it to the context
        rw [exec_attach_congr (.ofDepth depth) eng] at hdone hfailed
        change Meets _ _ _ _ _ _ _ _ _ (exec (runRoot (.ofDepth depth) _ context) _)
        rw [hups, runRoot, exec_bind]
        cases hattach : exec (attach eng context next) w with
        | mk r u =>
          cases r with
          | error f =>
            obtain ⟨u', hown⟩ := hfailed f u hattach
            rw [hown]
            exact .failed f u u'
          | ok i =>
            obtain ⟨slots, hown⟩ := hdone i u hattach
            rw [hown]
            obtain ⟨hsteps, hi, hbuilt', hheap⟩ := attach_ok (d := (next, t')) hts hd hbuilt hattach
            obtain ⟨fuel, rfl⟩ : ∃ n, fuel = n + 1 := ⟨fuel - 1, by omega⟩
            have hmeets := ih hrest (fun x hx => hsub (List.mem_cons_of_mem _ hx)) (hts.steps hsteps)
              (fun x hx => hsilent x (List.mem_cons_of_mem _ hx)) (List.nodup_cons.1 hdistinct).2
              (Inspect.unseen_tail hdistinct hseen) hi hbuilt' depth
              (activations.push { base := 0, slots, extended := some i }) fuel (by omega)
            rw [List.reverse_cons, List.append_assoc]
            exact hmeets.step rfl hheap
end Run

end Stencil
