import Stencil.Proofs.Simulation.Cells
import Stencil.Value.Member
import Stencil.Value.Format
import Stencil.Value.Sort

/-!
# Operations on values

Values are the same on both sides, and so is what the operations on them give, as far as the parts
of the engine that they use agree.
-/

namespace Stencil

namespace Simulation

variable {α : Type} {S : Simulation} {eng eng' : Engine}

/-- Engines that do the same on both sides. -/
structure EngRel (S : Simulation) (eng eng' : Engine) : Prop where
  next : ∀ cell, S.Agree (eng.next cell) (eng'.next cell)
  expr : ∀ {f host e e'}, S.host f.host host → Expr.Alike S.line e e' →
    S.Agree (eng.expr f e) (eng'.expr (S.frame f host) e')
  body : ∀ {k f host ss ss'}, S.host f.host host → f.toplevel = false → S.live k f.activation →
    S.StmtsRel k none ss ss' →
    S.Sim k (eng.body f ss) (eng'.body (S.frame f host) ss') fun _ a b => b = a
  call : ∀ context v args named,
    S.Agree (eng.call context v args named) (eng'.call context v args named)
  filter : ∀ site name v args named,
    S.Agree (eng.filter site name v args named) (eng'.filter site name v args named)
  test : ∀ site name v args named,
    S.Agree (eng.test site name v args named) (eng'.test site name v args named)
  root : ∀ {k i i' context}, S.same k i i' → S.pins context = none →
    S.Sim k (eng.root i context) (eng'.root i' context) fun _ a b => b = a
  block : ∀ name depth context,
    S.Agree (eng.block name depth context) (eng'.block name depth context)

/-! ## Text of values -/

theorem agree_drainFrom (h : S.EngRel eng eng') (it fuel : Nat) (done : List Value) :
    S.Agree (Run.drainFrom eng it fuel done) (Run.drainFrom eng' it fuel done) := by
  induction fuel generalizing done with
  | zero => exact .accident _
  | succ fuel ih =>
    unfold Run.drainFrom
    refine (h.next it).bind fun o => ?_
    cases o with
    | none => exact .pure _
    | some v => exact ih _

theorem agree_drain (h : S.EngRel eng eng') (it : Nat) :
    S.Agree (Run.drain eng it) (Run.drain eng' it) :=
  agree_drainFrom h it _ _

theorem agree_sizeOf (v : Value) : S.Agree (LoopCell.sizeOf? v) (LoopCell.sizeOf? v) := by
  unfold LoopCell.sizeOf?
  split
  case h_5 cell => exact (agree_listItems cell).bind fun _ => .pure _
  case h_7 why => exact agree_failUndefined why
  all_goals exact .pure _

/-- Loops are the same on both sides but for the body of a recursive one. -/
theorem LoopRel.eq_with {k : S.Stage} {l l' : LoopCell} (h : S.LoopRel k l l') :
    ∃ recurse, l' = { l with recurse } := by
  cases h with
  | plain _ => exact ⟨l.recurse, rfl⟩
  | recursive _ _ => exact ⟨_, rfl⟩

/-- Moves a loop on, leaving its body alone. -/
theorem agree_modifyLoop (cell : Nat) {f : LoopCell → LoopCell}
    (hrecurse : ∀ l, (f l).recurse = l.recurse)
    (hf : ∀ l r, f { l with recurse := r } = { f l with recurse := r }) :
    S.Agree (modify fun w => { w with loops := w.loops.modify cell f })
      (modify fun w => { w with loops := w.loops.modify cell f }) := by
  refine Agree.update fun k _ _ hw => { hw with loops := hw.loops.modify cell ?_ }
  intro l l' hl
  cases hl with
  | plain h => exact .plain _ ((hrecurse l).trans h)
  | @recursive b b' h hb =>
    have hright := hf l (some b')
    rw [hright]
    exact .recursive (f l) ((hrecurse l).trans h) hb

theorem agree_measure (h : S.EngRel eng eng') (cell : Nat) :
    S.Agree (LoopCell.measure eng cell) (LoopCell.measure eng' cell) := by
  unfold LoopCell.measure
  refine Agree.read_bind fun k w w' hw => ?_
  obtain ⟨hl, hl'⟩ | ⟨l, l', hl, hl', hrel⟩ := hw.loops.get? cell
  · rw [hl, hl']
    exact .pure _
  obtain ⟨r, rfl⟩ := hrel.eq_with
  rw [hl, hl']
  dsimp only
  cases l.length with
  | some n => exact .pure _
  | none =>
    -- the length is remembered once it is known
    have hkeep (n : Nat) : S.Agree
        (do
          modify fun w => { w with loops := w.loops.modify cell fun l => { l with length := some n } }
          return n)
        (do
          modify fun w => { w with loops := w.loops.modify cell fun l => { l with length := some n } }
          return n) :=
      (agree_modifyLoop cell (fun _ => by rfl) fun _ _ => by rfl).bind fun _ => .pure n
    refine (agree_sizeOf _).bind fun o => ?_
    cases o with
    | some n => exact (Agree.pure n).bind hkeep
    | none =>
      refine (agree_drain h _).bind fun rest => (agree_newIterator (fun _ => .items rest)).bind fun it => ?_
      refine (agree_modifyLoop cell (fun _ => by rfl) fun _ _ => by rfl).bind fun _ => ?_
      exact (Agree.pure _).bind hkeep

/-- A running template that is shown has the same name on both sides, or nothing is said of what
follows. -/
theorem agree_reference (context : Nat) :
    S.Agree
      (do
        Run.record (.reference context)
        match (← Run.context context).name with
        | some name => return "<TemplateReference " ++ quote name ++ ">"
        | none => return "<TemplateReference None>")
      (do
        Run.record (.reference context)
        match (← Run.context context).name with
        | some name => return "<TemplateReference " ++ quote name ++ ">"
        | none => return "<TemplateReference None>") := by
  refine fun k => Sim.record_bind ?_
  obtain hhost | hbad := S.reference
  · refine .inr ((sim_context context).bind fun l _ c c' hc => ?_)
    obtain ⟨name, blocks, hname, -⟩ := hc
    cases hhost _ _ hname
    dsimp only
    split <;> exact Sim.pure rfl
  · exact .inl (hbad context)

theorem agree_literal (h : S.EngRel eng eng') (fuel : Nat) (v : Value) :
    S.Agree (Value.literal eng fuel v) (Value.literal eng' fuel v) := by
  induction fuel generalizing v with
  | zero => exact .accident _
  | succ fuel ih =>
    have hall (items : List Value) := Agree.mapM ih items
    unfold Value.literal
    cases v with
    | tuple items =>
      refine (hall items).bind fun ss => ?_
      split <;> exact .pure _
    | list cell =>
      exact (agree_listItems cell).bind fun items => (hall items).bind fun _ => .pure _
    | view label items => exact (hall items).bind fun _ => .pure _
    | dict entries =>
      refine (Agree.mapM (fun e => ?_) entries).bind fun _ => .pure _
      exact (ih e.1).bind fun _ => (ih e.2).bind fun _ => .pure _
    -- namespaces, modules and cyclers hold the same on both sides
    | space cell =>
      refine Agree.read_bind fun k w w' hw => ?_
      rw [hw.spaces]
      refine (Agree.mapM (fun e => ?_) _).bind fun _ => .pure _
      exact (ih e.2).bind fun _ => .pure _
    | loop cell =>
      refine (agree_measure h cell).bind fun n => Agree.read_bind fun k w w' hw => ?_
      obtain ⟨hl, hl'⟩ | ⟨l, l', hl, hl', hrel⟩ := hw.loops.get? cell
      · rw [hl, hl']
        exact .pure _
      · obtain ⟨r, rfl⟩ := hrel.eq_with
        rw [hl, hl']
        exact .pure _
    -- loops and macros correspond to each other, and show the same of themselves
    | macroRef cell =>
      refine Agree.read_bind fun k w w' hw => ?_
      obtain ⟨hm, hm'⟩ | ⟨m, m', hm, hm', hrel⟩ := hw.macros.get? cell
      · rw [hm, hm']
        exact .pure _
      · obtain ⟨host, hdefaults, hbody, hhost, htop⟩ := hrel
        rw [hm, hm']
        dsimp only [Option.bind_some]
        split <;> exact .pure _
    | module cell =>
      refine Agree.read_bind fun k w w' hw => ?_
      rw [hw.modules]
      split <;> exact .pure _
    | self context => exact agree_reference context
    | text s safe => cases safe <;> exact .pure _
    | function f => cases f <;> exact .pure _
    | _ => exact .pure _

theorem agree_repr (h : S.EngRel eng eng') (v : Value) :
    S.Agree (Value.repr eng v) (Value.repr eng' v) :=
  agree_literal h _ v

theorem debugText_eq {ns ns' : Array Note} (h : Paired S.NoteRel ns ns')
    (hhost : ∀ h h', S.host h h' → h' = h) (hline : ∀ l l', S.line l l' → l' = l) (why : Missing) :
    why.debugText ns' = why.debugText ns := by
  have hposition {p p' : Position} (hh : S.host p.host p'.host) (hl : S.line p.line p'.line) :
      p' = p := by
    cases p
    cases p'
    cases hhost _ _ hh
    cases hline _ _ hl
    rfl
  have hnote {n n' : Note} (hn : S.NoteRel n n') : n' = n := by
    cases hn with
    | noAlternative hh hl => rw [hposition hh hl]
    | notExported module hh hl name => rw [hposition hh hl]
  cases why with
  | noted cell =>
    change _ ++ Missing.noteText ns' cell ++ _ = _ ++ Missing.noteText ns cell ++ _
    unfold Missing.noteText
    obtain ⟨hn, hn'⟩ | ⟨n, n', hn, hn', hrel⟩ := h.get? cell
    · rw [hn, hn']
    · rw [hn, hn', hnote hrel]
  | _ => rfl

theorem agree_str (h : S.EngRel eng eng') (v : Value) :
    S.Agree (Value.str eng v) (Value.str eng' v) := by
  cases v with
  | text s safe => exact .pure s
  | undefined kind why =>
    cases kind with
    | strict => exact agree_failUndefined why
    | debug =>
      refine Agree.read_bind fun k w w' hw => ?_
      rw [show w'.env.options = w.env.options from S.library_options hw.library]
      split
      · rename_i hdebug
        obtain ⟨hhost, hline⟩ := S.debug hw.library (by simpa using hdebug)
        rw [debugText_eq hw.notes hhost hline]
        exact .pure _
      · exact .pure _
    | _ => exact .pure ""
  | module cell =>
    refine Agree.read_bind fun k w w' hw => ?_
    rw [hw.modules]
    split
    · exact agree_joined _
    · exact .pure ""
  | _ => exact agree_repr h _

theorem agree_escaped (h : S.EngRel eng eng') (v : Value) :
    S.Agree (Value.escaped eng v) (Value.escaped eng' v) :=
  (agree_str h v).bind fun _ => .pure _

theorem agree_soft (h : S.EngRel eng eng') (v : Value) :
    S.Agree (Value.soft eng v) (Value.soft eng' v) := by
  cases v with
  | text s safe => exact .pure _
  | _ => exact (agree_str h _).bind fun _ => .pure _

theorem agree_truth (h : S.EngRel eng eng') (v : Value) :
    S.Agree (Value.truth eng v) (Value.truth eng' v) := by
  cases v with
  | list cell => exact (agree_listItems cell).bind fun _ => .pure _
  | undefined kind why =>
    cases kind with
    | strict => exact agree_failUndefined why
    | _ => exact .pure false
  | loop cell => exact (agree_measure h cell).bind fun _ => .pure _
  | _ => exact .pure _

theorem agree_ofDatum (fuel : Nat) (d : Datum) :
    S.Agree (Value.ofDatum fuel d) (Value.ofDatum fuel d) := by
  induction fuel generalizing d with
  | zero => exact .accident _
  | succ fuel ih =>
    unfold Value.ofDatum
    cases d with
    | list items => exact (Agree.mapM ih items).bind fun _ => agree_newList _
    | object fields =>
      refine (Agree.mapM (fun e => ?_) fields).bind fun _ => .pure _
      exact (ih e.2).bind fun _ => .pure _
    | _ => exact .pure _

/-! ## Comparison -/

section Compare

variable {same same' : Value → Value → Run Bool} (hsame : ∀ a b, S.Agree (same a b) (same' a b))
include hsame

theorem agree_allEqual (as bs : List Value) :
    S.Agree (Value.allEqual same as bs) (Value.allEqual same' as bs) := by
  induction as generalizing bs with
  | nil => cases bs <;> exact .pure _
  | cons a as ih =>
    cases bs with
    | nil => exact .pure _
    | cons b bs =>
      refine (hsame a b).bind fun o => ?_
      exact .ite (ih bs) (.pure _)

theorem agree_lookupBy (key : Value) (entries : List (Value × Value)) :
    S.Agree (Value.lookupBy same key entries) (Value.lookupBy same' key entries) := by
  induction entries with
  | nil => exact .pure _
  | cons e es ih => exact (hsame e.1 key).bind fun _ => .ite (.pure _) ih

theorem agree_entriesEqual (others entries : List (Value × Value)) :
    S.Agree (Value.entriesEqual same others entries) (Value.entriesEqual same' others entries) := by
  induction entries with
  | nil => exact .pure _
  | cons e es ih =>
    refine (agree_lookupBy hsame e.1 others).bind fun o => ?_
    cases o with
    | none => exact .pure _
    | some v => exact (hsame e.2 v).bind fun _ => .ite ih (.pure _)

theorem agree_firstOrder {ord ord' : Value → Value → Run (Option Ordering)}
    (hord : ∀ a b, S.Agree (ord a b) (ord' a b)) (as bs : List Value) :
    S.Agree (Value.firstOrder same ord as bs) (Value.firstOrder same' ord' as bs) := by
  induction as generalizing bs with
  | nil => cases bs <;> exact .pure _
  | cons a as ih =>
    cases bs with
    | nil => exact .pure _
    | cons b bs => exact (hsame a b).bind fun _ => .ite (ih bs) (hord a b)

end Compare

theorem agree_equalTo (fuel : Nat) (a b : Value) :
    S.Agree (Value.equalTo fuel a b) (Value.equalTo fuel a b) := by
  induction fuel generalizing a b with
  | zero => exact .accident _
  | succ fuel ih =>
    unfold Value.equalTo
    split
    case h_1 why => exact agree_failUndefined why
    case h_2 why _ => exact agree_failUndefined why
    case h_6 xs ys => exact agree_allEqual ih xs ys
    case h_7 c c' =>
      refine .ite (.pure _) ?_
      exact (agree_listItems c).bind fun _ => (agree_listItems c').bind fun _ => agree_allEqual ih _ _
    case h_8 xs ys => exact .ite (agree_entriesEqual ih ys xs) (.pure _)
    case h_10 => exact .ite (agree_allEqual ih _ _) (.pure _)
    case h_19 => split <;> exact .pure _
    all_goals exact .pure _

theorem agree_equal (a b : Value) : S.Agree (Value.equal a b) (Value.equal a b) :=
  agree_equalTo _ a b

theorem agree_equalLists (as bs : List Value) :
    S.Agree (Value.equalLists as bs) (Value.equalLists as bs) :=
  agree_allEqual agree_equal as bs

theorem agree_orderOf (fuel : Nat) (a b : Value) :
    S.Agree (Value.orderOf fuel a b) (Value.orderOf fuel a b) := by
  induction fuel generalizing a b with
  | zero => exact .accident _
  | succ fuel ih =>
    unfold Value.orderOf
    split
    · exact agree_failUndefined _
    · exact agree_failUndefined _
    · exact .pure _
    · exact agree_firstOrder agree_equal ih _ _
    · exact (agree_listItems _).bind fun _ => (agree_listItems _).bind fun _ =>
        agree_firstOrder agree_equal ih _ _
    · split
      · exact .pure _
      · exact .badType

theorem agree_order (a b : Value) : S.Agree (Value.order a b) (Value.order a b) :=
  agree_orderOf _ a b

theorem agree_less (a b : Value) : S.Agree (Value.less a b) (Value.less a b) :=
  (agree_order a b).bind fun _ => .pure _

theorem agree_checkKey (fuel : Nat) (v : Value) :
    S.Agree (Value.checkKey fuel v) (Value.checkKey fuel v) := by
  induction fuel generalizing v with
  | zero => exact .accident _
  | succ fuel ih =>
    unfold Value.checkKey
    split
    case h_5 why => exact agree_failUndefined why
    case h_6 items => exact .forM ih items
    case h_7 => exact .pure _
    all_goals exact .badType

theorem agree_lookup (key : Value) (entries : List (Value × Value)) :
    S.Agree (Value.lookup key entries) (Value.lookup key entries) :=
  (agree_checkKey _ key).bind fun _ => agree_lookupBy agree_equal key entries

theorem agree_insert (key value : Value) (entries : List (Value × Value)) :
    S.Agree (Value.insert key value entries) (Value.insert key value entries) := by
  induction entries with
  | nil => exact .pure _
  | cons e es ih =>
    exact (agree_equal e.1 key).bind fun _ => .ite (.pure _) (ih.bind fun _ => .pure _)

theorem agree_ofEntries (entries : List (Value × Value)) :
    S.Agree (Value.ofEntries entries) (Value.ofEntries entries) := by
  refine (Agree.foldlM (fun acc e => ?_) entries []).bind fun _ => .pure _
  exact (agree_checkKey _ e.1).bind fun _ => agree_insert e.1 e.2 acc

theorem agree_member (v : Value) (xs : List Value) :
    S.Agree (Value.member v xs) (Value.member v xs) := by
  induction xs with
  | nil => exact .pure _
  | cons x xs ih => exact (agree_equal x v).bind fun _ => .ite (.pure _) ih

/-! ## Arithmetic -/

theorem agree_toFloat (n : Int) : S.Agree (Value.toFloat n) (Value.toFloat n) :=
  .ite (.accident _) (.pure _)

theorem agree_floats (a b : Numeric) : S.Agree (Value.floats a b) (Value.floats a b) := by
  cases a with
  | int a =>
    cases b with
    | int b => exact (agree_toFloat a).bind fun _ => (agree_toFloat b).bind fun _ => .pure _
    | float y => exact (agree_toFloat a).bind fun _ => .pure _
  | float x =>
    cases b with
    | int b => exact (agree_toFloat b).bind fun _ => .pure _
    | float y => exact .pure _

theorem agree_arithmetic {ints : Int → Int → Run Value} {reals : Binary64 → Binary64 → Run Value}
    (hints : ∀ x y, S.Agree (ints x y) (ints x y)) (hreals : ∀ x y, S.Agree (reals x y) (reals x y))
    (a b : Value) : S.Agree (Value.arithmetic ints reals a b) (Value.arithmetic ints reals a b) := by
  unfold Value.arithmetic
  split
  · exact agree_failUndefined _
  · exact agree_failUndefined _
  · split
    · exact hints _ _
    · exact (agree_floats _ _).bind fun _ => hreals _ _
    · exact .badType

theorem agree_add (a b : Value) : S.Agree (Value.add a b) (Value.add a b) := by
  unfold Value.add
  split
  · exact .pure _
  · exact (agree_listItems _).bind fun _ => (agree_listItems _).bind fun _ => agree_newList _
  · exact .pure _
  · exact agree_arithmetic (fun _ _ => .pure _) (fun _ _ => .pure _) _ _

theorem agree_sub (a b : Value) : S.Agree (Value.sub a b) (Value.sub a b) :=
  agree_arithmetic (fun _ _ => .pure _) (fun _ _ => .pure _) a b

theorem agree_repeated (v : Value) (n : Int) : S.Agree (Value.repeated v n) (Value.repeated v n) := by
  unfold Value.repeated
  split
  · exact .pure _
  · exact .pure _
  · exact (agree_listItems _).bind fun _ => agree_newList _
  · exact .badType

theorem agree_mul (a b : Value) : S.Agree (Value.mul a b) (Value.mul a b) := by
  unfold Value.mul
  refine .ite ?_ (.ite ?_ (agree_arithmetic (fun _ _ => .pure _) (fun _ _ => .pure _) a b))
  · split
    · exact agree_failUndefined _
    · split
      · exact agree_repeated _ _
      · exact .badType
  · split
    · exact agree_failUndefined _
    · split
      · exact agree_repeated _ _
      · exact .badType

theorem agree_div (a b : Value) : S.Agree (Value.div a b) (Value.div a b) :=
  agree_arithmetic (fun _ _ => .ite (.accident _) (.ite (.accident _) (.pure _)))
    (fun _ _ => .ite (.accident _) (.pure _)) a b

theorem agree_floorDiv (a b : Value) : S.Agree (Value.floorDiv a b) (Value.floorDiv a b) :=
  agree_arithmetic (fun _ _ => .ite (.accident _) (.pure _))
    (fun _ _ => .ite (.accident _) (.pure _)) a b

theorem agree_modulo (a b : Value) : S.Agree (Value.modulo a b) (Value.modulo a b) :=
  agree_arithmetic (fun _ _ => .ite (.accident _) (.pure _))
    (fun _ _ => .ite (.accident _) (.pure _)) a b

theorem agree_powFloat (x y : Binary64) : S.Agree (Value.powFloat x y) (Value.powFloat x y) :=
  .ite (.accident _) (.ite .badType (.ite (.accident _) (.pure _)))

theorem agree_pow (a b : Value) : S.Agree (Value.pow a b) (Value.pow a b) := by
  refine agree_arithmetic (fun x y => .ite (.pure _) (.ite (.accident _) ?_)) agree_powFloat a b
  exact (agree_toFloat x).bind fun _ => (agree_toFloat y).bind fun _ => agree_powFloat _ _

theorem agree_neg (v : Value) : S.Agree (Value.neg v) (Value.neg v) := by
  unfold Value.neg
  split
  · exact agree_failUndefined _
  · split
    · exact .pure _
    · exact .pure _
    · exact .badType

theorem agree_pos (v : Value) : S.Agree (Value.pos v) (Value.pos v) := by
  unfold Value.pos
  split
  · exact agree_failUndefined _
  · split
    · exact .pure _
    · exact .pure _
    · exact .badType

theorem agree_absolute (v : Value) : S.Agree (Value.absolute v) (Value.absolute v) := by
  unfold Value.absolute
  split
  · exact .badType
  · split
    · exact .pure _
    · exact .pure _
    · exact .badType

/-! ## Formatted text and sorting -/

theorem agree_directive (h : S.EngRel eng eng') (safe : Bool) (c : Char) (v : Value) :
    S.Agree (Value.directive eng safe c v) (Value.directive eng' safe c v) := by
  unfold Value.directive
  refine .ite (.ite (agree_escaped h v) (agree_str h v)) (.ite ?_ (.ite ?_ (.accident _)))
  · exact (agree_repr h v).bind fun _ => .pure _
  · split
    · exact .pure _
    · exact .pure _
    · exact .badType

theorem agree_fill (h : S.EngRel eng eng') (safe : Bool) (args : List Value) (done cs : List Char) :
    S.Agree (Value.fill eng safe args done cs) (Value.fill eng' safe args done cs) := by
  fun_induction Value.fill eng safe args done cs with
  | case1 => exact .pure _
  | case2 => exact .accident _
  | case3 args done c cs hc ih =>
    have hright : Value.fill eng' safe args done ('%' :: c :: cs) =
        Value.fill eng' safe args ('%' :: done) cs := by
      rw [Value.fill.eq_def]
      exact if_pos hc
    rw [hright]
    exact ih
  | case4 done c cs hc v args ih =>
    rw [Value.fill, if_neg hc]
    exact (agree_directive h safe c v).bind ih
  | case5 done c cs hc =>
    rw [Value.fill, if_neg hc]
    exact .badType
  | case6 args done c cs hend hmore ih =>
    rw [Value.fill]
    · exact ih
    · exact hend
    · exact hmore

theorem agree_format (h : S.EngRel eng eng') (s : String) (safe : Bool) (arg : Value) :
    S.Agree (Value.format eng s safe arg) (Value.format eng' s safe arg) :=
  (agree_fill h safe _ _ _).bind fun _ => .ite (.pure _) .badType

theorem agree_insertSorted {less less' : α → α → Run Bool}
    (hless : ∀ a b, S.Agree (less a b) (less' a b)) (x : α) (ys : List α) :
    S.Agree (Run.insertSorted less x ys) (Run.insertSorted less' x ys) := by
  induction ys with
  | nil => exact .pure _
  | cons y ys ih => exact (hless x y).bind fun _ => .ite (.pure _) (ih.bind fun _ => .pure _)

theorem agree_sortBy {less less' : α → α → Run Bool}
    (hless : ∀ a b, S.Agree (less a b) (less' a b)) (items : List α) :
    S.Agree (Run.sortBy less items) (Run.sortBy less' items) :=
  .foldlM (fun sorted x => agree_insertSorted hless x sorted) items []

/-! ## Members and items -/

theorem agree_peek (h : S.EngRel eng eng') (cell : Nat) :
    S.Agree (Value.peek eng cell) (Value.peek eng' cell) := by
  unfold Value.peek
  refine Agree.read_bind fun k w w' hw => ?_
  obtain ⟨hl, hl'⟩ | ⟨l, l', hl, hl', hrel⟩ := hw.loops.get? cell
  · rw [hl, hl']
    exact .pure _
  obtain ⟨r, rfl⟩ := hrel.eq_with
  rw [hl, hl']
  dsimp only
  cases l.ahead with
  | some v => exact .pure v
  | none =>
    refine (h.next _).bind fun v => ?_
    exact (agree_modifyLoop cell (fun _ => by rfl) fun _ _ => by rfl).bind fun _ => .pure _

theorem agree_loopMember (h : S.EngRel eng eng') (cell : Nat) (name : String) :
    S.Agree (Value.loopMember? eng cell name) (Value.loopMember? eng' cell name) := by
  unfold Value.loopMember?
  refine Agree.read_bind fun k w w' hw => ?_
  obtain ⟨hl, hl'⟩ | ⟨l, l', hl, hl', hrel⟩ := hw.loops.get? cell
  · rw [hl, hl']
    exact .pure _
  obtain ⟨r, rfl⟩ := hrel.eq_with
  rw [hl, hl']
  dsimp only
  have hmeasure {g : Nat → Run (Option Value)} (hg : ∀ n, S.Agree (g n) (g n)) :
      S.Agree (LoopCell.measure eng cell >>= g) (LoopCell.measure eng' cell >>= g) :=
    (agree_measure h cell).bind hg
  split
  case h_3 => exact hmeasure fun _ => .pure _
  case h_4 => exact hmeasure fun _ => .pure _
  case h_6 => exact (agree_peek h cell).bind fun _ => .pure _
  case h_7 => exact hmeasure fun _ => .pure _
  case h_10 => exact .ite ((agree_undefined _).bind fun _ => .pure _) (.pure _)
  case h_11 =>
    refine (agree_peek h cell).bind fun o => ?_
    cases o with
    | none => exact (agree_undefined _).bind fun _ => .pure _
    | some v => exact .pure _
  all_goals exact .pure _

theorem DefsRel.nil {k : S.Stage} : S.DefsRel k [] [] :=
  ⟨.nil, fun h => by simp at h⟩

theorem sim_blockDefs {k : S.Stage} (context : Nat) (name : String) :
    S.Sim k (Value.blockDefs context name) (Value.blockDefs context name) S.DefsRel := by
  refine (sim_context context).bind fun l _ c c' hc => Sim.pure ?_
  obtain ⟨_, blocks, -, hblocks⟩ := hc
  obtain ⟨h, h'⟩ | ⟨ds, ds', h, h', hrel⟩ := Keyed.lookup hblocks name
  · rw [h, h']
    exact .nil
  · rw [h, h']
    exact hrel

theorem agree_macroMember (cell : Nat) (name : String) :
    S.Agree (Value.attribute? eng (.macroRef cell) name)
      (Value.attribute? eng' (.macroRef cell) name) := by
  unfold Value.attribute?
  refine Agree.read_bind fun k w w' hw => ?_
  obtain ⟨hm, hm'⟩ | ⟨m, m', hm, hm', hrel⟩ := hw.macros.get? cell
  · rw [hm, hm']
    exact .pure _
  obtain ⟨host, -, -, -, -⟩ := hrel
  rw [hm, hm']
  dsimp only
  split <;> exact .pure _

theorem agree_attribute (h : S.EngRel eng eng') (v : Value) (name : String) :
    S.Agree (Value.attribute? eng v name) (Value.attribute? eng' v name) := by
  cases v with
  | macroRef cell => exact agree_macroMember cell name
  | loop cell => exact agree_loopMember h cell name
  | text s safe => cases safe <;> exact .pure _
  | space cell =>
    refine Agree.read_bind fun k w w' hw => ?_
    rw [hw.spaces]
    exact .pure _
  | cycler cell =>
    refine Agree.read_bind fun k w w' hw => ?_
    rw [hw.cyclers]
    dsimp only
    split <;> exact .pure _
  | joiner cell =>
    refine Agree.read_bind fun k w w' hw => ?_
    rw [hw.joiners]
    dsimp only
    split <;> exact .pure _
  | module cell =>
    refine Agree.read_bind fun k w w' hw => ?_
    rw [hw.modules]
    split
    · exact .pure _
    · exact .ite (.pure _) (.pure _)
  | block context n depth =>
    simp only [Value.attribute?]
    split
    · refine fun k => (sim_blockDefs context n).bind fun l _ ds ds' hds => ?_
      rw [hds.all.length_eq]
      exact Agree.ite ((agree_undefined _).bind fun _ => .pure _) (.pure _) l
    · exact .pure _
    · exact .pure _
  | range a b s =>
    simp only [Value.attribute?]
    split <;> exact .pure _
  | int n =>
    simp only [Value.attribute?]
    split <;> exact .pure _
  | float x =>
    simp only [Value.attribute?]
    split <;> exact .pure _
  | _ => exact .pure _

theorem agree_bound (v : Value) : S.Agree (Value.bound v) (Value.bound v) := by
  unfold Value.bound
  split
  · exact .pure _
  · split
    · exact .pure _
    · exact .badType

theorem agree_between (v : Value) (start stop : Option Int) (step : Int) :
    S.Agree (Value.between v start stop step) (Value.between v start stop step) := by
  unfold Value.between
  split
  · exact .pure _
  · exact .pure _
  · exact (agree_listItems _).bind fun _ => agree_newList _
  · exact .pure _
  · exact .badType

theorem agree_sliceOf (v start stop step : Value) :
    S.Agree (Value.sliceOf v start stop step) (Value.sliceOf v start stop step) := by
  unfold Value.sliceOf
  split
  case h_1 => exact .pure _
  case h_2 => exact agree_failUndefined _
  case h_7 => exact .badType
  all_goals
    refine (agree_bound start).bind fun _ => (agree_bound stop).bind fun _ => ?_
    exact (agree_bound step).bind fun _ => .ite (.accident _) (agree_between _ _ _ _)

theorem agree_item (v key : Value) : S.Agree (Value.item? v key) (Value.item? v key) := by
  unfold Value.item?
  split
  case h_1 | h_2 | h_3 | h_4 => exact (agree_sliceOf _ _ _ _).bind fun _ => .pure _
  case h_7 => exact (agree_listItems _).bind fun _ => .pure _
  case h_9 =>
    split
    case h_5 => exact agree_lookup _ _
    all_goals exact .pure _
  case h_10 context name _ =>
    refine fun k => (sim_context context).bind fun l _ c c' hc => ?_
    obtain ⟨_, blocks, -, hblocks⟩ := hc
    dsimp only
    obtain ⟨h, h'⟩ | ⟨ds, ds', h, h', -⟩ := Keyed.lookup hblocks name
    · rw [h, h']
      exact Sim.pure rfl
    · rw [h, h']
      exact Sim.pure rfl
  all_goals exact .pure _

theorem agree_missing (h : S.EngRel eng eng') (owner key : Value) :
    S.Agree (Value.missing eng owner key) (Value.missing eng' owner key) := by
  cases key with
  | text name safe => exact agree_undefined _
  | _ => exact (agree_repr h _).bind fun _ => agree_undefined _

theorem agree_getMember (h : S.EngRel eng eng') (v : Value) (name : String) :
    S.Agree (Value.getMember eng v name) (Value.getMember eng' v name) := by
  unfold Value.getMember
  split
  · exact .pure _
  · exact agree_failUndefined _
  · refine (agree_attribute h v name).bind fun o => ?_
    cases o with
    | some x => exact .pure x
    | none =>
      refine (agree_item v _).bind fun o => ?_
      cases o with
      | some x => exact .pure x
      | none => exact agree_missing h v _

theorem agree_getItem (h : S.EngRel eng eng') (v key : Value) :
    S.Agree (Value.getItem eng v key) (Value.getItem eng' v key) := by
  unfold Value.getItem
  split
  · exact .pure _
  · exact agree_failUndefined _
  · refine (agree_item v key).bind fun o => ?_
    cases o with
    | some x => exact .pure x
    | none =>
      dsimp only
      split
      · refine (agree_attribute h v _).bind fun o => ?_
        cases o with
        | some x => exact .pure x
        | none => exact agree_missing h v _
      · exact agree_missing h v _

end Simulation

end Stencil
