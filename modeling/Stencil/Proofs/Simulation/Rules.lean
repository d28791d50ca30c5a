import Stencil.Proofs.Simulation.Relation

/-!
# Rules for two runs side by side

`S.Sim k x x' V` says that two computations that start in corresponding states end in corresponding
states, with results related by `V` or with corresponding faults. `S.Agree x x'` is the case of equal
results at every stage, which is what holds of all operations on values. The rules below follow the
ways in which computations are put together.
-/

namespace Stencil

namespace Simulation

variable {α β γ δ : Type} (S : Simulation)

/-- How two computations end. -/
inductive Outcome (k : S.Stage) (V : S.Stage → α → β → Prop) :
    Except Fault α × World → Except Fault β × World → Prop
  | deep (r : Except Fault α × World) (w' : World) (h : S.loose) :
      Outcome k V r (.error (.accident .tooDeep), w')
  | done {l : S.Stage} {a : α} {b : β} {w w' : World} (hk : S.le k l) (hw : S.Rel l w w')
      (hab : V l a b) : Outcome k V (.ok a, w) (.ok b, w')
  | failed {l : S.Stage} {f f' : Fault} {w w' : World} (hk : S.le k l) (hw : S.Rel l w w')
      (hf : S.FaultRel f f') : Outcome k V (.error f, w) (.error f', w')

/-- Two computations do the same from corresponding states. -/
def Sim (k : S.Stage) (x : Run α) (x' : Run β) (V : S.Stage → α → β → Prop) : Prop :=
  ∀ w w', S.Rel k w w' →
    (∃ e ∈ Run.events x w, S.bad e) ∨ S.Outcome k V (Run.exec x w) (Run.exec x' w')

/-- Two computations give the same at every stage. -/
def Agree (x x' : Run α) : Prop :=
  ∀ k, S.Sim k x x' fun _ a b => b = a

/-- Two computations give the same at a stage and at every later one. -/
def AgreeFrom (k : S.Stage) (x x' : Run α) : Prop :=
  ∀ l, S.le k l → S.Sim l x x' fun _ a b => b = a

variable {S} {k : S.Stage} {V : S.Stage → α → β → Prop} {U : S.Stage → γ → δ → Prop}

theorem Outcome.mono {l : S.Stage} (hk : S.le k l) {r : Except Fault α × World}
    {r' : Except Fault β × World} (h : S.Outcome l V r r') : S.Outcome k V r r' := by
  cases h with
  | deep _ w' h => exact .deep r w' h
  | done hl hw hab => exact .done (S.le_trans hk hl) hw hab
  | failed hl hw hf => exact .failed (S.le_trans hk hl) hw hf

/-- Two computations that do the same give the same, where neither positions nor depth can tell them
apart. -/
theorem Sim.result_eq {x x' : Run α} (h : S.Sim k x x' fun _ a b => b = a)
    (hbad : ∀ e, ¬ S.bad e) (hloose : ¬ S.loose) (hhost : ∀ h h', S.host h h' → h' = h)
    (hline : ∀ l l', S.line l l' → l' = l) {w w' : World} (hw : S.Rel k w w') :
    (Run.exec x' w').1 = (Run.exec x w).1 := by
  obtain ⟨e, -, he⟩ | ho := h w w' hw
  · exact absurd he (hbad e)
  generalize Run.exec x w = r, Run.exec x' w' = r' at ho ⊢
  cases ho with
  | deep _ w' hl => exact absurd hl hloose
  | done _ _ hab => exact congrArg Except.ok hab
  | failed _ _ hf => exact congrArg Except.error (hf.eq hhost hline)

/-! ## Sequences and faults -/

theorem Sim.pure {a : α} {b : β} (h : V k a b) : S.Sim k (pure a) (pure b) V :=
  fun _ _ hw => .inr (.done (S.le_refl k) hw h)

theorem Sim.throw {f f' : Fault} (h : S.FaultRel f f') :
    S.Sim k (throw f : Run α) (throw f' : Run β) V :=
  fun _ _ hw => .inr (.failed (S.le_refl k) hw h)

theorem Sim.accident (a : Accident) :
    S.Sim k (Run.accident a : Run α) (Run.accident a : Run β) V :=
  Sim.throw (.accident a)

theorem Sim.badType : S.Sim k (Run.badType : Run α) (Run.badType : Run β) V :=
  Sim.accident .badType

theorem Sim.bind {x : Run γ} {x' : Run δ} {f : γ → Run α} {f' : δ → Run β}
    (hx : S.Sim k x x' U)
    (hf : ∀ l, S.le k l → ∀ a b, U l a b → S.Sim l (f a) (f' b) V) :
    S.Sim k (x >>= f) (x' >>= f') V := by
  intro w w' hw
  rw [Run.events_bind, Run.exec_bind, Run.exec_bind]
  obtain ⟨e, he, hbad⟩ | ho := hx w w' hw
  · exact .inl ⟨e, List.mem_append_right _ he, hbad⟩
  generalize Run.exec x w = r, Run.exec x' w' = r' at ho ⊢
  cases ho with
  | deep _ w₁' h => exact .inr (.deep _ w₁' h)
  | failed hk hw₁ hf => exact .inr (.failed hk hw₁ hf)
  | done hk hw₁ hab =>
    obtain ⟨e, he, hbad⟩ | ho := hf _ hk _ _ hab _ _ hw₁
    · exact .inl ⟨e, List.mem_append_left _ he, hbad⟩
    · exact .inr (ho.mono hk)

theorem Sim.imp {V' : S.Stage → α → β → Prop} {x : Run α} {x' : Run β} (h : S.Sim k x x' V)
    (himp : ∀ l, S.le k l → ∀ a b, V l a b → V' l a b) : S.Sim k x x' V' := by
  intro w w' hw
  obtain he | ho := h w w' hw
  · exact .inl he
  · right
    generalize Run.exec x w = r, Run.exec x' w' = r' at ho ⊢
    cases ho with
    | deep _ w₁' h => exact .deep r w₁' h
    | done hk hw₁ hab => exact .done hk hw₁ (himp _ hk _ _ hab)
    | failed hk hw₁ hf => exact .failed hk hw₁ hf

theorem Sim.map {x : Run γ} {x' : Run δ} {f : γ → α} {f' : δ → β} (hx : S.Sim k x x' U)
    (hf : ∀ l, S.le k l → ∀ a b, U l a b → V l (f a) (f' b)) :
    S.Sim k (f <$> x) (f' <$> x') V := by
  rw [← bind_pure_comp, ← bind_pure_comp]
  exact hx.bind fun l hl a b hab => .pure (hf l hl a b hab)

/-- A fault may be dealt with where running out of depth is passed on. -/
theorem Sim.handle {x : Run α} {x' : Run β} {h : Fault → Run α} {h' : Fault → Run β}
    (hx : S.Sim k x x' V)
    (hh : ∀ l, S.le k l → ∀ f f', S.FaultRel f f' → S.Sim l (h f) (h' f') V)
    (hdeep : S.loose → ∀ w, (Run.exec (h' (.accident .tooDeep)) w).1 = .error (.accident .tooDeep)) :
    S.Sim k (tryCatch x h) (tryCatch x' h') V := by
  intro w w' hw
  rw [Run.events_tryCatch, Run.exec_tryCatch, Run.exec_tryCatch]
  obtain ⟨e, he, hbad⟩ | ho := hx w w' hw
  · exact .inl ⟨e, List.mem_append_right _ he, hbad⟩
  generalize Run.exec x w = r, Run.exec x' w' = r' at ho ⊢
  cases ho with
  | deep _ w₁' hl =>
    have hfst := hdeep hl w₁'
    rw [Run.orElse_error]
    generalize Run.exec (h' (.accident .tooDeep)) w₁' = o at hfst
    obtain ⟨_, w₂'⟩ := o
    cases hfst
    exact .inr (.deep _ w₂' hl)
  | done hk hw₁ hab => exact .inr (.done hk hw₁ hab)
  | failed hk hw₁ hf =>
    obtain ⟨e, he, hbad⟩ | ho := hh _ hk _ _ hf _ _ hw₁
    · exact .inl ⟨e, List.mem_append_left _ he, hbad⟩
    · exact .inr (ho.mono hk)

/-- Any fault may be dealt with where depth plays no part. -/
theorem Sim.handle_of_shallow {x : Run α} {x' : Run β} {h : Fault → Run α} {h' : Fault → Run β}
    (hx : S.Sim k x x' V)
    (hh : ∀ l, S.le k l → ∀ f f', S.FaultRel f f' → S.Sim l (h f) (h' f') V)
    (hshallow : ∀ w, (Run.exec x' w).1 ≠ .error (.accident .tooDeep)) :
    S.Sim k (tryCatch x h) (tryCatch x' h') V := by
  intro w w' hw
  rw [Run.events_tryCatch, Run.exec_tryCatch, Run.exec_tryCatch]
  obtain ⟨e, he, hbad⟩ | ho := hx w w' hw
  · exact .inl ⟨e, List.mem_append_right _ he, hbad⟩
  have hne := hshallow w'
  generalize Run.exec x w = r, Run.exec x' w' = r' at ho hne ⊢
  cases ho with
  | deep _ w₁' hl => exact absurd rfl hne
  | done hk hw₁ hab => exact .inr (.done hk hw₁ hab)
  | failed hk hw₁ hf =>
    obtain ⟨e, he, hbad⟩ | ho := hh _ hk _ _ hf _ _ hw₁
    · exact .inl ⟨e, List.mem_append_left _ he, hbad⟩
    · exact .inr (ho.mono hk)

/-! ## The state -/

/-- What is read off the state may be used as it is then. -/
theorem Sim.read_bind {f : World → Run α} {f' : World → Run β}
    (hf : ∀ w w', S.Rel k w w' → S.Sim k (f w) (f' w') V) :
    S.Sim k (get >>= f) (get >>= f') V := by
  intro w w' hw
  rw [Run.events_bind, Run.exec_bind, Run.exec_bind, Run.exec_get, Run.exec_get]
  obtain ⟨e, he, hbad⟩ | ho := hf w w' hw w w' hw
  · exact .inl ⟨e, List.mem_append_left _ he, hbad⟩
  · exact .inr ho

/-- The state may be looked at on the left alone. -/
theorem Sim.read_left {f : World → Run α} {x' : Run β}
    (hf : ∀ w w', S.Rel k w w' → S.Sim k (f w) x' V) : S.Sim k (get >>= f) x' V := by
  intro w w' hw
  rw [Run.events_bind, Run.exec_bind, Run.exec_get]
  obtain ⟨e, he, hbad⟩ | ho := hf w w' hw w w' hw
  · exact .inl ⟨e, List.mem_append_left _ he, hbad⟩
  · exact .inr ho

theorem Sim.update {g g' : World → World} (hg : ∀ w w', S.Rel k w w' → S.Rel k (g w) (g' w')) :
    S.Sim k (modify g) (modify g') fun _ _ _ => True :=
  fun w w' hw => .inr (.done (S.le_refl k) (hg w w' hw) trivial)

/-- A change of the state leaves the stage as it is. -/
theorem Sim.update_bind {g g' : World → World} {f : PUnit → Run α} {f' : PUnit → Run β}
    (hg : ∀ w w', S.Rel k w w' → S.Rel k (g w) (g' w')) (hf : S.Sim k (f ⟨⟩) (f' ⟨⟩) V) :
    S.Sim k (MonadState.modifyGet (fun w => (⟨⟩, g w)) >>= f)
      (MonadState.modifyGet (fun w => (⟨⟩, g' w)) >>= f') V := by
  intro w w' hw
  rw [Run.events_bind, Run.exec_bind, Run.exec_bind]
  obtain ⟨e, he, hbad⟩ | ho := hf _ _ (hg w w' hw)
  · exact .inl ⟨e, List.mem_append_left _ he, hbad⟩
  · exact .inr ho

/-- A new state that is made from the present one, with a result. -/
theorem Sim.replace {g g' : World → World} {a : World → α} {b : World → β}
    (h : ∀ w w', S.Rel k w w' → ∃ l, S.le k l ∧ S.Rel l (g w) (g' w') ∧ V l (a w) (b w')) :
    S.Sim k (do let w ← get; set (g w); return a w)
      (do let w ← get; set (g' w); return b w) V := by
  intro w w' hw
  obtain ⟨l, hl, hw₁, hab⟩ := h w w' hw
  exact .inr (.done hl hw₁ hab)

/-- An event is noted on both sides; if it is a bad one, nothing is said of what follows. -/
theorem Sim.record_bind {e e' : Event} {f : Unit → Run α} {f' : Unit → Run β}
    (hf : S.bad e ∨ S.Sim k (f ()) (f' ()) V) :
    S.Sim k (Run.record e >>= f) (Run.record e' >>= f') V := by
  intro w w' hw
  rw [Run.events_bind, Run.exec_bind, Run.exec_bind]
  obtain hbad | hf := hf
  · exact .inl ⟨e, List.mem_append_right _ (List.mem_singleton.2 rfl), hbad⟩
  obtain ⟨d, hd, hbad⟩ | ho := hf w w' hw
  · exact .inl ⟨d, List.mem_append_left _ hd, hbad⟩
  · exact .inr ho

/-! ## Computations that agree -/

theorem Agree.pure (a : α) : S.Agree (pure a) (pure a) :=
  fun _ => Sim.pure rfl

theorem Agree.throw {f f' : Fault} (h : S.FaultRel f f') :
    S.Agree (throw f : Run α) (throw f') :=
  fun _ => Sim.throw h

theorem Agree.accident (a : Accident) : S.Agree (Run.accident a : Run α) (Run.accident a) :=
  fun _ => Sim.accident a

theorem Agree.badType : S.Agree (Run.badType : Run α) Run.badType :=
  fun _ => Sim.badType

/-- Equal results make what follows the same on both sides. -/
theorem Sim.agree_bind {x x' : Run γ} {f : γ → Run α} {f' : γ → Run β} (hx : S.Agree x x')
    (hf : ∀ l, S.le k l → ∀ a, S.Sim l (f a) (f' a) V) : S.Sim k (x >>= f) (x' >>= f') V := by
  refine (hx k).bind fun l hl a b hab => ?_
  subst hab
  exact hf l hl b

theorem Agree.bind {x x' : Run γ} {f f' : γ → Run α} (hx : S.Agree x x')
    (hf : ∀ a, S.Agree (f a) (f' a)) : S.Agree (x >>= f) (x' >>= f') :=
  fun _ => Sim.agree_bind hx fun l _ a => hf a l

theorem Agree.map {x x' : Run γ} (f : γ → α) (hx : S.Agree x x') :
    S.Agree (f <$> x) (f <$> x') := by
  rw [← bind_pure_comp, ← bind_pure_comp]
  exact hx.bind fun a => .pure (f a)

theorem Agree.discard {x x' : Run α} (hx : S.Agree x x') :
    S.Agree (discard x) (discard x') :=
  hx.map _

theorem Agree.handle {x x' : Run α} {h h' : Fault → Run α} (hx : S.Agree x x')
    (hh : ∀ f f', S.FaultRel f f' → S.Agree (h f) (h' f'))
    (hdeep : S.loose → ∀ w, (Run.exec (h' (.accident .tooDeep)) w).1 = .error (.accident .tooDeep)) :
    S.Agree (tryCatch x h) (tryCatch x' h') :=
  fun k => (hx k).handle (fun l _ f f' hf => hh f f' hf l) hdeep

theorem Agree.ite {c : Prop} [Decidable c] {x x' y y' : Run α} (hx : S.Agree x x')
    (hy : S.Agree y y') : S.Agree (if c then x else y) (if c then x' else y') := by
  split
  · exact hx
  · exact hy

/-- What is read off the state is the same on both sides. -/
theorem Agree.read_bind {f f' : World → Run α}
    (hf : ∀ k w w', S.Rel k w w' → S.Agree (f w) (f' w')) : S.Agree (get >>= f) (get >>= f') :=
  fun k => Sim.read_bind fun w w' hw => hf k w w' hw k

theorem Agree.update {g g' : World → World}
    (hg : ∀ k w w', S.Rel k w w' → S.Rel k (g w) (g' w')) : S.Agree (modify g) (modify g') :=
  fun k => (Sim.update (hg k)).imp fun _ _ _ _ _ => rfl

/-- A new state that is made from the present one, with a result. -/
theorem Agree.replace {g g' : World → World} {a a' : World → α}
    (h : ∀ k w w', S.Rel k w w' → S.Rel k (g w) (g' w') ∧ a' w' = a w) :
    S.Agree (do let w ← get; set (g w); return a w) (do let w ← get; set (g' w); return a' w) :=
  fun k => Sim.replace fun w w' hw => ⟨k, S.le_refl k, h k w w' hw⟩

/-! ## Lists -/

theorem Agree.mapM {f f' : γ → Run α} (h : ∀ a, S.Agree (f a) (f' a)) (xs : List γ) :
    S.Agree (xs.mapM f) (xs.mapM f') := by
  induction xs with
  | nil => exact .pure []
  | cons x xs ih =>
    rw [List.mapM_cons, List.mapM_cons]
    exact (h x).bind fun a => ih.bind fun as => .pure (a :: as)

theorem Agree.forM {f f' : γ → Run PUnit} (h : ∀ a, S.Agree (f a) (f' a)) (xs : List γ) :
    S.Agree (xs.forM f) (xs.forM f') := by
  induction xs with
  | nil => exact .pure _
  | cons x xs ih => exact (h x).bind fun _ => ih

theorem Agree.foldlM {f f' : α → γ → Run α} (h : ∀ acc a, S.Agree (f acc a) (f' acc a))
    (xs : List γ) (start : α) : S.Agree (xs.foldlM f start) (xs.foldlM f' start) := by
  induction xs generalizing start with
  | nil => exact .pure start
  | cons x xs ih => exact (h start x).bind fun acc => ih acc

theorem Agree.filterMapM {f f' : γ → Run (Option α)} (h : ∀ a, S.Agree (f a) (f' a))
    (xs : List γ) : S.Agree (xs.filterMapM f) (xs.filterMapM f') := by
  induction xs with
  | nil => exact .pure []
  | cons x xs ih =>
    rw [List.filterMapM_cons, List.filterMapM_cons]
    refine (h x).bind fun o => ?_
    cases o with
    | none => exact ih
    | some a => exact ih.bind fun as => .pure (a :: as)

/-! ## Computations that agree from a stage on -/

theorem Agree.after {x x' : Run α} (h : S.Agree x x') : S.AgreeFrom k x x' :=
  fun l _ => h l

namespace AgreeFrom

theorem now {x x' : Run α} (h : S.AgreeFrom k x x') : S.Sim k x x' fun _ a b => b = a :=
  h k (S.le_refl k)

theorem pure (a : α) : S.AgreeFrom k (pure a) (pure a) :=
  (Agree.pure a).after

theorem accident (a : Accident) : S.AgreeFrom k (Run.accident a : Run α) (Run.accident a) :=
  (Agree.accident a).after

theorem bind {x x' : Run γ} {f f' : γ → Run α} (hx : S.AgreeFrom k x x')
    (hf : ∀ a, S.AgreeFrom k (f a) (f' a)) : S.AgreeFrom k (x >>= f) (x' >>= f') := by
  refine fun l hl => (hx l hl).bind fun m hm a b hab => ?_
  subst hab
  exact hf b m (S.le_trans hl hm)

theorem map {x x' : Run γ} (f : γ → α) (hx : S.AgreeFrom k x x') :
    S.AgreeFrom k (f <$> x) (f <$> x') := by
  rw [← bind_pure_comp, ← bind_pure_comp]
  exact hx.bind fun a => .pure (f a)

theorem discard {x x' : Run α} (hx : S.AgreeFrom k x x') :
    S.AgreeFrom k (discard x) (discard x') :=
  hx.map _

theorem ite {c : Prop} [Decidable c] {x x' y y' : Run α} (hx : S.AgreeFrom k x x')
    (hy : S.AgreeFrom k y y') : S.AgreeFrom k (if c then x else y) (if c then x' else y') := by
  split
  · exact hx
  · exact hy

/-- What is read off the state is the same on both sides. -/
theorem read_bind {f f' : World → Run α}
    (hf : ∀ l w w', S.Rel l w w' → S.AgreeFrom k (f w) (f' w')) :
    S.AgreeFrom k (get >>= f) (get >>= f') :=
  fun l hl => Sim.read_bind fun w w' hw => hf l w w' hw l hl

end AgreeFrom

end Simulation

end Stencil
