import Stencil.Render.World

/-!
# Running a computation from a state

`Run.exec x w` is what a computation gives when it starts in the state `w`, and `Run.events x w` is
what happens on the way. The lemmas below say how the ways of putting computations together act on
both, so that proofs need not look at how `Run` is made.
-/

namespace Stencil

namespace Run

variable {α β : Type}

/-- Goes on after a computation, unless it failed. -/
def andThen (r : Except Fault α × World) (f : α → World → Except Fault β × World) :
    Except Fault β × World :=
  match r with
  | (.ok a, w) => f a w
  | (.error e, w) => (.error e, w)

@[simp] theorem andThen_ok (a : α) (w : World) (f : α → World → Except Fault β × World) :
    andThen (.ok a, w) f = f a w := rfl

@[simp] theorem andThen_error (e : Fault) (w : World) (f : α → World → Except Fault β × World) :
    andThen (.error e, w) f = (.error e, w) := rfl

/-- A computation that gives a result has come through its first part. -/
theorem exists_of_andThen {r : Except Fault α × World}
    {g : α → World → Except Fault β × World} {b : β} {w' : World} (h : andThen r g = (.ok b, w')) :
    ∃ a u, r = (.ok a, u) ∧ g a u = (.ok b, w') := by
  obtain ⟨r, u⟩ := r
  cases r with
  | error e => cases h
  | ok a => exact ⟨a, u, rfl, h⟩

theorem ext {x y : Run α} (hexec : ∀ w, exec x w = exec y w)
    (hevents : ∀ w, events x w = events y w) : x = y :=
  funext fun w => Log.ext (hexec w) (hevents w)

@[simp] theorem exec_pure (a : α) (w : World) : exec (pure a) w = (.ok a, w) := rfl

@[simp] theorem events_pure (a : α) (w : World) : events (pure a) w = [] := rfl

/-- How a computation goes on, as a computation of the layer below. -/
theorem run_bind (x : Run α) (f : α → Run β) (w : World) :
    (x >>= f).run.run w = ((x.run.run w) >>= fun r => match r with
      | (.ok a, w) => (f a).run.run w
      | (.error e, w) => pure (.error e, w)) := by
  change ((x.run.run w) >>= fun r => ExceptT.bindCont f r.1 r.2) = _
  congr 1
  funext r
  cases r with
  | mk a w => cases a <;> rfl

@[simp] theorem exec_bind (x : Run α) (f : α → Run β) (w : World) :
    exec (x >>= f) w = andThen (exec x w) fun a w => exec (f a) w := by
  rw [exec, run_bind, Log.value_bind]
  change (match exec x w with | (.ok a, w) => _ | (.error e, w) => _ : Log _).value = _
  cases exec x w with
  | mk r s => cases r <;> rfl

/-- What happens in a computation and in what follows it, the latest first. -/
theorem events_bind (x : Run α) (f : α → Run β) (w : World) :
    events (x >>= f) w =
      (match exec x w with
        | (.ok a, w) => events (f a) w
        | (.error _, _) => []) ++ events x w := by
  rw [events, run_bind, Log.events_bind]
  change (match exec x w with | (.ok a, w) => _ | (.error e, w) => _ : Log _).events ++ _ = _
  cases exec x w with
  | mk r s => cases r <;> rfl

@[simp] theorem exec_map (g : α → β) (x : Run α) (w : World) :
    exec (g <$> x) w = andThen (exec x w) fun a w => (.ok (g a), w) := by
  rw [← bind_pure_comp, exec_bind]
  rfl

@[simp] theorem exec_discard (x : Run α) (w : World) :
    exec (discard x) w = andThen (exec x w) fun _ w => (.ok PUnit.unit, w) :=
  exec_map _ x w

@[simp] theorem exec_throw (e : Fault) (w : World) :
    exec (throw e : Run α) w = (.error e, w) := rfl

@[simp] theorem exec_get (w : World) : exec (get : Run World) w = (.ok w, w) := rfl

@[simp] theorem exec_set (v w : World) : exec (set v : Run PUnit) w = (.ok PUnit.unit, v) := rfl

@[simp] theorem exec_modify (f : World → World) (w : World) :
    exec (modify f : Run PUnit) w = (.ok PUnit.unit, f w) := rfl

@[simp] theorem exec_record (e : Event) (w : World) : exec (record e) w = (.ok (), w) := rfl

@[simp] theorem events_record (e : Event) (w : World) : events (record e) w = [e] := rfl

/-- Deals with the fault of a computation that failed. -/
def orElse (r : Except Fault α × World) (h : Fault → World → Except Fault α × World) :
    Except Fault α × World :=
  match r with
  | (.ok a, w) => (.ok a, w)
  | (.error e, w) => h e w

@[simp] theorem orElse_ok (a : α) (w : World) (h : Fault → World → Except Fault α × World) :
    orElse (.ok a, w) h = (.ok a, w) := rfl

@[simp] theorem orElse_error (e : Fault) (w : World) (h : Fault → World → Except Fault α × World) :
    orElse (.error e, w) h = h e w := rfl

/-- How a failed computation is dealt with, as a computation of the layer below. -/
theorem run_tryCatch (x : Run α) (h : Fault → Run α) (w : World) :
    (tryCatch x h).run.run w = ((x.run.run w) >>= fun r => match r with
      | (.ok a, w) => pure (.ok a, w)
      | (.error e, w) => (h e).run.run w) := by
  simp only [tryCatch, tryCatchThe, MonadExceptOf.tryCatch, ExceptT.tryCatch, ExceptT.run_mk,
    StateT.run_bind]
  congr 1
  funext r
  cases r with
  | mk a w => cases a <;> rfl

@[simp] theorem exec_tryCatch (x : Run α) (h : Fault → Run α) (w : World) :
    exec (tryCatch x h) w = orElse (exec x w) fun e w => exec (h e) w := by
  rw [exec, run_tryCatch, Log.value_bind]
  change (match exec x w with | (.ok a, w) => _ | (.error e, w) => _ : Log _).value = _
  cases exec x w with
  | mk r s => cases r <;> rfl

/-- What happens in a computation and where its fault is dealt with, the latest first. -/
theorem events_tryCatch (x : Run α) (h : Fault → Run α) (w : World) :
    events (tryCatch x h) w =
      (match exec x w with
        | (.ok _, _) => []
        | (.error e, w) => events (h e) w) ++ events x w := by
  rw [events, run_tryCatch, Log.events_bind]
  change (match exec x w with | (.ok a, w) => _ | (.error e, w) => _ : Log _).events ++ _ = _
  cases exec x w with
  | mk r s => cases r <;> rfl

@[simp] theorem exec_accident (a : Accident) (w : World) :
    exec (accident a : Run α) w = (.error (.accident a), w) := rfl

@[simp] theorem exec_ite (c : Prop) [Decidable c] (x y : Run α) (w : World) :
    exec (if c then x else y) w = if c then exec x w else exec y w := by
  split <;> rfl

end Run

end Stencil
