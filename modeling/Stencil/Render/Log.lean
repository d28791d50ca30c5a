/-!
# Noting what happens

A run of a template notes which templates it asks for. The notes are added to those already there,
which are passed along but never looked at: a computation does the same whatever happened before.
-/

namespace Stencil

/-- What a run asks for by a name, what it compiles and keeps, and where it shows a name of its
own. -/
inductive Event where
  /-- A template was asked for; the tags of embeds ask by key and are not counted. -/
  | request (name : String)
  /-- A source was compiled under a name, or without one. -/
  | compilation (host : Option String)
  /-- A template was extended, or asked for the one module it has. -/
  | attachment (name : Option String)
  /-- A running template was written out as a value, which shows its name. -/
  | reference (context : Nat)
deriving DecidableEq

/-- A computation that adds events to a list, the latest first. -/
structure Log (α : Type) where
  run : List Event → α × List Event
  adds : ∀ before, run before = ((run []).1, (run []).2 ++ before)

namespace Log

variable {α β : Type}

/-- The result of a computation. -/
def value (x : Log α) : α := (x.run []).1

/-- The events that a computation adds. -/
def events (x : Log α) : List Event := (x.run []).2

theorem run_eq (x : Log α) (before : List Event) :
    x.run before = (x.value, x.events ++ before) :=
  x.adds before

theorem ext {x y : Log α} (hvalue : x.value = y.value) (hevents : x.events = y.events) :
    x = y := by
  have hrun : x.run = y.run := by
    funext before
    rw [run_eq, run_eq, hvalue, hevents]
  cases x
  cases y
  cases hrun
  rfl

@[always_inline]
instance : Monad Log where
  pure a := ⟨fun before => (a, before), fun _ => rfl⟩
  bind x f := {
    run := fun before =>
      match x.run before with
      | (a, before) => (f a).run before
    adds := fun before => by
      simp only [run_eq, List.append_assoc, List.append_nil] }

/-- Notes an event. -/
def note (e : Event) : Log Unit :=
  ⟨fun before => ((), e :: before), fun _ => rfl⟩

@[simp] theorem value_pure (a : α) : (pure a : Log α).value = a := rfl

@[simp] theorem events_pure (a : α) : (pure a : Log α).events = [] := rfl

@[simp] theorem value_bind (x : Log α) (f : α → Log β) : (x >>= f).value = (f x.value).value := by
  change ((f (x.run []).1).run (x.run []).2).1 = _
  rw [run_eq]
  rfl

@[simp] theorem events_bind (x : Log α) (f : α → Log β) :
    (x >>= f).events = (f x.value).events ++ x.events := by
  change ((f (x.run []).1).run (x.run []).2).2 = _
  rw [run_eq (f _)]
  rfl

instance : LawfulMonad Log :=
  LawfulMonad.mk' Log
    (fun x => by apply ext <;> simp [Functor.map])
    (fun a f => by apply ext <;> simp)
    (fun x f g => by apply ext <;> simp [List.append_assoc])

end Log

end Stencil
