import Mathlib.Data.List.Forall2
import Stencil.Render.Frame

/-!
# Named values side by side

Lists of named values with the same names in the same order, whose values are related. Looking a name
up, and setting it, gives related results on both sides.
-/

namespace Stencil

variable {α β : Type} {R R' : α → β → Prop} {t : List (String × α)} {t' : List (String × β)}

/-- Named values under the same names, of which each is related to the other. -/
def Keyed (R : α → β → Prop) (t : List (String × α)) (t' : List (String × β)) : Prop :=
  List.Forall₂ (fun b b' => b'.1 = b.1 ∧ R b.2 b'.2) t t'

namespace Keyed

theorem imp (h : Keyed R t t') (hR : ∀ a b, R a b → R' a b) : Keyed R' t t' :=
  List.Forall₂.imp (fun _ _ hb => ⟨hb.1, hR _ _ hb.2⟩) h

/-- What a function makes of each name. -/
theorem of_names {f : String → α} {g : String → β} (h : ∀ n, R (f n) (g n)) (names : List String) :
    Keyed R (names.map fun n => (n, f n)) (names.map fun n => (n, g n)) := by
  induction names with
  | nil => exact .nil
  | cons n ns ih => exact .cons ⟨rfl, h n⟩ ih

theorem any_eq (h : Keyed R t t') (name : String) :
    (t'.any fun b => b.1 == name) = t.any fun b => b.1 == name := by
  induction h with
  | nil => rfl
  | cons hb _ ih => rw [List.any_cons, List.any_cons, hb.1, ih]

theorem lookup (h : Keyed R t t') (name : String) :
    (t.lookup name = none ∧ t'.lookup name = none) ∨
      ∃ a b, t.lookup name = some a ∧ t'.lookup name = some b ∧ R a b := by
  induction h with
  | nil => exact .inl ⟨rfl, rfl⟩
  | @cons b b' t t' hb _ ih =>
    rw [List.lookup_cons, List.lookup_cons, hb.1]
    cases name == b.1 with
    | true => exact .inr ⟨_, _, rfl, rfl, hb.2⟩
    | false => exact ih

theorem setNamed (h : Keyed R t t') (name : String) {a : α} {b : β} (hab : R a b) :
    Keyed R (Run.setNamed name a t) (Run.setNamed name b t') := by
  unfold Run.setNamed
  rw [h.any_eq]
  split
  · refine List.forall₂_map_left_iff.2 (List.forall₂_map_right_iff.2 ?_)
    refine List.Forall₂.imp (fun b b' hb => ?_) h
    rw [hb.1]
    split
    · exact ⟨rfl, hab⟩
    · exact hb
  · exact List.rel_append h (.cons ⟨rfl, hab⟩ .nil)

end Keyed

end Stencil
