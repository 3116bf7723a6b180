import Mathlib.Data.List.Forall2

/-!
# Masking functions

A function masks a value up to a relation when an observer of the result cannot
tell the value from a related one.  Over lists whose elements are related one by
one, masking is decided element by element, which is what reduces a statement
about a whole document to its parts.
-/

namespace Masking

universe u v
variable {α : Type u} {β : Type v}

/-- Nothing that `Same` lets vary around `value` can be seen in the result. -/
def Hides (Same : α → α → Prop) (mask : α → β) (value : α) : Prop :=
  ∀ other, Same value other → mask other = mask value

theorem hides_eq (mask : α → β) (value : α) : Hides Eq mask value := by
  rintro other rfl
  rfl

theorem hides_nil {Same : α → α → Prop} (mask : List α → β) : Hides (List.Forall₂ Same) mask [] := by
  intro other hs
  cases hs
  rfl

section Lists

variable {Same : α → α → Prop} (same_refl : ∀ value, Same value value)

include same_refl

/-- A mask that works through a list hides it when it hides the head and, in the
way it goes on behind this head, the tail. -/
theorem hides_cons_iff {value : α} {values : List α} {whole tail : List α → List β} {head : α → β}
    (split : ∀ other others, Same value other → whole (other :: others) = head other :: tail others) :
    Hides (List.Forall₂ Same) whole (value :: values) ↔
      Hides Same head value ∧ Hides (List.Forall₂ Same) tail values := by
  have tails_refl : List.Forall₂ Same values values := List.forall₂_same.mpr fun x _ => same_refl x
  constructor
  · intro hides
    constructor
    · intro other hs
      have equal := hides (other :: values) (.cons hs tails_refl)
      rw [split other values hs, split value values (same_refl value)] at equal
      exact (List.cons.inj equal).1
    · intro others hs
      have equal := hides (value :: others) (.cons (same_refl value) hs)
      rw [split value others (same_refl value), split value values (same_refl value)] at equal
      exact (List.cons.inj equal).2
  · rintro ⟨headHidden, tailHidden⟩ others hs
    cases hs with
    | cons hs sameTail =>
      rw [split _ _ hs, split _ _ (same_refl value), headHidden _ hs, tailHidden _ sameTail]

theorem hides_map_iff (mask : α → β) (values : List α) :
    Hides (List.Forall₂ Same) (List.map mask) values ↔ ∀ value ∈ values, Hides Same mask value := by
  induction values with
  | nil => simp [hides_nil]
  | cons value values ih =>
    rw [hides_cons_iff same_refl (fun _ _ _ => rfl), ih, List.forall_mem_cons]

end Lists

end Masking
