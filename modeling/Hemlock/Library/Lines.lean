import Mathlib.Data.List.Basic

/-!
# Ended fields

A text in which a mark ends each field.  Whoever splits it at the marks finds the fields
that were written exactly when none of them has a mark in it.
-/

namespace Lines

variable {α : Type} [DecidableEq α] {mark : α} {fields : List (List α)}

/-- The fields one behind the other, each with the mark at its end. -/
def ended (mark : α) (fields : List (List α)) : List α := fields.flatMap (· ++ [mark])

theorem splitOn_ended (plain : ∀ field ∈ fields, mark ∉ field) :
    (ended mark fields).splitOn mark = fields ++ [[]] := by
  induction fields with
  | nil => rfl
  | cons field fields ih =>
    have rest := ih fun field hl => plain field (List.mem_cons_of_mem _ hl)
    rw [ended, List.flatMap_cons, List.append_assoc, List.singleton_append,
      List.splitOn_append_cons_self_of_not_mem (plain field List.mem_cons_self)]
    exact congrArg _ rest

theorem not_mem_of_mem_splitOn {text field : List α} (hl : field ∈ text.splitOn mark) : mark ∉ field := by
  induction text generalizing field with
  | nil => simp_all
  | cons x text ih =>
    rw [List.splitOn_cons_eq_if_modifyHead] at hl
    split_ifs at hl with isMark
    · rcases List.mem_cons.mp hl with rfl | later
      · exact List.not_mem_nil
      · exact ih later
    · have other : mark ≠ x := fun hs => isMark (beq_iff_eq.mpr hs.symm)
      cases split : text.splitOn mark with
      | nil => exact absurd split (List.splitOn_ne_nil _ _)
      | cons first rest =>
        rw [split] at ih hl
        rcases List.mem_cons.mp hl with rfl | later
        · simp [other, ih List.mem_cons_self]
        · exact ih (List.mem_cons_of_mem _ later)

theorem splitOn_ended_iff :
    (ended mark fields).splitOn mark = fields ++ [[]] ↔ ∀ field ∈ fields, mark ∉ field := by
  refine ⟨fun split field hl => ?_, splitOn_ended⟩
  exact not_mem_of_mem_splitOn (split ▸ List.mem_append_left _ hl)

end Lines
