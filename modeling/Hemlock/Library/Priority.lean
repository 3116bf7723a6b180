import Mathlib.Data.List.MinMax

/-!
# Lookup by priority

A table answers with the entry of the highest priority among those that match.  When the
priorities fall along the list of its entries, that is the first entry that matches.
-/

namespace Priority

universe u v
variable {α : Type u} {β : Type v} [LinearOrder β]

def highest (priority : α → β) (hits : α → Bool) (entries : List α) : Option α :=
  (entries.filter hits).argmax priority

def Descending (priority : α → β) (entries : List α) : Prop :=
  entries.Pairwise fun first second => priority second < priority first

variable {priority : α → β} {entries : List α}

theorem argmax_of_descending (descending : Descending priority entries) :
    entries.argmax priority = entries.head? := by
  cases entries with
  | nil => rfl
  | cons first rest =>
    have lower := (List.pairwise_cons.mp descending).1
    rw [List.argmax_cons]
    cases best : rest.argmax priority with
    | none => rfl
    | some other => exact if_neg (not_lt_of_gt (lower other (List.argmax_mem best)))

theorem highest_of_descending (descending : Descending priority entries) (hits : α → Bool) :
    highest priority hits entries = entries.find? hits := by
  rw [highest, argmax_of_descending (List.Pairwise.filter hits descending), List.head?_filter]

section Numbered

universe w x
variable {γ : Type w} {δ : Type x} {entry : γ × Nat → α} {hits : α → Bool} {hits' : γ → Bool}
  {result : α → δ} {result' : γ → δ}

/-- The number of an element has no part in what is found first. -/
theorem map_find?_zipIdx (elements : List γ)
    (sameHits : ∀ numbered, hits (entry numbered) = hits' numbered.1)
    (sameResult : ∀ numbered, result (entry numbered) = result' numbered.1) :
    ((elements.zipIdx.map entry).find? hits).map result = (elements.find? hits').map result' := by
  have forgotten : elements = elements.zipIdx.map Prod.fst := (List.zipIdx_map_fst 0 elements).symm
  calc ((elements.zipIdx.map entry).find? hits).map result
      = (elements.zipIdx.find? (hits' ∘ Prod.fst)).map (result' ∘ Prod.fst) := by
        rw [List.find?_map, Option.map_map, show hits ∘ entry = hits' ∘ Prod.fst from funext sameHits,
          show result ∘ entry = result' ∘ Prod.fst from funext sameResult]
    _ = ((elements.zipIdx.map Prod.fst).find? hits').map result' := by
        rw [List.find?_map, Option.map_map]
    _ = (elements.find? hits').map result' := by rw [← forgotten]

theorem descending_map_zipIdx {priority : α → β} {elements : List γ}
    (falls : ∀ first second number number', number < number' → number' < elements.length →
      priority (entry (second, number')) < priority (entry (first, number))) :
    Descending priority (elements.zipIdx.map entry) := by
  rw [Descending, List.pairwise_map, List.pairwise_iff_getElem]
  intro number number' _ bound later
  rw [List.length_zipIdx] at bound
  rw [List.getElem_zipIdx, List.getElem_zipIdx]
  exact falls _ _ _ _ (by omega) (by omega)

end Numbered

end Priority
