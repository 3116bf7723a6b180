import Mathlib.Data.List.Induction
import Mathlib.Data.List.Basic

/-!
# Queues that are emptied all at once

Items are accepted one by one; from time to time everything that waits is sent, or
thrown away.  Whatever the order of these events, every item that was accepted and
no longer waits had exactly one of the two fates, and the sent items keep the order in
which they were accepted.
-/

universe u

namespace Batching

inductive Event (Item : Type u) where
  | accept (item : Item)
  | send (items : List Item)
  | discard (items : List Item)

inductive Fate where
  | sent
  | discarded
  deriving DecidableEq

variable {Item : Type u}

def accepted (events : List (Event Item)) : List Item :=
  events.filterMap fun
    | .accept item => some item
    | _ => none

def sent (events : List (Event Item)) : List Item :=
  events.flatMap fun
    | .send items => items
    | _ => []

def discarded (events : List (Event Item)) : List Item :=
  events.flatMap fun
    | .discard items => items
    | _ => []

/-- The events are those of a queue, which holds `queue` in the end. -/
inductive Replays : List (Event Item) → List Item → Prop where
  | nil : Replays [] []
  | accept {events queue} (item : Item) :
      Replays events queue → Replays (events ++ [.accept item]) (queue ++ [item])
  | send {events queue} : Replays events queue → Replays (events ++ [.send queue]) []
  | discard {events queue} : Replays events queue → Replays (events ++ [.discard queue]) []

def withFate (fate : Fate) (ledger : List (Item × Fate)) : List Item :=
  (ledger.filter fun entry => entry.2 = fate).map Prod.fst

theorem withFate_append (fate : Fate) (first second : List (Item × Fate)) :
    withFate fate (first ++ second) = withFate fate first ++ withFate fate second := by
  simp [withFate]

theorem withFate_same (fate : Fate) (items : List Item) :
    withFate fate (items.map fun item => (item, fate)) = items := by
  simp [withFate, List.filter_map, Function.comp_def]

theorem withFate_other {fate fate' : Fate} (other : fate' ≠ fate) (items : List Item) :
    withFate fate (items.map fun item => (item, fate')) = [] := by
  simp [withFate, other]

/-- The ledger of a queue: the fate of every accepted item but those that wait. -/
theorem Replays.ledger {events : List (Event Item)} {queue : List Item} (replays : Replays events queue) :
    ∃ ledger : List (Item × Fate), accepted events = ledger.map Prod.fst ++ queue ∧
        sent events = withFate .sent ledger ∧ discarded events = withFate .discarded ledger := by
  induction replays with
  | nil => exact ⟨[], rfl, rfl, rfl⟩
  | accept item _ ih =>
    obtain ⟨ledger, all, delivered, lost⟩ := ih
    refine ⟨ledger, ?_, ?_, ?_⟩
    · rw [← List.append_assoc, ← all]
      simp [accepted]
    · rw [← delivered]
      simp [sent]
    · rw [← lost]
      simp [discarded]
  | @send events queue _ ih =>
    obtain ⟨ledger, all, delivered, lost⟩ := ih
    refine ⟨ledger ++ queue.map fun item => (item, .sent), ?_, ?_, ?_⟩
    · simp only [List.map_append, List.map_map, Function.comp_def, List.map_id', ← all]
      simp [accepted]
    · rw [withFate_append, withFate_same, ← delivered]
      simp [sent]
    · rw [withFate_append, withFate_other (by decide), ← lost]
      simp [discarded]
  | @discard events queue _ ih =>
    obtain ⟨ledger, all, delivered, lost⟩ := ih
    refine ⟨ledger ++ queue.map fun item => (item, .discarded), ?_, ?_, ?_⟩
    · simp only [List.map_append, List.map_map, Function.comp_def, List.map_id', List.append_nil, ← all]
      simp [accepted]
    · rw [withFate_append, withFate_other (by decide), ← delivered]
      simp [sent]
    · rw [withFate_append, withFate_same, ← lost]
      simp [discarded]

end Batching
