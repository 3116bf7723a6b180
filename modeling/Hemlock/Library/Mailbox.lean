import Mathlib.Data.List.Basic

/-!
# Followers

A follower keeps a value up to date by reading notes.  A note says what the value is now,
or nothing about it.  `settled` is the value that the follower will have once it has read
the notes that wait for it.
-/

namespace Mailbox

universe u v

variable {Note : Type u} {Value : Type v}

/-- Adds a note to a mailbox, which forgets the oldest ones when it is full. -/
def post (capacity : Nat) (notes : List Note) (note : Note) : List Note :=
  (notes ++ [note]).drop (notes.length + 1 - capacity)

theorem post_of_room {capacity : Nat} {notes : List Note} (room : notes.length < capacity)
    (note : Note) : post capacity notes note = notes ++ [note] := by
  rw [post, Nat.sub_eq_zero_of_le room, List.drop_zero]

variable (news : Note → Option Value)

def settled (held : Value) (notes : List Note) : Value :=
  notes.foldl (fun held note => (news note).getD held) held

variable {news} {held held' : Value} {notes : List Note}

@[simp]
theorem settled_nil : settled news held [] = held := rfl

@[simp]
theorem settled_cons (note : Note) :
    settled news held (note :: notes) = settled news ((news note).getD held) notes := rfl

@[simp]
theorem settled_concat (note : Note) :
    settled news held (notes ++ [note]) = (news note).getD (settled news held notes) := by
  simp [settled]

/-- Notes that say nothing leave the value. -/
theorem settled_of_silent (silent : ∀ note ∈ notes, news note = none) : settled news held notes = held := by
  induction notes with
  | nil => rfl
  | cons note notes ih =>
    rw [settled_cons, silent note (List.mem_cons_self ..)]
    exact ih fun note' later => silent note' (List.mem_cons_of_mem _ later)

/-- Where some note says what the value is, the value before does not matter. -/
theorem settled_congr (hs : (∀ note ∈ notes, news note = none) → held = held') :
    settled news held notes = settled news held' notes := by
  induction notes generalizing held held' with
  | nil => exact hs (by simp)
  | cons note notes ih =>
    rw [settled_cons, settled_cons]
    apply ih
    intro silent
    cases said : news note with
    | some value => rfl
    | none => exact hs (List.forall_mem_cons.mpr ⟨said, silent⟩)

end Mailbox
