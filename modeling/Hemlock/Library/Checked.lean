import Hemlock.Library.Bytes

/-!
# Operations that may panic

Indexing, slicing and clamping stop a program whose bounds are wrong.  `Checked`
computations carry that outcome, so that a program never panics exactly when its
model returns.
-/

namespace Checked

open Bytes

inductive Panic where
  /-- An index or a range outside the slice. -/
  | outOfBounds
  /-- A range to clamp to whose ends are in the wrong order. -/
  | emptyRange
  deriving DecidableEq

end Checked

/-- A computation that returns a value or panics. -/
abbrev Checked (Value : Type) := Except Checked.Panic Value

namespace Checked

open Bytes

variable (bytes : List UInt8)

def index (index : Nat) : Checked UInt8 :=
  match bytes[index]? with
  | some byte => pure byte
  | none => throw .outOfBounds

/-- The bytes `&bytes[start..stop]`. -/
def slice (start stop : Nat) : Checked (List UInt8) :=
  if start ≤ stop ∧ stop ≤ bytes.length then pure ((bytes.take stop).drop start)
  else throw .outOfBounds

/-- The bytes `&bytes[start..]`. -/
def sliceFrom (start : Nat) : Checked (List UInt8) :=
  if start ≤ bytes.length then pure (bytes.drop start) else throw .outOfBounds

def copySix (start : Nat) : Checked (Vector UInt8 6) :=
  if start + 6 ≤ bytes.length then pure (sixAt bytes start) else throw .outOfBounds

/-- The bytes `bytes.get(start..)`. -/
def getFrom? (start : Nat) : Option (List UInt8) :=
  if start ≤ bytes.length then some (bytes.drop start) else none

/-- The bytes `bytes.get(start..stop)`. -/
def getRange? (start stop : Nat) : Option (List UInt8) :=
  if start ≤ stop ∧ stop ≤ bytes.length then some ((bytes.take stop).drop start) else none

def clamp (value low high : Nat) : Checked Nat :=
  if low ≤ high then pure (max low (min value high)) else throw .emptyRange

variable {bytes}

theorem index_of_lt {position : Nat} (inside : position < bytes.length) :
    index bytes position = .ok (byteAt bytes position) := by
  simp [index, byteAt, inside]
  rfl

theorem slice_of_le {start stop : Nat} (inside : start ≤ stop ∧ stop ≤ bytes.length) :
    slice bytes start stop = .ok ((bytes.take stop).drop start) := if_pos inside

theorem sliceFrom_of_le {start : Nat} (inside : start ≤ bytes.length) :
    sliceFrom bytes start = .ok (bytes.drop start) := if_pos inside

theorem copySix_of_le {start : Nat} (inside : start + 6 ≤ bytes.length) :
    copySix bytes start = .ok (sixAt bytes start) := if_pos inside

theorem clamp_of_le {value low high : Nat} (ordered : low ≤ high) :
    clamp value low high = .ok (max low (min value high)) := if_pos ordered

variable {Value Result : Type}

theorem ok_bind (value : Value) (next : Value → Checked Result) :
    (Except.ok value : Checked Value) >>= next = next value := rfl

theorem bind_eq_ok {first : Checked Value} {next : Value → Checked Result} {result : Result} :
    first >>= next = .ok result ↔ ∃ value, first = .ok value ∧ next value = .ok result := by
  cases first with
  | ok value => simp [ok_bind]
  | error panic =>
    constructor
    · intro impossible
      cases impossible
    · rintro ⟨_, impossible, _⟩
      cases impossible

end Checked
