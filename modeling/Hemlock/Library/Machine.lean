import Mathlib.Data.List.Induction
import Mathlib.Order.Basic

/-!
# Machines driven by timed inputs

A machine reacts to one input at a time with a new state and some outputs.  Its
runs are the lists of inputs it has processed, so an invariant over runs is
proved by adding one input at the end.  Inputs carry the time of their
processing; `HeldSince` says that a property of the states held continuously from
some time on.
-/

universe u v w

namespace Machine

structure Timed (Event : Type u) where
  time : Nat
  event : Event

end Machine

structure Machine (State : Type u) (Input : Type v) (Output : Type w) where
  init : State
  next : State → Input → State
  emit : State → Input → List Output

namespace Machine

variable {State : Type u} {Input : Type v} {Output : Type w}
  (machine : Machine State Input Output)

def run (inputs : List Input) : State := inputs.foldl machine.next machine.init

/-- Everything the machine sent during a run, oldest first. -/
def sent (inputs : List Input) : List Output :=
  (inputs.foldl
    (fun (state, outputs) input => (machine.next state input, outputs ++ machine.emit state input))
    (machine.init, [])).2

@[simp]
theorem run_nil : machine.run [] = machine.init := rfl

@[simp]
theorem run_concat (inputs : List Input) (input : Input) :
    machine.run (inputs ++ [input]) = machine.next (machine.run inputs) input := by
  simp [run]

@[simp]
theorem sent_concat (inputs : List Input) (input : Input) : machine.sent (inputs ++ [input]) =
      machine.sent inputs ++ machine.emit (machine.run inputs) input := by
  have state (inputs : List Input) : (inputs.foldl (fun (state, outputs) input =>
          (machine.next state input, outputs ++ machine.emit state input))
        (machine.init, [])).1 = machine.run inputs := by
    induction inputs using List.reverseRecOn with
    | nil => rfl
    | append_singleton inputs input ih =>
      simp [← ih]
  simp [sent, state]

/-- An invariant of runs: it holds at the start and each processed input keeps it.
`Allowed` restricts the runs considered. -/
theorem run_induction {Allowed : List Input → Prop} {Invariant : List Input → State → Prop}
    (init : Invariant [] machine.init)
    (shorten : ∀ inputs input, Allowed (inputs ++ [input]) → Allowed inputs)
    (step : ∀ inputs input, Allowed (inputs ++ [input]) → Invariant inputs (machine.run inputs) →
      Invariant (inputs ++ [input]) (machine.next (machine.run inputs) input))
    (inputs : List Input) (allowed : Allowed inputs) : Invariant inputs (machine.run inputs) := by
  induction inputs using List.reverseRecOn with
  | nil => exact init
  | append_singleton inputs input ih =>
    rw [run_concat]
    exact step inputs input allowed (ih (shorten inputs input allowed))

/-- The invariants that do not look at the history. -/
theorem run_invariant {Invariant : State → Prop} (init : Invariant machine.init)
    (step : ∀ state input, Invariant state → Invariant (machine.next state input))
    (inputs : List Input) : Invariant (machine.run inputs) :=
  @run_induction _ _ _ machine (fun _ => True) (fun _ state => Invariant state) init
    (fun _ _ _ => trivial) (fun inputs input _ => step (machine.run inputs) input) inputs trivial

/-- `Property` held of every state the run was in and the input it was left by. -/
def Throughout (Property : State → Input → Prop) (inputs : List Input) : Prop :=
  ∀ before input after, inputs = before ++ input :: after → Property (machine.run before) input

theorem throughout_nil (Property : State → Input → Prop) : machine.Throughout Property [] := by
  intro before input after split
  simp at split

theorem throughout_concat {machine : Machine State Input Output}
    {Property : State → Input → Prop} {inputs : List Input} {input : Input} :
    machine.Throughout Property (inputs ++ [input]) ↔
      machine.Throughout Property inputs ∧ Property (machine.run inputs) input := by
  constructor
  · intro held
    refine ⟨?_, held inputs input [] rfl⟩
    rintro before other after rfl
    exact held before other (after ++ [input]) (by simp)
  · rintro ⟨held, last⟩ before other after split
    rcases List.eq_nil_or_concat after with rfl | ⟨middle, final, rfl⟩
    · obtain ⟨rfl, hs⟩ := List.append_inj' split rfl
      cases hs
      exact last
    · rw [List.concat_eq_append, ← List.cons_append, ← List.append_assoc] at split
      obtain ⟨hs, -⟩ := List.append_inj' split rfl
      exact held before other middle hs

theorem Throughout.left {machine : Machine State Input Output} {Property : State → Input → Prop}
    {inputs more : List Input} (held : machine.Throughout Property (inputs ++ more)) :
    machine.Throughout Property inputs := by
  rintro before input after rfl
  exact held before input (after ++ more) (by simp)

/-- `Property` held of every state the run was in, the last one included. -/
def Always (Property : State → Prop) (inputs : List Input) : Prop :=
  ∀ before after, inputs = before ++ after → Property (machine.run before)

theorem always_nil {Property : State → Prop} : machine.Always Property [] ↔ Property machine.init := by
  constructor
  · intro held
    exact held [] [] rfl
  · intro start before after split
    obtain ⟨rfl, -⟩ := List.append_eq_nil_iff.mp split.symm
    exact start

theorem always_concat {machine : Machine State Input Output} {Property : State → Prop}
    {inputs : List Input} {input : Input} : machine.Always Property (inputs ++ [input]) ↔
      machine.Always Property inputs ∧ Property (machine.run (inputs ++ [input])) := by
  constructor
  · intro held
    refine ⟨?_, held _ [] (List.append_nil _).symm⟩
    rintro before after rfl
    exact held before (after ++ [input]) (by simp)
  · rintro ⟨held, last⟩ before after split
    rcases List.eq_nil_or_concat after with rfl | ⟨middle, final, rfl⟩
    · rw [List.append_nil] at split
      rwa [← split]
    · rw [List.concat_eq_append, ← List.append_assoc] at split
      obtain ⟨hs, -⟩ := List.append_inj' split rfl
      exact held before middle hs

variable {Condition : State → Input → Prop}

/-- When a step keeps a property exactly if it meets a condition, so does a run. -/
theorem always_iff_throughout {machine : Machine State Input Output} {Property : State → Prop}
    (init : Property machine.init) (step : ∀ inputs input, Property (machine.run inputs) →
      (Property (machine.next (machine.run inputs) input) ↔ Condition (machine.run inputs) input))
    (inputs : List Input) : machine.Always Property inputs ↔ machine.Throughout Condition inputs := by
  induction inputs using List.reverseRecOn with
  | nil => exact iff_of_true (machine.always_nil.mpr init) (machine.throughout_nil Condition)
  | append_singleton inputs input ih =>
    rw [always_concat, throughout_concat, run_concat, ← ih]
    refine and_congr_right fun held => step inputs input ?_
    exact held inputs [] (List.append_nil _).symm

/-- An invariant that steps keep under a condition. -/
theorem run_of_throughout {machine : Machine State Input Output} {Invariant : State → Prop}
    {Condition : State → Input → Prop} (init : Invariant machine.init)
    (keeps : ∀ state input, Invariant state → Condition state input → Invariant (machine.next state input))
    (inputs : List Input) (met : machine.Throughout Condition inputs) : Invariant (machine.run inputs) :=
  @run_induction _ _ _ machine (machine.Throughout Condition) (fun _ => Invariant) init
    (fun _ _ => Throughout.left)
    (fun _ input met invariant => keeps _ input invariant (throughout_concat.mp met).2) inputs met

theorem always_of_throughout {machine : Machine State Input Output} {Invariant : State → Prop}
    (init : Invariant machine.init) (keeps : ∀ state input, Invariant state → Condition state input →
      Invariant (machine.next state input))
    (inputs : List Input) (met : machine.Throughout Condition inputs) : machine.Always Invariant inputs := by
  rintro before after rfl
  exact run_of_throughout init keeps before met.left

/-- A property that an invariant gives, and that a step breaks exactly when it does not meet
the condition under which it keeps the invariant. -/
theorem always_iff_throughout_of_invariant {machine : Machine State Input Output}
    {Invariant Property : State → Prop} {Condition : State → Input → Prop}
    (init : Invariant machine.init) (holds : ∀ state, Invariant state → Property state)
    (keeps : ∀ state input, Invariant state → Condition state input → Invariant (machine.next state input))
    (breaks : ∀ state input, Invariant state → Property (machine.next state input) →
      Condition state input) (inputs : List Input) :
    machine.Always Property inputs ↔ machine.Throughout Condition inputs := by
  induction inputs using List.reverseRecOn with
  | nil => exact iff_of_true (machine.always_nil.mpr (holds _ init)) (machine.throughout_nil Condition)
  | append_singleton inputs input ih =>
    rw [always_concat, throughout_concat, run_concat]
    refine (and_congr_left' ih).trans (and_congr_right fun met => ?_)
    have isInvariant := run_of_throughout init keeps inputs met
    exact ⟨breaks _ input isInvariant, fun isMet => holds _ (keeps _ input isInvariant isMet)⟩

section Time

variable {Event : Type v}

/-- The inputs were processed in the order of their times. -/
def Chronological (inputs : List (Timed Event)) : Prop :=
  inputs.Pairwise fun first second => first.time ≤ second.time

theorem chronological_concat {inputs : List (Timed Event)} {input : Timed Event} :
    Chronological (inputs ++ [input]) ↔
      Chronological inputs ∧ ∀ earlier ∈ inputs, earlier.time ≤ input.time := by
  simp [Chronological, List.pairwise_append]

theorem Chronological.le_last {inputs : List (Timed Event)} {input : Timed Event}
    (ordered : Chronological (inputs ++ [input])) :
    ∀ earlier ∈ inputs ++ [input], earlier.time ≤ input.time := by
  intro earlier hm
  rcases List.mem_append.mp hm with before | last
  · exact (chronological_concat.mp ordered).2 earlier before
  · exact Nat.le_of_eq (congrArg Timed.time (List.mem_singleton.mp last))

variable (machine : Machine State (Timed Event) Output)

/-- `Property` held in every state that the run was in after time `since`: a state
counts when it was left later than that, and the property may speak about the
input it was left by. -/
def HeldSince (Property : State → Timed Event → Prop) (since : Nat) (inputs : List (Timed Event)) : Prop :=
  ∀ before input after, inputs = before ++ input :: after → since < input.time →
    Property (machine.run before) input

variable {machine} {Property : State → Timed Event → Prop} {since : Nat}
  {inputs : List (Timed Event)} {input : Timed Event}

theorem HeldSince.mono {later : Nat} (held : machine.HeldSince Property since inputs)
    (le : since ≤ later) : machine.HeldSince Property later inputs := by
  intro before input after split left
  exact held before input after split (by omega)

theorem heldSince_of_le (past : ∀ input ∈ inputs, input.time ≤ since) :
    machine.HeldSince Property since inputs := by
  rintro before input after rfl left
  have notLater := past input (by simp)
  omega

theorem HeldSince.concat (held : machine.HeldSince Property since inputs)
    (last : since < input.time → Property (machine.run inputs) input) :
    machine.HeldSince Property since (inputs ++ [input]) := by
  have both := @throughout_concat _ _ _ machine
    (fun state input => since < input.time → Property state input) inputs input
  exact both.mpr ⟨held, last⟩

end Time

end Machine
