import Mathlib.Data.List.Induction

/-!
# Computations that refuse

A reader either gives a value or refuses.  `Gives` says what holds of the value, if there is
one.  The rules follow the structure of readers, sequencing and folding over a list of
statements.
-/

namespace Refusal

universe u
variable {Reason Value Other State Statement : Type u} {outcome : Except Reason Value}
  {next : Value → Except Reason Other}

/-- What a sequence that succeeds has computed on the way. -/
theorem bind_eq_ok {result : Other} :
    (outcome >>= next) = .ok result ↔ ∃ value, outcome = .ok value ∧ next value = .ok result := by
  cases outcome with
  | error reason | ok value => simp [Bind.bind, Except.bind]

/-- A list is checked: its elements are all good, and the results are what they stand for. -/
theorem mapM_eq_ok_iff {check : Value → Except Reason Other} {good : Value → Prop} {target : Value → Other}
    (checks : ∀ value result, check value = .ok result ↔ good value ∧ result = target value)
    {values : List Value} {results : List Other} : values.mapM check = .ok results ↔
      (∀ value ∈ values, good value) ∧ results = values.map target := by
  induction values generalizing results with
  | nil => simp [pure, Except.pure, eq_comm]
  | cons value values ih =>
    simp only [List.mapM_cons, bind_eq_ok, checks, ih, List.forall_mem_cons]
    constructor
    · rintro ⟨first, ⟨isGood, rfl⟩, rest, ⟨areGood, rfl⟩, made⟩
      cases made
      exact ⟨⟨isGood, areGood⟩, rfl⟩
    · rintro ⟨⟨isGood, areGood⟩, rfl⟩
      exact ⟨_, ⟨isGood, rfl⟩, _, ⟨areGood, rfl⟩, rfl⟩

theorem exists_of_toOption {P : Value → Prop} [DecidablePred P]
    (met : outcome.toOption.any (decide <| P ·) = true) : ∃ value, outcome = .ok value ∧ P value := by
  cases outcome with
  | error reason => cases met
  | ok value => exact ⟨value, rfl, of_decide_eq_true met⟩

/-- What the value satisfies, if there is one. -/
def Gives (outcome : Except Reason Value) (Post : Value → Prop) : Prop :=
  ∀ value, outcome = .ok value → Post value

variable {P : Value → Prop} {Q : Other → Prop}

theorem gives_error (reason : Reason) : Gives (.error reason) P := by
  rintro value ⟨⟩

theorem gives_ok {value : Value} (holds : P value) : Gives (.ok value : Except Reason Value) P := by
  rintro _ ⟨⟩
  exact holds

theorem gives_bind (gives : ∀ value, outcome = .ok value → Gives (next value) Q) :
    Gives (outcome >>= next) Q := by
  intro result read
  obtain ⟨value, ran, rest⟩ := bind_eq_ok.mp read
  exact gives value ran result rest

theorem Gives.bind (first : Gives outcome P) (then' : ∀ value, P value → Gives (next value) Q) :
    Gives (outcome >>= next) Q :=
  gives_bind fun value ran => then' value (first value ran)

variable {step : State → Statement → Except Reason State} {state : State}

/-- What each accepted statement adds to those before it, the list of them has. -/
theorem gives_foldlM_append {P : List Statement → State → Prop} (holds : P [] state)
    (keeps : ∀ before statement state, P before state → Gives (step state statement) (P (before ++ [statement])))
    (statements : List Statement) : Gives (statements.foldlM step state) (P statements) := by
  induction statements using List.reverseRecOn with
  | nil => exact gives_ok holds
  | append_singleton before statement ih =>
    rw [List.foldlM_append]
    refine ih.bind fun reached holds => ?_
    exact (keeps before statement reached holds).bind fun value => gives_ok

/-- What each accepted statement keeps, a list of accepted statements keeps. -/
theorem gives_foldlM {P : State → Prop} (keeps : ∀ state statement, P state → Gives (step state statement) P)
    (holds : P state) (statements : List Statement) : Gives (statements.foldlM step state) P :=
  gives_foldlM_append (P := fun _ => P) holds (fun _ statement state => keeps state statement) statements

end Refusal
