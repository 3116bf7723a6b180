import Mathlib.Tactic.Common

/-!
# Contracts of programs that may fail

A contract says what a program makes of a state: what holds of its value and of the state
it ends in, and what holds of the state it leaves when it fails.  The rules follow the way
programs are put together.
-/

universe u

namespace Contracts

variable {ε ε' σ δ α β : Type u}

def each (visit : α → EStateM ε σ PUnit) : List α → EStateM ε σ PUnit
  | [] => pure ⟨⟩
  | first :: rest => do
      visit first
      each visit rest

/-- Runs a program and ignores whether it failed. -/
def attempt (program : EStateM ε σ PUnit) : EStateM ε σ PUnit := fun state =>
  match program state with
  | .ok _ after => .ok ⟨⟩ after
  | .error _ after => .ok ⟨⟩ after

def settle (outcome : Except ε α) : EStateM ε σ α :=
  match outcome with
  | .ok value => pure value
  | .error failure => throw failure

/-- Cleans up after a failure and passes it on. -/
def recover (program : EStateM ε σ α) (cleanup : EStateM ε σ PUnit) : EStateM ε σ α := fun state =>
  match program state with
  | .ok value after => .ok value after
  | .error failure after =>
    match cleanup after with
    | .ok _ cleaned => .error failure cleaned
    | .error _ cleaned => .error failure cleaned

structure Part (σ δ : Type u) where
  read : σ → δ
  write : δ → σ → σ

def Part.lift (part : Part σ δ) (blame : ε' → ε) (program : EStateM ε' δ α) : EStateM ε σ α :=
  fun state =>
    match program (part.read state) with
    | .ok value after => .ok value (part.write after state)
    | .error failure after => .error (blame failure) (part.write after state)

variable {part : Part σ δ} {blame : ε' → ε}

theorem Part.lift_of_ok {program : EStateM ε' δ α} {state : σ} {value : α}
    {after : δ} (ran : program (part.read state) = .ok value after) :
    part.lift blame program state = .ok value (part.write after state) := by
  rw [Part.lift, ran]

theorem Part.lift_of_error {program : EStateM ε' δ α} {state : σ}
    {failure : ε'} {after : δ} (failed : program (part.read state) = .error failure after) :
    part.lift blame program state = .error (blame failure) (part.write after state) := by
  rw [Part.lift, failed]

/-- The state that a program leaves, whatever its outcome. -/
def final (program : EStateM ε σ α) (state : σ) : σ :=
  match program state with
  | .ok _ after => after
  | .error _ after => after

def succeeds (program : EStateM ε σ α) (state : σ) : Bool :=
  match program state with
  | .ok _ _ => true
  | .error _ _ => false

theorem final_of_ok {program : EStateM ε σ α} {state after : σ} {value : α}
    (ran : program state = .ok value after) : final program state = after := by
  rw [final, ran]

variable {failure : ε}

theorem final_of_error {program : EStateM ε σ α} {state after : σ}
    (failed : program state = .error failure after) : final program state = after := by
  rw [final, failed]

theorem succeeds_iff {program : EStateM ε σ α} {state : σ} :
    succeeds program state = true ↔ ∃ value after, program state = .ok value after := by
  rw [succeeds]
  cases program state <;> simp

theorem ok_of_succeeds {program : EStateM ε σ PUnit} {state : σ} (success : succeeds program state = true) :
    program state = .ok ⟨⟩ (final program state) := by
  unfold succeeds at success
  unfold final
  cases ho : program state with
  | ok value after => rfl
  | error failure after => simp [ho] at success

section

variable {program : EStateM ε σ α} {next : α → EStateM ε σ β} {state after : σ} {value : α}

theorem bind_of_ok (ran : program state = .ok value after) :
    (program >>= next) state = next value after := by
  change EStateM.bind program next state = _
  rw [EStateM.bind, ran]

theorem bind_of_error {failure : ε} (failed : program state = .error failure after) :
    (program >>= next) state = .error failure after := by
  change EStateM.bind program next state = _
  rw [EStateM.bind, failed]

theorem map_of_ok {change : α → β} (ran : program state = .ok value after) :
    (change <$> program) state = .ok (change value) after := by
  change EStateM.map change program state = _
  rw [EStateM.map, ran]

theorem map_of_error {change : α → β} (failed : program state = .error failure after) :
    (change <$> program) state = .error failure after := by
  change EStateM.map change program state = _
  rw [EStateM.map, failed]

@[simp]
theorem get_bind_apply {next : σ → EStateM ε σ β} : (get >>= next) state = next state state := rfl

@[simp]
theorem pure_bind_apply : ((pure value : EStateM ε σ α) >>= next) state = next value state := rfl

@[simp]
theorem settle_ok_bind_apply : (settle (.ok value) >>= next) state = next value state := rfl

@[simp]
theorem settle_error_bind_apply :
    ((settle (.error failure) : EStateM ε σ α) >>= next) state = .error failure state := rfl

variable {change : σ → σ}

@[simp]
theorem modify_apply :
    (modify change : EStateM ε σ PUnit) state = .ok ⟨⟩ (change state) := rfl

@[simp]
theorem modify_bind_apply {next : PUnit → EStateM ε σ β} :
    ((modify change : EStateM ε σ PUnit) >>= next) state = next ⟨⟩ (change state) := rfl

@[simp]
theorem pure_apply : (pure value : EStateM ε σ α) state = .ok value state := rfl

@[simp]
theorem throw_apply : (throw failure : EStateM ε σ α) state = .error failure state := rfl

end

def Contract (Before : σ → Prop) (program : EStateM ε σ α) (After : α → σ → Prop)
    (Failed : σ → Prop) : Prop :=
  ∀ state, Before state → match program state with
    | .ok value after => After value after
    | .error _ after => Failed after

/-- What a program keeps, if it does not fail. -/
abbrev Keeps (Kept : σ → Prop) (program : EStateM ε σ α) (Failed : σ → Prop) : Prop :=
  Contract Kept program (fun _ => Kept) Failed

section

variable {Before Before' : σ → Prop} {After After' : α → σ → Prop} {Failed Failed' : σ → Prop}
  {program : EStateM ε σ α}

theorem Contract.ok (contract : Contract Before program After Failed) {state after : σ} {value : α}
    (before : Before state) (ran : program state = .ok value after) : After value after := by
  have ho := contract state before
  rwa [ran] at ho

theorem Contract.error (contract : Contract Before program After Failed) {state after : σ}
    (before : Before state) (failed : program state = .error failure after) : Failed after := by
  have ho := contract state before
  rwa [failed] at ho

variable {Left : σ → Prop}

theorem Contract.final (contract : Contract Before program (fun _ => Left) Left)
    {state : σ} (before : Before state) : Left (final program state) := by
  unfold Contracts.final
  cases result : program state with
  | ok value after => exact contract.ok before result
  | error failure after => exact contract.error before result

theorem contract_of_final {start : σ} (left : Left (final program start)) :
    Contract (fun state => state = start) program (fun _ => Left) Left := by
  rintro state rfl
  unfold final at left
  cases result : program state <;> simpa [result] using left

variable (contract : Contract Before program After Failed)
include contract

theorem Contract.mono (before : ∀ state, Before' state → Before state)
    (after : ∀ value state, After value state → After' value state)
    (failed : ∀ state, Failed state → Failed' state) : Contract Before' program After' Failed' := by
  intro state isBefore
  cases result : program state with
  | ok value left => exact after value left (contract.ok (before state isBefore) result)
  | error failure left => exact failed left (contract.error (before state isBefore) result)

theorem Contract.strengthen
    (before : ∀ state, Before' state → Before state) : Contract Before' program After Failed :=
  contract.mono before (fun _ _ => id) fun _ => id

theorem Contract.weaken (after : ∀ value state, After value state → After' value state) :
    Contract Before program After' Failed :=
  contract.mono (fun _ => id) after fun _ => id

theorem Contract.failing
    (failed : ∀ state, Failed state → Failed' state) : Contract Before program After Failed' :=
  contract.mono (fun _ => id) (fun _ _ => id) failed

theorem Contract.and (contract' : Contract Before' program After' Failed') :
    Contract (fun state => Before state ∧ Before' state) program
      (fun value state => After value state ∧ After' value state) fun state => Failed state ∧ Failed' state := by
  intro state before
  cases result : program state with
  | ok value after => exact ⟨contract.ok before.1 result, contract'.ok before.2 result⟩
  | error failure after => exact ⟨contract.error before.1 result, contract'.error before.2 result⟩

omit contract

/-- A fact that is not about the state. -/
theorem contract_fact {Fact : Prop} (contract : Fact → Contract Before program After Failed) :
    Contract (fun state => Before state ∧ Fact) program After Failed :=
  fun state before => contract before.2 state before.1

theorem contract_true : Contract Before program (fun _ _ => True) fun _ => True := by
  intro state _
  cases program state <;> exact trivial

theorem contract_pure {value : α} (after : ∀ state, Before state → After value state) :
    Contract Before (pure value : EStateM ε σ α) After Failed := after

theorem contract_done {value : α} : Keeps Before (pure value : EStateM ε σ α) Failed := fun _ => id

theorem contract_throw (failed : ∀ state, Before state → Failed state) :
    Contract Before (throw failure : EStateM ε σ α) After Failed := failed

theorem contract_fail : Contract Failed (throw failure : EStateM ε σ α) After Failed :=
  fun _ => id

variable {ho : Except ε α}

theorem contract_settle (after : ∀ value, ho = .ok value → ∀ state, Before state → After value state)
    (failed : ∀ state, Before state → Failed state) :
    Contract Before (settle ho : EStateM ε σ α) After Failed := by
  cases ho with
  | ok value => exact contract_pure (after value rfl)
  | error failure => exact contract_throw failed

theorem settle_keeps : Keeps Failed (settle ho : EStateM ε σ α) Failed :=
  contract_settle (fun _ _ _ => id) fun _ => id

theorem Contract.bind {Middle : α → σ → Prop} {After : β → σ → Prop} {next : α → EStateM ε σ β}
    (first : Contract Before program Middle Failed)
    (second : ∀ value, Contract (Middle value) (next value) After Failed) :
    Contract Before (program >>= next) After Failed := by
  intro state before
  cases result : program state with
  | ok value after =>
    rw [bind_of_ok result]
    exact second value after (first.ok before result)
  | error failure after =>
    rw [bind_of_error result]
    exact first.error before result

theorem contract_get : Contract Before (get : EStateM ε σ σ)
    (fun value state => value = state ∧ Before state) Failed :=
  fun _ before => ⟨rfl, before⟩

variable {next : σ → EStateM ε σ α}

theorem contract_read (continues : ∀ start, Contract Before (next start) After Failed) :
    Contract Before (get >>= next) After Failed :=
  fun state => continues state state

/-- What follows may use what it has read. -/
theorem contract_get_bind
    (continues : ∀ start, Before start → Contract (fun state => state = start) (next start) After Failed) :
    Contract Before (get >>= next) After Failed :=
  fun state before => continues state before state rfl

/-- A change that depends on what was read. -/
theorem contract_get_modify (Middle : σ → Prop) {change : σ → σ → σ}
    (changes : ∀ state, Before state → Middle (change state state))
    (continues : ∀ start, Contract Middle (next start) After Failed) :
    Contract Before (get >>= fun start => modify (change start) >>= fun _ => next start) After Failed :=
  fun state before => continues state _ (changes state before)

theorem contract_modify {change : σ → σ} {After : PUnit → σ → Prop}
    (after : ∀ state, Before state → After ⟨⟩ (change state)) :
    Contract Before (modify change : EStateM ε σ PUnit) After Failed := after

theorem contract_attempt {program : EStateM ε σ PUnit} {After : PUnit → σ → Prop}
    (contract : Contract Before program After (After ⟨⟩)) :
    Contract Before (attempt program) After Failed := by
  intro state before
  rw [attempt]
  cases result : program state with
  | ok value after => exact contract.ok before result
  | error failure after => exact contract.error before result

theorem Contract.recover {Broken : σ → Prop} {cleanup : EStateM ε σ PUnit}
    (contract : Contract Before program After Broken)
    (cleans : Contract Broken cleanup (fun _ => Failed) Failed) :
    Contract Before (recover program cleanup) After Failed := by
  intro state before
  rw [Contracts.recover]
  cases result : program state with
  | ok value after => exact contract.ok before result
  | error failure after =>
    have broken := contract.error before result
    dsimp only
    cases result' : cleanup after with
    | ok _ left => exact cleans.ok broken result'
    | error _ left => exact cleans.error broken result'

variable {visit : β → EStateM ε σ PUnit}

/-- The loop rule: the invariant speaks about the items that are left. -/
theorem contract_each (Invariant : List β → σ → Prop)
    (visits : ∀ first rest, Contract (Invariant (first :: rest)) (visit first)
      (fun _ => Invariant rest) Failed) (items : List β) :
    Contract (Invariant items) (each visit items) (fun _ => Invariant []) Failed := by
  induction items with
  | nil => exact contract_pure fun _ => id
  | cons first rest ih =>
    exact (visits first rest).bind fun _ => ih

/-- What each visit keeps. -/
theorem contract_each_keep {Kept : σ → Prop}
    (visits : ∀ item, Keeps Kept (visit item) Failed) (items : List β) :
    Keeps Kept (each visit items) Failed :=
  contract_each (fun _ => Kept) (fun first _ => visits first) items

/-- A program on a part of the state. -/
theorem contract_lift {program : EStateM ε' δ α}
    (ho : ∀ state, Before state → match program (part.read state) with
      | .ok value after => After value (part.write after state)
      | .error _ after => Failed (part.write after state)) :
    Contract Before (part.lift blame program) After Failed := by
  intro state before
  have ho := ho state before
  rw [Part.lift]
  cases result : program (part.read state) with
  | ok value after | error failure after =>
    rw [result] at ho
    exact ho

end

end Contracts
