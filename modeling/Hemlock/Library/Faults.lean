import Mathlib.Tactic.Common

/-!
# Programs that call a device

A program has a memory of its own and reaches a device by calls.  A call that fails ends
the program, which leaves behind what memory and device hold by then.  `Runs` says what a
program does when no call fails, `Strikes` what it leaves when one does.
-/

namespace Faults

variable {ε ω δ α β : Type}

/-- The memory, the device, and how many calls succeed before one fails; once a call has
failed, no other does. -/
structure Session (ω δ : Type) where
  memory : ω
  device : δ
  countdown : Option Nat

abbrev Program (ε ω δ α : Type) := EStateM ε (Session ω δ) α

def call (failure : ε) (effect : δ → α × δ) : Program ε ω δ α := fun session =>
  match session.countdown with
  | some 0 => .error failure { session with countdown := none }
  | countdown =>
    let (value, device) := effect session.device
    .ok value { session with device, countdown := countdown.map (· - 1) }

def retrieve : Program ε ω δ ω := fun session => .ok session.memory session

def remember (change : ω → ω) : Program ε ω δ Unit := fun session =>
  .ok () { session with memory := change session.memory }

def settle (outcome : Except ε α) : Program ε ω δ α :=
  match outcome with
  | .ok value => pure value
  | .error failure => throw failure

/-- Runs a program and ignores whether it failed. -/
def attempt (program : Program ε ω δ Unit) : Program ε ω δ Unit := fun session =>
  match program session with
  | .ok _ after => .ok () after
  | .error _ after => .ok () after

/-- Cleans up after a failure and passes it on. -/
def recover (program : Program ε ω δ α) (cleanup : Program ε ω δ Unit) : Program ε ω δ α :=
  fun session =>
    match program session with
    | .ok value after => .ok value after
    | .error failure after =>
      match cleanup after with
      | .ok _ cleaned => .error failure cleaned
      | .error _ cleaned => .error failure cleaned

def each (visit : α → Program ε ω δ Unit) : List α → Program ε ω δ Unit
  | [] => pure ()
  | first :: rest => do
      visit first
      each visit rest

variable {program : Program ε ω δ α}

theorem bind_of_ok {session after : Session ω δ} {value : α}
    (ran : program session = .ok value after) (next : α → Program ε ω δ β) :
    (program >>= next) session = next value after := by
  change EStateM.bind program next session = _
  rw [EStateM.bind, ran]

/-- The program makes `calls` calls and, unless one of them fails, returns `value`. -/
def Runs (program : Program ε ω δ α) (memory : ω) (device : δ) (calls : Nat) (value : α)
    (memory' : ω) (device' : δ) : Prop :=
  ∀ countdown : Option Nat, (∀ left ∈ countdown, calls ≤ left) →
    program ⟨memory, device, countdown⟩ = .ok value ⟨memory', device', countdown.map (· - calls)⟩

variable {memory memory' memory'' : ω} {device device' device'' : δ} {calls calls' : Nat}
  {value : α} {value' : β}

theorem runs_pure : Runs (pure value : Program ε ω δ α) memory device 0 value memory device := by
  intro countdown _
  simp [pure, EStateM.pure]

theorem runs_call (failure : ε) (effect : δ → α × δ) :
    Runs (call failure effect) memory device 1 (effect device).1 memory (effect device).2 := by
  intro countdown spared
  cases countdown with
  | none => rfl
  | some left =>
    cases left with
    | zero => exact absurd (spared 0 rfl) (by omega)
    | succ left => rfl

theorem runs_remember (change : ω → ω) :
    Runs (remember change : Program ε ω δ Unit) memory device 0 () (change memory) device := by
  intro countdown _
  simp [remember]

variable {next : α → Program ε ω δ β}

theorem Runs.bind (first : Runs program memory device calls value memory' device')
    (second : Runs (next value) memory' device' calls' value' memory'' device'') :
    Runs (program >>= next) memory device (calls + calls') value' memory'' device'' := by
  intro countdown spared
  have early : ∀ left ∈ countdown, calls ≤ left := fun left isLeft => by
    have := spared left isLeft
    omega
  have late : ∀ left ∈ countdown.map (· - calls), calls' ≤ left := fun left isLeft => by
    obtain ⟨before, isBefore, rfl⟩ := Option.map_eq_some_iff.mp isLeft
    have := spared before isBefore
    omega
  change EStateM.bind program next _ = _
  rw [EStateM.bind, first countdown early]
  dsimp only
  rw [second _ late, Option.map_map]
  congr 3
  funext left
  simp only [Function.comp_apply]
  omega

/-- A call whose answer is returned in another form. -/
theorem runs_call_return (failure : ε) (effect : δ → α × δ) (result : α → β) :
    Runs (call failure effect >>= fun value => pure (result value)) memory device 1
      (result (effect device).1) memory (effect device).2 := by
  change Runs _ memory device (1 + 0) _ _ _
  exact Runs.bind (runs_call failure effect) runs_pure

theorem Runs.attempt {program : Program ε ω δ Unit}
    (run : Runs program memory device calls () memory' device') :
    Runs (attempt program) memory device calls () memory' device' := by
  intro countdown spared
  rw [Faults.attempt, run countdown spared]

/-- When the call number `calls` fails, the program ends and leaves `memory'` and `device'`. -/
def Strikes (program : Program ε ω δ α) (memory : ω) (device : δ) (calls : Nat)
    (memory' : ω) (device' : δ) : Prop :=
  ∃ failure, program ⟨memory, device, some calls⟩ = .error failure ⟨memory', device', none⟩

theorem strikes_call (failure : ε) (effect : δ → α × δ) :
    Strikes (call failure effect : Program ε ω δ α) memory device 0 memory device :=
  ⟨failure, rfl⟩

theorem Strikes.bind (struck : Strikes program memory device calls memory' device')
    (next : α → Program ε ω δ β) : Strikes (program >>= next) memory device calls memory' device' := by
  obtain ⟨failure, struck⟩ := struck
  refine ⟨failure, ?_⟩
  change EStateM.bind program next _ = _
  rw [EStateM.bind, struck]

theorem Runs.strikes (first : Runs program memory device calls value memory' device')
    (second : Strikes (next value) memory' device' calls' memory'' device'') :
    Strikes (program >>= next) memory device (calls + calls') memory'' device'' := by
  obtain ⟨failure, struck⟩ := second
  refine ⟨failure, ?_⟩
  have run := first (some (calls + calls')) fun left isLeft => by
    cases isLeft
    omega
  change EStateM.bind program next _ = _
  rw [EStateM.bind, run]
  rwa [Option.map_some, Nat.add_sub_cancel_left]

theorem Strikes.attempt {program : Program ε ω δ Unit}
    (struck : Strikes program memory device calls memory' device') :
    Faults.attempt program ⟨memory, device, some calls⟩ = .ok () ⟨memory', device', none⟩ := by
  obtain ⟨failure, struck⟩ := struck
  rw [Faults.attempt, struck]

/-- The failure of a call after a first one. -/
theorem strikes_after_call {failure : ε} {effect : δ → α × δ}
    (second : Strikes (next (effect device).1) memory (effect device).2 calls memory' device') :
    Strikes (call failure effect >>= next) memory device (calls + 1) memory' device' := by
  rw [Nat.add_comm]
  exact (runs_call failure effect).strikes second

/-- The failure of a call after steps without one. -/
theorem strikes_after_idle (first : Runs program memory device 0 value memory' device')
    (second : Strikes (next value) memory' device' calls memory'' device'') :
    Strikes (program >>= next) memory device calls memory'' device'' := by
  rw [← Nat.zero_add calls]
  exact first.strikes second

/-- Memory and device change by one step for each item. -/
inductive Chain (Step : α → ω → δ → ω → δ → Prop) : List α → ω → δ → ω → δ → Prop where
  | nil {memory : ω} {device : δ} : Chain Step [] memory device memory device
  | cons {first : α} {rest : List α} {memory memory' memory'' : ω} {device device' device'' : δ}
      (step : Step first memory device memory' device')
      (steps : Chain Step rest memory' device' memory'' device'') :
      Chain Step (first :: rest) memory device memory'' device''

variable {Step : α → ω → δ → ω → δ → Prop} {items : List α} {visit : α → Program ε ω δ Unit}

/-- What every step keeps holds at the end if it held at the beginning. -/
theorem Chain.invariant (Invariant : ω → δ → Prop) (steps : Chain Step items memory device memory' device')
    (keeps : ∀ item ∈ items, ∀ memory device memory' device', Step item memory device memory' device' →
      Invariant memory device → Invariant memory' device')
    (init : Invariant memory device) : Invariant memory' device' := by
  induction steps with
  | nil => exact init
  | cons step _ ih =>
    exact ih (fun item hm => keeps item (List.mem_cons_of_mem _ hm))
      (keeps _ (List.mem_cons_self ..) _ _ _ _ step init)

theorem Chain.append {items' : List α} (first : Chain Step items memory device memory' device')
    (second : Chain Step items' memory' device' memory'' device'') :
    Chain Step (items ++ items') memory device memory'' device'' := by
  induction first with
  | nil => exact second
  | cons step _ ih => exact .cons step (ih second)

theorem each_append (first second : List α) :
    each visit (first ++ second) = each visit first >>= fun _ => each visit second := by
  induction first with
  | nil => rfl
  | cons item rest ih =>
    rw [List.cons_append, each, each, ih, bind_assoc]

/-- The items can be visited when each visit leaves the rest ready; `fits` bounds the
number of calls. -/
theorem runs_each (fits : Nat → Prop) (ready : List α → ω → δ → Prop) (idle : fits 0)
    (more : ∀ calls calls', fits calls → fits calls' → fits (calls + calls'))
    (visits : ∀ first rest memory device, ready (first :: rest) memory device →
      ∃ calls memory' device', Runs (visit first) memory device calls () memory' device' ∧ fits calls ∧
        Step first memory device memory' device' ∧ ready rest memory' device')
    (isReady : ready items memory device) :
    ∃ calls memory' device', Runs (each visit items) memory device calls () memory' device' ∧
      fits calls ∧ Chain Step items memory device memory' device' := by
  induction items generalizing memory device with
  | nil => exact ⟨0, memory, device, runs_pure, idle, .nil⟩
  | cons first rest ih =>
    obtain ⟨calls, memory', device', run, fit, step, left⟩ := visits first rest memory device isReady
    obtain ⟨calls', memory'', device'', runs, fit', steps⟩ := ih left
    exact ⟨calls + calls', memory'', device'', run.bind runs, more calls calls' fit fit',
      .cons step steps⟩

end Faults
