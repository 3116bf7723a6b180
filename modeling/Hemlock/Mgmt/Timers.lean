import Hemlock.Mgmt.Confirmation

/-!
# Timers that wait for the engine

A guard that is woken while another request has the engine still runs when its commit was
confirmed or superseded meanwhile, and so may one that is told to end too late.  It then looks
only whether some confirmation is pending.  As long as no commit with a time limit succeeds
while a woken guard waits, and no guard wakes that was told to end, the pending confirmation
can only be the guard's own.
-/

namespace Hemlock.Mgmt

open Machine OrderedMap Minute Engine

/-- Neither a confirmation nor a commit. -/
def Event.Keeps : Event → Prop
  | .confirmCommit | .commit .. => False
  | .setCandidate .. | .wake _ | .quit _ | .rollBack .. => True

/-- A guard changes the configuration only if nothing confirmed or superseded its commit, and
then the text is back that was running before the commit. -/
def TimersObey (store : Store) (inputs : List (Timed Event)) : Prop :=
  ∀ (before between after : List (Timed Event)) (now later : Nat) (req : CommitRequest)
    (answers : Answers) (applied : Applied),
    inputs = before ++ ⟨now, .commit req answers⟩ :: between ++
      ⟨later, .rollBack ((system store).run before).nextGuard applied⟩ :: after →
    answers.Succeed → 0 < req.confirmTimeoutSecs →
    let waiting := (system store).run (before ++ ⟨now, .commit req answers⟩ :: between)
    let acted := waiting.rollBack ((system store).run before).nextGuard applied
    acted.store ≠ waiting.store → (∀ input ∈ between, input.event.Keeps) ∧
        acted.store.running = ((system store).run before).store.running

/-- A commit that succeeds and has a time limit comes when no woken guard waits, and cancelled
guards end in time. -/
def Unhurried (engine : Engine) (input : Timed Event) : Prop :=
  match input.event with
  | .commit req answers =>
    answers.Succeed → 0 < req.confirmTimeoutSecs →
      ∀ (id : Nat) guard, engine.guards[id]? = some guard → guard.woken = false
  | .wake id => engine.Punctual id input.time
  | .setCandidate .. | .confirmCommit | .quit _ | .rollBack .. => True

section

variable {engine : Engine} {req : CommitRequest} {answers : Answers} {input : Timed Event}
  {id now : Nat} {previous text : String} {applied : Applied}

/-- A step ends or keeps the pending confirmation, or it is a commit that sets a new one. -/
theorem next_pending : engine.nextGuard ≤ (next engine input).nextGuard ∧
      ((next engine input).pendingConfirm = engine.pendingConfirm ∧ input.event.Keeps ∨
        (next engine input).pendingConfirm = none ∨
        (next engine input).pendingConfirm = some engine.nextGuard ∧ ∃ req answers,
          input.event = .commit req answers ∧ answers.Succeed ∧ 0 < req.confirmTimeoutSecs) := by
  obtain ⟨now, event⟩ := input
  cases event with
  | setCandidate text valid =>
    obtain ⟨-, pending, nextGuard⟩ := @setCandidate_rest engine text valid
    exact ⟨nextGuard.ge, .inl ⟨pending, trivial⟩⟩
  | commit req answers =>
    simp only [next]
    rcases @commit_rest engine req answers now with
      ⟨succeed, limited, pending, nextGuard, -⟩ | ⟨-, pending, nextGuard, -⟩
    · exact ⟨nextGuard ▸ Nat.le_succ _, .inr (.inr ⟨pending, req, answers, rfl, succeed, limited⟩)⟩
    · exact ⟨nextGuard.ge, .inr (.inl pending)⟩
  | confirmCommit => exact ⟨Nat.le_refl _, .inr (.inl rfl)⟩
  | wake id | quit id => exact ⟨Nat.le_refl _, .inl ⟨rfl, trivial⟩⟩
  | rollBack id applied =>
    simp only [next]
    rcases @rollBack_cases engine id applied with hs | ⟨_, -, -, ⟨-, hs⟩ | ⟨-, hs⟩⟩
    · exact hs.symm ▸ ⟨Nat.le_refl _, .inl ⟨rfl, trivial⟩⟩
    · exact hs.symm ▸ ⟨Nat.le_refl _, .inl ⟨rfl, trivial⟩⟩
    · rw [hs, applyAndPersist_rest.2.1, applyAndPersist_rest.2.2]
      exact ⟨Nat.le_refl _, .inr (.inl rfl)⟩

/-- Whatever is left of the guard has the text from before its commit. -/
def Engine.Remembers (engine : Engine) (id : Nat) (previous : String) : Prop :=
  id < engine.nextGuard ∧
    ∀ guard, engine.guards[id]? = some guard → guard.preCommitRunning = previous

/-- Nothing waits any longer for the confirmation of the guard's commit. -/
def Engine.Settled (engine : Engine) (id : Nat) : Prop :=
  id < engine.nextGuard ∧ engine.pendingConfirm ≠ some id

theorem Engine.Remembers.next (remembers : engine.Remembers id previous) :
    (next engine input).Remembers id previous := by
  refine ⟨lt_of_lt_of_le remembers.1 next_pending.1, fun guard hf => ?_⟩
  rcases next_guard hf with ⟨before, hk, became⟩ | ⟨fresh, -⟩
  · exact became.text.trans (remembers.2 before hk)
  · exact absurd fresh (Nat.ne_of_lt remembers.1)

/-- A step that is a confirmation or a commit settles the guard, and every other leaves it
settled. -/
theorem Engine.settled_next (older : id < engine.nextGuard)
    (ends : input.event.Keeps → engine.pendingConfirm ≠ some id) : (next engine input).Settled id := by
  obtain ⟨le, ⟨same, keeps⟩ | ended | ⟨fresh, -⟩⟩ := @next_pending engine input
  · exact ⟨lt_of_lt_of_le older le, same ▸ ends keeps⟩
  · exact ⟨lt_of_lt_of_le older le, by simp [ended]⟩
  · refine ⟨lt_of_lt_of_le older le, ?_⟩
    simpa [fresh] using Nat.ne_of_gt older

theorem remembers_commit (succeed : answers.Succeed) (limited : 0 < req.confirmTimeoutSecs) :
    (engine.commit req answers now).2.Remembers engine.nextGuard engine.store.running := by
  rcases @commit_rest engine req answers now with ⟨-, -, -, nextGuard, guards⟩ | ⟨idle, -⟩
  · refine ⟨nextGuard ▸ Nat.lt_succ_self _, fun guard hf => ?_⟩
    rw [guards, getElem?_insert_self] at hf
    rw [← Option.some.inj hf]
  · exact absurd ⟨succeed, limited⟩ idle

/-- A woken guard is on its own unless its own confirmation is pending. -/
def Engine.Undisturbed (engine : Engine) : Prop :=
  ∀ (id : Nat) guard, engine.guards[id]? = some guard → guard.woken = true →
    engine.pendingConfirm = none ∨ engine.pendingConfirm = some id

theorem Engine.Undisturbed.next (undisturbed : engine.Undisturbed) (attended : engine.Attended)
    (unhurried : Unhurried engine input) : (next engine input).Undisturbed := by
  intro id guard hf woken
  rcases next_guard hf with ⟨before, hk, became⟩ | ⟨-, own⟩
  · have free : engine.pendingConfirm = none ∨ engine.pendingConfirm = some id := by
      rcases became.wakes woken with earlier | ⟨isWake, due⟩
      · exact undisturbed id before hk earlier
      · rcases attended id before hk with earlier | cancelled | own
        · exact undisturbed id before hk earlier
        · -- A guard that was told to end wakes only when nothing is pending.
          rw [Unhurried, isWake] at unhurried
          by_contra! pending
          exact absurd due (not_le.mpr (unhurried pending.1 before hk cancelled))
        · exact .inr own
    obtain ⟨-, ⟨same, -⟩ | ended | ⟨-, req, answers, isCommit, succeed, limited⟩⟩ :=
      @next_pending engine input
    · rwa [same]
    · exact .inl ended
    · -- The commit came when no woken guard was waiting.
      rw [Unhurried, isCommit] at unhurried
      rcases became.wakes woken with earlier | ⟨isWake, -⟩
      · exact absurd (earlier.symm.trans (unhurried succeed limited id before hk)) (by decide)
      · cases isCommit.symm.trans isWake
  · exact .inr own

/-- A guard that changes the configuration found a confirmation pending, and puts its text
back. -/
theorem rollBack_changes (changes : (engine.rollBack id applied).store ≠ engine.store) :
    ∃ guard, engine.guards[id]? = some guard ∧ guard.woken = true ∧ engine.pendingConfirm ≠ none ∧
      (engine.rollBack id applied).store.running = guard.preCommitRunning := by
  rcases @rollBack_cases engine id applied with hs | ⟨guard, hk, woken, ⟨-, hs⟩ | ⟨pending, hs⟩⟩
  · exact absurd (by rw [hs]) changes
  · exact absurd (by rw [hs]) changes
  · refine ⟨guard, hk, woken, pending, ?_⟩
    rw [hs] at changes ⊢
    cases applied with
    | done | torn => rfl
    | failed => exact absurd rfl changes

theorem run_undisturbed (store : Store) (inputs : List (Timed Event))
    (unhurried : (system store).Throughout Unhurried inputs) : ((system store).run inputs).Undisturbed := by
  have invariant : ((system store).run inputs).Attended ∧ ((system store).run inputs).Undisturbed := by
    refine @run_of_throughout _ _ _ (system store)
      (fun engine => engine.Attended ∧ engine.Undisturbed) Unhurried
      ⟨run_attended store [], fun _ _ _ _ => .inl rfl⟩ ?_ inputs unhurried
    rintro engine input ⟨attended, undisturbed⟩ isUnhurried
    exact ⟨attended.next, undisturbed.next attended isUnhurried⟩
  exact invariant.2

variable {inputs between : List (Timed Event)}

/-- What every input of the second part keeps. -/
theorem run_append_of (store : Store) (Holds : Engine → Prop)
    (keeps : ∀ input ∈ between, ∀ engine, Holds engine → Holds (next engine input))
    (holds : Holds ((system store).run inputs)) : Holds ((system store).run (inputs ++ between)) := by
  induction between using List.reverseRecOn with
  | nil => rwa [List.append_nil]
  | append_singleton between input ih =>
    rw [← List.append_assoc, run_concat]
    refine keeps input (by simp) _ (ih fun earlier hl => ?_)
    exact keeps earlier (List.mem_append_left _ hl)

end

/-- In every unhurried run a confirmed or superseded guard changes nothing, and the others put
back the text from before their commit. -/
theorem timersObey_of_unhurried (store : Store) (inputs : List (Timed Event))
    (unhurried : (system store).Throughout Unhurried inputs) : TimersObey store inputs := by
  rintro before between after now later req answers applied rfl succeed limited waiting acted changes
  have regroup : before ++ ⟨now, .commit req answers⟩ :: between =
      before ++ [⟨now, .commit req answers⟩] ++ between := by simp
  have remembers (more : List (Timed Event)) :
      ((system store).run (before ++ [⟨now, .commit req answers⟩] ++ more)).Remembers
        ((system store).run before).nextGuard ((system store).run before).store.running := by
    refine run_append_of store (·.Remembers _ _) (fun _ _ _ remembers => remembers.next) ?_
    rw [run_concat]
    exact remembers_commit succeed limited
  obtain ⟨guard, known, woken, pending, restored⟩ := rollBack_changes changes
  have own : waiting.pendingConfirm = some ((system store).run before).nextGuard :=
    (run_undisturbed store _ unhurried.left _ _ known woken).resolve_left pending
  refine ⟨fun input listed => ?_, restored.trans ((regroup ▸ remembers between).2 guard known)⟩
  by_contra ends
  obtain ⟨early, late, rfl⟩ := List.append_of_mem listed
  -- From the confirmation or the later commit on, the guard's own is no longer pending.
  have settled : ((system store).run
      (before ++ [⟨now, .commit req answers⟩] ++ early ++ [input] ++ late)).Settled
        ((system store).run before).nextGuard := by
    refine run_append_of store (·.Settled _)
      (fun _ _ _ settled => settled_next settled.1 fun _ => settled.2) ?_
    rw [run_concat]
    exact settled_next (remembers early).1 fun keeps => absurd keeps ends
  refine settled.2 ?_
  have same : before ++ [⟨now, .commit req answers⟩] ++ early ++ [input] ++ late =
      before ++ ⟨now, .commit req answers⟩ :: (early ++ input :: late) := by simp
  rw [same]
  exact own

namespace Minute

/-- The first commit is confirmed while its guard already waits; the second one sets a limit
again. -/
def late : List (Timed Event) :=
  [⟨0, .commit ⟨60⟩ {}⟩, ⟨secs 60, .wake 0⟩, ⟨secs 60, .confirmCommit⟩,
    ⟨secs 60, .setCandidate "newer" true⟩, ⟨secs 60, .commit ⟨60⟩ {}⟩,
    ⟨secs 60, .rollBack 0 .done⟩]

theorem unhurried : (system store).Throughout Unhurried (commits ++ expires ++ rollsBack) := by
  have committed : (system store).Throughout Unhurried commits := by
    refine (@throughout_concat _ _ _ _ _ [] _).mpr ⟨throughout_nil _ _, ?_⟩
    intro _ _ id guard hf
    simp [system] at hf
  exact throughout_concat.mpr ⟨throughout_concat.mpr ⟨committed, punctual⟩, trivial⟩

end Minute

theorem timersObey_of_unhurried_minute :
    TimersObey Minute.store (Minute.commits ++ Minute.expires ++ Minute.rollsBack) ∧
      ((system Minute.store).run (Minute.commits ++ Minute.expires)).store.running = "new" ∧
      ((system Minute.store).run
        (Minute.commits ++ Minute.expires ++ Minute.rollsBack)).store.running = "old" :=
  ⟨timersObey_of_unhurried _ _ Minute.unhurried, by decide +kernel, by decide +kernel⟩

/-- The guard of the confirmed commit undoes the later one, and the text it puts back is older
than both. -/
theorem confirmed_timer_acts : ¬ TimersObey Minute.store Minute.late := by
  intro obey
  have acts := obey []
    [⟨secs 60, .wake 0⟩, ⟨secs 60, .confirmCommit⟩, ⟨secs 60, .setCandidate "newer" true⟩,
      ⟨secs 60, .commit ⟨60⟩ {}⟩] [] 0 (secs 60) ⟨60⟩ {} .done rfl (by decide) (by decide)
    (by decide +kernel)
  exact acts.1 ⟨secs 60, .confirmCommit⟩ (by simp)

end Hemlock.Mgmt
