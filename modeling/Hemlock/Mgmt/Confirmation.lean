import Hemlock.Mgmt.Commit

/-!
# The guard of a commit

A guard puts the text back that was running before its commit, provided that no commit
fails while it is pending, that no request comes when a deadline has passed and its guard
has not run yet, and that putting the text back succeeds.  A commit that fails drops the
guard of the one before it.
-/

namespace Hemlock.Mgmt

open Machine OrderedMap Engine

/-- The commit answers with its number. -/
def Answers.Succeed (answers : Answers) : Prop :=
  answers.readsCandidate = true ∧ answers.valid = true ∧ answers.readsRunning = true ∧
    answers.applied = .done

instance (answers : Answers) : Decidable answers.Succeed := inferInstanceAs (Decidable (_ ∧ _))

/-- Neither a confirmation nor a commit that succeeds. -/
def Event.Leaves : Event → Prop
  | .confirmCommit => False
  | .commit _ answers => ¬ answers.Succeed
  | .setCandidate .. | .wake _ | .quit _ | .rollBack .. => True

/-- A commit with a time limit succeeds; until its deadline it is neither confirmed nor
followed by another that succeeds; at the deadline its guard is woken and gets the engine.
Then the text is back that was running before the commit. -/
def Guarded (store : Store) (inputs : List (Timed Event)) : Prop :=
  ∀ (before between : List (Timed Event)) (now woken later : Nat) (req : CommitRequest)
    (answers : Answers) (applied : Applied),
    inputs = before ++ ⟨now, .commit req answers⟩ :: between ++
      [⟨later, .rollBack ((system store).run before).nextGuard applied⟩] →
    answers.Succeed → 0 < req.confirmTimeoutSecs →
    (∀ input ∈ between, input.time < now + secs req.confirmTimeoutSecs.toNat → input.event.Leaves) →
    ⟨woken, .wake ((system store).run before).nextGuard⟩ ∈ between →
    now + secs req.confirmTimeoutSecs.toNat ≤ woken →
    (∀ input ∈ between, ∀ applied,
      input.event ≠ .rollBack ((system store).run before).nextGuard applied) →
    ((system store).run inputs).store.running = ((system store).run before).store.running

/-- No guard is due. -/
def Engine.Early (engine : Engine) (now : Nat) : Prop :=
  ∀ (id : Nat) guard, engine.guards[id]? = some guard →
    guard.woken = false ∧ now < guard.deadline

/-- While a confirmation is pending, a guard that was cancelled has ended by its deadline. -/
def Engine.Punctual (engine : Engine) (id now : Nat) : Prop :=
  engine.pendingConfirm ≠ none →
    ∀ guard, engine.guards[id]? = some guard → guard.cancelled = true → now < guard.deadline

/-- Requests come when no guard is due, a commit while one is pending succeeds, cancelled
guards end in time, and a text can be put back. -/
def Steady (engine : Engine) (input : Timed Event) : Prop :=
  match input.event with
  | .commit _ answers =>
    engine.Early input.time ∧ (engine.pendingConfirm ≠ none → answers.Succeed)
  | .confirmCommit => engine.Early input.time
  | .wake id => engine.Punctual id input.time
  | .rollBack _ applied => applied = .done
  | .setCandidate .. | .quit _ => True

section

variable {engine : Engine} {req : CommitRequest} {answers : Answers} {input : Timed Event}
  {id other now deadline : Nat} {previous text : String} {applied : Applied} {guard : Guard}

@[simp]
theorem applyAndPersist_rest : (engine.applyAndPersist text applied).guards = engine.guards ∧
    (engine.applyAndPersist text applied).pendingConfirm = engine.pendingConfirm ∧
    (engine.applyAndPersist text applied).nextGuard = engine.nextGuard := by
  cases applied <;> exact ⟨rfl, rfl, rfl⟩

theorem commit_of_succeed (succeed : answers.Succeed) : (engine.commit req answers now).2 =
      (engine.takePending.applyAndPersist engine.store.candidateText .done).arm req now
        engine.store.running := by
  obtain ⟨reads, valid, running, done⟩ := succeed
  simp only [commit, reads, valid, running, done]
  rfl

theorem commit_running (succeed : answers.Succeed) :
    (engine.commit req answers now).2.store.running = engine.store.candidateText := by
  rw [commit_of_succeed succeed, arm]
  split_ifs <;> rfl

theorem commit_of_not_succeed (fails : ¬ answers.Succeed) :
    ∃ text applied, (engine.commit req answers now).2 =
      engine.takePending.applyAndPersist text applied := by
  unfold commit
  by_cases reads : answers.readsCandidate
  · by_cases valid : answers.valid
    · by_cases running : answers.readsRunning
      · have notDone : answers.applied ≠ .done := fun done => fails ⟨reads, valid, running, done⟩
        exact ⟨_, _, by simp [reads, valid, running, notDone]; rfl⟩
      · exact ⟨"", .failed, by simp [valid, running, applyAndPersist]⟩
    · exact ⟨"", .failed, by simp [reads, valid, applyAndPersist]⟩
  · exact ⟨"", .failed, by simp [reads, applyAndPersist]⟩

/-- What a commit leaves of the guards: a new one if it succeeds and has a time limit. -/
theorem commit_rest : let after := (engine.commit req answers now).2
    (answers.Succeed ∧ 0 < req.confirmTimeoutSecs ∧ after.pendingConfirm = some engine.nextGuard ∧
        after.nextGuard = engine.nextGuard + 1 ∧ after.guards = engine.takePending.guards.insert
          engine.nextGuard ⟨now + secs req.confirmTimeoutSecs.toNat, engine.store.running, false, false⟩) ∨
      ¬ (answers.Succeed ∧ 0 < req.confirmTimeoutSecs) ∧ after.pendingConfirm = none ∧
        after.nextGuard = engine.nextGuard ∧ after.guards = engine.takePending.guards := by
  intro after
  by_cases succeed : answers.Succeed
  · have isAfter : after = _ := commit_of_succeed succeed
    rw [arm] at isAfter
    split_ifs at isAfter with limited
    · exact .inl (isAfter ▸ ⟨succeed, limited, rfl, rfl, rfl⟩)
    · exact .inr (isAfter ▸ ⟨fun arms => limited arms.2, rfl, rfl, rfl⟩)
  · obtain ⟨text, applied, isAfter⟩ := @commit_of_not_succeed engine req answers now succeed
    obtain ⟨guards, pending, nextGuard⟩ := @applyAndPersist_rest engine.takePending text applied
    refine .inr ⟨fun arms => succeed arms.1, ?_⟩
    dsimp only [after]
    rw [isAfter]
    exact ⟨pending, nextGuard, guards⟩

theorem rollBack_cases : engine.rollBack id applied = engine ∨
      ∃ guard, engine.guards[id]? = some guard ∧ guard.woken = true ∧ (engine.pendingConfirm = none ∧
            engine.rollBack id applied = { engine with guards := engine.guards.erase id } ∨
          engine.pendingConfirm ≠ none ∧ engine.rollBack id applied =
            ({ engine with guards := engine.guards.erase id } : Engine).takePending.applyAndPersist
              guard.preCommitRunning applied) := by
  unfold rollBack
  cases hk : engine.guards[id]? with
  | none => exact .inl rfl
  | some guard =>
    dsimp only
    split_ifs with woken pending
    · refine .inr ⟨guard, rfl, woken, .inr ⟨?_, rfl⟩⟩
      exact Option.isSome_iff_ne_none.mp pending
    · refine .inr ⟨guard, rfl, woken, .inl ⟨?_, rfl⟩⟩
      simpa using pending
    · exact .inl rfl

/-- What a step makes of a guard. -/
structure Engine.Became (engine : Engine) (input : Timed Event) (id : Nat) (before guard : Guard) : Prop where
  text : guard.preCommitRunning = before.preCommitRunning
  cancelled : before.cancelled = true → guard.cancelled = true
  woken : before.woken = true → guard.woken = true
  wakes : guard.woken = true →
    before.woken = true ∨ input.event = .wake id ∧ before.deadline ≤ input.time
  pending : engine.pendingConfirm = some id →
    (next engine input).pendingConfirm = some id ∨ guard.cancelled = true

theorem Engine.became_same (same : (next engine input).pendingConfirm = engine.pendingConfirm) :
    engine.Became input id guard guard where
  text := rfl
  cancelled is := is
  woken is := is
  wakes := .inl
  pending own := .inl (same.trans own)

theorem takePending_guard (hf : engine.takePending.guards[id]? = some guard) :
    ∃ before, engine.guards[id]? = some before ∧ guard = { before with
      cancelled := before.cancelled || engine.pendingConfirm = some id } := by
  rw [takePending, getElem?_map, Option.map_eq_some_iff] at hf
  obtain ⟨before, hk, rfl⟩ := hf
  exact ⟨before, hk, rfl⟩

theorem Engine.became_cancelled : engine.Became input id guard { guard with
    cancelled := guard.cancelled || engine.pendingConfirm = some id } where
  text := rfl
  cancelled is := by simp [is]
  woken is := is
  wakes := .inl
  pending own := .inr (by simp [own])

theorem became_of_takePending (hf : engine.takePending.guards[id]? = some guard) :
    ∃ before, engine.guards[id]? = some before ∧ engine.Became input id before guard := by
  obtain ⟨before, hk, rfl⟩ := takePending_guard hf
  exact ⟨before, hk, became_cancelled⟩

theorem setCandidate_rest {valid : Bool} : (engine.setCandidate text valid).guards = engine.guards ∧
      (engine.setCandidate text valid).pendingConfirm = engine.pendingConfirm ∧
      (engine.setCandidate text valid).nextGuard = engine.nextGuard := by
  unfold setCandidate
  split_ifs <;> exact ⟨rfl, rfl, rfl⟩

/-- A guard was there before the step, or the step is the commit that sets it. -/
theorem next_guard (hf : (next engine input).guards[id]? = some guard) :
    (∃ before, engine.guards[id]? = some before ∧ engine.Became input id before guard) ∨
      id = engine.nextGuard ∧ (next engine input).pendingConfirm = some id := by
  obtain ⟨now, event⟩ := input
  cases event with
  | setCandidate text valid =>
    obtain ⟨guards, pending, -⟩ := @setCandidate_rest engine text valid
    exact .inl ⟨guard, guards ▸ hf, became_same pending⟩
  | commit req answers =>
    simp only [next] at hf ⊢
    rcases @commit_rest engine req answers now with ⟨-, -, pending, -, guards⟩ | ⟨-, -, -, guards⟩
    · rw [guards, lookup_insert] at hf
      split_ifs at hf with fresh
      · exact .inr ⟨fresh.symm, fresh ▸ pending⟩
      · exact .inl (became_of_takePending hf)
    · exact .inl (became_of_takePending (guards ▸ hf))
  | confirmCommit => exact .inl (became_of_takePending hf)
  | wake other =>
    simp only [next, wake, getElem?_map, Option.map_eq_some_iff] at hf
    obtain ⟨before, hk, rfl⟩ := hf
    refine .inl ⟨before, hk, rfl, fun cancelled => cancelled, fun woken => by simp [woken], fun woken => ?_, .inl⟩
    simp only [Bool.or_eq_true, Bool.and_eq_true, decide_eq_true_eq] at woken
    exact woken.imp_right fun due => ⟨congrArg Event.wake due.1.symm, due.2⟩
  | quit other =>
    simp only [next, quit, getElem?_filter', Option.filter_eq_some_iff] at hf
    exact .inl ⟨guard, hf.1, became_same rfl⟩
  | rollBack other applied =>
    have erased {guard : Guard} (hf : (engine.guards.erase other)[id]? = some guard) :
        engine.guards[id]? = some guard := by
      rw [lookup_erase] at hf
      split_ifs at hf
      exact hf
    simp only [next] at hf
    rcases @rollBack_cases engine other applied with hs | ⟨_, -, -, ⟨-, hs⟩ | ⟨-, hs⟩⟩
    · exact .inl ⟨guard, by rwa [hs] at hf, became_same (by simp only [next, hs])⟩
    · exact .inl ⟨guard, erased (by rwa [hs] at hf), became_same (by simp only [next, hs])⟩
    · rw [hs, applyAndPersist_rest.1] at hf
      obtain ⟨before, hk, rfl⟩ := takePending_guard hf
      exact .inl ⟨before, erased hk, became_cancelled⟩

/-- A guard is pending, told to end, or woken and on its own. -/
def Engine.Attended (engine : Engine) : Prop :=
  ∀ (id : Nat) guard, engine.guards[id]? = some guard →
    guard.woken = true ∨ guard.cancelled = true ∨ engine.pendingConfirm = some id

theorem Engine.Attended.next (attended : engine.Attended) : (next engine input).Attended := by
  intro id guard hf
  rcases next_guard hf with ⟨before, hk, became⟩ | ⟨-, pending⟩
  · rcases attended id before hk with woken | cancelled | pending
    · exact .inl (became.woken woken)
    · exact .inr (.inl (became.cancelled cancelled))
    · exact .inr (became.pending pending).symm
  · exact .inr (.inr pending)

theorem run_attended (store : Store) (inputs : List (Timed Event)) :
    ((system store).run inputs).Attended := by
  refine (system store).run_invariant ?_ (fun _ _ => Engine.Attended.next) inputs
  intro id guard hf
  simp [system] at hf

/-- The only guard that is not told to end, and it can put the text back. -/
structure Engine.GuardedBy (engine : Engine) (id deadline : Nat) (previous : String)
    (woken : Bool) : Prop where
  pending : engine.pendingConfirm = some id
  guard : engine.guards[id]? = some ⟨deadline, previous, false, woken⟩
  others : ∀ (other : Nat) guard, engine.guards[other]? = some guard → other ≠ id →
    guard.cancelled = true ∧ guard.woken = false

theorem Engine.Attended.guardedBy_commit (attended : engine.Attended) (early : engine.Early now)
    (succeed : answers.Succeed) (limited : 0 < req.confirmTimeoutSecs) :
    (engine.commit req answers now).2.GuardedBy engine.nextGuard
      (now + secs req.confirmTimeoutSecs.toNat) engine.store.running false := by
  rcases @commit_rest engine req answers now with ⟨-, -, pending, -, guards⟩ | ⟨idle, -⟩
  · refine ⟨pending, by rw [guards]; exact getElem?_insert_self, fun other guard hf ne => ?_⟩
    rw [guards, lookup_insert, if_neg ne.symm] at hf
    obtain ⟨before, hk, rfl⟩ := takePending_guard hf
    have asleep := (early other before hk).1
    refine ⟨?_, asleep⟩
    rcases attended other before hk with woken | cancelled | pending
    · exact absurd (woken.symm.trans asleep) (by decide)
    · simp [cancelled]
    · simp [pending]
  · exact absurd ⟨succeed, limited⟩ idle

variable {woken : Bool}
variable (guarded : engine.GuardedBy id deadline previous woken)
include guarded

/-- The guard stays until it acts.  It is woken at its deadline and then stays woken. -/
theorem Engine.GuardedBy.next
    (steady : Steady engine input) (leaves : input.time < deadline → input.event.Leaves)
    (unused : ∀ applied, input.event ≠ .rollBack id applied) : ∃ woken',
      (woken = true ∨ input.event = .wake id ∧ deadline ≤ input.time → woken' = true) ∧
        (next engine input).GuardedBy id deadline previous woken' := by
  have kept : ∃ woken',
      (woken = true ∨ input.event = .wake id ∧ deadline ≤ input.time → woken' = true) ∧
        (Mgmt.next engine input).pendingConfirm = some id ∧
        (Mgmt.next engine input).guards[id]? = some ⟨deadline, previous, false, woken'⟩ := by
    obtain ⟨now, event⟩ := input
    cases event with
    | setCandidate text valid =>
      obtain ⟨guards, pending, -⟩ := @setCandidate_rest engine text valid
      exact ⟨woken, by simp, pending.trans guarded.pending, guards ▸ guarded.guard⟩
    | commit req answers =>
      have succeeds := steady.2 (by simp [guarded.pending])
      exact absurd succeeds (leaves (steady.1 id _ guarded.guard).2)
    | confirmCommit => exact (leaves (steady id _ guarded.guard).2).elim
    | wake other =>
      refine ⟨woken || (id = other && deadline ≤ now), ?_, guarded.pending, ?_⟩
      · rintro (isWoken | ⟨⟨⟩, due⟩)
        · simp [isWoken]
        · simpa using .inr due
      · simp [Mgmt.next, wake, getElem?_map, guarded.guard]
    | quit other =>
      refine ⟨woken, by simp, guarded.pending, ?_⟩
      simp [Mgmt.next, quit, guarded.guard]
    | rollBack other applied =>
      have ne : other ≠ id := by
        rintro rfl
        exact unused applied rfl
      have idle : engine.rollBack other applied = engine := by
        rcases @rollBack_cases engine other applied with hs | ⟨guard, hf, isWoken, -⟩
        · exact hs
        · exact absurd (isWoken.symm.trans (guarded.others other guard hf ne).2) (by decide)
      simp only [Mgmt.next, idle]
      exact ⟨woken, by simp, guarded.pending, guarded.guard⟩
  obtain ⟨woken', wakes, pending, guard⟩ := kept
  refine ⟨woken', wakes, pending, guard, fun other guard hf ne => ?_⟩
  rcases next_guard hf with ⟨before, hk, became⟩ | ⟨-, own⟩
  · obtain ⟨cancelled, asleep⟩ := guarded.others other before hk ne
    refine ⟨became.cancelled cancelled, Bool.eq_false_iff.mpr fun isWoken => ?_⟩
    rcases became.wakes isWoken with earlier | ⟨isWake, due⟩
    · exact absurd (earlier.symm.trans asleep) (by decide)
    · -- It was told to end, so it would be late.
      rw [Steady, isWake] at steady
      exact absurd due (not_le.mpr (steady (by simp [guarded.pending]) before hk cancelled))
  · exact absurd (Option.some.inj (own.symm.trans pending)) ne

omit guarded

theorem Engine.GuardedBy.rollBack (guarded : engine.GuardedBy id deadline previous true) :
    (engine.rollBack id .done).store.running = previous := by
  rw [Engine.rollBack, guarded.guard]
  dsimp only
  rw [if_pos rfl, if_pos (by rw [guarded.pending]; rfl)]
  rfl

theorem guardedBy_run (store : Store) {inputs between : List (Timed Event)}
    (steady : (system store).Throughout Steady (inputs ++ between))
    (leaves : ∀ input ∈ between, input.time < deadline → input.event.Leaves)
    (others : ∀ input ∈ between, ∀ applied, input.event ≠ .rollBack id applied)
    (guarded : ((system store).run inputs).GuardedBy id deadline previous woken) :
    ∃ woken', (woken = true → woken' = true) ∧
      ((system store).run (inputs ++ between)).GuardedBy id deadline previous woken' := by
  induction between using List.reverseRecOn with
  | nil => exact ⟨woken, fun isWoken => isWoken, by rwa [List.append_nil]⟩
  | append_singleton between input ih =>
    rw [← List.append_assoc] at steady ⊢
    obtain ⟨earlier, last⟩ := throughout_concat.mp steady
    obtain ⟨woken', kept, guarded⟩ := ih earlier
      (fun input hl => leaves input (List.mem_append_left _ hl))
      (fun input hl => others input (List.mem_append_left _ hl))
    have hl : input ∈ between ++ [input] := List.mem_append_right _ (List.mem_singleton_self _)
    obtain ⟨woken'', kept', guarded⟩ := guarded.next last (leaves input hl) (others input hl)
    exact ⟨woken'', fun isWoken => kept' (.inl (kept isWoken)), by rwa [run_concat]⟩

end

/-- In every steady run a commit is guarded. -/
theorem guarded_of_steady (store : Store) (inputs : List (Timed Event))
    (steady : (system store).Throughout Steady inputs) : Guarded store inputs := by
  rintro before between now woken later req answers applied rfl succeed limited leaves wakes due others
  obtain ⟨steady, lastSteady⟩ := throughout_concat.mp steady
  obtain ⟨early, late, rfl⟩ := List.append_of_mem wakes
  -- The run up to the commit, up to the wake-up, and up to the roll-back.
  have regroup {id : Nat} :
      before ++ ⟨now, .commit req answers⟩ :: (early ++ ⟨woken, .wake id⟩ :: late) =
        before ++ [⟨now, .commit req answers⟩] ++ early ++ [⟨woken, .wake id⟩] ++ late := by
    simp
  rw [regroup] at steady lastSteady ⊢
  have untilWake := throughout_concat.mp steady.left
  have atCommit := (throughout_concat.mp untilWake.1.left).2
  have committed := (run_attended store before).guardedBy_commit atCommit.1 succeed limited
  obtain ⟨_, -, kept⟩ := guardedBy_run store untilWake.1
    (fun input listed => leaves input (List.mem_append_left _ listed))
    (fun input listed => others input (List.mem_append_left _ listed))
    (by rwa [run_concat])
  obtain ⟨_, wakened, guarded⟩ := kept.next untilWake.2 (fun _ => trivial) (by simp)
  obtain ⟨isWoken, stays, guarded⟩ := guardedBy_run store steady
    (fun input listed => leaves input (List.mem_append_right _ (List.mem_cons_of_mem _ listed)))
    (fun input listed => others input (List.mem_append_right _ (List.mem_cons_of_mem _ listed)))
    (by rwa [run_concat])
  obtain rfl : applied = .done := lastSteady
  rw [stays (wakened (.inr ⟨rfl, due⟩))] at guarded
  rw [run_concat]
  exact guarded.rollBack

namespace Minute

def store : Store := ⟨"old", some "new"⟩

def commits : List (Timed Event) := [⟨0, .commit ⟨60⟩ {}⟩]

def refused : List (Timed Event) := [⟨1, .commit ⟨60⟩ { valid := false }⟩, ⟨1, .quit 0⟩]

def expires : List (Timed Event) := [⟨secs 60, .wake 0⟩]

def rollsBack : List (Timed Event) := [⟨secs 60, .rollBack 0 .done⟩]

theorem punctual : ((system store).run commits).Punctual 0 (secs 60) := by
  intro _ guard hf cancelled
  have untold : ((system store).run commits).guards[0]? = some ⟨secs 60, "old", false, false⟩ := by
    decide +kernel
  cases untold.symm.trans hf
  cases cancelled

theorem steady : (system store).Throughout Steady (commits ++ expires ++ rollsBack) := by
  have committed : (system store).Throughout Steady commits := by
    refine (@throughout_concat _ _ _ _ _ [] _).mpr ⟨throughout_nil _ _, ?_, by simp [system]⟩
    intro id guard hf
    simp [system] at hf
  exact throughout_concat.mpr ⟨throughout_concat.mpr ⟨committed, punctual⟩, rfl⟩

end Minute

/-- A minute after the commit the old text is back. -/
theorem guarded_of_steady_minute :
    Guarded Minute.store (Minute.commits ++ Minute.expires ++ Minute.rollsBack) ∧
      ((system Minute.store).run (Minute.commits ++ Minute.expires ++ Minute.rollsBack)).store.running =
        "old" := by
  have guarded := guarded_of_steady Minute.store
    (Minute.commits ++ Minute.expires ++ Minute.rollsBack) Minute.steady
  refine ⟨guarded, guarded [] Minute.expires 0 (secs 60) (secs 60) ⟨60⟩ {} .done rfl (by decide)
    (by decide) ?_ (List.mem_singleton_self _) (by decide) ?_⟩
  · intro input listed _
    obtain rfl := List.mem_singleton.mp listed
    trivial
  · intro input listed applied
    obtain rfl := List.mem_singleton.mp listed
    simp

/-- A commit that fails its validation in the meantime drops the guard: nothing is rolled
back. -/
theorem refused_commit_drops_guard : ¬ Guarded Minute.store
      (Minute.commits ++ Minute.refused ++ Minute.expires ++ Minute.rollsBack) := by
  intro guarded
  have back := guarded [] (Minute.refused ++ Minute.expires) 0 (secs 60) (secs 60) ⟨60⟩ {} .done rfl
    (by decide) (by decide) ?_ (by simp [Minute.expires, system]) (by decide) ?_
  · revert back
    decide +kernel
  all_goals
    intro input listed _
    simp only [Minute.refused, Minute.expires, List.cons_append, List.nil_append, List.mem_cons,
      List.not_mem_nil, or_false] at listed
    rcases listed with rfl | rfl | rfl
  · show ¬ Answers.Succeed _
    decide
  · trivial
  · trivial
  · simp
  · simp
  · simp

end Hemlock.Mgmt
