import Hemlock.Acl.Service
import Hemlock.Library.Machine

/-!
# Commits with a time limit

A commit makes the candidate the running configuration.  With a time limit it leaves a
guard behind: a task that waits until the deadline and then puts the text back that was
running before.  A confirmation ends the guard, and so does the next commit.
-/

namespace Hemlock.Mgmt

open Acl (Status)
open Machine

structure Store where
  running : String := ""
  /-- A fresh store has no candidate of its own. -/
  candidate : Option String := none
  deriving DecidableEq

def Store.candidateText (store : Store) : String := store.candidate.getD store.running

/-- A task that waits for the end of a commit-confirm window.  Once it is woken it only waits
for the engine, and a cancellation no longer reaches it. -/
structure Guard where
  deadline : Nat
  preCommitRunning : String
  /-- The task was told to end and has not been run since. -/
  cancelled : Bool := false
  woken : Bool := false
  deriving DecidableEq

abbrev GuardMap := Std.ExtTreeMap Nat Guard compare

structure Engine where
  store : Store
  commitSeq : Nat := 0
  /-- The guard that can still be cancelled. -/
  pendingConfirm : Option Nat := none
  guards : GuardMap := ∅
  nextGuard : Nat := 0

/-- How far a text got: applied and stored, given up before the store was touched, or stored
as running before a later file could not be written. -/
inductive Applied where
  | done
  | failed
  | torn
  deriving DecidableEq

/-- What a commit meets outside the engine: the files, the validation, the daemons. -/
structure Answers where
  readsCandidate : Bool := true
  valid : Bool := true
  readsRunning : Bool := true
  applied : Applied := .done
  reason : String := ""

structure CommitRequest where
  confirmTimeoutSecs : UInt32

/-- Whoever takes the pending confirmation cancels its guard. -/
def Engine.takePending (engine : Engine) : Engine :=
  { engine with
    pendingConfirm := none
    guards := engine.guards.map fun id guard =>
      { guard with cancelled := guard.cancelled || engine.pendingConfirm = some id } }

def Engine.applyAndPersist (text : String) (applied : Applied) (engine : Engine) : Engine :=
  match applied with
  | .done => { engine with store := ⟨text, some text⟩, commitSeq := engine.commitSeq + 1 }
  | .failed => engine
  | .torn => { engine with store := { engine.store with running := text } }

def Engine.arm (req : CommitRequest) (now : Nat) (preCommitRunning : String) (engine : Engine) : Engine :=
  if 0 < req.confirmTimeoutSecs then
    { engine with
      pendingConfirm := some engine.nextGuard
      guards := engine.guards.insert engine.nextGuard
        ⟨now + secs req.confirmTimeoutSecs.toNat, preCommitRunning, false, false⟩
      nextGuard := engine.nextGuard + 1 }
  else engine

/-- The answer is the number of the commit. -/
def Engine.commit (req : CommitRequest) (answers : Answers) (now : Nat) (engine : Engine) :
    Except Status Nat × Engine :=
  -- A new commit takes the place of a pending one, before it is known whether it succeeds.
  let engine := engine.takePending
  if !answers.readsCandidate then (.error ⟨.internal, answers.reason⟩, engine)
  else if !answers.valid then
    (.error ⟨.failedPrecondition, "candidate invalid: " ++ answers.reason⟩, engine)
  else if !answers.readsRunning then (.error ⟨.internal, answers.reason⟩, engine)
  else
    let after := engine.applyAndPersist engine.store.candidateText answers.applied
    if answers.applied = .done then
      (.ok after.commitSeq, after.arm req now engine.store.running)
    else (.error ⟨.internal, answers.reason⟩, after)

/-- The answer says whether there was anything to confirm. -/
def Engine.confirmCommit (engine : Engine) : Bool × Engine :=
  (engine.pendingConfirm.isSome, engine.takePending)

def Engine.setCandidate (text : String) (valid : Bool) (engine : Engine) : Engine :=
  if valid then { engine with store := { engine.store with candidate := some text } } else engine

/-- The task is run and finds its time over.  A cancelled one may find that too: `select!`
takes either of two branches that are ready. -/
def Engine.wake (id now : Nat) (engine : Engine) : Engine :=
  { engine with
    guards := engine.guards.map fun other guard =>
      { guard with woken := guard.woken || (other = id && guard.deadline ≤ now) } }

/-- The task is run and finds itself cancelled. -/
def Engine.quit (id : Nat) (engine : Engine) : Engine :=
  { engine with
    guards := engine.guards.filter fun other guard =>
      !(other = id && guard.cancelled && !guard.woken) }

/-- A woken guard gets the engine.  It does not look whose confirmation is pending. -/
def Engine.rollBack (id : Nat) (applied : Applied) (engine : Engine) : Engine :=
  match engine.guards[id]? with
  | some guard =>
    if guard.woken then
      let engine := { engine with guards := engine.guards.erase id }
      if engine.pendingConfirm.isSome then
        engine.takePending.applyAndPersist guard.preCommitRunning applied
      else engine
    else engine
  | none => engine

inductive Event where
  | setCandidate (text : String) (valid : Bool)
  | commit (req : CommitRequest) (answers : Answers)
  | confirmCommit
  | wake (id : Nat)
  | quit (id : Nat)
  | rollBack (id : Nat) (applied : Applied)

def next (engine : Engine) (input : Timed Event) : Engine :=
  match input.event with
  | .setCandidate text valid => engine.setCandidate text valid
  | .commit req answers => (engine.commit req answers input.time).2
  | .confirmCommit => engine.confirmCommit.2
  | .wake id => engine.wake id input.time
  | .quit id => engine.quit id
  | .rollBack id applied => engine.rollBack id applied

/-- The engine with what it finds on disk when it starts. -/
def system (store : Store) : Machine Engine (Timed Event) Empty where
  init := { store }
  next := next
  emit _ _ := []

end Hemlock.Mgmt
