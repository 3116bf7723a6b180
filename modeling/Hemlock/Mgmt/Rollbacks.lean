import Mathlib.Data.List.Range
import Mathlib.Logic.Function.Basic

/-!
# The rollback ring

Every commit moves the texts in the ring one place further and puts the running text at its
front.  Texts and the metadata of the commits that made them are separate files.
-/

namespace Hemlock.Rollbacks

open Function

def ringSize : Nat := 50

structure RollbackMeta where
  committedAt : String := ""
  comment : String := ""
  user : String := ""
  client : String := ""
  deriving DecidableEq

/-- A text and the metadata of the commit that made it. -/
abbrev Entry := String × RollbackMeta

/-- The files of the state directory; a number names a file of the ring. -/
structure Store where
  runningConf : Option String := none
  runningJson : Option RollbackMeta := none
  candidateConf : Option String := none
  conf : Nat → Option String := fun _ => none
  json : Nat → Option RollbackMeta := fun _ => none

/-- The file `n` becomes the next one. -/
def rename {File : Type} (n : Nat) (files : Nat → Option File) : Nat → Option File :=
  update (update files (n + 1) (files n)) n none

namespace Store

def running (store : Store) : String := store.runningConf.getD ""

def runningMeta (store : Store) : RollbackMeta := store.runningJson.getD {}

def candidate (store : Store) : String := store.candidateConf.getD store.running

def setCandidate (text : String) (store : Store) : Store := { store with candidateConf := some text }

def discardCandidate (store : Store) : Store := store.setCandidate store.running

def rotate (store : Store) (n : Nat) : Store :=
  if (store.conf n).isSome then
    { store with
      conf := rename n store.conf
      json := if (store.json n).isSome then rename n store.json else store.json }
  else store

def commit (text : String) (made : RollbackMeta) (store : Store) : Store :=
  let store := (List.range' 1 (ringSize - 1)).reverse.foldl rotate store
  setCandidate text
    { store with
      conf := update store.conf 1 (some store.running)
      json := update store.json 1 (some store.runningMeta)
      runningConf := some text
      runningJson := some made }

def rollback (store : Store) (n : Nat) : Option String := store.conf n

def listRollbacks (store : Store) : List (Nat × RollbackMeta) :=
  ((List.range' 1 ringSize).filter fun n => (store.conf n).isSome).map fun n => (n, (store.json n).getD {})

end Store

inductive Call where
  | commit (text : String) (made : RollbackMeta)
  | setCandidate (text : String)
  | discardCandidate

def Call.apply (store : Store) : Call → Store
  | .commit text made => store.commit text made
  | .setCandidate text => store.setCandidate text
  | .discardCandidate => store.discardCandidate

def storeAfter (calls : List Call) : Store := calls.foldl Call.apply {}

/-- The texts that were committed, the last first, and their metadata. -/
def commits (calls : List Call) : List Entry :=
  calls.foldl (fun earlier call =>
    match call with
    | .commit text made => (text, made) :: earlier
    | _ => earlier) []

/-- What was running, the last first; a fresh store runs nothing. -/
def history (calls : List Call) : List Entry := commits calls ++ [("", ({} : RollbackMeta))]

/-- The ring holds these, each at its number. -/
def Store.Rings (store : Store) (slots : Nat → Option Entry) : Prop :=
  (∀ n, store.conf n = (slots n).map Prod.fst) ∧ ∀ n, store.json n = (slots n).map Prod.snd

section

variable {store : Store} {slots : Nat → Option Entry} {ring : List Entry} {n : Nat}

theorem map_rename {First Second : Type} (f : First → Second) (files : Nat → Option First) (other : Nat) :
    rename n (fun n => (files n).map f) other = (rename n files other).map f := by
  unfold rename
  simp only [update_apply]
  split_ifs <;> rfl

theorem map_update {First Second : Type} (f : First → Second) (files : Nat → Option First) (file : First)
    (other : Nat) : update (fun n => (files n).map f) n (some (f file)) other =
      (update files n (some file) other).map f := by
  simp only [update_apply]
  split_ifs <;> rfl

theorem Store.Rings.rotate (rings : store.Rings slots) :
    (store.rotate n).Rings (if (slots n).isSome then rename n slots else slots) := by
  obtain ⟨conf, json⟩ := rings
  unfold Store.rotate
  rw [conf n, json n, Option.isSome_map, Option.isSome_map]
  split_ifs with occupied
  · rw [funext conf, funext json]
    exact ⟨map_rename _ slots, map_rename _ slots⟩
  · exact ⟨conf, json⟩

/-- The ring with the places behind `m` moved on. -/
structure Moved (ring : List Entry) (m : Nat) (slots : Nat → Option Entry) : Prop where
  before : ∀ n, 1 ≤ n → n < m → slots n = ring[n]?
  gap : ring.length ≤ m → slots m = none
  behind : ∀ n, m < n → n ≤ ringSize → slots n = ring[n - 1]?
  outside : ∀ n, n = 0 ∨ ringSize < n → slots n = none

theorem Moved.step (moved : Moved ring (n + 1) slots) (pos : 1 ≤ n) (small : n < ringSize) :
    Moved ring n (if (slots n).isSome then rename n slots else slots) := by
  have here := moved.before n pos (Nat.lt_succ_self n)
  cases found : slots n with
  | none =>
    have short : ring.length ≤ n := List.getElem?_eq_none_iff.mp (here.symm.trans found)
    refine ⟨fun k hk hn => moved.before k hk (by omega), fun _ => found, fun k hn hk => ?_, moved.outside⟩
    by_cases isGap : k = n + 1
    · rw [isGap, Nat.add_sub_cancel, ← here, found]
      exact moved.gap (by omega)
    · exact moved.behind k (by omega) hk
  | some entry =>
    refine ⟨fun k hk hn => ?_, fun _ => ?_, fun k hn hk => ?_, fun k hk => ?_⟩
    · simp [rename, show k ≠ n by omega, show k ≠ n + 1 by omega, moved.before k hk (by omega)]
    · simp [rename]
    · by_cases isGap : k = n + 1
      · simp [isGap, rename, ← here]
      · simp [rename, isGap, show k ≠ n by omega, moved.behind k (by omega) hk]
    · simp [rename, show k ≠ n by omega, show k ≠ n + 1 by omega, moved.outside k hk]

theorem rings_rotations (small : n < ringSize) (rings : store.Rings slots)
    (moved : Moved ring (n + 1) slots) : ∃ slots, ((List.range' 1 n).reverse.foldl Store.rotate store).Rings slots ∧ Moved ring 1 slots := by
  induction n generalizing store slots with
  | zero => exact ⟨slots, rings, moved⟩
  | succ n ih =>
    have isLast : 1 + 1 * n = n + 1 := by omega
    rw [List.range'_concat, List.reverse_append, isLast]
    exact ih (Nat.lt_of_succ_lt small) rings.rotate (moved.step (Nat.le_add_left 1 n) small)

theorem rotations_running (places : List Nat) :
    (places.foldl Store.rotate store).runningConf = store.runningConf ∧
      (places.foldl Store.rotate store).runningJson = store.runningJson := by
  induction places generalizing store with
  | nil => exact ⟨rfl, rfl⟩
  | cons n places ih =>
    rw [List.foldl_cons, ih.1, ih.2]
    unfold Store.rotate
    split_ifs <;> exact ⟨rfl, rfl⟩

/-- The store runs the first text of these, and the ring holds the next ones. -/
structure Store.Holds (store : Store) (ring : List Entry) : Prop where
  running : ring[0]? = some (store.running, store.runningMeta)
  rings : store.Rings fun n => if n = 0 ∨ ringSize < n then none else ring[n]?

theorem Store.Holds.commit (holds : store.Holds ring) (text : String) (made : RollbackMeta) :
    (store.commit text made).Holds ((text, made) :: ring) := by
  have start : Moved ring (ringSize - 1 + 1) fun n => if n = 0 ∨ ringSize < n then none else ring[n]? := by
    refine ⟨fun n pos small => ?_, fun short => ?_, fun n _ _ => ?_, fun n outside => if_pos outside⟩
    · exact if_neg (by omega)
    · rw [List.getElem?_eq_none short, ite_self]
    · omega
  obtain ⟨slots, ⟨conf, json⟩, moved⟩ := rings_rotations (by decide) holds.rings start
  have places (n : Nat) : update slots 1 (some (store.running, store.runningMeta)) n =
      if n = 0 ∨ ringSize < n then none else ((text, made) :: ring)[n]? := by
    split_ifs with outside
    · rw [update_of_ne (by rintro rfl; exact absurd outside (by decide)), moved.outside n outside]
    · obtain ⟨k, rfl⟩ := Nat.exists_eq_succ_of_ne_zero fun isZero => outside (.inl isZero)
      by_cases isOne : k = 0
      · simp [isOne, holds.running]
      · rw [update_of_ne (by omega), moved.behind _ (by omega) (by omega)]
        rfl
  have running := @rotations_running store (List.range' 1 (ringSize - 1)).reverse
  refine ⟨rfl, fun n => ?_, fun n => ?_⟩
  · simp only [← places, ← map_update, ← conf]
    simp only [Store.running, ← running.1]
    rfl
  · simp only [← places, ← map_update, ← json]
    simp only [Store.runningMeta, ← running.2]
    rfl

theorem holds_after (calls : List Call) : (storeAfter calls).Holds (history calls) := by
  unfold storeAfter history commits
  induction calls using List.reverseRecOn with
  | nil => exact ⟨rfl, by constructor <;> intro n <;> cases n <;> simp⟩
  | append_singleton calls call ih =>
    rw [List.foldl_append, List.foldl_append]
    cases call with
    | commit text made => exact ih.commit text made
    | setCandidate text => exact ⟨ih.running, ih.rings⟩
    | discardCandidate => exact ⟨ih.running, ih.rings⟩

end

/-- After any calls on a fresh store the running text is the last one committed, and so is the candidate
right after a commit.  The ring holds, each once, what was running up to `ringSize` commits earlier, with
the metadata of the commits that made it. -/
theorem ring_holds_history (calls : List Call) :
    let store := storeAfter calls
    let held := min (commits calls).length ringSize
    (history calls)[0]? = some (store.running, store.runningMeta) ∧
      (∀ earlier text made, calls = earlier ++ [.commit text made] →
        store.running = text ∧ store.candidate = text) ∧
      (∀ n, 1 ≤ n → n ≤ held →
        ∃ entry, (history calls)[n]? = some entry ∧ store.rollback n = some entry.1) ∧
      (∀ n, held < n → store.rollback n = none) ∧
      store.listRollbacks =
        (List.range' 1 held).map fun n => (n, ((history calls)[n]?.map Prod.snd).getD {}) := by
  intro store held
  have holds := holds_after calls
  have size : (history calls).length = (commits calls).length + 1 := by simp [history]
  have conf (n : Nat) : store.conf n =
      (if n = 0 ∨ ringSize < n then none else (history calls)[n]?).map Prod.fst :=
    holds.rings.1 n
  have present {n : Nat} (pos : 1 ≤ n) (most : n ≤ held) :
      ∃ entry, (history calls)[n]? = some entry ∧ store.conf n = some entry.1 := by
    have inside : n < (history calls).length := by omega
    refine ⟨_, List.getElem?_eq_getElem inside, ?_⟩
    rw [conf, if_neg (by omega), List.getElem?_eq_getElem inside]
    rfl
  have absent {n : Nat} (past : held < n) : store.conf n = none := by
    rw [conf]
    split_ifs with outside
    · rfl
    · rw [List.getElem?_eq_none (by omega)]
      rfl
  refine ⟨holds.running, ?_, fun n => present, fun n => absent, ?_⟩
  · rintro earlier text made rfl
    have last : store = (storeAfter earlier).commit text made := by
      simp [store, storeAfter, Call.apply]
    rw [last]
    exact ⟨rfl, rfl⟩
  · have split : List.range' 1 ringSize =
        List.range' 1 held ++ List.range' (1 + held) (ringSize - held) := by
      rw [List.range'_append_1, Nat.add_sub_cancel' (Nat.min_le_right _ _)]
    have first : (List.range' 1 held).filter (fun n => (store.conf n).isSome) = List.range' 1 held := by
      refine List.filter_eq_self.mpr fun n hl => ?_
      rw [List.mem_range'_1] at hl
      obtain ⟨entry, -, found⟩ := present hl.1 (by omega)
      rw [found]
      rfl
    have rest : (List.range' (1 + held) (ringSize - held)).filter
        (fun n => (store.conf n).isSome) = [] := by
      refine List.filter_eq_nil_iff.mpr fun n hl => ?_
      rw [List.mem_range'_1] at hl
      rw [absent (by omega)]
      exact Bool.false_ne_true
    rw [Store.listRollbacks, split, List.filter_append, first, rest, List.append_nil]
    refine List.map_congr_left fun n hl => ?_
    rw [List.mem_range'_1] at hl
    rw [holds.rings.2 n]
    dsimp only
    rw [if_neg (by omega)]

end Hemlock.Rollbacks
