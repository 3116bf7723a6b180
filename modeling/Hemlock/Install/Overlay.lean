import Hemlock.Library.Machine
import Mathlib.Logic.Function.Basic

/-!
# Installing an image

Boot files are written aside and renamed into place, so that each changes as a whole.  The
platform overlay is copied aside and swapped by two renames.  Every operation can fail,
power can be cut during it, and an install is tried again from what is left on flash.
-/

namespace Hemlock.Install

open Machine

/-- A copy of an image's overlay, or a part of one. -/
inductive Copy (Image : Type) where
  | whole (image : Image)
  | part
  deriving DecidableEq

inductive BootFile where
  | rootfs
  | vmlinuz
  | initrd
  | grubCfg
  deriving DecidableEq

structure Flash (Image : Type) where
  files : BootFile → Image
  live : Option (Copy Image)
  fresh : Option (Copy Image)
  old : Option (Copy Image)

/-- The operation that an install has come to; `idle` when none runs. -/
inductive Phase where
  | idle
  | installFile (file : BootFile) (rest : List BootFile)
  | removeFresh
  | removeOld
  | copyDir
  | moveLive
  | placeFresh
  | cleanUp
  deriving DecidableEq

/-- How an operation ends, and whether it has changed what it works on. -/
inductive Outcome where
  | done
  | failed (changed : Bool)
  | cut (changed : Bool)

structure State (Image : Type) where
  phase : Phase
  flash : Flash Image

variable {Image : Type}

/-- What a removal leaves. -/
def remains (place : Option (Copy Image)) : Outcome → Option (Copy Image)
  | .done => none
  | .failed changed | .cut changed => if changed then place.map fun _ => .part else place

/-- Errors of a removal are ignored. -/
def Phase.past (next : Phase) : Outcome → Phase
  | .done | .failed _ => next
  | .cut _ => .idle

def nextFile : List BootFile → Phase
  | [] => .removeFresh
  | file :: rest => .installFile file rest

/-- `install_payload`, one operation at a time. -/
def State.next (image : Image) (state : State Image) (outcome : Outcome) : State Image :=
  let flash := state.flash
  match state.phase, outcome with
  | .idle, .done => ⟨nextFile [.rootfs, .vmlinuz, .initrd, .grubCfg], flash⟩
  | .installFile file rest, .done =>
    ⟨nextFile rest, { flash with files := Function.update flash.files file image }⟩
  | .removeFresh, _ =>
    ⟨Phase.removeOld.past outcome, { flash with fresh := remains flash.fresh outcome }⟩
  | .removeOld, _ => ⟨Phase.copyDir.past outcome, { flash with old := remains flash.old outcome }⟩
  | .copyDir, .done => ⟨.moveLive, { flash with fresh := some (.whole image) }⟩
  | .copyDir, .failed true | .copyDir, .cut true => ⟨.idle, { flash with fresh := some .part }⟩
  | .moveLive, .done => ⟨.placeFresh, { flash with live := none, old := flash.live.or flash.old }⟩
  -- without a live overlay there is nothing to move
  | .moveLive, .failed _ => ⟨if flash.live.isSome then .idle else .placeFresh, flash⟩
  | .placeFresh, .done => ⟨.cleanUp, { flash with live := flash.fresh, fresh := none }⟩
  | .cleanUp, _ => ⟨.idle, { flash with old := remains flash.old outcome }⟩
  | _, _ => ⟨.idle, flash⟩

/-- Installs of an image, one after the other, onto a flash that holds another one. -/
def installs (old new : Image) : Machine (State Image) Outcome Empty where
  init := ⟨.idle, fun _ => old, some (.whole old), none, none⟩
  next := State.next new
  emit _ _ := []

def Complete (old new : Image) (place : Option (Copy Image)) : Prop :=
  place = some (.whole old) ∨ place = some (.whole new)

/-- When no install runs the overlay is complete, and at any time a complete one is on
flash and every boot file is the old or the new one. -/
structure State.Sound (old new : Image) (state : State Image) : Prop where
  live : state.phase = .idle → Complete old new state.flash.live
  kept : Complete old new state.flash.live ∨ Complete old new state.flash.fresh ∨
    Complete old new state.flash.old
  files : ∀ file, state.flash.files file = old ∨ state.flash.files file = new

/-- The install does not stop between the two renames of the overlay. -/
def Unbroken (state : State Image) (outcome : Outcome) : Prop :=
  state.phase = .placeFresh → outcome = .done

/-- What is on flash as long as no install stops there. -/
structure State.Ready (old new : Image) (state : State Image) : Prop where
  files : ∀ file, state.flash.files file = old ∨ state.flash.files file = new
  live : if state.phase = .placeFresh then state.flash.live = none
    else Complete old new state.flash.live
  fresh : state.phase = .moveLive ∨ state.phase = .placeFresh →
    state.flash.fresh = some (.whole new)

variable {old new : Image} {state : State Image}

theorem State.Ready.sound (ready : state.Ready old new) : state.Sound old new := by
  obtain ⟨files, live, fresh⟩ := ready
  split_ifs at live with placing
  · refine ⟨fun idle => ?_, .inr (.inl (.inr (fresh (.inr placing)))), files⟩
    cases placing.symm.trans idle
  · exact ⟨fun _ => live, .inl live, files⟩

theorem State.Ready.next (ready : state.Ready old new) {outcome : Outcome}
    (unbroken : Unbroken state outcome) : (state.next new outcome).Ready old new := by
  obtain ⟨phase, flash⟩ := state
  obtain ⟨files, live, fresh⟩ := ready
  cases phase with
  | placeFresh =>
    rw [unbroken rfl]
    exact ⟨files, .inr (fresh (.inr rfl)), by simp [next]⟩
  | idle => cases outcome <;> exact ⟨files, live, by simp [next, nextFile]⟩
  | removeFresh | removeOld => cases outcome <;> exact ⟨files, live, by simp [next, Phase.past]⟩
  | cleanUp => exact ⟨files, live, by simp [next]⟩
  | installFile file rest =>
    cases outcome with
    | done =>
      refine ⟨fun file' => ?_, by cases rest <;> exact live, by cases rest <;> simp [next, nextFile]⟩
      dsimp only [next]
      rw [Function.update_apply]
      split_ifs
      · exact .inr rfl
      · exact files file'
    | failed | cut => exact ⟨files, live, by simp [next]⟩
  | copyDir =>
    cases outcome with
    | done => exact ⟨files, live, fun _ => rfl⟩
    | failed changed | cut changed => cases changed <;> exact ⟨files, live, by simp [next]⟩
  | moveLive =>
    cases outcome with
    | done => exact ⟨files, rfl, fun _ => fresh (.inl rfl)⟩
    | failed =>
      have present : flash.live.isSome := by rcases live with whole | whole <;> rw [whole] <;> rfl
      exact ⟨files, by simpa [next, present] using live, by simp [next, present]⟩
    | cut => exact ⟨files, live, by simp [next]⟩

/-- The swap is safe exactly as long as no install stops between its two renames. -/
theorem overlay_sound_iff (old new : Image) (outcomes : List Outcome) :
    (installs old new).Always (State.Sound old new) outcomes ↔
      (installs old new).Throughout Unbroken outcomes := by
  refine @always_iff_throughout_of_invariant _ _ _ _ (State.Ready old new) _ _ ?_ ?_ ?_ ?_ outcomes
  · exact ⟨fun _ => .inl rfl, .inl rfl, by simp [installs]⟩
  · exact fun _ => State.Ready.sound
  · exact fun _ _ ready unbroken => ready.next unbroken
  · rintro ⟨phase, flash⟩ outcome ready sound rfl
    have gone : flash.live = none := ready.live
    cases outcome with
    | done => rfl
    | failed | cut => rcases sound.live rfl with whole | whole <;> cases gone.symm.trans whole

/-- Power is cut between the renames, and the next install removes both copies. -/
theorem no_overlay_left : ¬ ((installs false true).run
    (List.replicate 9 .done ++ [.cut false] ++ List.replicate 7 .done)).Sound false true := by
  have gone : let flash := ((installs false true).run
        (List.replicate 9 .done ++ [.cut false] ++ List.replicate 7 .done)).flash
      flash.live = none ∧ flash.fresh = none ∧ flash.old = none := by
    decide
  intro sound
  have kept := sound.kept
  rw [gone.1, gone.2.1, gone.2.2] at kept
  simp [Complete] at kept

/-- After a power cut at any point of any run, an install that nothing disturbs leaves the new
image, and nothing else. -/
theorem install_after_cut (old new : Image) (outcomes : List Outcome) (changed : Bool) :
    (installs old new).run (outcomes ++ [.cut changed] ++ List.replicate 11 .done) =
      ⟨.idle, fun _ => new, some (.whole new), none, none⟩ := by
  obtain ⟨flash, idle⟩ : ∃ flash, (installs old new).run (outcomes ++ [.cut changed]) = ⟨.idle, flash⟩ := by
    rw [run_concat]
    obtain ⟨phase, flash⟩ := (installs old new).run outcomes
    cases phase <;> cases changed <;> exact ⟨_, rfl⟩
  rw [run, List.foldl_append, ← run, idle]
  refine congrArg (fun files => State.mk _ ⟨files, _, _, _⟩) (funext fun file => ?_)
  cases file <;> rfl

end Hemlock.Install
