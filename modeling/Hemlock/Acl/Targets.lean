import Hemlock.Acl.Steps

/-!
# Requests for several ports

A request takes its ports one after the other, and so does the restoration after a
failure.  What each step leaves alone, the whole sequence leaves alone.
-/

namespace Hemlock.Acl

open Faults

/-- The tables of the ports become the wanted ones, one after the other. -/
abbrev Steps (stage : AclStage) (goal : String → Option Desired) :
    List String → AclWorld → Hardware → AclWorld → Hardware → Prop :=
  Chain fun port => Step stage (goal port) port

section

variable {switch : Switch} {base w w' : AclWorld} {hw hw' : Hardware}
  {port : String} {stage : AclStage} {wish : Option Desired} {goal was : String → Option Desired}
  {ports : List String}

/-- What a port has once the others have what they are to have. -/
def overlay (goal : String → Option Desired) (ports : List String)
    (wishes : String → Option Desired) (port : String) : Option Desired :=
  if port ∈ ports then goal port else wishes port

variable (steps : Steps stage goal ports w hw w' hw')
include steps

theorem Steps.sound {targets : List String} {wishes : String → Option Desired} 
    (hl : ∀ port ∈ ports, port ∈ targets) (hi : Sound switch stage targets w hw wishes) :
    Sound switch stage targets w' hw' (overlay goal ports wishes) := by
  induction steps generalizing wishes with
  | nil =>
    have hs : overlay goal [] wishes = wishes := by
      funext port
      simp [overlay]
    rwa [hs]
  | @cons first rest _ _ _ _ _ _ step _ ih =>
    have later := ih (fun port hm => hl port (List.mem_cons_of_mem _ hm))
      (hi.step (hl first (List.mem_cons_self ..)) step)
    have hs : overlay goal rest (Function.update wishes first (goal first)) =
        overlay goal (first :: rest) wishes := by
      funext port
      by_cases isFirst : port = first <;> simp [overlay, isFirst]
    rwa [hs] at later

theorem Steps.sameIntent : SameIntent w w' :=
  steps.invariant (fun later _ => SameIntent w later) (fun _ _ _ _ _ _ step hs => hs.trans step.sameIntent) (.refl w)

theorem Steps.kept : Kept hw hw' :=
  steps.invariant (fun _ later => Kept hw later) (fun _ _ _ _ _ _ step kept => kept.trans step.kept) (.refl hw)

theorem Steps.descends : Descends w.tables w'.tables :=
  steps.invariant (fun later _ => Descends w.tables later.tables)
    (fun _ _ _ _ _ _ step descends => descends.trans step.descends) (.refl w.tables)

theorem Steps.tables_of_notMem
    (other : port ∉ ports) : w'.tables[(port, stage)]? = w.tables[(port, stage)]? :=
  steps.invariant (fun later _ => later.tables[(port, stage)]? = w.tables[(port, stage)]?)
    (fun _ hm _ _ _ _ step hs => (step.tables_of_ne fun hp => other (by rwa [← hp])).trans hs) rfl

/-- A table that is apart from those of the ports stays as it is, for better or worse. -/
theorem Steps.present_iff {other : PortAclTable} 
    (aside : Aside stage other ports w hw) {key : AclEntryKey} {objs : AclEntryObjs}
    (hf : other.entries[key]? = some objs) (table : Oid) :
    objs.Present table hw' ↔ objs.Present table hw := by
  have kept : Aside stage other ports w' hw' ∧ (objs.Present table hw' ↔ objs.Present table hw) := by
    refine steps.invariant (fun w' hw' => Aside stage other ports w' hw' ∧
      (objs.Present table hw' ↔ objs.Present table hw)) ?_ ⟨aside, Iff.rfl⟩
    rintro port hm _ _ _ _ step ⟨aside, hs⟩
    obtain ⟨aside', hs'⟩ := aside.step hm step
    exact ⟨aside', (hs' key objs hf table).trans hs⟩
  exact kept.2

omit steps

theorem applyPortStage_eq {portId : PortId}
    (prepared : prepare switch w port stage = .ok (wish, portId)) (countdown : Option Nat) :
    applyPortStage switch stage port ⟨w, hw, countdown⟩ =
      materialize switch port portId stage w.tables[(port, stage)]? wish ⟨w, hw, countdown⟩ := by
  simp only [applyPortStage, retrieve, bind, EStateM.bind, prepared]
  rfl

structure Ready (switch : Switch) (base : AclWorld) (stage : AclStage)
    (was goal : String → Option Desired) (ports : List String) (w : AclWorld) : Prop where
  nodup : ports.Nodup
  intent : SameIntent base w
  prepared : ∀ port ∈ ports, prepare switch base port stage = .ok (goal port, portIdOf switch port)
  realized : ∀ port ∈ ports, Realized w.tables[(port, stage)]? (was port)
  near : ∀ port ∈ ports, Near (was port) (goal port)
  saneWas : ∀ port ∈ ports, Sane (was port)
  saneGoal : ∀ port ∈ ports, Sane (goal port)

variable (ready : Ready switch base stage was goal (port :: ports) w)
include ready

theorem Ready.rest : Ready switch base stage was goal ports w where
  __ := ready
  nodup := (List.nodup_cons.mp ready.nodup).2
  prepared port' member := ready.prepared port' (List.mem_cons_of_mem _ member)
  realized port' member := ready.realized port' (List.mem_cons_of_mem _ member)
  near port' member := ready.near port' (List.mem_cons_of_mem _ member)
  saneWas port' member := ready.saneWas port' (List.mem_cons_of_mem _ member)
  saneGoal port' member := ready.saneGoal port' (List.mem_cons_of_mem _ member)

theorem Ready.step
    (step : Step stage wish port w hw w' hw') : Ready switch base stage was goal ports w' where
  __ := ready.rest
  intent := ready.intent.trans step.sameIntent
  realized port' member := by
    have ne : port ≠ port' := fun hs =>
      (List.nodup_cons.mp ready.nodup).1 (by rwa [hs])
    rw [step.tables_of_ne ne]
    exact ready.rest.realized port' member

theorem Ready.apply_eq (countdown : Option Nat) : applyPortStage switch stage port ⟨w, hw, countdown⟩ =
      materialize switch port (portIdOf switch port) stage w.tables[(port, stage)]? (goal port)
        ⟨w, hw, countdown⟩ :=
  applyPortStage_eq (by
    rw [prepare_congr ready.intent]
    exact ready.prepared port (List.mem_cons_self ..)) countdown

omit ready

theorem applyPortStage_runs (ready : Ready switch base stage was goal (port :: ports) w) :
    ∃ calls w' hw', Runs (applyPortStage switch stage port) w hw calls () w' hw' ∧
      Step stage (goal port) port w hw w' hw' ∧ (Quiet (was port) (goal port) → calls = 0) ∧
      (Gentle (was port) (goal port) → ∀ struck < calls, ∃ spoiled,
        Strikes (applyPortStage switch stage port) w hw struck w spoiled ∧
        Hardware.Policed none hw spoiled) := by
  have first : port ∈ port :: ports := List.mem_cons_self ..
  obtain ⟨calls, w', hw', run, step, idle, struck⟩ :=
    @materialize_runs switch w hw port (portIdOf switch port) stage (was port) (goal port)
      (ready.realized port first) (ready.near port first) (ready.saneWas port first)
      (ready.saneGoal port first)
  refine ⟨calls, w', hw', fun countdown spared =>
    (ready.apply_eq countdown).trans (run countdown spared), step, idle, fun gentle call bound => ?_⟩
  obtain ⟨spoiled, ⟨failure, strikes⟩, policed⟩ := struck gentle call bound
  exact ⟨spoiled, ⟨failure, (ready.apply_eq _).trans strikes⟩, policed⟩

theorem each_runs {visit : String → Rpc Unit} (hs : ∀ port w hw calls w' hw',
      Runs (applyPortStage switch stage port) w hw calls () w' hw' →
        Runs (visit port) w hw calls () w' hw') (ready : Ready switch base stage was goal ports w) :
    ∃ calls w' hw', Runs (each visit ports) w hw calls () w' hw' ∧
      ((∀ port ∈ ports, Quiet (was port) (goal port)) → calls = 0) ∧
      Steps stage goal ports w hw w' hw' := by
  refine runs_each (fun calls => (∀ port ∈ ports, Quiet (was port) (goal port)) → calls = 0)
    (fun rest w _ => Ready switch base stage was goal rest w ∧ ∀ port ∈ rest, port ∈ ports)
    (fun _ => rfl) ?_ ?_ ⟨ready, fun _ => id⟩
  · intro calls calls' idle idle' quiet
    rw [idle quiet, idle' quiet]
  · rintro port rest w hw ⟨ready, hl⟩
    obtain ⟨calls, w', hw', run, step, idle, -⟩ := applyPortStage_runs ready
    exact ⟨calls, w', hw', hs _ _ _ _ _ _ run,
      fun quiet => idle (quiet port (hl port (List.mem_cons_self ..))), step, ready.step step,
      fun port' hm => hl port' (List.mem_cons_of_mem _ hm)⟩

theorem applyTargets_runs (ready : Ready switch base stage was goal ports w) : ∃ calls w' hw',
      Runs (applyTargets switch stage ports) w hw calls () w' hw' ∧
      ((∀ port ∈ ports, Quiet (was port) (goal port)) → calls = 0) ∧ Steps stage goal ports w hw w' hw' :=
  each_runs (fun _ _ _ _ _ _ => id) ready

theorem restore_runs (ready : Ready switch base stage was goal ports w) : ∃ calls w' hw',
      Runs (restore switch stage ports) w hw calls () w' hw' ∧
      ((∀ port ∈ ports, Quiet (was port) (goal port)) → calls = 0) ∧ Steps stage goal ports w hw w' hw' :=
  each_runs (fun _ _ _ _ _ _ run => run.attempt) ready

theorem applyTargets_append (first second : List String) : applyTargets switch stage (first ++ second) =
      applyTargets switch stage first >>= fun _ => applyTargets switch stage second :=
  each_append first second

theorem restore_append (first second : List String) : restore switch stage (first ++ second) =
      restore switch stage first >>= fun _ => restore switch stage second :=
  each_append first second

/-- Gentle changes are made for all ports, or for some until a call fails, which then
leaves at most a policer. -/
theorem applyTargets_outcome (ready : Ready switch base stage was goal ports w)
    (gentle : ∀ port ∈ ports, Gentle (was port) (goal port)) (countdown : Option Nat) :
    (∃ w' hw' countdown', applyTargets switch stage ports ⟨w, hw, countdown⟩ =
        .ok () ⟨w', hw', countdown'⟩) ∨ ∃ failure done rest w' hw' spoiled,
      applyTargets switch stage ports ⟨w, hw, countdown⟩ = .error failure ⟨w', spoiled, none⟩ ∧
      ports = done ++ rest ∧ Steps stage goal done w hw w' hw' ∧ Hardware.Policed none hw' spoiled := by
  induction ports generalizing w hw countdown with
  | nil => exact .inl ⟨w, hw, countdown, rfl⟩
  | cons port ports ih =>
    obtain ⟨calls, w', hw', run, step, -, struck⟩ :=
      @applyPortStage_runs _ _ _ hw _ _ _ _ _ ready
    have unfolded : applyTargets switch stage (port :: ports) ⟨w, hw, countdown⟩ =
        EStateM.bind (applyPortStage switch stage port)
          (fun _ => applyTargets switch stage ports) ⟨w, hw, countdown⟩ := rfl
    rw [unfolded, EStateM.bind]
    by_cases spared : ∀ left ∈ countdown, calls ≤ left
    · rw [run countdown spared]
      rcases ih (ready.step step) (fun port' hm => gentle port' (List.mem_cons_of_mem _ hm))
          (countdown.map (· - calls)) with
        completed | ⟨failure, done, rest, world'', hardware'', spoiled, failed, parts, steps, policed⟩
      · exact .inl completed
      · exact .inr ⟨failure, port :: done, rest, world'', hardware'', spoiled, failed,
          by rw [parts, List.cons_append], .cons step steps, policed⟩
    · push Not at spared
      obtain ⟨left, isLeft, bound⟩ := spared
      obtain ⟨spoiled, ⟨failure, failed⟩, policed⟩ :=
        struck (gentle port (List.mem_cons_self ..)) left bound
      rw [Option.mem_def.mp isLeft, failed]
      exact .inr ⟨failure, [], port :: ports, w, hw, spoiled, rfl, rfl, .nil, policed⟩

theorem restore_settled (intent : SameIntent base w)
    (prepared : ∀ port ∈ ports, prepare switch base port stage = .ok (goal port, portIdOf switch port))
    (realized : ∀ port ∈ ports, Realized w.tables[(port, stage)]? (goal port))
    (sane : ∀ port ∈ ports, Sane (goal port)) : Runs (restore switch stage ports) w hw 0 () w hw := by
  induction ports with
  | nil => exact runs_pure
  | cons port ports ih =>
    have hm : port ∈ port :: ports := List.mem_cons_self ..
    have settled : Runs (applyPortStage switch stage port) w hw 0 () w hw := by
      intro countdown spared
      rw [applyPortStage_eq (by rw [prepare_congr intent]; exact prepared port hm)]
      exact materialize_settled (realized port hm) (sane port hm) countdown spared
    have rest := ih (fun port' later => prepared port' (List.mem_cons_of_mem _ later))
      (fun port' later => realized port' (List.mem_cons_of_mem _ later))
      fun port' later => sane port' (List.mem_cons_of_mem _ later)
    change Runs (Bind.bind _ fun _ => restore switch stage ports) _ _ (0 + 0) _ _ _
    exact settled.attempt.bind rest

/-- The first call for a port that has an entry to change leaves all as it was when it fails. -/
theorem applyPortStage_first (ready : Ready switch base stage was goal (port :: ports) w)
    (changes : ¬ Quiet (was port) (goal port)) :
    Strikes (applyPortStage switch stage port) w hw 0 w hw := by
  have first : port ∈ port :: ports := List.mem_cons_self ..
  have near := ready.near port first
  have struck : Strikes (materialize switch port (portIdOf switch port) stage
      w.tables[(port, stage)]? (goal port)) w hw 0 w hw := by
    rcases near_cases (ready.realized port first) near with ⟨-, old, new⟩ |
      ⟨record, old, new, hr, isOld, isNew, hm, close⟩
    · rw [old, new] at changes
      exact absurd trivial changes
    · rw [isOld, isNew] at changes
      rw [hr, isNew, materialize, if_pos (hm.family.trans close.family)]
      refine fillTable_first hm close (ready.saneWas port first _ isOld)
        (ready.saneGoal port first _ isNew) ?_
      by_contra hs
      push Not at hs
      exact changes ⟨close, hs⟩
  obtain ⟨failure, failed⟩ := struck
  exact ⟨failure, (ready.apply_eq _).trans failed⟩

theorem Held.damages {portId : PortId} {old new : Option Desired}
    (held : Held stage w hw port portId old) (saneOld : Sane old) (saneNew : Sane new)
    (inFront : ∀ before ∈ old, ∀ after ∈ new, ∀ want, want.key.counted = false →
      (want ∈ before.entries ↔ want ∈ after.entries)) (rough : ¬ Gentle old new) :
    ∃ calls after, Strikes (materialize switch port portId stage w.tables[(port, stage)]? new) w
        hw calls w after ∧ hw.next ≤ after.next ∧ Harm portId stage w.tables[(port, stage)]? hw after := by
  have realized := held.realized
  have faithful := held.faithful
  cases hr : w.tables[(port, stage)]? with
  | none =>
    rw [hr] at realized
    cases old with
    | some before => cases realized
    | none =>
      cases new with
      | none => exact absurd trivial rough
      | some after =>
        exact ⟨1, _, newTable_strikes after, Nat.le_succ _,
          .table hw.next le_rfl (by simp [Hardware.createAclTable])⟩
  | some record =>
    rw [hr] at realized
    cases old with
    | none => cases realized
    | some before =>
      cases new with
      | none =>
        exact ⟨1, _, dropTable_strikes record, le_rfl,
          .unbound record rfl (by simp [Hardware.bindPortAcl])⟩
      | some after =>
        by_cases family : record.family = after.family
        · rw [materialize, if_pos family]
          exact fillTable_damages realized (faithful record hr) (saneOld _ rfl)
            (saneNew _ rfl) (inFront _ rfl _ rfl) (realized.family.symm.trans family) rough
        · rw [materialize, if_neg family]
          exact ⟨1, _, (dropTable_strikes record).bind _, le_rfl,
            .unbound record rfl (by simp [Hardware.bindPortAcl])⟩

end

end Hemlock.Acl
