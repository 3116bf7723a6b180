import Hemlock.Acl.Filtering
import Hemlock.Acl.Targets

/-!
# Failed bindings

What a request to bind an access list leaves behind when one of its calls fails.  The
request undoes itself by applying the old binding again, and it starts from its record of
the tables, which a failed call has not changed.  That is enough when no port has more
than one entry to edit in place; otherwise some failure leaves a table, a counter or an
entry that no record knows.
-/

namespace Hemlock.Acl

open Faults OrderedMap

section

variable (switch : Switch) (w : AclWorld) (stage : AclStage) (port : String)

/-- The table of the port can be worked out. -/
def Accepts : Prop := ∃ result, prepare switch w port stage = .ok result

def wish : Option Desired :=
  match prepare switch w port stage with
  | .ok (desired, _) => desired
  | .error _ => none

end

section

variable {switch : Switch} {w w' : AclWorld} {stage : AclStage} {port : String}

theorem prepare_ok {desired : Option Desired} {portId : PortId}
    (prepared : prepare switch w port stage = .ok (desired, portId)) : portId = portIdOf switch port ∧
      ∃ user, desiredEntries user w.internal[(port, stage)]? = .ok desired := by
  have worked (user : Option (String × AclProgram)) (finished : (do
      let desired ← (desiredEntries user w.internal[(port, stage)]?).mapError
        fun message => (⟨.failedPrecondition, message⟩ : Status)
      let portId ← portSaiId switch port
      return (desired, portId)) = Except.ok (desired, portId)) :
      portId = portIdOf switch port ∧ desiredEntries user w.internal[(port, stage)]? = .ok desired := by
    unfold portSaiId at finished
    cases entries : desiredEntries user w.internal[(port, stage)]? with
    | error message => rw [entries] at finished; cases finished
    | ok wanted =>
      rw [entries] at finished
      cases hk : switch.ports[port]? with
      | none => rw [hk] at finished; cases finished
      | some number =>
        rw [hk] at finished
        cases finished
        exact ⟨by rw [portIdOf, hk, Option.getD_some], rfl⟩
  unfold prepare at prepared
  cases resolved : resolvedUserAcl switch w.bindings port stage with
  | none =>
    rw [resolved] at prepared
    exact ⟨(worked none prepared).1, none, (worked none prepared).2⟩
  | some name =>
    rw [resolved] at prepared
    dsimp only at prepared
    cases hl : w.acls[name]? with
    | none => rw [hl] at prepared; cases prepared
    | some program =>
      rw [hl] at prepared
      obtain ⟨hp, entries⟩ := worked (some (name, program)) prepared
      exact ⟨hp, some (name, program), entries⟩

theorem Accepts.prepared (accepted : Accepts switch w stage port) :
    prepare switch w port stage = .ok (wish switch w stage port, portIdOf switch port) := by
  obtain ⟨⟨desired, portId⟩, prepared⟩ := accepted
  rw [wish, prepared, (prepare_ok prepared).1]

theorem wish_entries {desired : Desired} (wanted : wish switch w stage port = some desired) :
    ∃ user, desiredEntries user w.internal[(port, stage)]? = .ok (some desired) := by
  unfold wish at wanted
  cases prepared : prepare switch w port stage with
  | error status => rw [prepared] at wanted; cases wanted
  | ok result =>
    rw [prepared] at wanted
    rw [← wanted]
    exact (prepare_ok prepared).2

theorem sane_wish (few : (internalEntries w.internal[(port, stage)]?).length ≤ 4294967296) :
    Sane (wish switch w stage port) := by
  intro desired wanted
  obtain ⟨user, produced⟩ := wish_entries wanted
  exact desiredEntries_wellFormed few produced

theorem wish_uncounted (hs : w'.internal = w.internal) {old new : Desired}
    (isOld : wish switch w stage port = some old) (isNew : wish switch w' stage port = some new)
    {want : DesiredEntry} (uncounted : want.key.counted = false) :
    want ∈ old.entries ↔ want ∈ new.entries := by
  obtain ⟨user, produced⟩ := wish_entries isOld
  obtain ⟨user', produced'⟩ := wish_entries isNew
  rw [hs] at produced'
  rw [desiredEntries_uncounted produced uncounted, desiredEntries_uncounted produced' uncounted]

end

section

variable {switch : Switch} {w w' : AclWorld} {hw : Hardware} {stage : AclStage}
  {port acl : String} {targets : List String} {req : BindPortAclRequest} {key : String × AclStage}

@[simp]
theorem tables_bindTo (binding : Option String) : (bindTo key binding w).tables = w.tables := by
  cases binding <;> rfl

@[simp]
theorem internal_bindTo (binding : Option String) : (bindTo key binding w).internal = w.internal := by
  cases binding <;> rfl

theorem sameIntent_bindTo (hs : SameIntent (bindTo key (some acl) w) w') :
    SameIntent w (bindTo key w.bindings[key]? w') := by
  have restored : (bindTo key w.bindings[key]? w').bindings = w.bindings := by
    apply ext_getElem?
    intro key'
    have bindings : w'.bindings = w.bindings.insert key acl := hs.bindings
    cases previous : w.bindings[key]? with
    | none | some old =>
      simp only [bindTo, bindings, lookup_erase, lookup_insert]
      split_ifs with isKey
      · rw [← isKey, previous]
      · rfl
  refine ⟨?_, restored, by rw [internal_bindTo]; exact hs.internal⟩
  rw [show (bindTo key w.bindings[key]? w').acls = w'.acls by
    cases w.bindings[key]? <;> rfl]
  exact hs.acls

theorem physicalTargets_nodup {name : String} (hf : physicalTargets switch name = .ok targets) :
    targets.Nodup := by
  unfold physicalTargets at hf
  split at hf
  · split at hf
    · cases hf
      refine List.Pairwise.imp ?_ Std.ExtTreeSet.distinct_toList
      intro first second ne hs
      exact ne (by rw [hs]; exact Std.ReflCmp.compare_self)
    · cases hf
  · split_ifs at hf
    cases hf
    exact List.nodup_singleton name

theorem checkBind_nodup (checked : checkBind switch w req = .ok (stage, targets)) : targets.Nodup := by
  unfold checkBind at checked
  simp only [bind, Except.bind] at checked
  repeat' split at checked
  all_goals first
    | cases checked; apply physicalTargets_nodup; assumption
    | cases checked

def BindPortAclRequest.bound (req : BindPortAclRequest) (stage : AclStage) (w : AclWorld) : AclWorld :=
  bindTo (req.port, stage) (some req.acl) w

def BindPortAclRequest.unbound (req : BindPortAclRequest) (stage : AclStage) (w w' : AclWorld) : AclWorld :=
  bindTo (req.port, stage) w.bindings[(req.port, stage)]? w'

variable (checked : checkBind switch w req = .ok (stage, targets))
include checked

theorem bindPortAclImpl_eq (countdown : Option Nat) :
    bindPortAclImpl switch req ⟨w, hw, countdown⟩ = recover (applyTargets switch stage targets) (do
        remember (bindTo (req.port, stage) w.bindings[(req.port, stage)]?)
        restore switch stage targets) ⟨req.bound stage w, hw, countdown⟩ := by
  simp only [bindPortAclImpl, retrieve, bind, EStateM.bind, checked]
  rfl

variable {countdown : Option Nat} {after : Session AclWorld Hardware}

theorem bindPortAclImpl_ok
    (applied : applyTargets switch stage targets ⟨req.bound stage w, hw, countdown⟩ = .ok () after) :
    bindPortAclImpl switch req ⟨w, hw, countdown⟩ = .ok () after := by
  rw [bindPortAclImpl_eq checked, recover, applied]

theorem bindPortAclImpl_error {failure : Status} {spoiled : Session AclWorld Hardware}
    (failed : applyTargets switch stage targets ⟨req.bound stage w, hw, countdown⟩ =
      .error failure spoiled) (restored : restore switch stage targets
      ⟨req.unbound stage w spoiled.memory, spoiled.device, spoiled.countdown⟩ = .ok () after) :
    bindPortAclImpl switch req ⟨w, hw, countdown⟩ = .error failure after := by
  have undone : (do
      remember (bindTo (req.port, stage) w.bindings[(req.port, stage)]?)
      restore switch stage targets : Rpc Unit) spoiled = .ok () after := restored
  rw [bindPortAclImpl_eq checked, recover, failed]
  dsimp only
  rw [undone]

omit checked

theorem applyPortStage_refused {base : AclWorld} (refused : ¬ Accepts switch base stage port)
    (intent : SameIntent base w') :
    ∃ failure, ∀ hw countdown, applyPortStage switch stage port ⟨w', hw, countdown⟩ =
        .error failure ⟨w', hw, countdown⟩ := by
  cases prepared : prepare switch base port stage with
  | ok result => exact absurd ⟨result, prepared⟩ refused
  | error failure =>
    refine ⟨failure, fun hw countdown => ?_⟩
    rw [← prepare_congr intent] at prepared
    simp only [applyPortStage, retrieve, bind, EStateM.bind, prepared]
    rfl

/-- The ports before one that refuses the binding are done, and then the request fails. -/
theorem applyTargets_refused {base : AclWorld} {was goal : String → Option Desired}
    {before rest : List String} (ready : Ready switch base stage was goal before w')
    (refused : ¬ Accepts switch base stage port) : ∃ calls failure world'' hardware'',
      (∀ left, applyTargets switch stage (before ++ port :: rest) ⟨w', hw, some (calls + left)⟩ =
        .error failure ⟨world'', hardware'', some left⟩) ∧
      Steps stage goal before w' hw world'' hardware'' ∧
      ((∀ earlier ∈ before, Quiet (was earlier) (goal earlier)) → calls = 0) := by
  obtain ⟨calls, world'', hardware'', run, idle, steps⟩ :=
    @applyTargets_runs _ _ _ hw _ _ _ _ ready
  obtain ⟨failure, failed⟩ := applyPortStage_refused refused (ready.intent.trans steps.sameIntent)
  refine ⟨calls, failure, world'', hardware'', fun left => ?_, steps, idle⟩
  have first := run (some (calls + left)) fun _ isLeft => by
    cases isLeft
    exact Nat.le_add_right ..
  rw [applyTargets_append]
  refine (bind_of_ok first _).trans ?_
  change EStateM.bind (applyPortStage switch stage port) _ _ = _
  rw [EStateM.bind, failed, Option.map_some, Nat.add_sub_cancel_left]

/-- Everything is as before the request, for the given ports, and nothing is left over. -/
structure Intact (switch : Switch) (stage : AclStage) (targets : List String)
    (before after : Session AclWorld Hardware) : Prop where
  recorded : ∀ port ∈ targets, ∀ record ∈ after.memory.tables[(port, stage)]?,
    record.Faithful stage after.device
  bound : ∀ port ∈ targets, after.device.bound (portIdOf switch port, stage) =
    after.memory.tables[(port, stage)]?.map PortAclTable.table
  tables : ∀ oid, before.device.tables oid = none → after.device.tables oid ≠ none →
    ∃ key : String × AclStage, ∃ record, after.memory.tables[key]? = some record ∧
      record.table = oid
  counters : ∀ oid, before.device.counters oid = none → after.device.counters oid ≠ none →
    ∃ key : String × AclStage, ∃ record, after.memory.tables[key]? = some record ∧
      ∃ entryKey : AclEntryKey, ∃ objs, record.entries[entryKey]? = some objs ∧
        objs.counter = some oid
  filters : ∀ port ∈ targets, SameFilter (portIdOf switch port) stage before.device after.device

/-- A table that was recorded while the numbers were below the given one. -/
structure PortAclTable.Known (record : PortAclTable) (bound : Oid) : Prop where
  table : record.table < bound
  counter : ∀ (key : AclEntryKey) (objs : AclEntryObjs) oid, record.entries[key]? = some objs →
    objs.counter = some oid → oid < bound

/-- The ports have what is bound to them, in the record and in the hardware. -/
structure Consistent (switch : Switch) (stage : AclStage) (targets : List String) (w : AclWorld)
    (hw : Hardware) : Prop where
  accepted : ∀ port ∈ targets, Accepts switch w stage port
  few : ∀ port ∈ targets, (internalEntries w.internal[(port, stage)]?).length ≤ 4294967296
  sound : Sound switch stage targets w hw (wish switch w stage)
  known : ∀ (key : String × AclStage) record, w.tables[key]? = some record →
    record.Known hw.next

/-- A failure can be undone: no port has more than one entry to edit, or there is nothing
to do before the first port that refuses the binding. -/
def Recoverable (switch : Switch) (req : BindPortAclRequest) (stage : AclStage)
    (targets : List String) (w : AclWorld) : Prop :=
  (∀ port ∈ targets, Accepts switch (req.bound stage w) stage port ∧
    Gentle (wish switch w stage port) (wish switch (req.bound stage w) stage port)) ∨
  ∃ before port rest, targets = before ++ port :: rest ∧
    ¬ Accepts switch (req.bound stage w) stage port ∧
    ∀ earlier ∈ before, Accepts switch (req.bound stage w) stage earlier ∧
      Quiet (wish switch w stage earlier) (wish switch (req.bound stage w) stage earlier)

variable {wishes : String → Option Desired}

theorem Sound.intact (consistent : Consistent switch stage targets w hw)
    (hi : Sound switch stage targets after.memory after.device wishes)
    (hs : ∀ port ∈ targets, wishes port = wish switch w stage port)
    (kept : Kept hw after.device) (descends : Descends w.tables after.memory.tables)
    (countdown : Option Nat) : Intact switch stage targets ⟨w, hw, countdown⟩ after where
  recorded port member := (hi.held port member).faithful
  bound port member := (hi.held port member).bound
  tables oid absent present := by
    rw [kept.tables] at present
    exact absurd absent present
  counters oid absent present := by
    rw [kept.counters] at present
    exact absurd absent present
  filters port member := by
    have held := hi.held port member
    rw [hs port member] at held
    exact (consistent.sound.held port member).sameFilter held (sane_wish (consistent.few port member))
      descends

section

variable (checked : checkBind switch w req = .ok (stage, targets))
  (consistent : Consistent switch stage targets w hw)

include consistent

variable {port : String}

theorem Consistent.saneBound (hm : port ∈ targets) :
    Sane (wish switch (req.bound stage w) stage port) := by
  apply sane_wish
  exact consistent.few port hm

variable {ports : List String}

theorem Consistent.ready (nodup : ports.Nodup) (hl : ∀ port ∈ ports, port ∈ targets)
    (near : ∀ port ∈ ports, Accepts switch (req.bound stage w) stage port ∧
      Near (wish switch w stage port) (wish switch (req.bound stage w) stage port)) :
    Ready switch (req.bound stage w) stage (wish switch w stage)
      (wish switch (req.bound stage w) stage) ports (req.bound stage w) where
  nodup := nodup
  intent := .refl _
  prepared port member := (near port member).1.prepared
  realized port member := by
    exact (consistent.sound.held port (hl port member)).realized
  near port member := (near port member).2
  saneWas port member := sane_wish (consistent.few port (hl port member))
  saneGoal port member := consistent.saneBound (hl port member)

variable {hw' : Hardware}

theorem Consistent.ready_back (nodup : ports.Nodup) (hl : ∀ port ∈ ports, port ∈ targets)
    (intent : SameIntent w w') (hi : Sound switch stage targets w' hw' wishes)
    (near : ∀ port ∈ ports, Near (wishes port) (wish switch w stage port) ∧ Sane (wishes port)) :
    Ready switch w stage wishes (wish switch w stage) ports w' where
  nodup := nodup
  intent := intent
  prepared port member := (consistent.accepted port (hl port member)).prepared
  realized port member := (hi.held port (hl port member)).realized
  near port member := (near port member).1
  saneWas port member := (near port member).2
  saneGoal port member := sane_wish (consistent.few port (hl port member))

/-- Once some ports have the new binding and it has been taken back. -/
structure Halfway (switch : Switch) (req : BindPortAclRequest) (stage : AclStage)
    (targets done : List String) (w : AclWorld) (hw : Hardware) (w' : AclWorld)
    (hw' : Hardware) : Prop where
  intent : SameIntent w w'
  sound : Sound switch stage targets w' hw'
    (overlay (wish switch (req.bound stage w) stage) done (wish switch w stage))
  kept : Kept hw hw'
  descends : Descends w.tables w'.tables
  others : ∀ port, port ∉ done → w'.tables[(port, stage)]? = w.tables[(port, stage)]?

variable {done : List String}

theorem Consistent.halfway (steps : Steps stage (wish switch (req.bound stage w) stage) done
      (req.bound stage w) hw w' hw') (hl : ∀ port ∈ done, port ∈ targets) :
    Halfway switch req stage targets done w hw (req.unbound stage w w') hw' := by
  have tables : (req.unbound stage w w').tables = w'.tables := tables_bindTo _
  have boundTables : (req.bound stage w).tables = w.tables := tables_bindTo _
  refine ⟨sameIntent_bindTo steps.sameIntent, ?_, steps.kept, ?_, ?_⟩
  · exact (steps.sound hl (consistent.sound.of_tables boundTables)).of_tables tables
  · rw [tables]
    exact steps.descends
  · intro port other
    rw [tables, steps.tables_of_notMem other, boundTables]

theorem Consistent.near_back (near : ∀ port ∈ done,
      Near (wish switch w stage port) (wish switch (req.bound stage w) stage port)) (hm : port ∈ targets) :
    Near (overlay (wish switch (req.bound stage w) stage) done (wish switch w stage) port)
        (wish switch w stage port) ∧
      Sane (overlay (wish switch (req.bound stage w) stage) done (wish switch w stage) port) := by
  have sane : Sane (wish switch w stage port) := sane_wish (consistent.few port hm)
  rw [overlay]
  split_ifs with isDone
  · exact ⟨(near port isDone).symm sane, consistent.saneBound hm⟩
  · exact ⟨(Quiet.refl _).near, sane⟩

include checked

variable {status : Status} {after : Session AclWorld Hardware}

theorem Consistent.gentle_intact
    (gentle : ∀ port ∈ targets, Accepts switch (req.bound stage w) stage port ∧
      Gentle (wish switch w stage port) (wish switch (req.bound stage w) stage port))
    {countdown : Option Nat}
    (failed : bindPortAclImpl switch req ⟨w, hw, countdown⟩ = .error status after) :
    Intact switch stage targets ⟨w, hw, countdown⟩ after := by
  have nodup := checkBind_nodup checked
  have ready := consistent.ready nodup (fun _ => id)
    fun port hm => ⟨(gentle port hm).1, (gentle port hm).2.near⟩
  rcases @applyTargets_outcome _ _ _ hw _ _ _ _ ready (fun port hm => (gentle port hm).2) countdown with
    ⟨w', hw', countdown', applied⟩ |
    ⟨failure, done, rest, w', hw', spoiled, struck, parts, steps, policed⟩
  · rw [bindPortAclImpl_ok checked applied] at failed
    cases failed
  · have hl : ∀ port ∈ done, port ∈ targets := fun port hm => by simp [parts, hm]
    have halfway := consistent.halfway steps hl
    have hi := halfway.sound.policed policed
    have back := consistent.ready_back nodup (fun _ => id) halfway.intent hi fun port hm =>
      consistent.near_back (fun port isDone => (gentle port (hl port isDone)).2.near) hm
    obtain ⟨calls, world'', hardware'', run, -, steps'⟩ := @restore_runs _ _ _ spoiled _ _ _ _ back
    rw [bindPortAclImpl_error checked struck (run none (by simp))] at failed
    cases failed
    refine (steps'.sound (fun _ => id) hi).intact consistent ?_ ?_ ?_ _
    · intro port hm
      rw [overlay, if_pos hm]
    · exact (halfway.kept.trans policed.kept).trans steps'.kept
    · exact halfway.descends.trans steps'.descends

omit checked

theorem Consistent.restore_tail {undone : List String} (tail : List String)
    {spoiled hardware'' : Hardware} {world'' : AclWorld}
    (halfway : Halfway switch req stage targets done w hw w' hw')
    (steps : Steps stage (wish switch w stage) undone w' spoiled world'' hardware'')
    (hl : ∀ port ∈ tail, port ∈ targets) (notDone : ∀ port ∈ tail, port ∉ done)
    (notUndone : ∀ port ∈ tail, port ∉ undone) :
    Runs (restore switch stage tail) world'' hardware'' 0 () world'' hardware'' := by
  refine restore_settled (halfway.intent.trans steps.sameIntent)
    (fun port hm => (consistent.accepted port (hl port hm)).prepared) ?_
    fun port hm => sane_wish (consistent.few port (hl port hm))
  intro port hm
  have held := halfway.sound.held port (hl port hm)
  rw [overlay, if_neg (notDone port hm)] at held
  rw [steps.tables_of_notMem (notUndone port hm)]
  exact held.realized

theorem Consistent.restored {tail : List String} (spoiled : Hardware)
    (halfway : Halfway switch req stage targets done w hw w' hw')
    (parts : targets = done ++ tail) (nodup : targets.Nodup) (near : ∀ port ∈ done,
      Near (wish switch w stage port) (wish switch (req.bound stage w) stage port)) :
    ∃ calls world'' hardware'',
      Runs (restore switch stage targets) w' spoiled calls () world'' hardware'' ∧
      Steps stage (wish switch w stage) done w' spoiled world'' hardware'' ∧ ((∀ port ∈ done,
        Quiet (wish switch w stage port) (wish switch (req.bound stage w) stage port)) → calls = 0) := by
  have hl : ∀ port ∈ done, port ∈ targets := fun port hm => by simp [parts, hm]
  obtain ⟨nodupDone, -, disjoint⟩ := List.nodup_append.mp (parts ▸ nodup)
  have notDone : ∀ port ∈ tail, port ∉ done := fun port hm isDone =>
    disjoint port isDone port hm rfl
  have back := consistent.ready_back nodupDone hl halfway.intent halfway.sound fun port hm =>
    consistent.near_back near (hl port hm)
  obtain ⟨calls, world'', hardware'', run, idle, steps⟩ := @restore_runs _ _ _ spoiled _ _ _ _ back
  have settled := consistent.restore_tail tail halfway steps
    (fun port hm => by simp [parts, hm]) notDone notDone
  refine ⟨calls + 0, world'', hardware'', ?_, steps, fun quiet => idle fun port hm => ?_⟩
  · rw [parts, restore_append]
    exact run.bind settled
  · rw [overlay, if_pos hm]
    exact (quiet port hm).symm (sane_wish (consistent.few port (hl port hm)))

include checked

/-- No call is made when the first port that has something to do refuses the binding. -/
theorem Consistent.refused_idle {before rest : List String} (parts : targets = before ++ port :: rest)
    (refused : ¬ Accepts switch (req.bound stage w) stage port)
    (quiet : ∀ earlier ∈ before, Accepts switch (req.bound stage w) stage earlier ∧
      Quiet (wish switch w stage earlier) (wish switch (req.bound stage w) stage earlier)) {calls : Nat}
    (failed : bindPortAclImpl switch req ⟨w, hw, some calls⟩ = .error status after) :
    after.countdown = some calls := by
  have nodup := checkBind_nodup checked
  have hl : ∀ port ∈ before, port ∈ targets := fun port hm => by simp [parts, hm]
  have ready := consistent.ready (List.nodup_append.mp (parts ▸ nodup)).1 hl
    fun port hm => ⟨(quiet port hm).1, (quiet port hm).2.near⟩
  obtain ⟨made, failure, w', hw', struck, steps, idle⟩ :=
    @applyTargets_refused switch _ hw _ _ _ _ _ _ rest ready refused
  rw [idle fun port hm => (quiet port hm).2] at struck
  obtain ⟨made', world'', hardware'', run, -, idle'⟩ := consistent.restored hw'
    (consistent.halfway steps hl) parts nodup fun port hm => (quiet port hm).2.near
  rw [idle' fun port hm => (quiet port hm).2] at run
  have ran := struck calls
  rw [Nat.zero_add, ← parts] at ran
  rw [bindPortAclImpl_error checked ran (run (some calls) (by simp))] at failed
  cases failed
  rfl

end

end

end Hemlock.Acl
