import Hemlock.Acl.Binding

/-!
# Failures that cannot be undone

The other direction: a request that is not recoverable has a call whose failure leaves the
switch damaged, because the restoration goes by a record that the failed call has not
changed, or because the restoration fails itself.
-/

namespace Hemlock.Acl

open Faults OrderedMap

section

variable {switch : Switch} {w : AclWorld} {hw : Hardware} {stage : AclStage} {port : String}
  {targets before rest : List String} {req : BindPortAclRequest}

theorem Harm.not_intact {hw' spoiled : Hardware} {after : Session AclWorld Hardware}
    {countdown : Option Nat} (consistent : Consistent switch stage targets w hw) (hm : port ∈ targets)
    (harm : Harm (portIdOf switch port) stage w.tables[(port, stage)]? hw' spoiled)
    (next : hw.next ≤ hw'.next) (kept : Kept spoiled after.device)
    (descends : Descends w.tables after.memory.tables)
    (hs : after.memory.tables[(port, stage)]? = w.tables[(port, stage)]?)
    (presence : ∀ record ∈ w.tables[(port, stage)]?, ∀ (key : AclEntryKey) objs,
      record.entries[key]? = some objs →
        (objs.Present record.table after.device ↔ objs.Present record.table spoiled)) :
    ¬ Intact switch stage targets ⟨w, hw, countdown⟩ after := by
  intro intact
  cases harm with
  | table oid created left =>
    have late := next.trans created
    obtain ⟨key, record', hr', isTable⟩ := intact.tables oid
      (consistent.sound.fresh.tables oid late) (by rwa [kept.tables])
    obtain ⟨record, hr, descended⟩ := descends key record' hr'
    have hk := (consistent.known key record hr).table
    rw [← descended.table, isTable] at hk
    exact Nat.not_lt_of_le late hk
  | counter oid created left =>
    have late := next.trans created
    obtain ⟨key, record', hr', entryKey, objs', hf', isCounter⟩ := intact.counters oid
      (consistent.sound.fresh.counters oid late) (by rwa [kept.counters])
    obtain ⟨record, hr, descended⟩ := descends key record' hr'
    obtain ⟨objs, hf, -, counter⟩ := descended.objs entryKey objs' hf'
    exact Nat.not_lt_of_le late
      ((consistent.known key record hr).counter entryKey objs oid hf (by rw [← counter, isCounter]))
  | unbound record hr gone =>
    have bound := intact.bound port hm
    rw [kept.bound, gone, hs, hr] at bound
    cases bound
  | entry record key objs hr hf other =>
    have faithful := intact.recorded port hm record (by rw [hs, hr]; rfl)
    exact other ((presence record hr key objs hf).mp (faithful.present key objs hf))

/-- A call that is refused leaves something behind. -/
abbrev Damages (switch : Switch) (req : BindPortAclRequest) (stage : AclStage) (targets : List String)
    (w : AclWorld) (hw : Hardware) : Prop :=
  ∃ calls status after, bindPortAclImpl switch req ⟨w, hw, some calls⟩ = .error status after ∧
    after.countdown = none ∧ ¬ Intact switch stage targets ⟨w, hw, some calls⟩ after

section

variable (checked : checkBind switch w req = .ok (stage, targets))
  (consistent : Consistent switch stage targets w hw)
  (parts : targets = before ++ port :: rest)
  (near : ∀ earlier ∈ before, Accepts switch (req.bound stage w) stage earlier ∧
    Near (wish switch w stage earlier) (wish switch (req.bound stage w) stage earlier))

include checked consistent parts near

theorem Consistent.rough_struck (accepted : Accepts switch (req.bound stage w) stage port)
    (rough : ¬ Gentle (wish switch w stage port) (wish switch (req.bound stage w) stage port)) :
    ∃ calls failure w' hw' spoiled, applyTargets switch stage targets ⟨req.bound stage w, hw, some calls⟩ =
        .error failure ⟨w', spoiled, none⟩ ∧
      Halfway switch req stage targets before w hw (req.unbound stage w w') hw' ∧ hw'.next ≤ spoiled.next ∧
      Harm (portIdOf switch port) stage w.tables[(port, stage)]? hw' spoiled := by
  have hl : ∀ earlier ∈ before, earlier ∈ targets := fun _ inBefore => by simp [parts, inBefore]
  have hm : port ∈ targets := by simp [parts]
  obtain ⟨nodupBefore, -, disjoint⟩ := List.nodup_append.mp (parts ▸ checkBind_nodup checked)
  have portNew : port ∉ before := fun inBefore => disjoint port inBefore port (by simp) rfl
  obtain ⟨calls, w', hw', run, -, steps⟩ :=
    @applyTargets_runs _ _ _ hw _ _ _ _ (consistent.ready nodupBefore hl near)
  have boundTables : (req.bound stage w).tables = w.tables := tables_bindTo _
  have held := (steps.sound hl (consistent.sound.of_tables boundTables)).held port hm
  rw [overlay, if_neg portNew] at held
  obtain ⟨calls', spoiled, struck, next, harm⟩ := @Held.damages switch _ _ _ _ _ _ _ held
    (sane_wish (consistent.few port hm)) (consistent.saneBound hm)
    (fun _ isOld _ isNew _ => wish_uncounted (internal_bindTo _) isOld isNew) rough
  rw [steps.tables_of_notMem portNew] at harm
  have struckPort : Strikes (applyPortStage switch stage port) w' hw' calls' w' spoiled := by
    obtain ⟨failure, struck⟩ := struck
    refine ⟨failure, (applyPortStage_eq ?_ _).trans struck⟩
    rw [prepare_congr steps.sameIntent]
    exact accepted.prepared
  have struckAll : Strikes (applyTargets switch stage targets) (req.bound stage w) hw
      (calls + calls') w' spoiled := by
    rw [parts, applyTargets_append]
    exact run.strikes (struckPort.bind _)
  obtain ⟨failure, failed⟩ := struckAll
  exact ⟨calls + calls', failure, w', hw', spoiled, failed, consistent.halfway steps hl, next, harm⟩

theorem Consistent.rough_damages (accepted : Accepts switch (req.bound stage w) stage port)
    (rough : ¬ Gentle (wish switch w stage port) (wish switch (req.bound stage w) stage port)) :
    Damages switch req stage targets w hw := by
  have nodup := checkBind_nodup checked
  have hm : port ∈ targets := by simp [parts]
  have portNew : port ∉ before := fun inBefore =>
    (List.nodup_append.mp (parts ▸ nodup)).2.2 port inBefore port (by simp) rfl
  obtain ⟨calls, failure, w', hw', spoiled, failed, halfway, next, harm⟩ :=
    consistent.rough_struck checked parts near accepted rough
  obtain ⟨calls', world'', hardware'', run, steps, -⟩ :=
    consistent.restored spoiled halfway parts nodup fun earlier inBefore => (near earlier inBefore).2
  have tables := halfway.others port portNew
  refine ⟨calls, failure, _, bindPortAclImpl_error checked failed (run none (by simp)), rfl, ?_⟩
  refine harm.not_intact consistent hm halfway.kept.next steps.kept
    (halfway.descends.trans steps.descends) ((steps.tables_of_notMem portNew).trans tables) ?_
  intro record hr key objs hf
  have held := halfway.sound.held port hm
  refine steps.present_iff ⟨?_, ?_⟩ hf record.table
  · intro earlier inBefore other isOther
    exact halfway.sound.apart earlier (by simp [parts, inBefore]) port hm
      (fun hs => portNew (hs ▸ inBefore)) other isOther record (by rw [tables]; exact hr)
  · intro key' objs' oid hf' has
    have faithful := held.faithful record (by rw [tables]; exact hr)
    exact lt_of_lt_of_le (faithful.policersBelow halfway.sound.fresh key' objs' oid hf' has) next

variable {changed : String}

/-- The restoration of a port fails at its first call, and the port keeps the new binding. -/
theorem Consistent.restore_fails {early late : List String} {w' : AclWorld}
    {hw' : Hardware} (split : before = early ++ changed :: late)
    (changes : ¬ Quiet (wish switch w stage changed) (wish switch (req.bound stage w) stage changed))
    (halfway : Halfway switch req stage targets before w hw w' hw') :
    ∃ calls world'' hardware'', restore switch stage targets ⟨w', hw', some calls⟩ =
        .ok () ⟨world'', hardware'', none⟩ ∧
      Steps stage (wish switch w stage) (early ++ late) w' hw' world'' hardware'' := by
  obtain ⟨nodupBefore, -, disjoint⟩ := List.nodup_append.mp (parts ▸ checkBind_nodup checked)
  have notBefore : ∀ later ∈ port :: rest, later ∉ before := fun later inTail inBefore =>
    disjoint later inBefore later inTail rfl
  have hl : ∀ earlier ∈ before, earlier ∈ targets := fun _ inBefore => by simp [parts, inBefore]
  have inEarly : ∀ earlier ∈ early, earlier ∈ before := fun _ hm => by simp [split, hm]
  have inLate : ∀ later ∈ changed :: late, later ∈ before := fun _ hm => by
    rw [split]
    exact List.mem_append_right _ hm
  obtain ⟨nodupEarly, nodupLate, apart⟩ := List.nodup_append.mp (split ▸ nodupBefore)
  have back {earlier : String} (inBefore : earlier ∈ before) :=
    consistent.near_back (fun earlier inBefore => (near earlier inBefore).2) (hl earlier inBefore)
  -- The ports before the changed one are restored.
  obtain ⟨calls, world₁, hardware₁, run₁, -, steps₁⟩ := @restore_runs _ _ _ hw' _ _ _ _
    (consistent.ready_back nodupEarly (fun earlier hm => hl _ (inEarly _ hm)) halfway.intent
      halfway.sound fun earlier hm => back (inEarly earlier hm))
  have hi₁ := steps₁.sound (fun earlier hm => hl _ (inEarly _ hm)) halfway.sound
  have unvisited {later : String} (hm : later ∈ changed :: late) :
      overlay (wish switch w stage) early (overlay (wish switch (req.bound stage w) stage)
        before (wish switch w stage)) later =
        overlay (wish switch (req.bound stage w) stage) before (wish switch w stage) later := by
    rw [overlay, if_neg fun isEarly => apart later isEarly later hm rfl]
  have ready₁ := consistent.ready_back nodupLate (fun later hm => hl _ (inLate _ hm))
    (halfway.intent.trans steps₁.sameIntent) hi₁ fun later hm => by
      rw [unvisited hm]
      exact back (inLate later hm)
  -- The call for the changed port fails, and the others are restored without it.
  have struck : Strikes (applyPortStage switch stage changed) world₁ hardware₁ 0 world₁ hardware₁ := by
    refine applyPortStage_first ready₁ fun quiet => changes ?_
    have first : changed ∈ before := inLate changed (List.mem_cons_self ..)
    rw [unvisited (List.mem_cons_self ..), overlay, if_pos first] at quiet
    exact quiet.symm (consistent.saneBound (hl changed first))
  obtain ⟨calls₂, world₂, hardware₂, run₂, -, steps₂⟩ :=
    @restore_runs _ _ _ hardware₁ _ _ _ _ ready₁.rest
  have steps := steps₁.append steps₂
  have settled := consistent.restore_tail (port :: rest) halfway steps
    (fun later hm => by rw [parts]; exact List.mem_append_right _ hm) notBefore
    fun later hm visited => notBefore later hm (by
      rcases List.mem_append.mp visited with isEarly | isLate
      · exact inEarly later isEarly
      · exact inLate later (List.mem_cons_of_mem _ isLate))
  refine ⟨calls, world₂, hardware₂, ?_, steps⟩
  rw [parts, split, List.append_assoc, restore_append]
  refine (bind_of_ok (run₁ (some calls) fun _ isLeft => by cases isLeft; exact le_rfl) _).trans ?_
  rw [Option.map_some, Nat.sub_self]
  refine (bind_of_ok struck.attempt _).trans ?_
  change restore switch stage (late ++ port :: rest) _ = _
  rw [restore_append]
  exact (bind_of_ok (run₂ none (by simp)) _).trans (settled none (by simp))

theorem Consistent.refused_damages (refused : ¬ Accepts switch (req.bound stage w) stage port)
    (hm : changed ∈ before) (changes : ¬ Quiet (wish switch w stage changed)
      (wish switch (req.bound stage w) stage changed)) : Damages switch req stage targets w hw := by
  have nodup := checkBind_nodup checked
  have nodupBefore := (List.nodup_append.mp (parts ▸ nodup)).1
  have hl : ∀ earlier ∈ before, earlier ∈ targets := fun _ inBefore => by simp [parts, inBefore]
  obtain ⟨early, late, split⟩ := List.append_of_mem hm
  obtain ⟨calls, failure, w', hw', failed, steps, -⟩ := @applyTargets_refused switch _
    hw _ _ _ _ _ _ rest (consistent.ready nodupBefore hl near) refused
  have halfway := consistent.halfway steps hl
  obtain ⟨calls', world'', hardware'', restored, steps'⟩ :=
    consistent.restore_fails checked parts near split changes halfway
  have ran := failed calls'
  rw [← parts] at ran
  refine ⟨calls + calls', failure, _, bindPortAclImpl_error checked ran restored, rfl, fun intact => ?_⟩
  have kept : changed ∉ early ++ late :=
    (List.nodup_cons.mp (List.nodup_middle.mp (split ▸ nodupBefore))).1
  have held' := (steps'.sound (fun _ inBoth => hl _ (by
    rcases List.mem_append.mp inBoth with inEarly | inLate
    · simp [split, inEarly]
    · simp [split, inLate])) halfway.sound).held changed (hl changed hm)
  rw [overlay, if_neg kept, overlay, if_pos hm] at held'
  exact (consistent.sound.held changed (hl changed hm)).not_sameFilter_of_near held'
    (sane_wish (consistent.few changed (hl changed hm)))
    (consistent.saneBound (hl changed hm)) (halfway.descends.trans steps'.descends)
    (near changed hm).2 changes (intact.filters changed (hl changed hm))

end

/-- Whichever call fails, the request leaves nothing changed, exactly if it is recoverable. -/
theorem bindPortAclImpl_atomic_iff
    (consistent : ∀ stage targets, checkBind switch w req = .ok (stage, targets) →
      Consistent switch stage targets w hw) :
    (∀ calls status after, bindPortAclImpl switch req ⟨w, hw, some calls⟩ = .error status after →
      after.countdown = none → ∀ stage targets, checkBind switch w req = .ok (stage, targets) →
        Intact switch stage targets ⟨w, hw, some calls⟩ after) ↔
    ∀ stage targets, checkBind switch w req = .ok (stage, targets) →
      Recoverable switch req stage targets w := by
  constructor
  · intro atomic stage targets checked
    by_contra unrecoverable
    have sound := consistent stage targets checked
    -- The first port that refuses the binding or has a rough change.
    obtain ⟨before, port, rest, parts, fails, passed⟩ := exists_first (by
      by_contra passes
      push Not at passes
      exact unrecoverable (.inl passes))
    have near := fun earlier member => And.intro (passed earlier member).1 (passed earlier member).2.near
    have damages : Damages switch req stage targets w hw := by
      by_cases accepted : Accepts switch (req.bound stage w) stage port
      · exact sound.rough_damages checked parts near accepted fun gentle => fails ⟨accepted, gentle⟩
      · obtain ⟨changed, member, changes⟩ : ∃ changed ∈ before, ¬ Quiet (wish switch w stage changed)
            (wish switch (req.bound stage w) stage changed) := by
          by_contra quiet
          push Not at quiet
          exact unrecoverable (.inr ⟨before, port, rest, parts, accepted, fun earlier member =>
            ⟨(passed earlier member).1, quiet earlier member⟩⟩)
        exact sound.refused_damages checked parts near accepted member changes
    obtain ⟨calls, status, after, failed, struck, damaged⟩ := damages
    exact damaged (atomic calls status after failed struck stage targets checked)
  · intro recoverable calls status after failed struck stage targets checked
    have sound := consistent stage targets checked
    rcases recoverable stage targets checked with gentle | ⟨before, port, rest, parts, refused, quiet⟩
    · exact sound.gentle_intact checked gentle failed
    · rw [sound.refused_idle checked parts refused quiet failed] at struck
      cases struck

end

namespace Turned

def permits : AclProgram := ⟨.ipv4, Std.ExtTreeMap.insert ∅ 10 ⟨true, false, {}, none⟩⟩

def denies : AclProgram := ⟨.ipv4, Std.ExtTreeMap.insert ∅ 10 ⟨false, false, {}, none⟩⟩

def switch : Switch where
  ports := Std.ExtTreeMap.insert ∅ "Ethernet1/1" 1

def lists : NameMap AclProgram :=
  Std.ExtTreeMap.insert (Std.ExtTreeMap.insert ∅ "open" permits) "shut" denies

def shut : BindPortAclRequest := ⟨"Ethernet1/1", 1, "shut"⟩

theorem few (key : String × AclStage) :
    (internalEntries (∅ : StageMap InternalAcl)[key]?).length ≤ 4294967296 := by
  rw [getElem?_empty]
  decide

/-! ### Before the first binding -/

def unbound : AclWorld := { acls := lists }

def blank : Hardware := ⟨0, fun _ => none, fun _ => none, fun _ => none, fun _ => none, fun _ => none⟩

theorem consistent_unbound : Consistent switch .ingress ["Ethernet1/1"] unbound blank where
  accepted port hm := by
    rw [List.mem_singleton.mp hm]
    exact ⟨(none, 1), rfl⟩
  few port _ := few _
  sound := by
    refine ⟨fun port hm => ?_, ?_, ⟨fun _ _ => rfl, fun _ _ => rfl, fun _ _ => rfl, fun _ _ => rfl⟩⟩
    · rw [List.mem_singleton.mp hm]
      exact ⟨trivial, by simp [unbound], by simp [unbound], rfl⟩
    · simp
  known key record recorded := by simp [unbound] at recorded

/-- The session ended with a table that no record knows. -/
def leaksTable : EStateM.Result Status (Session AclWorld Hardware) Unit → Bool
  | .error _ after =>
    after.countdown.isNone && after.memory.tables.isEmpty && (after.device.tables 0).isSome
  | .ok _ _ => false

/-! ### With a list bound -/

def ruleObjs : AclEntryObjs := ⟨2, some 1, none, userPriorityTop, {}, .forward, none⟩

def denyObjs : AclEntryObjs := ⟨4, some 3, none, implicitDenyPriority, {}, .drop, none⟩

def record : PortAclTable :=
  ⟨0, .ipv4, some "open",
    Std.ExtTreeMap.insert (Std.ExtTreeMap.insert ∅ (.user 10) ruleObjs) .implicitDeny denyObjs⟩

def opened : AclWorld where
  acls := lists
  bindings := Std.ExtTreeMap.insert ∅ ("Ethernet1/1", .ingress) "open"
  tables := Std.ExtTreeMap.insert ∅ ("Ethernet1/1", .ingress) record

def programmed : Hardware where
  next := 5
  tables oid := if oid = 0 then some (.ingress, .ipv4) else none
  entries oid :=
    if oid = 2 then some (ruleObjs.installed 0)
    else if oid = 4 then some (denyObjs.installed 0) else none
  counters oid := if oid = 1 ∨ oid = 3 then some 0 else none
  policers _ := none
  bound key := if key = (1, .ingress) then some 0 else none

def desiredOpen : Desired := ⟨.ipv4, some "open", userBand permits ++ [.implicitDeny]⟩

def desiredShut : Desired := ⟨.ipv4, some "shut", userBand denies ++ [.implicitDeny]⟩

theorem gentle : Gentle (some desiredOpen) (some desiredShut) :=
  ⟨⟨rfl, by decide +kernel, by decide +kernel, by decide +kernel⟩, by
    unfold Desired.SparesPolicers
    decide +kernel⟩

theorem record_entries {key : AclEntryKey} {objs : AclEntryObjs} (hf : record.entries[key]? = some objs) :
    key = .implicitDeny ∧ objs = denyObjs ∨ key = .user 10 ∧ objs = ruleObjs := by
  rw [record, lookup_insert, lookup_insert] at hf
  split_ifs at hf with isDenial isRule
  · exact .inl ⟨isDenial.symm, (Option.some.inj hf).symm⟩
  · exact .inr ⟨isRule.symm, (Option.some.inj hf).symm⟩
  · simp at hf

theorem opened_tables {key : String × AclStage} {table : PortAclTable}
    (hr : opened.tables[key]? = some table) : table = record := by
  rw [opened, lookup_insert] at hr
  split_ifs at hr
  · exact (Option.some.inj hr).symm
  · simp at hr

theorem record_matches : record.Matches desiredOpen where
  family := rfl
  userAcl := rfl
  wanted key objs found := by
    rcases record_entries found with ⟨rfl, rfl⟩ | ⟨rfl, rfl⟩
    · exact ⟨.implicitDeny, by decide +kernel, rfl, by decide +kernel, rfl, rfl⟩
    · exact ⟨.ofRule 10 ⟨true, false, {}, none⟩ 0, by decide +kernel, rfl, by decide +kernel, rfl, rfl⟩
  recorded want member := by
    have hl : ∀ want ∈ desiredOpen.entries, record.entries[want.key]?.isSome = true := by
      decide +kernel
    exact Option.isSome_iff_exists.mp (hl want member)

theorem record_faithful : record.Faithful .ingress programmed where
  table := rfl
  present key objs found := by
    rcases record_entries found with ⟨-, rfl⟩ | ⟨-, rfl⟩ <;> exact ⟨rfl, rfl⟩
  complete oid entry found _ := by
    simp only [programmed] at found
    split_ifs at found with isRule isDenial
    · exact ⟨.user 10, ruleObjs, by decide +kernel, isRule.symm⟩
    · exact ⟨.implicitDeny, denyObjs, by decide +kernel, isDenial.symm⟩

theorem record_orderly : record.Orderly where
  entry key key' objs objs' found found' shared := by
    rcases record_entries found with ⟨rfl, rfl⟩ | ⟨rfl, rfl⟩ <;>
      rcases record_entries found' with ⟨rfl, rfl⟩ | ⟨rfl, rfl⟩ <;>
      first | rfl | cases shared
  policer key _ objs _ oid found _ has _ := by
    rcases record_entries found with ⟨-, rfl⟩ | ⟨-, rfl⟩ <;> cases has

theorem programmed_fresh : programmed.Fresh where
  tables oid late := if_neg (Nat.ne_of_gt (Nat.lt_of_lt_of_le (by decide) late))
  counters oid late := if_neg fun used => by
    rcases used with rfl | rfl <;> exact absurd late (by decide)
  entries oid late := by
    have rule : oid ≠ 2 := Nat.ne_of_gt (Nat.lt_of_lt_of_le (by decide) late)
    have denial : oid ≠ 4 := Nat.ne_of_gt (Nat.lt_of_lt_of_le (by decide) late)
    simp [programmed, rule, denial]
  policers _ _ := rfl

theorem consistent_opened : Consistent switch .ingress ["Ethernet1/1"] opened programmed where
  accepted port hm := by
    rw [List.mem_singleton.mp hm]
    exact ⟨(some desiredOpen, 1), rfl⟩
  few port _ := few _
  sound := by
    refine ⟨fun port hm => ?_, ?_, programmed_fresh⟩
    · rw [List.mem_singleton.mp hm]
      refine ⟨record_matches, fun table hr => ?_, fun table hr => ?_, rfl⟩
      · rw [opened_tables hr]
        exact record_faithful
      · rw [opened_tables hr]
        exact record_orderly
    · simp
  known key table hr := by
    rw [opened_tables hr]
    refine ⟨by decide, fun entryKey objs oid hf has => ?_⟩
    rcases record_entries hf with ⟨-, rfl⟩ | ⟨-, rfl⟩ <;> cases has <;> decide

end Turned

/-- A request that turns one rule round is undone whichever call fails. -/
theorem bindPortAclImpl_atomic_turned :
    checkBind Turned.switch Turned.opened Turned.shut = .ok (.ingress, ["Ethernet1/1"]) ∧
      Consistent Turned.switch .ingress ["Ethernet1/1"] Turned.opened Turned.programmed ∧
      ∀ calls status after,
        bindPortAclImpl Turned.switch Turned.shut ⟨Turned.opened, Turned.programmed, some calls⟩ =
          .error status after →
        after.countdown = none →
        ∀ stage targets, checkBind Turned.switch Turned.opened Turned.shut = .ok (stage, targets) →
          Intact Turned.switch stage targets ⟨Turned.opened, Turned.programmed, some calls⟩ after := by
  have checked : checkBind Turned.switch Turned.opened Turned.shut = .ok (.ingress, ["Ethernet1/1"]) := rfl
  refine ⟨checked, Turned.consistent_opened, (bindPortAclImpl_atomic_iff ?_).mpr ?_⟩
  · intro stage targets checked'
    cases checked.symm.trans checked'
    exact Turned.consistent_opened
  · intro stage targets checked'
    cases checked.symm.trans checked'
    refine .inl fun port member => ?_
    rw [List.mem_singleton.mp member]
    exact ⟨⟨(some Turned.desiredShut, 1), rfl⟩, Turned.gentle⟩

/-- The second call creates a counter for the new table; when it fails, the table is left. -/
theorem bindPortAclImpl_leaves_table :
    Consistent Turned.switch .ingress ["Ethernet1/1"] Turned.unbound Turned.blank ∧
      checkBind Turned.switch Turned.unbound Turned.shut = .ok (.ingress, ["Ethernet1/1"]) ∧
      ∃ status after, bindPortAclImpl Turned.switch Turned.shut ⟨Turned.unbound, Turned.blank, some 1⟩ =
          .error status after ∧
        after.countdown = none ∧
        ¬ Intact Turned.switch .ingress ["Ethernet1/1"] ⟨Turned.unbound, Turned.blank, some 1⟩ after := by
  refine ⟨Turned.consistent_unbound, rfl, ?_⟩
  have leak : Turned.leaksTable (bindPortAclImpl Turned.switch Turned.shut
      ⟨Turned.unbound, Turned.blank, some 1⟩) = true := by decide +kernel
  cases ran : bindPortAclImpl Turned.switch Turned.shut ⟨Turned.unbound, Turned.blank, some 1⟩ with
  | ok value after => rw [ran] at leak; cases leak
  | error status after =>
    rw [ran] at leak
    simp only [Turned.leaksTable, Bool.and_eq_true, Option.isNone_iff_eq_none] at leak
    obtain ⟨⟨struck, empty⟩, left⟩ := leak
    refine ⟨status, after, rfl, struck, fun intact => ?_⟩
    obtain ⟨key, record, recorded, -⟩ := intact.tables 0 rfl (Option.isSome_iff_ne_none.mp left)
    rw [isEmpty_iff.mp empty] at recorded
    cases recorded

end Hemlock.Acl
