import Hemlock.Acl.Reconcile

/-!
# Edits in place

What the hardware holds of a record, and what is left of it when one entry gets another
action or policer.
-/

namespace Hemlock.Acl

open Faults OrderedMap Hardware

def AclEntryObjs.installed (objs : AclEntryObjs) (table : Oid) : HardwareEntry :=
  ⟨table, objs.priority, objs.fields, ⟨objs.action, objs.counter, objs.policer⟩⟩

structure AclEntryObjs.Present (objs : AclEntryObjs) (table : Oid) (hw : Hardware) : Prop where
  entry : hw.entries objs.entry = some (objs.installed table)
  policer : objs.policer.map hw.policers = objs.police.map some

structure PortAclTable.Faithful (record : PortAclTable) (stage : AclStage) (hw : Hardware) :
    Prop where
  table : hw.tables record.table = some (stage, record.family)
  present : ∀ (key : AclEntryKey) objs, record.entries[key]? = some objs →
    objs.Present record.table hw
  complete : ∀ oid entry, hw.entries oid = some entry → entry.table = record.table →
    ∃ key : AclEntryKey, ∃ objs, record.entries[key]? = some objs ∧ objs.entry = oid

/-- No two entries of the table have an object in common. -/
structure PortAclTable.Orderly (record : PortAclTable) : Prop where
  entry : ∀ (key key' : AclEntryKey) (objs objs' : AclEntryObjs), record.entries[key]? = some objs →
    record.entries[key']? = some objs' → objs.entry = objs'.entry → key = key'
  policer : ∀ (key key' : AclEntryKey) (objs objs' : AclEntryObjs) oid, record.entries[key]? = some objs →
    record.entries[key']? = some objs' → objs.policer = some oid → objs'.policer = some oid →
      key = key'

structure Hardware.Fresh (hw : Hardware) : Prop where
  tables : ∀ oid, hw.next ≤ oid → hw.tables oid = none
  counters : ∀ oid, hw.next ≤ oid → hw.counters oid = none
  entries : ∀ oid, hw.next ≤ oid → hw.entries oid = none
  policers : ∀ oid, hw.next ≤ oid → hw.policers oid = none

/-- Only policers change: the given one, and new ones. -/
structure Hardware.Policed (touched : Option Oid) (before after : Hardware) : Prop where
  tables : after.tables = before.tables
  entries : after.entries = before.entries
  counters : after.counters = before.counters
  bound : after.bound = before.bound
  next : before.next ≤ after.next
  policers : ∀ oid < before.next, touched ≠ some oid → after.policers oid = before.policers oid
  fresh : ∀ oid, after.next ≤ oid → before.policers oid = none → after.policers oid = none

namespace Hardware

variable {touched : Option Oid} {policer : Oid} {hw : Hardware}

theorem Policed.refl : Policed touched hw hw :=
  ⟨rfl, rfl, rfl, rfl, le_rfl, fun _ _ _ => rfl, fun _ _ => id⟩

theorem policed_createPolicer (spec : PolicerSpec) : Policed touched hw (hw.createPolicer spec).2 where
  tables := rfl
  entries := rfl
  counters := rfl
  bound := rfl
  next := Nat.le_succ _
  policers _ old _ := Function.update_of_ne (Nat.ne_of_lt old) _ _
  fresh _ late unused := (Function.update_of_ne (Nat.ne_of_gt late) _ _).trans unused

theorem policed_update {state : Option PolicerSpec} (gone : hw.policers policer = none → state = none) :
    Policed (some policer) hw { hw with policers := Function.update hw.policers policer state } where
  tables := rfl
  entries := rfl
  counters := rfl
  bound := rfl
  next := le_rfl
  policers oid _ other := Function.update_of_ne (fun hs => other (by rw [hs])) _ _
  fresh oid _ unused := by
    change Function.update _ _ _ _ = _
    rw [Function.update_apply]
    split_ifs with hs
    · exact gone (hs ▸ unused)
    · exact unused

theorem policed_setPolicer (spec : PolicerSpec) :
    Policed (some policer) hw (hw.setPolicer policer spec).2 :=
  policed_update fun unused => by rw [unused, Option.map_none]

theorem policed_removePolicer : Policed (some policer) hw (hw.removePolicer policer).2 :=
  policed_update fun _ => rfl

end Hardware

section

variable {switch : Switch} {w : AclWorld} {hw : Hardware} {held : AclEntryObjs}
  {want : DesiredEntry}

/-- The wanted entry has the policer that there is, or gets one where there is none. -/
def SparesPolicer (held : AclEntryObjs) (want : DesiredEntry) : Prop :=
  held.police = want.police ∨ held.police = none

theorem settlePolicer_runs (paired : held.policer.isSome = held.police.isSome) :
    ∃ calls policer after, Runs (settlePolicer switch held want) w hw calls policer w after ∧
      Hardware.Policed held.policer hw after ∧ policer.isSome = want.police.isSome ∧
      (∀ oid, policer = some oid → held.policer = some oid ∨ hw.next ≤ oid ∧ oid < after.next) ∧
      (held.policer.map hw.policers = held.police.map some →
        policer.map after.policers = want.police.map some) ∧
      (∀ struck < calls, Strikes (settlePolicer switch held want) w hw struck w hw) ∧
      (calls = 0 → after = hw) ∧ (SparesPolicer held want → Hardware.Policed none hw after) := by
  unfold settlePolicer
  cases wanted : want.police with
  | none =>
    refine ⟨0, none, hw, ?_, .refl, rfl, by simp, by simp, by simp, fun _ => rfl, fun _ => .refl⟩
    cases held.policer <;> exact runs_pure
  | some spec =>
    cases had : held.policer with
    | none =>
      refine ⟨1, some hw.next, _, runs_call_return _ _ _,
        policed_createPolicer spec, rfl, ?_, fun _ => by simp [createPolicer], ?_,
        by simp, fun _ => policed_createPolicer spec⟩
      · intro oid isOid
        cases isOid
        exact .inr ⟨le_rfl, Nat.lt_succ_self _⟩
      · intro struck first
        obtain rfl := Nat.lt_one_iff.mp first
        exact (strikes_call _ _).bind _
    | some policer =>
      dsimp only
      split_ifs with hs
      · exact ⟨0, some policer, hw, runs_pure, .refl, rfl, fun oid => .inl, by
          rw [hs]
          exact id, by simp, fun _ => rfl, fun _ => .refl⟩
      · rw [had] at paired
        obtain ⟨spec', had'⟩ := Option.isSome_iff_exists.mp paired.symm
        refine ⟨1, some policer, _, runs_call_return _ _ _,
          policed_setPolicer spec, rfl, fun oid => .inl, fun hp => ?_, ?_, by simp, ?_⟩
        · rw [had', Option.map_some, Option.map_some, Option.some.injEq] at hp
          simp [setPolicer, hp]
        · intro struck first
          obtain rfl := Nat.lt_one_iff.mp first
          exact (strikes_call _ _).bind _
        · rintro (hu | ha)
          · exact absurd (hu.trans wanted) hs
          · exact absurd (had'.symm.trans ha) (Option.some_ne_none _)

theorem settleEntry_runs {table : Oid} (action : AclAction)
    (shape : held.priority = want.priority ∧ held.fields = want.fields) :
    Runs (settleEntry switch table held want action) w hw 1 held.entry w
        (hw.setAclEntryAction held.entry action).2 ∧
      Strikes (settleEntry switch table held want action) w hw 0 w hw := by
  rw [settleEntry, if_pos shape]
  exact ⟨runs_call_return _ _ _, (strikes_call _ _).bind _⟩

theorem retirePolicer_runs (paired : held.policer.isSome = held.police.isSome) : ∃ calls after,
      Runs (retirePolicer switch held want) w hw calls () w after ∧
      Hardware.Policed held.policer hw after ∧ (want.police.isSome → after.policers = hw.policers) ∧
      (SparesPolicer held want → calls = 0) := by
  unfold retirePolicer
  cases wanted : want.police with
  | some spec => exact ⟨0, hw, runs_pure, .refl, fun _ => rfl, fun _ => rfl⟩
  | none =>
    cases had : held.policer with
    | none => exact ⟨0, hw, runs_pure, .refl, fun _ => rfl, fun _ => rfl⟩
    | some policer =>
      refine ⟨1, _, runs_call _ _, policed_removePolicer, by simp, fun spared => ?_⟩
      rw [had] at paired
      rw [SparesPolicer, wanted, or_self] at spared
      rw [spared] at paired
      cases paired

/-- The entry of `held` has become that of `objs`, and nothing else has changed. -/
structure Retouched (held objs : AclEntryObjs) (before after : Hardware) : Prop where
  entry : objs.entry = held.entry
  counter : objs.counter = held.counter
  tables : after.tables = before.tables
  counters : after.counters = before.counters
  bound : after.bound = before.bound
  next : before.next ≤ after.next
  entries : ∀ oid, oid ≠ held.entry → after.entries oid = before.entries oid
  tags : ∀ oid, (after.entries oid).map HardwareEntry.table = (before.entries oid).map HardwareEntry.table
  policers : ∀ oid < before.next, held.policer ≠ some oid → after.policers oid = before.policers oid
  unused : ∀ oid, after.next ≤ oid → before.policers oid = none → after.policers oid = none
  owner : ∀ oid, objs.policer = some oid →
    held.policer = some oid ∨ before.next ≤ oid ∧ oid < after.next
  present : ∀ table, held.Present table before → objs.Present table after

theorem updateEntryObjs_runs {table : Oid}
    (shape : held.priority = want.priority ∧ held.fields = want.fields)
    (paired : held.policer.isSome = held.police.isSome) :
    ∃ calls objs after, Runs (updateEntryObjs switch table held want) w hw calls objs w after ∧
      objs.unchanged want = true ∧ objs.policer.isSome = want.police.isSome ∧ Retouched held objs hw after ∧
      (SparesPolicer held want → ∀ struck < calls, ∃ spoiled,
        Strikes (updateEntryObjs switch table held want) w hw struck w spoiled ∧
        Hardware.Policed none hw spoiled) := by
  obtain ⟨calls, policer, settled, settle, policed, wanted, owner, spec, settleStruck, -, spared⟩ :=
    @settlePolicer_runs switch w hw held want paired
  obtain ⟨calls', after, retire, policed', keeps, retires⟩ := @retirePolicer_runs switch w
    (settled.setAclEntryAction held.entry ⟨want.action, held.counter, policer⟩).2 held want paired
  obtain ⟨entryRuns, entryStruck⟩ := @settleEntry_runs switch w settled held want table
    ⟨want.action, held.counter, policer⟩ shape
  refine ⟨calls + (1 + (calls' + 0)),
    ⟨held.entry, held.counter, policer, want.priority, want.fields, want.action, want.police⟩,
    after, settle.bind (entryRuns.bind (retire.bind runs_pure)), by simp [AclEntryObjs.unchanged],
    wanted, ?_, ?_⟩
  rotate_left
  · intro spares struck bound
    rw [retires spares] at bound
    by_cases early : struck < calls
    · exact ⟨hw, (settleStruck struck early).bind _, .refl⟩
    · have here : struck = calls + 0 := by omega
      rw [here]
      exact ⟨settled, settle.strikes (entryStruck.bind _), spared spares⟩
  have entries : after.entries = Function.update hw.entries held.entry
      ((hw.entries held.entry).map fun stored =>
        { stored with action := ⟨want.action, held.counter, policer⟩ }) := by
    rw [policed'.entries, ← policed.entries]
    rfl
  have next : settled.next ≤ after.next := policed'.next
  refine {
    entry := rfl
    counter := rfl
    tables := policed'.tables.trans policed.tables
    counters := policed'.counters.trans policed.counters
    bound := policed'.bound.trans policed.bound
    next := policed.next.trans next
    entries := ?_
    tags := ?_
    policers := ?_
    unused := ?_
    owner := ?_
    present := ?_ }
  · intro oid other
    rw [entries, Function.update_of_ne other]
  · intro oid
    rw [entries, Function.update_apply]
    split_ifs with hs
    · rw [hs, Option.map_map]
      rfl
    · rfl
  · intro oid old other
    exact (policed'.policers oid (lt_of_lt_of_le old policed.next) other).trans
      (policed.policers oid old other)
  · intro oid late none
    exact policed'.fresh oid late (policed.fresh oid (next.trans late) none)
  · intro oid isOid
    rcases owner oid isOid with hs | ⟨fresh, bound⟩
    · exact .inl hs
    · exact .inr ⟨fresh, lt_of_lt_of_le bound next⟩
  · intro table present
    refine ⟨?_, ?_⟩
    · rw [entries, present.entry]
      simp [AclEntryObjs.installed, shape]
    · have settledSpec := spec present.policer
      cases police : want.police with
      | none =>
        rw [police] at settledSpec
        have gone : policer = none := Option.map_eq_none_iff.mp settledSpec
        simp [gone]
      | some wantedSpec =>
        rw [police] at settledSpec
        rw [keeps (by rw [police]; rfl)]
        exact settledSpec

end

/-- The record and the hardware after one entry, or none, has been edited. -/
structure Edited (stage : AclStage) (record record' : PortAclTable) (before after : Hardware) :
    Prop where
  table : record'.table = record.table
  kept : ∀ (key : AclEntryKey) objs, record.entries[key]? = some objs →
    ∃ objs' : AclEntryObjs, record'.entries[key]? = some objs' ∧ objs'.entry = objs.entry
  owner : ∀ (key : AclEntryKey) objs', record'.entries[key]? = some objs' →
    ∃ objs : AclEntryObjs, record.entries[key]? = some objs ∧ objs'.entry = objs.entry ∧
      objs'.counter = objs.counter ∧
      ∀ oid, objs'.policer = some oid →
        objs.policer = some oid ∨ before.next ≤ oid ∧ oid < after.next
  tables : after.tables = before.tables
  counters : after.counters = before.counters
  bound : after.bound = before.bound
  next : before.next ≤ after.next
  entries : ∀ oid, (∀ (key : AclEntryKey) objs, record.entries[key]? = some objs →
    objs.entry ≠ oid) → after.entries oid = before.entries oid
  tags : ∀ oid, (after.entries oid).map HardwareEntry.table =
    (before.entries oid).map HardwareEntry.table
  policers : ∀ oid < before.next, (∀ (key : AclEntryKey) objs,
    record.entries[key]? = some objs → objs.policer ≠ some oid) →
      after.policers oid = before.policers oid
  unused : ∀ oid, after.next ≤ oid → before.policers oid = none → after.policers oid = none
  family : record'.family = record.family
  present : record.Orderly → record.Faithful stage before → before.Fresh →
    ∀ (key : AclEntryKey) objs', record'.entries[key]? = some objs' →
      objs'.Present record'.table after
  distinct : record.Orderly → record.Faithful stage before → before.Fresh →
    ∀ (key key' : AclEntryKey) (objs objs' : AclEntryObjs) oid, record'.entries[key]? = some objs →
      record'.entries[key']? = some objs' → objs.policer = some oid → objs'.policer = some oid →
        key = key'

namespace Edited

variable {stage : AclStage} {record record' : PortAclTable} {before after : Hardware}

theorem keep (userAcl : Option String) : Edited stage record { record with userAcl } before before where
  table := rfl
  kept _ objs hf := ⟨objs, hf, rfl⟩
  owner _ objs hf := ⟨objs, hf, rfl, rfl, fun _ => .inl⟩
  tables := rfl
  counters := rfl
  bound := rfl
  next := le_rfl
  entries _ _ := rfl
  tags _ := rfl
  policers _ _ _ := rfl
  unused _ _ := id
  family := rfl
  present _ faithful _ := faithful.present
  distinct orderly _ _ := orderly.policer

variable {key : AclEntryKey}

theorem policer_lt (faithful : record.Faithful stage before) (fresh : before.Fresh)
    {objs : AclEntryObjs} (hf : record.entries[key]? = some objs) {oid : Oid}
    (has : objs.policer = some oid) : oid < before.next := by
  have hp := (faithful.present key objs hf).policer
  rw [has] at hp
  obtain ⟨spec, -, isSpec⟩ := Option.map_eq_some_iff.mp hp.symm
  by_contra late
  have none := fresh.policers oid (Nat.le_of_not_lt late)
  rw [none] at isSpec
  cases isSpec

theorem single {held objs : AclEntryObjs}
    (hf : record.entries[key]? = some held) (retouched : Retouched held objs before after)
    (userAcl : Option String) :
    Edited stage record ⟨record.table, record.family, userAcl, record.entries.insert key objs⟩
      before after where
  __ := retouched
  table := rfl
  kept key' objs' hf' := by
    rw [lookup_insert]
    split_ifs with hs
    · subst hs
      rw [hf, Option.some.injEq] at hf'
      exact ⟨objs, rfl, by rw [retouched.entry, hf']⟩
    · exact ⟨objs', hf', rfl⟩
  owner key' objs' hf' := by
    rw [lookup_insert] at hf'
    split_ifs at hf' with hs
    · subst hs
      cases hf'
      exact ⟨held, hf, retouched.entry, retouched.counter, retouched.owner⟩
    · exact ⟨objs', hf', rfl, rfl, fun _ => .inl⟩
  entries oid other := retouched.entries oid (other key held hf).symm
  policers oid old other := retouched.policers oid old (other key held hf)
  family := rfl
  present orderly faithful fresh key' objs' hf' := by
    rw [lookup_insert] at hf'
    split_ifs at hf' with hs
    · cases hf'
      exact retouched.present _ (faithful.present key held hf)
    · have there := faithful.present key' objs' hf'
      have otherEntry : objs'.entry ≠ held.entry := fun shared =>
        hs (orderly.entry key key' held objs' hf hf' shared.symm)
      refine ⟨(retouched.entries _ otherEntry).trans there.entry, ?_⟩
      cases has : objs'.policer with
      | none => simpa [has] using there.policer
      | some oid =>
        have otherPolicer : held.policer ≠ some oid := fun shared =>
          hs (orderly.policer key key' held objs' oid hf hf' shared has)
        rw [Option.map_some,
          retouched.policers oid (policer_lt faithful fresh hf' has) otherPolicer]
        simpa [has] using there.policer
  distinct orderly faithful fresh := by
    -- A policer of the edited entry is an old one of its own or a new one.
    have other : ∀ (key' : AclEntryKey) (objs' : AclEntryObjs) oid, key ≠ key' →
        record.entries[key']? = some objs' → objs.policer = some oid → objs'.policer ≠ some oid := by
      intro key' objs' oid apart hf' has has'
      rcases retouched.owner oid has with old | ⟨new, -⟩
      · exact apart (orderly.policer key key' held objs' oid hf hf' old has')
      · exact Nat.not_lt_of_le new (policer_lt faithful fresh hf' has')
    intro first second objs₁ objs₂ oid hf₁ hf₂ has₁ has₂
    rw [lookup_insert] at hf₁ hf₂
    by_cases isFirst : key = first
    · by_cases isSecond : key = second
      · rw [← isFirst, isSecond]
      · rw [if_pos isFirst, Option.some.injEq] at hf₁
        rw [if_neg isSecond] at hf₂
        exact absurd has₂ (other second objs₂ oid isSecond hf₂ (by rw [hf₁, has₁]))
    · rw [if_neg isFirst] at hf₁
      by_cases isSecond : key = second
      · rw [if_pos isSecond, Option.some.injEq] at hf₂
        exact absurd has₁ (other first objs₁ oid isFirst hf₁ (by rw [hf₂, has₂]))
      · rw [if_neg isSecond] at hf₂
        exact orderly.policer first second objs₁ objs₂ oid hf₁ hf₂ has₁ has₂

variable (edited : Edited stage record record' before after)
include edited

theorem fresh (unused : before.Fresh) : after.Fresh where
  tables oid late := by
    rw [edited.tables]
    exact unused.tables oid (edited.next.trans late)
  counters oid late := by
    rw [edited.counters]
    exact unused.counters oid (edited.next.trans late)
  entries oid late := by
    have tag := edited.tags oid
    rw [unused.entries oid (edited.next.trans late), Option.map_none, Option.map_eq_none_iff] at tag
    exact tag
  policers oid late := edited.unused oid late (unused.policers oid (edited.next.trans late))

theorem orderly (orderly : record.Orderly)
    (faithful : record.Faithful stage before) (unused : before.Fresh) : record'.Orderly where
  entry key key' objs objs' found found' shared := by
    obtain ⟨was, hr, entry, -⟩ := edited.owner key objs found
    obtain ⟨was', hr', entry', -⟩ := edited.owner key' objs' found'
    exact orderly.entry key key' was was' hr hr' (by rw [← entry, ← entry', shared])
  policer := edited.distinct orderly faithful unused

theorem faithful (orderly : record.Orderly)
    (faithful : record.Faithful stage before) (unused : before.Fresh) : record'.Faithful stage after where
  table := by rw [edited.tables, edited.table, edited.family, faithful.table]
  present := edited.present orderly faithful unused
  complete oid entry found inTable := by
    have tag := edited.tags oid
    rw [found] at tag
    obtain ⟨entry', hf', sameTable⟩ := Option.map_eq_some_iff.mp tag.symm
    obtain ⟨key, objs, hr, isOid⟩ := faithful.complete oid entry' hf'
      (by rw [sameTable, inTable, edited.table])
    obtain ⟨objs', hr', hs⟩ := edited.kept key objs hr
    exact ⟨key, objs', hr', hs.trans isOid⟩

omit edited

end Edited

section

variable {switch : Switch} {w : AclWorld} {hw : Hardware} {port : String} {portId : PortId}
  {stage : AclStage} {record : PortAclTable} {old new : Desired}

/-- No changed entry has a policer that goes or becomes another. -/
def Desired.SparesPolicers (old new : Desired) : Prop :=
  ∀ want ∈ new.entries, want ∉ old.entries → ∀ was ∈ old.entries, was.key = want.key →
    was.police = want.police ∨ was.police = none

theorem matches_quiet (hm : record.Matches old) (close : old.Close new)
    (hwo : old.WellFormed) (quiet : ∀ want ∈ new.entries, want ∈ old.entries) :
    PortAclTable.Matches { record with userAcl := new.userAcl } new where
  family := hm.family.trans close.family
  userAcl := rfl
  wanted key objs found := by
    obtain ⟨was, inOld, isKey, realizes⟩ := hm.wanted key objs found
    obtain ⟨want, inNew, hs⟩ := close.kept was inOld
    obtain rfl := hwo.eq_of_key (quiet want inNew) inOld hs
    exact ⟨want, inNew, isKey, realizes⟩
  recorded want inNew := hm.recorded want (quiet want inNew)

theorem matches_single (matched : record.Matches old) (close : old.Close new)
    (hwo : old.WellFormed) {want : DesiredEntry} (hm : want ∈ new.entries)
    (changed : want ∉ old.entries) {objs : AclEntryObjs} (realizes : objs.Realizes want) :
    PortAclTable.Matches
      ⟨record.table, record.family, new.userAcl, record.entries.insert want.key objs⟩ new where
  family := matched.family.trans close.family
  userAcl := rfl
  wanted key objs' hf := by
    rw [lookup_insert] at hf
    split_ifs at hf with isKey
    · cases hf
      exact ⟨want, hm, isKey, realizes⟩
    · obtain ⟨was, inOld, wasKey, wasRealizes⟩ := matched.wanted key objs' hf
      obtain ⟨want', inNew, hs⟩ := close.kept was inOld
      have kept : want' ∈ old.entries := by
        by_contra changed'
        rw [close.single want' inNew want hm changed' changed] at hs
        exact isKey (hs.trans wasKey)
      obtain rfl := hwo.eq_of_key kept inOld hs
      exact ⟨want', inNew, wasKey, wasRealizes⟩
  recorded want' inNew := by
    rw [lookup_insert]
    split_ifs
    · exact ⟨objs, rfl⟩
    · obtain ⟨was, inOld, hs, -⟩ := close.shape want' inNew
      rw [← hs]
      exact matched.recorded was inOld

theorem fillTable_eq (wanted : AllWanted record.entries new) :
    fillTable switch port portId stage new record.table record.entries false =
      reconcile switch record.table new.entries record.entries ∅ >>= fun entries =>
        remember (recordTable port stage ⟨record.table, new.family, new.userAcl, entries⟩) := by
  rw [fillTable, staleObjs_eq_nil wanted, filter_of_allWanted wanted]
  rfl

theorem fillTable_quiet (hm : record.Matches old) (close : old.Close new)
    (hwo : old.WellFormed) (hwn : new.WellFormed) (quiet : ∀ want ∈ new.entries, want ∈ old.entries) :
    Runs (fillTable switch port portId stage new record.table record.entries false) w hw 0 ()
      (recordTable port stage { record with userAcl := new.userAcl } w) hw := by
  rw [fillTable_eq fun _ _ => wants_of_close hm close,
    reconcile_quiet hm close hwo hwn quiet,
    ← hm.family.trans close.family]
  exact runs_remember _

theorem changed_entry (matched : record.Matches old) (close : old.Close new)
    (hwo : old.WellFormed) (hwn : new.WellFormed) (changes : ∃ want ∈ new.entries, want ∉ old.entries) :
    ∃ want ∈ new.entries, want ∉ old.entries ∧ ∃ was ∈ old.entries, was.key = want.key ∧
      ∃ held, record.entries[want.key]? = some held ∧ held.Realizes was ∧
        (held.priority = want.priority ∧ held.fields = want.fields) ∧ held.unchanged want = false ∧
        held.policer.isSome = held.police.isSome := by
  obtain ⟨want, hm, changed⟩ := changes
  obtain ⟨was, inOld, hs, priority, fields⟩ := close.shape want hm
  obtain ⟨held, hf, realizes⟩ := matched.realizes hwo inOld
  obtain ⟨samePriority, sameFields, sameAction, samePolice⟩ := unchanged_iff.mp realizes.unchanged
  refine ⟨want, hm, changed, was, inOld, hs, held, by rw [← hs, hf], realizes,
    ⟨samePriority.trans priority, sameFields.trans fields⟩, ?_, by rw [realizes.policer, samePolice]⟩
  refine Bool.eq_false_iff.mpr fun hu => changed ?_
  have counter : was.wantsCounter = want.wantsCounter := by
    rw [hwo.counters was inOld, hwn.counters want hm, hs]
  rwa [← eq_of_unchanged realizes hu hs counter]

theorem fillTable_runs (matched : record.Matches old) (close : old.Close new)
    (hwo : old.WellFormed) (hwn : new.WellFormed) : ∃ calls record' after,
      Runs (fillTable switch port portId stage new record.table record.entries false) w hw
        calls () (recordTable port stage record' w) after ∧
      record'.Matches new ∧ Edited stage record record' hw after ∧
      ((∀ want ∈ new.entries, want ∈ old.entries) → calls = 0) ∧
      (old.SparesPolicers new → ∀ struck < calls, ∃ spoiled,
        Strikes (fillTable switch port portId stage new record.table record.entries false) w hw
          struck w spoiled ∧ Hardware.Policed none hw spoiled) := by
  by_cases changes : ∃ want ∈ new.entries, want ∉ old.entries
  swap
  · push Not at changes
    exact ⟨0, _, hw, fillTable_quiet matched close hwo hwn changes,
      matches_quiet matched close hwo changes, .keep new.userAcl, fun _ => rfl, by simp⟩
  obtain ⟨want, hm, changed, was, inOld, hs, held, hf, realizes, shape, differs, paired⟩ :=
    changed_entry matched close hwo hwn changes
  obtain ⟨calls, objs, after, run, hu, policer, retouched, struck⟩ :=
    @updateEntryObjs_runs switch w hw held want record.table shape paired
  rw [fillTable_eq fun _ _ => wants_of_close matched close,
    reconcile_single matched close hwo hwn hm changed hf differs,
    bind_assoc, ← matched.family.trans close.family]
  refine ⟨calls + (0 + 0), _, after, ?_,
    matches_single matched close hwo hm changed ⟨hu, ?_, policer⟩,
    .single hf retouched new.userAcl, fun allOld => absurd (allOld want hm) changed, ?_⟩
  · exact run.bind (Runs.bind runs_pure (runs_remember _))
  · rw [retouched.counter, realizes.counter, hwo.counters was inOld,
      hwn.counters want hm, hs]
  · intro spares call bound
    obtain ⟨spoiled, strikes, policed⟩ := struck (by
      rw [SparesPolicer, (unchanged_iff.mp realizes.unchanged).2.2.2]
      exact spares want hm changed was inOld hs) call bound
    exact ⟨spoiled, strikes.bind _, policed⟩

end

end Hemlock.Acl
