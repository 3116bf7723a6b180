import Hemlock.Acl.Edits

/-!
# Damage

When the wanted entries are not close to those that a table has, there is a call whose
failure leaves damage: a new object that no record knows, a port without its table, or an
entry that is no longer what its record says.
-/

namespace Hemlock.Acl

open Faults OrderedMap Hardware

/-- A request changes at most the action of one entry, or gives it a policer. -/
def Gentle : Option Desired → Option Desired → Prop
  | none, none => True
  | some old, some new => old.Close new ∧ old.SparesPolicers new
  | _, _ => False

/-- What a failed call can leave behind. -/
inductive Harm (portId : PortId) (stage : AclStage) (current : Option PortAclTable)
    (before after : Hardware) : Prop where
  | table (oid : Oid) (created : before.next ≤ oid) (left : after.tables oid ≠ none)
  | counter (oid : Oid) (created : before.next ≤ oid) (left : after.counters oid ≠ none)
  | unbound (record : PortAclTable) (recorded : current = some record)
      (gone : after.bound (portId, stage) = none)
  | entry (record : PortAclTable) (key : AclEntryKey) (objs : AclEntryObjs)
      (recorded : current = some record) (found : record.entries[key]? = some objs)
      (other : ¬ objs.Present record.table after)

section

variable {switch : Switch} {w : AclWorld} {hw : Hardware} {table : Oid}

theorem createEntryObjs_strikes (want : DesiredEntry) :
    Strikes (createEntryObjs switch table want) w hw 0 w hw := by
  unfold createEntryObjs
  by_cases counted : want.wantsCounter = true
  · rw [freshCounter, if_pos counted]
    exact ((strikes_call _ _).bind _).bind _
  · rw [freshCounter, if_neg counted]
    cases police : want.police with
    | some spec => exact ((strikes_call _ _).bind _).bind _
    | none =>
      exact (strikes_call _ _).bind _

theorem settleEntry_strikes (held : AclEntryObjs) (want : DesiredEntry) (action : AclAction) :
    Strikes (settleEntry switch table held want action) w hw 0 w hw := by
  unfold settleEntry
  split_ifs <;> exact (strikes_call _ _).bind _

variable {held : AclEntryObjs}

theorem updateEntryObjs_strikes (want : DesiredEntry) (paired : held.policer.isSome = held.police.isSome) :
    Strikes (updateEntryObjs switch table held want) w hw 0 w hw := by
  obtain ⟨calls, policer, settled, settle, -, -, -, -, struck, idle, -⟩ :=
    @settlePolicer_runs switch w hw held want paired
  cases calls with
  | succ calls => exact (struck 0 (Nat.succ_pos _)).bind _
  | zero =>
    rw [idle rfl] at settle
    exact strikes_after_idle settle ((settleEntry_strikes held want _).bind _)

variable {want : DesiredEntry}

theorem reconcileEntry_strikes {held : Option AclEntryObjs}
    (differs : ∀ objs, held = some objs → objs.unchanged want = false)
    (paired : ∀ objs, held = some objs → objs.policer.isSome = objs.police.isSome) :
    Strikes (reconcileEntry switch table held want) w hw 0 w hw := by
  cases held with
  | none => exact createEntryObjs_strikes want
  | some held =>
    rw [reconcileEntry, if_neg (by simp [differs held rfl])]
    exact updateEntryObjs_strikes want (paired held rfl)

section

variable {port : String} {portId : PortId} {stage : AclStage}

theorem fillTable_strikes (desired : Desired) :
    Strikes (fillTable switch port portId stage desired table ∅ true) w hw 0 w hw := by
  have nothing : staleObjs ∅ desired = [] := by simp [staleObjs]
  rw [fillTable]
  cases desired.entries with
  | nil =>
    exact (strikes_call _ _).bind _
  | cons want rest =>
    refine Strikes.bind (Strikes.bind (reconcileEntry_strikes ?_ ?_) _) _
    all_goals
      intro objs hf
      simp at hf

theorem newTable_strikes (desired : Desired) : Strikes (newTable switch port portId stage desired) w hw 1 w
      (hw.createAclTable stage desired.family).2 :=
  strikes_after_call (fillTable_strikes desired)

theorem dropTable_strikes (record : PortAclTable) :
    Strikes (dropTable switch port portId stage record) w hw 1 w (hw.bindPortAcl portId stage none).2 := by
  refine strikes_after_call ?_
  cases record.entries.toList.map Prod.snd with
  | nil =>
    exact (strikes_call _ _).bind _
  | cons objs rest => exact (((strikes_call _ _).bind _).bind _).bind _

theorem destroyEntryObjs_strikes {objs : AclEntryObjs} (counted : objs.counter.isSome) :
    Strikes (destroyEntryObjs switch objs) w hw 1 w (hw.removeAclEntry objs.entry).2 := by
  refine strikes_after_call ?_
  cases objs.policer with
  | some policer => exact (strikes_call _ _).bind _
  | none =>
    obtain ⟨counter, has⟩ := Option.isSome_iff_exists.mp counted
    rw [has]
    exact (strikes_call _ _).bind _

end

theorem createEntryObjs_leaves_counter (counted : want.wantsCounter = true) :
    Strikes (createEntryObjs switch table want) w hw 1 w (hw.createAclCounter table).2 := by
  unfold createEntryObjs
  rw [freshCounter, if_pos counted, bind_assoc]
  refine strikes_after_call ?_
  cases police : want.police with
  | some spec => exact ((strikes_call _ _).bind _).bind _
  | none =>
    exact (strikes_call _ _).bind _

theorem updateEntryObjs_removes (shape : ¬ (held.priority = want.priority ∧ held.fields = want.fields))
    (paired : held.policer.isSome = held.police.isSome) :
    ∃ calls after, Strikes (updateEntryObjs switch table held want) w hw calls w after ∧
      hw.next ≤ after.next ∧ ¬ held.Present table after := by
  obtain ⟨calls, policer, settled, settle, policed, -⟩ :=
    @settlePolicer_runs switch w hw held want paired
  have removed : Strikes (settleEntry switch table held want ⟨want.action, held.counter, policer⟩)
      w settled 1 w (settled.removeAclEntry held.entry).2 := by
    rw [settleEntry, if_neg shape]
    exact strikes_after_call (strikes_call _ _)
  refine ⟨_, _, settle.strikes (removed.bind _), policed.next, fun hp => ?_⟩
  have gone := hp.entry
  simp [removeAclEntry] at gone

theorem updateEntryObjs_repolices (shape : held.priority = want.priority ∧ held.fields = want.fields)
    (paired : held.policer.isSome = held.police.isSome) (hp : held.Present table hw)
    (lost : ¬ SparesPolicer held want) :
    ∃ calls after, Strikes (updateEntryObjs switch table held want) w hw calls w after ∧
      hw.next ≤ after.next ∧ ¬ held.Present table after := by
  rw [SparesPolicer, not_or] at lost
  obtain ⟨police, hasPolice⟩ := Option.ne_none_iff_exists'.mp lost.2
  rw [hasPolice] at paired
  obtain ⟨policer, hasPolicer⟩ := Option.isSome_iff_exists.mp paired
  unfold updateEntryObjs
  cases wanted : want.police with
  | some spec =>
    have differs : held.police ≠ some spec := fun hs => lost.1 (by rw [hs, wanted])
    have settle : settlePolicer switch held want = sai switch (setPolicer policer spec) >>=
        fun _ => pure (some policer) := by
      simp [settlePolicer, hasPolicer, wanted, differs]
    rw [settle, bind_assoc]
    refine ⟨1, _, strikes_after_call ((settleEntry_strikes held want _).bind _), le_rfl, fun stays => ?_⟩
    have before := hp.policer
    have after := stays.policer
    rw [hasPolicer, hasPolice, Option.map_some, Option.map_some, Option.some.injEq] at before after
    simp [setPolicer, before] at after
    exact differs (by rw [hasPolice, after])
  | none =>
    have settle : settlePolicer switch held want = pure none := by
      simp [settlePolicer, wanted]
    rw [settle]
    have retire (edited : Hardware) : Strikes (retirePolicer switch held want) w edited 0 w edited := by
      rw [retirePolicer, wanted, hasPolicer]
      exact strikes_call _ _
    have edit := (@settleEntry_runs switch w hw held want table
      ⟨want.action, held.counter, none⟩ shape).1
    refine ⟨1 + 0, _, edit.strikes ((retire _).bind _), le_rfl, fun stays => ?_⟩
    have entry := stays.entry
    simp [setAclEntryAction, AclEntryObjs.installed, hasPolicer] at entry

theorem not_present_of_retouched {objs : AclEntryObjs} {after : Hardware}
    (shape : held.priority = want.priority ∧ held.fields = want.fields)
    (paired : held.policer.isSome = held.police.isSome) (spares : SparesPolicer held want)
    (differs : held.unchanged want = false) (hu : objs.unchanged want = true)
    (wanted : objs.policer.isSome = want.police.isSome)
    (retouched : Retouched held objs hw after) (hp : held.Present table hw) :
    ¬ held.Present table after := by
  intro stays
  have entry := stays.entry
  rw [← retouched.entry, (retouched.present table hp).entry, Option.some.injEq] at entry
  have action := congrArg (fun entry => entry.action.action) entry
  have policer := congrArg (fun entry => entry.action.policer) entry
  simp only [AclEntryObjs.installed] at action policer
  obtain ⟨-, -, sameAction, -⟩ := unchanged_iff.mp hu
  refine Bool.eq_false_iff.mp differs (unchanged_iff.mpr ⟨shape.1, shape.2, ?_, ?_⟩)
  · rw [← action, sameAction]
  · rcases spares with hs | ha
    · exact hs
    · rw [policer, paired, ha] at wanted
      rw [ha, Option.isSome_eq_false_iff.mp wanted.symm |> Option.isNone_iff_eq_none.mp]

end

def keeps (entries : EntryMap) (want : DesiredEntry) : Bool :=
  entries[want.key]?.any fun held => held.unchanged want

theorem keeps_iff {entries : EntryMap} {want : DesiredEntry} :
    keeps entries want = true ↔ ∃ held, entries[want.key]? = some held ∧ held.unchanged want = true := by
  rw [keeps, Option.any_eq_true]

section

variable {switch : Switch} {w : AclWorld} {hw : Hardware} {table : Oid} {port : String}
  {portId : PortId} {stage : AclStage} {record : PortAclTable} {old new : Desired}

theorem mem_of_keeps (matched : record.Matches old) (hwo : old.WellFormed)
    (hwn : new.WellFormed) {want : DesiredEntry} (hm : want ∈ new.entries)
    (kept : keeps record.entries want = true) : want ∈ old.entries := by
  obtain ⟨held, hf, hu⟩ := keeps_iff.mp kept
  obtain ⟨was, inOld, hs, realizes⟩ := matched.wanted _ _ hf
  have counter : was.wantsCounter = want.wantsCounter := by
    rw [hwo.counters was inOld, hwn.counters want hm, hs]
  rwa [← eq_of_unchanged realizes hu hs counter]

theorem reconcile_first {wants : List DesiredEntry} {existing entries : EntryMap}
    (nodup : (wants.map DesiredEntry.key).Nodup) (changed : ∃ want ∈ wants, keeps existing want = false) :
    ∃ before want after, wants = before ++ want :: after ∧ keeps existing want = false ∧
      (∀ want' ∈ before, keeps existing want' = true) ∧
      ∃ entries' : EntryMap, reconcile switch table wants existing entries =
        reconcileEntry switch table existing[want.key]? want >>= fun objs =>
          reconcile switch table after existing (entries'.insert want.key objs) := by
  simp only [← Bool.not_eq_true] at changed ⊢
  obtain ⟨before, want, after, rfl, differs, keptBefore⟩ := exists_first changed
  obtain ⟨entries', hs, -⟩ := reconcile_kept nodup (fun want' hm => keeps_iff.mp (keptBefore want' hm)) entries
  refine ⟨before, want, after, rfl, differs, keptBefore, entries', hs.trans ?_⟩
  rw [List.map_append] at nodup
  exact reconcile_cons (List.nodup_append.mp nodup).2.1 entries'

theorem paired_of_matches (hm : record.Matches old) {key : AclEntryKey} {objs : AclEntryObjs}
    (hf : record.entries[key]? = some objs) : objs.policer.isSome = objs.police.isSome := by
  obtain ⟨was, -, -, realizes⟩ := hm.wanted _ _ hf
  rw [realizes.policer, (unchanged_iff.mp realizes.unchanged).2.2.2]

variable (matched : record.Matches old)
include matched

theorem stale_damages (hwo : old.WellFormed)
    (inFront : ∀ want, want.key.counted = false → (want ∈ old.entries ↔ want ∈ new.entries))
    (stale : ¬ AllWanted record.entries new) :
    ∃ after, Strikes (fillTable switch port portId stage new record.table record.entries false) w
        hw 1 w after ∧ hw.next ≤ after.next ∧ Harm portId stage (some record) hw after := by
  cases objects : staleObjs record.entries new with
  | nil =>
    refine absurd ?_ stale
    intro key objs hf
    rw [staleObjs, List.map_eq_nil_iff, List.filter_eq_nil_iff] at objects
    simpa using objects (key, objs) (mem_toList_iff_getElem?_eq_some.mpr hf)
  | cons objs rest =>
    have hl : objs ∈ staleObjs record.entries new := by simp [objects]
    obtain ⟨⟨key, objs'⟩, hm, rfl⟩ := List.mem_map.mp hl
    obtain ⟨inTable, unwanted⟩ := List.mem_filter.mp hm
    have hf := mem_toList_iff_getElem?_eq_some.mp inTable
    obtain ⟨was, inOld, isKey, realizes⟩ := matched.wanted key objs' hf
    have counted : objs'.counter.isSome = true := by
      rw [realizes.counter, hwo.counters was inOld]
      by_contra internal
      have inNew := (inFront was (Bool.eq_false_iff.mpr internal)).mp inOld
      have wanted : new.wants key = true :=
        List.any_eq_true.mpr ⟨was, inNew, by simpa using isKey⟩
      rw [wanted] at unwanted
      cases unwanted
    refine ⟨(hw.removeAclEntry objs'.entry).2, ?_, le_rfl, .entry record key objs' rfl hf fun hp => ?_⟩
    · rw [fillTable, objects]
      exact ((destroyEntryObjs_strikes counted).bind _).bind _
    · have gone := hp.entry
      simp [removeAclEntry] at gone

/-- When all entries but one are kept, and that one keeps its shape and its policer, the
change is gentle. -/
theorem gentle_of_keeps (hwo : old.WellFormed) (hwn : new.WellFormed) (family : old.family = new.family)
    (wanted : AllWanted record.entries new)
    (kept : ∀ want ∈ new.entries, keeps record.entries want = false →
      ∃ held, record.entries[want.key]? = some held ∧
        (held.priority = want.priority ∧ held.fields = want.fields) ∧ SparesPolicer held want)
    (single : ∀ want ∈ new.entries, ∀ want' ∈ new.entries, keeps record.entries want = false →
      keeps record.entries want' = false → want = want') : old.Close new ∧ old.SparesPolicers new := by
  have changed : ∀ want ∈ new.entries, want ∉ old.entries → keeps record.entries want = false := by
    intro want hm other
    exact Bool.eq_false_iff.mpr fun isKept =>
      other (mem_of_keeps matched hwo hwn hm isKept)
  refine ⟨⟨family, ?_, ?_, ?_⟩, ?_⟩
  · intro was inOld
    obtain ⟨objs, hf⟩ := matched.recorded was inOld
    obtain ⟨want, inNew, isKey⟩ := List.any_eq_true.mp (wanted _ _ hf)
    exact ⟨want, inNew, by simpa using isKey⟩
  · intro want hm
    by_cases inOld : want ∈ old.entries
    · exact ⟨want, inOld, rfl, rfl, rfl⟩
    · obtain ⟨held, hf, shape, -⟩ := kept want hm (changed want hm inOld)
      obtain ⟨was, wasOld, hs, realizes⟩ := matched.wanted _ _ hf
      obtain ⟨priority, fields, -, -⟩ := unchanged_iff.mp realizes.unchanged
      exact ⟨was, wasOld, hs, priority.symm.trans shape.1, fields.symm.trans shape.2⟩
  · intro want hm want' hm' other other'
    exact single want hm want' hm' (changed want hm other) (changed want' hm' other')
  · intro want hm other was inOld hs
    obtain ⟨held, hf, -, spares⟩ := kept want hm (changed want hm other)
    obtain ⟨objs, hr, realizes⟩ := matched.realizes hwo inOld
    rw [hs, hf, Option.some.injEq] at hr
    rw [← (unchanged_iff.mp realizes.unchanged).2.2.2, ← hr]
    exact spares

theorem fillTable_damages (faithful : record.Faithful stage hw)
    (hwo : old.WellFormed) (hwn : new.WellFormed)
    (inFront : ∀ want, want.key.counted = false → (want ∈ old.entries ↔ want ∈ new.entries))
    (family : old.family = new.family) (rough : ¬ (old.Close new ∧ old.SparesPolicers new)) :
    ∃ calls after, Strikes (fillTable switch port portId stage new record.table record.entries false) w hw
        calls w after ∧ hw.next ≤ after.next ∧ Harm portId stage (some record) hw after := by
  by_cases wanted : AllWanted record.entries new
  swap
  · obtain ⟨after, damaged⟩ := stale_damages matched hwo inFront wanted
    exact ⟨1, after, damaged⟩
  rw [fillTable_eq wanted]
  by_cases changed : ∃ want ∈ new.entries, keeps record.entries want = false
  swap
  · push Not at changed
    refine absurd (gentle_of_keeps matched hwo hwn family wanted ?_ ?_) rough
    · intro want hm differs
      exact absurd differs (changed want hm)
    · intro want hm _ _ differs
      exact absurd differs (changed want hm)
  obtain ⟨before, want, after, parts, differs, keptBefore, entries, hs⟩ :=
    @reconcile_first switch record.table new.entries record.entries ∅ hwn.nodup changed
  have hm : want ∈ new.entries := by simp [parts]
  rw [hs, bind_assoc]
  cases hf : record.entries[want.key]? with
  | none =>
    have counted : want.wantsCounter = true := by
      rw [hwn.counters want hm]
      by_contra internal
      have inOld := (inFront want (Bool.eq_false_iff.mpr internal)).mpr hm
      obtain ⟨objs, hr⟩ := matched.recorded want inOld
      rw [hf] at hr
      cases hr
    exact ⟨1, _, (createEntryObjs_leaves_counter counted).bind _, Nat.le_succ _,
      .counter hw.next le_rfl (by simp [createAclCounter])⟩
  | some held =>
    have paired := paired_of_matches matched hf
    have hp := faithful.present _ _ hf
    have differs' : held.unchanged want = false := by simpa [keeps, hf] using differs
    rw [reconcileEntry, if_neg (by simp [differs'])]
    by_cases shape : held.priority = want.priority ∧ held.fields = want.fields
    swap
    · obtain ⟨calls, after, struck, next, gone⟩ :=
        @updateEntryObjs_removes switch w hw record.table held want shape paired
      exact ⟨calls, after, struck.bind _, next, .entry record _ held rfl hf gone⟩
    by_cases spares : SparesPolicer held want
    swap
    · obtain ⟨calls, after, struck, next, gone⟩ :=
        @updateEntryObjs_repolices switch w hw record.table held want shape paired hp spares
      exact ⟨calls, after, struck.bind _, next, .entry record _ held rfl hf gone⟩
    obtain ⟨calls, objs, edited, run, hu, policer, retouched, -⟩ :=
      @updateEntryObjs_runs switch w hw held want record.table shape paired
    have gone := not_present_of_retouched shape paired spares differs' hu policer retouched hp
    have nodup := hwn.nodup
    rw [parts, List.map_append] at nodup
    have nodupAfter := (List.nodup_cons.mp (List.nodup_append.mp nodup).2.1).2
    by_cases changedAfter : ∃ want' ∈ after, keeps record.entries want' = false
    · obtain ⟨_, second, _, parts', differs₂, _, _, hs'⟩ := @reconcile_first switch record.table after
        record.entries (entries.insert want.key objs) nodupAfter changedAfter
      have struck : Strikes (reconcile switch record.table after record.entries
          (entries.insert want.key objs)) w edited 0 w edited := by
        rw [hs']
        refine Strikes.bind (reconcileEntry_strikes ?_ fun _ => paired_of_matches matched) _
        intro other isOther
        simpa [keeps, isOther] using differs₂
      exact ⟨calls + 0, edited, run.strikes (struck.bind _), retouched.next,
        .entry record _ held rfl hf gone⟩
    · push Not at changedAfter
      -- Nothing else changes, so the change is gentle after all.
      have only : ∀ want' ∈ new.entries, keeps record.entries want' = false → want' = want := by
        intro want' hm' differs₂
        rw [parts, List.mem_append, List.mem_cons] at hm'
        rcases hm' with inBefore | rfl | inAfter
        · exact absurd (keptBefore want' inBefore) (by simp [differs₂])
        · rfl
        · exact absurd differs₂ (changedAfter want' inAfter)
      refine absurd (gentle_of_keeps matched hwo hwn family wanted ?_ ?_) rough
      · intro want' hm' differs₂
        rw [only want' hm' differs₂]
        exact ⟨held, hf, shape, spares⟩
      · intro want₁ hm₁ want₂ hm₂ differs₁ differs₂
        rw [only want₁ hm₁ differs₁, only want₂ hm₂ differs₂]

theorem fillTable_first (close : old.Close new) (hwo : old.WellFormed) (hwn : new.WellFormed)
    (changes : ∃ want ∈ new.entries, want ∉ old.entries) :
    Strikes (fillTable switch port portId stage new record.table record.entries false) w hw 0 w hw := by
  obtain ⟨want, hm, changed, _, _, _, held, hf, _, _, differs, paired⟩ :=
    changed_entry matched close hwo hwn changes
  rw [fillTable_eq fun _ _ => wants_of_close matched close,
    reconcile_single matched close hwo hwn hm changed hf differs, bind_assoc]
  exact (updateEntryObjs_strikes want paired).bind _

omit matched

end

end Hemlock.Acl
