import Hemlock.Acl.Service
import Mathlib.Data.List.Nodup
import Mathlib.Data.List.Range

/-!
# Reconciling a table

When the wanted entries have the keys, priorities and fields of those that a table has
and differ in at most one of them, the reconciliation makes at most two calls.  They touch
the one entry and its policer and nothing else.
-/

namespace Hemlock.Acl

open Faults OrderedMap DesiredEntry

/-- All entries but the internal ones have a counter. -/
def AclEntryKey.counted : AclEntryKey → Bool
  | .internal _ => false
  | .user _ => true
  | .implicitDeny => true

structure Desired.WellFormed (desired : Desired) : Prop where
  nodup : (desired.entries.map DesiredEntry.key).Nodup
  counters : ∀ want ∈ desired.entries, want.wantsCounter = want.key.counted

variable {desired : Desired}

theorem Desired.WellFormed.eq_of_key (wellFormed : desired.WellFormed) {first second : DesiredEntry}
    (inFirst : first ∈ desired.entries) (inSecond : second ∈ desired.entries)
    (hs : first.key = second.key) : first = second :=
  List.inj_on_of_nodup_map wellFormed.nodup inFirst inSecond hs

theorem internalBand_keys (entries : List InternalAclEntry) : (internalBand entries).map key =
      (List.range entries.length).map fun seq => .internal (UInt32.ofNat seq) := by
  rw [internalBand, List.map_map, List.range_eq_range', ← List.zipIdx_map_snd, List.map_map]
  rfl

theorem userBand_keys (program : AclProgram) :
    (userBand program).map key = program.rules.keys.map .user := by
  have numbers : program.rules.keys = (program.rules.toList.zipIdx.map Prod.fst).map Prod.fst := by
    rw [List.zipIdx_map_fst, Std.ExtTreeMap.map_fst_toList_eq_keys]
  rw [userBand, numbers, List.map_map, List.map_map, List.map_map]
  rfl

variable {entries : List InternalAclEntry}

theorem internalBand_nodup (few : entries.length ≤ 4294967296) :
    ((internalBand entries).map key).Nodup := by
  rw [internalBand_keys]
  refine List.Nodup.map_on ?_ List.nodup_range
  intro seq bound seq' bound' hs
  rw [List.mem_range] at bound bound'
  have numbers := congrArg UInt32.toNat (AclEntryKey.internal.inj hs)
  rwa [UInt32.toNat_ofNat_of_lt' (lt_of_lt_of_le bound few),
    UInt32.toNat_ofNat_of_lt' (lt_of_lt_of_le bound' few)] at numbers

theorem userBand_nodup (program : AclProgram) : ((userBand program).map key).Nodup := by
  rw [userBand_keys]
  exact List.Nodup.map (fun _ _ => AclEntryKey.user.inj) Std.ExtTreeMap.nodup_keys

theorem internalBand_wellFormed (few : entries.length ≤ 4294967296) (family : AclFamily)
    (userAcl : Option String) : Desired.WellFormed ⟨family, userAcl, internalBand entries⟩ where
  nodup := internalBand_nodup few
  counters := by
    intro want hm
    obtain ⟨source, -, rfl⟩ := List.mem_map.mp hm
    rfl

theorem bands_wellFormed (few : entries.length ≤ 4294967296) (program : AclProgram)
    (family : AclFamily) (userAcl : Option String) : Desired.WellFormed
      ⟨family, userAcl, internalBand entries ++ userBand program ++ [.implicitDeny]⟩ where
  nodup := by
    rw [List.map_append, List.map_append]
    refine List.Nodup.append (List.Nodup.append (internalBand_nodup few) (userBand_nodup program) ?_)
      (List.nodup_singleton _) ?_
    · rw [internalBand_keys, userBand_keys]
      intro key isInternal isUser
      obtain ⟨seq, -, rfl⟩ := List.mem_map.mp isInternal
      simp at isUser
    · rw [internalBand_keys, userBand_keys]
      intro key hl isDenial
      rw [List.map_singleton, List.mem_singleton] at isDenial
      subst isDenial
      simp [implicitDeny] at hl
  counters := by
    intro want hm
    rcases List.mem_append.mp hm with hm | denial
    · rcases List.mem_append.mp hm with inFront | rule
      · exact (internalBand_wellFormed few family userAcl).counters want inFront
      · obtain ⟨source, -, rfl⟩ := List.mem_map.mp rule
        rfl
    · rw [List.mem_singleton.mp denial]
      rfl

variable {user : Option (String × AclProgram)} {internal : Option InternalAcl}

theorem desiredEntries_wellFormed (few : (internalEntries internal).length ≤ 4294967296)
    (produced : desiredEntries user internal = .ok (some desired)) : desired.WellFormed := by
  unfold desiredEntries at produced
  cases user with
  | none =>
    dsimp only at produced
    split_ifs at produced
    · cases produced
    · obtain rfl := Option.some.inj (Except.ok.inj produced)
      exact internalBand_wellFormed few _ _
  | some named =>
    dsimp only at produced
    split_ifs at produced
    obtain rfl := Option.some.inj (Except.ok.inj produced)
    exact bands_wellFormed few _ _ _

variable {want : DesiredEntry}

theorem desiredEntries_uncounted (produced : desiredEntries user internal = .ok (some desired))
    (uncounted : want.key.counted = false) :
    want ∈ desired.entries ↔ want ∈ internalBand (internalEntries internal) := by
  unfold desiredEntries at produced
  cases user with
  | none =>
    dsimp only at produced
    split_ifs at produced
    · cases produced
    · obtain rfl := Option.some.inj (Except.ok.inj produced)
      rfl
  | some named =>
    dsimp only at produced
    split_ifs at produced
    obtain rfl := Option.some.inj (Except.ok.inj produced)
    have notRule : want ∉ userBand named.2 := by
      intro hm
      obtain ⟨source, -, rfl⟩ := List.mem_map.mp hm
      cases uncounted
    have notDenial : want ≠ .implicitDeny := by
      rintro rfl
      cases uncounted
    simp [notRule, notDenial]

/-- The wanted entries have the shapes of the old ones, and at most one is another. -/
structure Desired.Close (old new : Desired) : Prop where
  family : old.family = new.family
  kept : ∀ was ∈ old.entries, ∃ want ∈ new.entries, want.key = was.key
  shape : ∀ want ∈ new.entries, ∃ was ∈ old.entries,
    was.key = want.key ∧ was.priority = want.priority ∧ was.fields = want.fields
  single : ∀ want ∈ new.entries, ∀ want' ∈ new.entries,
    want ∉ old.entries → want' ∉ old.entries → want = want'

theorem Desired.Close.symm {old new : Desired} (close : old.Close new)
    (hwo : old.WellFormed) : new.Close old where
  family := close.family.symm
  kept := by
    intro want hm
    obtain ⟨was, inOld, hs, -⟩ := close.shape want hm
    exact ⟨was, inOld, hs⟩
  shape := by
    intro was inOld
    obtain ⟨want, inNew, hs⟩ := close.kept was inOld
    obtain ⟨was', inOld', hs', priority, fields⟩ := close.shape want inNew
    obtain rfl := hwo.eq_of_key inOld' inOld (hs'.trans hs)
    exact ⟨want, inNew, hs, priority.symm, fields.symm⟩
  single := by
    intro was inOld was' inOld' gone gone'
    have replaced : ∀ was ∈ old.entries, was ∉ new.entries →
        ∃ want ∈ new.entries, want.key = was.key ∧ want ∉ old.entries := by
      intro was inOld gone
      obtain ⟨want, inNew, hs⟩ := close.kept was inOld
      refine ⟨want, inNew, hs, fun stays => gone ?_⟩
      rwa [← hwo.eq_of_key stays inOld hs]
    obtain ⟨want, inNew, hs, other⟩ := replaced was inOld gone
    obtain ⟨want', inNew', hs', other'⟩ := replaced was' inOld' gone'
    apply hwo.eq_of_key inOld inOld'
    rw [← hs, ← hs', close.single want inNew want' inNew' other other']

structure AclEntryObjs.Realizes (objs : AclEntryObjs) (want : DesiredEntry) : Prop where
  unchanged : objs.unchanged want = true
  counter : objs.counter.isSome = want.wantsCounter
  policer : objs.policer.isSome = want.police.isSome

structure PortAclTable.Matches (record : PortAclTable) (desired : Desired) : Prop where
  family : record.family = desired.family
  userAcl : record.userAcl = desired.userAcl
  wanted : ∀ key objs, record.entries[key]? = some objs →
    ∃ want ∈ desired.entries, want.key = key ∧ objs.Realizes want
  recorded : ∀ want ∈ desired.entries, ∃ objs, record.entries[want.key]? = some objs

theorem PortAclTable.Matches.realizes {record : PortAclTable} (matched : record.Matches desired)
    (wellFormed : desired.WellFormed) (hm : want ∈ desired.entries) :
    ∃ objs, record.entries[want.key]? = some objs ∧ objs.Realizes want := by
  obtain ⟨objs, hf⟩ := matched.recorded want hm
  obtain ⟨want', hm', hs, realizes⟩ := matched.wanted _ _ hf
  rw [wellFormed.eq_of_key hm' hm hs] at realizes
  exact ⟨objs, hf, realizes⟩

variable {objs : AclEntryObjs}

theorem unchanged_iff :
    objs.unchanged want = true ↔ objs.priority = want.priority ∧ objs.fields = want.fields ∧
      objs.action = want.action ∧ objs.police = want.police := by
  simp [AclEntryObjs.unchanged, and_assoc]

variable {held : AclEntryObjs}

theorem eq_of_unchanged {was : DesiredEntry} (realizes : held.Realizes was)
    (hu : held.unchanged want = true) (key : was.key = want.key)
    (counter : was.wantsCounter = want.wantsCounter) : was = want := by
  obtain ⟨priority, fields, action, police⟩ := unchanged_iff.mp realizes.unchanged
  obtain ⟨priority', fields', action', police'⟩ := unchanged_iff.mp hu
  cases was
  simp_all

section

variable {switch : Switch} {table : Oid} {wants rest before after : List DesiredEntry}
  {existing existing' : EntryMap}

/-- Only the entries with wanted keys count. -/
theorem reconcile_congr (hs : ∀ want ∈ wants, existing'[want.key]? = existing[want.key]?) (entries : EntryMap) :
    reconcile switch table wants existing' entries = reconcile switch table wants existing entries := by
  induction wants generalizing existing existing' entries with
  | nil => rfl
  | cons want wants ih =>
    rw [reconcile, hs want List.mem_cons_self]
    congr 1
    funext objs
    refine ih (fun want' hm => ?_) _
    rw [lookup_erase, lookup_erase, hs want' (List.mem_cons_of_mem _ hm)]

theorem reconcile_cons (nodup : ((want :: rest).map key).Nodup) (entries : EntryMap) :
    reconcile switch table (want :: rest) existing entries =
      reconcileEntry switch table existing[want.key]? want >>= fun objs =>
        reconcile switch table rest existing (entries.insert want.key objs) := by
  rw [reconcile]
  congr 1
  funext objs
  refine reconcile_congr (fun want' hm => ?_) _
  rw [lookup_erase, if_neg]
  exact fun hs => (List.nodup_cons.mp nodup).1 (List.mem_map.mpr ⟨want', hm, hs.symm⟩)

theorem exists_first {α : Type} {P : α → Prop} {items : List α} (fails : ∃ item ∈ items, ¬ P item) :
    ∃ before item after, items = before ++ item :: after ∧ ¬ P item ∧ ∀ earlier ∈ before, P earlier := by
  classical
  have any : (items.find? fun item => ¬ P item).isSome := by simpa using fails
  obtain ⟨item, search⟩ := Option.isSome_iff_exists.mp any
  obtain ⟨fails, before, after, parts, passed⟩ := List.find?_eq_some_iff_append.mp search
  exact ⟨before, item, after, parts, of_decide_eq_true fails, by simpa using passed⟩

theorem reconcile_kept (nodup : ((wants ++ rest).map DesiredEntry.key).Nodup)
    (kept : ∀ want ∈ wants, ∃ held, existing[want.key]? = some held ∧ held.unchanged want = true)
    (entries : EntryMap) : ∃ entries', reconcile switch table (wants ++ rest) existing entries =
        reconcile switch table rest existing entries' ∧ ∀ key, entries'[key]? =
        if key ∈ wants.map DesiredEntry.key then existing[key]? else entries[key]? := by
  induction wants generalizing entries with
  | nil => exact ⟨entries, rfl, fun _ => by simp⟩
  | cons want wants ih =>
    rw [List.cons_append] at nodup ⊢
    obtain ⟨held, hf, hu⟩ := kept want List.mem_cons_self
    obtain ⟨entries', hs, taken⟩ := ih (List.nodup_cons.mp nodup).2
      (fun want' hm => kept want' (List.mem_cons_of_mem _ hm)) (entries.insert want.key held)
    refine ⟨entries', ?_, fun key => ?_⟩
    · rw [reconcile_cons nodup, hf, reconcileEntry, if_pos hu, pure_bind, hs]
    · rw [taken, lookup_insert]
      by_cases isKey : want.key = key
      · simp [← isKey, hf]
      · simp [isKey, Ne.symm isKey]

variable {old new : Desired} {record : PortAclTable}

theorem wants_of_close (matched : record.Matches old) (close : old.Close new) {key : AclEntryKey}
    (hf : record.entries[key]? = some objs) : new.wants key = true := by
  obtain ⟨was, hm, rfl, -⟩ := matched.wanted key objs hf
  obtain ⟨want, inNew, hs⟩ := close.kept was hm
  exact List.any_eq_true.mpr ⟨want, inNew, by simpa using hs⟩

def AllWanted (existing : EntryMap) (new : Desired) : Prop :=
  ∀ key objs, existing[key]? = some objs → new.wants key = true

theorem staleObjs_eq_nil (wanted : AllWanted existing new) : staleObjs existing new = [] := by
  rw [staleObjs, List.map_eq_nil_iff, List.filter_eq_nil_iff]
  intro entry hm
  have hf := mem_toList_iff_getElem?_eq_some.mp hm
  simp [wanted entry.1 entry.2 hf]

theorem filter_of_allWanted (wanted : AllWanted existing new) :
    existing.filter (fun key _ => new.wants key) = existing := by
  apply ext_getElem?
  intro key
  rw [getElem?_filter']
  cases hf : existing[key]? with
  | none => rfl
  | some objs => simp [wanted key objs hf]

variable (matched : record.Matches old)
include matched

theorem unchanged_of_mem (wellFormed : old.WellFormed) {want : DesiredEntry} (hm : want ∈ old.entries) :
    ∃ held, record.entries[want.key]? = some held ∧ held.unchanged want = true := by
  obtain ⟨held, hf, realizes⟩ := matched.realizes wellFormed hm
  exact ⟨held, hf, realizes.unchanged⟩

theorem recorded_iff (close : old.Close new) (key : AclEntryKey) :
    key ∈ new.entries.map DesiredEntry.key ↔ record.entries[key]? ≠ none := by
  constructor
  · intro hm
    obtain ⟨want, inNew, rfl⟩ := List.mem_map.mp hm
    obtain ⟨was, inOld, hs, -⟩ := close.shape want inNew
    obtain ⟨objs, hf⟩ := matched.recorded was inOld
    rw [← hs, hf]
    exact Option.some_ne_none objs
  · intro hr
    obtain ⟨objs, hf⟩ := Option.ne_none_iff_exists'.mp hr
    obtain ⟨was, inOld, rfl, -⟩ := matched.wanted key objs hf
    obtain ⟨want, inNew, hs⟩ := close.kept was inOld
    exact List.mem_map.mpr ⟨want, inNew, hs⟩

theorem reconcile_quiet (close : old.Close new) (hwo : old.WellFormed) (hwn : new.WellFormed)
    (quiet : ∀ want ∈ new.entries, want ∈ old.entries) :
    reconcile switch table new.entries record.entries ∅ = pure record.entries := by
  rw [← List.append_nil new.entries]
  obtain ⟨entries, hs, taken⟩ := @reconcile_kept switch table new.entries [] record.entries
    (by simpa using hwn.nodup) (fun want hm => unchanged_of_mem matched hwo (quiet want hm)) ∅
  rw [hs, reconcile]
  congr 1
  apply ext_getElem?
  intro key
  rw [taken]
  split_ifs with hl
  · rfl
  · exact (not_not.mp ((recorded_iff matched close key).not.mp hl)).symm

theorem reconcile_single (close : old.Close new)
    (hwo : old.WellFormed) (hwn : new.WellFormed) {want : DesiredEntry}
    (hm : want ∈ new.entries) (changed : want ∉ old.entries)
    (hf : record.entries[want.key]? = some held) (differs : held.unchanged want = false) :
    reconcile switch table new.entries record.entries ∅ =
      updateEntryObjs switch table held want >>= fun objs =>
        pure (record.entries.insert want.key objs) := by
  obtain ⟨before, after, parts⟩ := List.append_of_mem hm
  have kept : ∀ want' ∈ new.entries, want' ≠ want →
      ∃ held, record.entries[want'.key]? = some held ∧ held.unchanged want' = true := by
    intro want' inNew other
    apply unchanged_of_mem matched hwo
    by_contra changed'
    exact other (close.single want' inNew want hm changed' changed)
  have nodup := hwn.nodup
  rw [parts] at nodup
  obtain ⟨nodupBefore, nodupRest, disjoint⟩ := List.nodup_append.mp (List.map_append ▸ nodup)
  have notAfter := (List.nodup_cons.mp nodupRest).1
  obtain ⟨entries, hs, taken⟩ := reconcile_kept nodup (fun want' inBefore => kept want' (by simp [parts, inBefore])
    fun isWant => disjoint _ (List.mem_map_of_mem inBefore) _ List.mem_cons_self (by rw [isWant])) ∅
  rw [parts, hs, reconcile_cons nodupRest, hf, reconcileEntry, if_neg (by simp [differs])]
  congr 1
  funext objs
  obtain ⟨entries', hs', taken'⟩ := @reconcile_kept switch table after [] record.entries
    (by simpa using (List.nodup_cons.mp nodupRest).2) (fun want' inAfter => kept want' (by simp [parts, inAfter])
      fun isWant => notAfter (isWant ▸ List.mem_map_of_mem inAfter)) (entries.insert want.key objs)
  rw [List.append_nil] at hs'
  rw [hs', reconcile]
  congr 1
  apply ext_getElem?
  intro key
  have hr := recorded_iff matched close key
  rw [parts] at hr
  rw [taken', lookup_insert, lookup_insert, taken]
  by_cases isKey : want.key = key
  · simp [← isKey, notAfter]
  · simp only [isKey, if_false]
    split_ifs with inAfter inBefore
    · rfl
    · rfl
    · exact (not_not.mp (hr.not.mp (by simp [inBefore, inAfter, Ne.symm isKey]))).symm

omit matched

end

end Hemlock.Acl
