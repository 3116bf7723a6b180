import Hemlock.Acl.Steps
import Mathlib.Data.Set.Card
import Mathlib.Logic.Equiv.Defs

/-!
# What a port filters by

The rules that the hardware applies to the packets of a port are those of the table bound
to it.  Two states filter alike when they have the same rules, whatever the numbers of the
entries are.
-/

namespace Hemlock.Acl

open OrderedMap

structure Rule where
  priority : UInt32
  fields : AclFields
  action : AclPacketAction
  police : Option PolicerSpec
  deriving DecidableEq

def AclEntryObjs.rule (objs : AclEntryObjs) : Rule :=
  ⟨objs.priority, objs.fields, objs.action, objs.police⟩

def DesiredEntry.rule (want : DesiredEntry) : Rule :=
  ⟨want.priority, want.fields, want.action, want.police⟩

/-- The rule of an entry, if the port has the table of that entry. -/
def ruleAt (hw : Hardware) (portId : PortId) (stage : AclStage) (oid : Oid) : Option Rule :=
  match hw.entries oid with
  | some entry =>
    if hw.bound (portId, stage) = some entry.table then
      some ⟨entry.priority, entry.fields, entry.action.action,
        entry.action.policer.bind hw.policers⟩
    else none
  | none => none

/-- The port has the same rules, up to the numbers of the entries. -/
def SameFilter (portId : PortId) (stage : AclStage) (before after : Hardware) : Prop :=
  ∃ names : Equiv.Perm Oid, ∀ oid,
    ruleAt after portId stage (names oid) = ruleAt before portId stage oid

variable {objs : AclEntryObjs} {want : DesiredEntry}

theorem AclEntryObjs.Realizes.rule_eq (realizes : objs.Realizes want) : objs.rule = want.rule := by
  obtain ⟨priority, fields, action, police⟩ := unchanged_iff.mp realizes.unchanged
  rw [AclEntryObjs.rule, DesiredEntry.rule, priority, fields, action, police]

theorem AclEntryObjs.Present.police_eq {table : Oid} {hw : Hardware}
    (hp : objs.Present table hw) : objs.policer.bind hw.policers = objs.police := by
  have policer := hp.policer
  cases has : objs.policer with
  | none =>
    rw [has] at policer
    exact (Option.map_eq_none_iff.mp policer.symm).symm
  | some oid =>
    rw [has] at policer
    obtain ⟨spec, isSpec, hf⟩ := Option.map_eq_some_iff.mp policer.symm
    rw [Option.bind_some, ← hf, isSpec]

section

variable {stage : AclStage} {w w' : AclWorld} {hw hw' : Hardware} {port : String}
  {portId : PortId} {wish : Option Desired}

variable {oid : Oid} {rule : Rule}

theorem Held.ruleAt_iff (held : Held stage w hw port portId wish) :
    ruleAt hw portId stage oid = some rule ↔ ∃ record, w.tables[(port, stage)]? = some record ∧
        ∃ key : AclEntryKey, ∃ objs, record.entries[key]? = some objs ∧
          objs.entry = oid ∧ objs.rule = rule := by
  constructor
  · intro isRule
    unfold ruleAt at isRule
    cases entered : hw.entries oid with
    | none => rw [entered] at isRule; cases isRule
    | some entry =>
      rw [entered] at isRule
      dsimp only at isRule
      split_ifs at isRule with isBound
      rw [held.bound] at isBound
      obtain ⟨record, hr, isTable⟩ := Option.map_eq_some_iff.mp isBound
      have faithful := held.faithful record hr
      obtain ⟨key, objs, hf, isOid⟩ := faithful.complete oid entry entered isTable.symm
      have hp := faithful.present key objs hf
      refine ⟨record, hr, key, objs, hf, isOid, ?_⟩
      have installed := hp.entry
      rw [isOid, entered, Option.some.injEq] at installed
      rw [installed, Option.some.injEq] at isRule
      rw [← isRule, AclEntryObjs.rule, ← hp.police_eq]
      rfl
  · rintro ⟨record, hr, key, objs, hf, rfl, rfl⟩
    have hp := (held.faithful record hr).present key objs hf
    rw [ruleAt, hp.entry, held.bound, hr]
    dsimp only
    rw [AclEntryObjs.installed, Option.map_some, if_pos rfl, hp.police_eq]
    rfl

variable {desired : Desired}

theorem Held.ruleAt_wanted (held : Held stage w hw port portId (some desired)) :
    ruleAt hw portId stage oid = some rule ↔
      ∃ record, w.tables[(port, stage)]? = some record ∧ ∃ want ∈ desired.entries,
        want.rule = rule ∧ ∃ objs : AclEntryObjs, record.entries[want.key]? = some objs ∧
          objs.entry = oid ∧ objs.Realizes want := by
  rw [held.ruleAt_iff]
  refine exists_congr fun record => and_congr_right fun hr => ?_
  have matched : record.Matches desired := by
    have realized := held.realized
    rwa [hr] at realized
  constructor
  · rintro ⟨key, objs, hf, isOid, isRule⟩
    obtain ⟨want, hm, rfl, realizes⟩ := matched.wanted key objs hf
    exact ⟨want, hm, by rw [← realizes.rule_eq, isRule], objs, hf, isOid, realizes⟩
  · rintro ⟨want, -, isRule, objs, hf, isOid, realizes⟩
    exact ⟨want.key, objs, hf, isOid, by rw [realizes.rule_eq, isRule]⟩

theorem Held.matches (held : Held stage w hw port portId (some desired)) :
    ∃ record, w.tables[(port, stage)]? = some record ∧ record.Matches desired := by
  have realized := held.realized
  cases hr : w.tables[(port, stage)]? with
  | none => rw [hr] at realized; cases realized
  | some record => exact ⟨record, rfl, by rwa [hr] at realized⟩

theorem Held.ruleAt_descends (held' : Held stage w' hw' port portId (some desired))
    (wellFormed : desired.WellFormed) (descends : Descends w.tables w'.tables)
    {record : PortAclTable} (hr : w.tables[(port, stage)]? = some record) (hm : want ∈ desired.entries)
    (hf : record.entries[want.key]? = some objs) :
    ruleAt hw' portId stage objs.entry = some want.rule := by
  obtain ⟨record', hr', hm'⟩ := held'.matches
  obtain ⟨objs', hf', realizes'⟩ := hm'.realizes wellFormed hm
  obtain ⟨older, isOlder, -, objects⟩ := descends _ record' hr'
  obtain ⟨was, isWas, entry, -⟩ := objects _ objs' hf'
  cases hr.symm.trans isOlder
  cases hf.symm.trans isWas
  exact held'.ruleAt_wanted.mpr ⟨record', hr', want, hm, rfl, objs', hf', entry, realizes'⟩

theorem Held.sameFilter (held : Held stage w hw port portId wish)
    (held' : Held stage w' hw' port portId wish) (sane : Sane wish)
    (descends : Descends w.tables w'.tables) : SameFilter portId stage hw hw' := by
  refine ⟨.refl Oid, fun oid => Option.ext fun rule => ?_⟩
  cases wish with
  | none =>
    have ha {w : AclWorld} {hw : Hardware}
        (held : Held stage w hw port portId none) : ruleAt hw portId stage oid ≠ some rule := by
      rw [ne_eq, held.ruleAt_iff]
      rintro ⟨record, hr, -⟩
      have realized := held.realized
      rw [hr] at realized
      cases realized
    exact iff_of_false (ha held') (ha held)
  | some desired =>
    have wellFormed := sane desired rfl
    constructor
    · intro isRule
      obtain ⟨record', hr', want, hm, rfl, objs', hf', rfl, -⟩ :=
        held'.ruleAt_wanted.mp isRule
      obtain ⟨record, hr, -, objects⟩ := descends _ record' hr'
      obtain ⟨objs, hf, entry, -⟩ := objects _ objs' hf'
      rw [entry]
      exact held.ruleAt_descends wellFormed (.refl _) hr hm hf
    · intro isRule
      obtain ⟨record, hr, want, hm, rfl, objs, hf, rfl, -⟩ :=
        held.ruleAt_wanted.mp isRule
      exact held'.ruleAt_descends wellFormed descends hr hm hf

theorem not_renamed {first second : Oid → Option Rule} (rule : Rule) (added : Oid)
    (finite : {oid | second oid = some rule}.Finite)
    (kept : ∀ oid, first oid = some rule → second oid = some rule)
    (isNew : first added ≠ some rule) (isThere : second added = some rule) :
    ¬ ∃ names : Equiv.Perm Oid, ∀ oid, second (names oid) = first oid := by
  rintro ⟨names, hs⟩
  have image : names '' {oid | first oid = some rule} = {oid | second oid = some rule} := by
    ext oid
    rw [Equiv.image_eq_preimage_symm, Set.mem_preimage, Set.mem_ofPred_eq, Set.mem_ofPred_eq, ← hs,
      Equiv.apply_symm_apply]
  have smaller : {oid | first oid = some rule} ⊂ {oid | second oid = some rule} :=
    ⟨kept, fun all => isNew (all isThere)⟩
  have fewer := Set.ncard_lt_ncard smaller finite
  rw [← image, Set.ncard_image_of_injective _ names.injective] at fewer
  exact lt_irrefl _ fewer

theorem Held.finite (held : Held stage w hw port portId wish) (rule : Rule) :
    {oid | ruleAt hw portId stage oid = some rule}.Finite := by
  cases hr : w.tables[(port, stage)]? with
  | none =>
    refine Set.finite_empty.subset fun oid isRule => ?_
    obtain ⟨record, hr', -⟩ := held.ruleAt_iff.mp isRule
    cases hr.symm.trans hr'
  | some record =>
    refine (List.finite_toSet (record.entries.toList.map fun entry => entry.2.entry)).subset ?_
    intro oid isRule
    obtain ⟨record', hr', key, objs, hf, isOid, -⟩ := held.ruleAt_iff.mp isRule
    cases hr.symm.trans hr'
    exact List.mem_map.mpr ⟨(key, objs), mem_toList_iff_getElem?_eq_some.mpr hf, isOid⟩

theorem eq_of_rule {first second : DesiredEntry} (rule : first.rule = second.rule)
    (key : first.key = second.key) (counter : first.wantsCounter = second.wantsCounter) :
    first = second := by
  cases first
  simp_all [DesiredEntry.rule]

theorem Held.not_sameFilter {old new : Desired} (held : Held stage w hw port portId (some old))
    (held' : Held stage w' hw' port portId (some new)) (hwo : old.WellFormed)
    (hwn : new.WellFormed) (descends : Descends w.tables w'.tables)
    (close : old.Close new) (changes : ∃ want ∈ new.entries, want ∉ old.entries) :
    ¬ SameFilter portId stage hw hw' := by
  obtain ⟨record, hr, matched⟩ := held.matches
  obtain ⟨want, hm, changed, was, inOld, hs, objs, hf, realizes, -⟩ :=
    changed_entry matched close hwo hwn changes
  -- The old entry of that key has another rule.
  have differs : ∀ before ∈ old.entries, before.key = want.key → before.rule ≠ want.rule := by
    intro before inOld key rule
    refine changed ?_
    rwa [← eq_of_rule rule key (by rw [hwo.counters before inOld, hwn.counters want hm, key])]
  refine not_renamed want.rule objs.entry (held'.finite want.rule) ?_ ?_
    (held'.ruleAt_descends hwn descends hr hm hf)
  · intro oid isRule
    obtain ⟨record₁, hr₁, before, inOld₁, rule, objs₁, hf₁, rfl, -⟩ :=
      held.ruleAt_wanted.mp isRule
    obtain ⟨kept, inNew, key⟩ := close.kept before inOld₁
    have stays : kept ∈ old.entries := by
      by_contra gone
      rw [close.single kept inNew want hm gone changed] at key
      exact differs before inOld₁ key.symm rule
    obtain rfl := hwo.eq_of_key stays inOld₁ key
    rw [← rule]
    exact held'.ruleAt_descends hwn descends hr₁ inNew hf₁
  · intro isRule
    obtain ⟨record₁, hr₁, before, inOld₁, rule, objs₁, hf₁, shared, -⟩ :=
      held.ruleAt_wanted.mp isRule
    cases hr.symm.trans hr₁
    exact differs before inOld₁ ((held.orderly record hr).entry _ _ objs₁ objs hf₁ hf shared) rule

theorem Held.not_sameFilter_of_near {old new : Option Desired} (held : Held stage w hw port portId old)
    (held' : Held stage w' hw' port portId new) (saneOld : Sane old) (saneNew : Sane new)
    (descends : Descends w.tables w'.tables) (near : Near old new)
    (changes : ¬ Quiet old new) : ¬ SameFilter portId stage hw hw' := by
  cases old <;> cases new
  case none.none => exact absurd trivial changes
  case some.some =>
    refine held.not_sameFilter held' (saneOld _ rfl) (saneNew _ rfl) descends near ?_
    by_contra hs
    push Not at hs
    exact changes ⟨near, hs⟩
  all_goals exact False.elim near

end

end Hemlock.Acl
