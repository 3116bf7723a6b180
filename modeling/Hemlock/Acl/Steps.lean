import Hemlock.Acl.Damage

/-!
# Ports in turn

A request goes through its ports one after the other.  As long as no change is rough, each
step edits the table of its own port; the tables of the other ports, and everything that
no table knows, stay as they are.
-/

namespace Hemlock.Acl

open Faults OrderedMap

structure SameIntent (w w' : AclWorld) : Prop where
  acls : w'.acls = w.acls
  bindings : w'.bindings = w.bindings
  internal : w'.internal = w.internal

theorem SameIntent.refl (w : AclWorld) : SameIntent w w := ⟨rfl, rfl, rfl⟩

theorem SameIntent.trans {w w' world'' : AclWorld} (first : SameIntent w w')
    (second : SameIntent w' world'') : SameIntent w world'' :=
  ⟨second.acls.trans first.acls, second.bindings.trans first.bindings,
    second.internal.trans first.internal⟩

theorem prepare_congr {switch : Switch} {w w' : AclWorld} (hs : SameIntent w w')
    (port : String) (stage : AclStage) : prepare switch w' port stage = prepare switch w port stage := by
  unfold prepare
  rw [hs.acls, hs.bindings, hs.internal]

def Realized : Option PortAclTable → Option Desired → Prop
  | none, none => True
  | some record, some desired => record.Matches desired
  | _, _ => False

/-- At most one entry changes, and none in its shape. -/
def Near : Option Desired → Option Desired → Prop
  | none, none => True
  | some old, some new => old.Close new
  | _, _ => False

def Quiet : Option Desired → Option Desired → Prop
  | none, none => True
  | some old, some new => old.Close new ∧ ∀ want ∈ new.entries, want ∈ old.entries
  | _, _ => False

def Sane (desired : Option Desired) : Prop := ∀ wanted ∈ desired, wanted.WellFormed

theorem Desired.Close.refl (desired : Desired) : desired.Close desired where
  family := rfl
  kept was hm := ⟨was, hm, rfl⟩
  shape want hm := ⟨want, hm, rfl, rfl, rfl⟩
  single _ hm _ _ other := absurd hm other

theorem Near.symm {old new : Option Desired} (near : Near old new) (sane : Sane old) : Near new old := by
  cases old <;> cases new
  · trivial
  · cases near
  · cases near
  · exact Desired.Close.symm near (sane _ rfl)

theorem Quiet.refl (desired : Option Desired) : Quiet desired desired := by
  cases desired with
  | none => trivial
  | some desired => exact ⟨.refl desired, fun _ => id⟩

theorem Quiet.symm {old new : Option Desired} (quiet : Quiet old new) (sane : Sane old) :
    Quiet new old := by
  cases old <;> cases new
  · trivial
  · cases quiet
  · cases quiet
  · refine ⟨quiet.1.symm (sane _ rfl), fun was inOld => ?_⟩
    obtain ⟨want, inNew, hs⟩ := quiet.1.kept was inOld
    rwa [← (sane _ rfl).eq_of_key (quiet.2 want inNew) inOld hs]

theorem Quiet.near {old new : Option Desired} (quiet : Quiet old new) : Near old new := by
  cases old <;> cases new
  · trivial
  · cases quiet
  · cases quiet
  · exact quiet.1

theorem Gentle.near {old new : Option Desired} (gentle : Gentle old new) : Near old new := by
  cases old <;> cases new
  · trivial
  · cases gentle
  · cases gentle
  · exact gentle.1

/-- The table of one port becomes the wanted one. -/
inductive Step (stage : AclStage) (goal : Option Desired) (port : String) :
    AclWorld → Hardware → AclWorld → Hardware → Prop where
  | skip {w hw} (absent : w.tables[(port, stage)]? = none) (nothing : goal = none) :
      Step stage goal port w hw w hw
  | edit {w hw hw' record record' desired}
      (recorded : w.tables[(port, stage)]? = some record) (wanted : goal = some desired)
      (matched : record'.Matches desired) (edited : Edited stage record record' hw hw') :
      Step stage goal port w hw (recordTable port stage record' w) hw'

section

variable {switch : Switch} {w w' : AclWorld} {hw hw' : Hardware} {port : String}
  {portId : PortId} {stage : AclStage} {old new : Option Desired}

theorem near_cases {current : Option PortAclTable} (realized : Realized current old)
    (near : Near old new) : (current = none ∧ old = none ∧ new = none) ∨
      ∃ record was wanted, current = some record ∧ old = some was ∧ new = some wanted ∧
        record.Matches was ∧ was.Close wanted := by
  cases current <;> cases old <;> cases new
  case none.none.none => exact .inl ⟨rfl, rfl, rfl⟩
  case some.some.some => exact .inr ⟨_, _, _, rfl, rfl, rfl, realized, near⟩
  all_goals first | exact False.elim realized | exact False.elim near

theorem recordTable_self {record : PortAclTable} (hr : w.tables[(port, stage)]? = some record) :
    recordTable port stage record w = w := by
  have hs : w.tables.insert (port, stage) record = w.tables := by
    apply ext_getElem?
    intro key
    rw [lookup_insert]
    split_ifs with isKey
    · rw [← isKey, hr]
    · rfl
  rw [recordTable, hs]

theorem materialize_settled (realized : Realized w.tables[(port, stage)]? old) (sane : Sane old) :
    Runs (materialize switch port portId stage w.tables[(port, stage)]? old) w hw 0 () w hw := by
  rcases near_cases realized (Quiet.refl old).near with ⟨ha, rfl, -⟩ |
    ⟨record, was, wanted, hr, rfl, hs, hm, close⟩
  · rw [ha]
    exact runs_pure
  · cases hs
    have run := @fillTable_quiet switch w hw port portId stage record was was hm close
      (sane _ rfl) (sane _ rfl) fun _ => id
    rw [← hm.userAcl, recordTable_self hr] at run
    rw [hr, materialize, if_pos hm.family]
    exact run

theorem materialize_runs (realized : Realized w.tables[(port, stage)]? old)
    (near : Near old new) (saneOld : Sane old) (saneNew : Sane new) : ∃ calls w' hw',
      Runs (materialize switch port portId stage w.tables[(port, stage)]? new) w hw calls () w' hw' ∧
      Step stage new port w hw w' hw' ∧ (Quiet old new → calls = 0) ∧
      (Gentle old new → ∀ struck < calls, ∃ spoiled,
        Strikes (materialize switch port portId stage w.tables[(port, stage)]? new) w hw
          struck w spoiled ∧ Hardware.Policed none hw spoiled) := by
  rcases near_cases realized near with ⟨ha, rfl, rfl⟩ | ⟨record, was, wanted, hr, rfl, rfl, hm, close⟩
  · rw [ha]
    exact ⟨0, w, hw, runs_pure, .skip ha rfl, fun _ => rfl, by simp⟩
  · obtain ⟨calls, record', after, run, hm', edited, idle, struck⟩ :=
      @fillTable_runs switch w hw port portId stage record was wanted hm close
        (saneOld _ rfl) (saneNew _ rfl)
    rw [hr, materialize, if_pos (hm.family.trans close.family)]
    exact ⟨calls, _, after, run, .edit hr rfl hm' edited, fun quiet => idle quiet.2,
      fun gentle => struck gentle.2⟩

end

/-- The table of a port is the wanted one, in the record and in the hardware. -/
structure Held (stage : AclStage) (w : AclWorld) (hw : Hardware) (port : String)
    (portId : PortId) (desired : Option Desired) : Prop where
  realized : Realized w.tables[(port, stage)]? desired
  faithful : ∀ record ∈ w.tables[(port, stage)]?, record.Faithful stage hw
  orderly : ∀ record ∈ w.tables[(port, stage)]?, record.Orderly
  bound : hw.bound (portId, stage) = w.tables[(port, stage)]?.map PortAclTable.table

structure PortAclTable.Apart (record record' : PortAclTable) : Prop where
  table : record.table ≠ record'.table
  entry : ∀ (key key' : AclEntryKey) (objs objs' : AclEntryObjs), record.entries[key]? = some objs →
    record'.entries[key']? = some objs' → objs.entry ≠ objs'.entry
  policer : ∀ (key key' : AclEntryKey) (objs objs' : AclEntryObjs) oid,
    record.entries[key]? = some objs → record'.entries[key']? = some objs' →
      objs.policer = some oid → objs'.policer ≠ some oid

def PortAclTable.PolicersBelow (record : PortAclTable) (bound : Oid) : Prop :=
  ∀ (key : AclEntryKey) (objs : AclEntryObjs) oid, record.entries[key]? = some objs →
    objs.policer = some oid → oid < bound

theorem PortAclTable.Faithful.policersBelow {record : PortAclTable} {stage : AclStage}
    {hw : Hardware} (faithful : record.Faithful stage hw) (fresh : hw.Fresh) :
    record.PolicersBelow hw.next :=
  fun _ _ _ hf has => Edited.policer_lt faithful fresh hf has

theorem PortAclTable.Apart.symm {record record' : PortAclTable} (apart : record.Apart record') :
    record'.Apart record where
  table := apart.table.symm
  entry key key' objs objs' found found' := (apart.entry key' key objs' objs found' found).symm
  policer key key' objs objs' oid found found' has has' :=
    apart.policer key' key objs' objs oid found' found has' has

def portIdOf (switch : Switch) (port : String) : PortId := switch.ports[port]?.getD 0

/-- All the tables are the wanted ones and have nothing in common. -/
structure Sound (switch : Switch) (stage : AclStage) (targets : List String) (w : AclWorld)
    (hw : Hardware) (wishes : String → Option Desired) : Prop where
  held : ∀ port ∈ targets, Held stage w hw port (portIdOf switch port) (wishes port)
  apart : ∀ port ∈ targets, ∀ port' ∈ targets, port ≠ port' →
    ∀ record ∈ w.tables[(port, stage)]?, ∀ record' ∈ w.tables[(port', stage)]?, record.Apart record'
  fresh : hw.Fresh

section

variable {switch : Switch} {w w' : AclWorld} {hw hw' : Hardware} {port : String}
  {stage : AclStage} {goal : Option Desired} {targets : List String}
  {wishes : String → Option Desired} {record record' other : PortAclTable}

theorem tables_recordTable (port' : String) : (recordTable port stage record w).tables[(port', stage)]? =
      if port = port' then some record else w.tables[(port', stage)]? := by
  rw [recordTable, lookup_insert]
  by_cases hs : port = port' <;> simp

variable (edited : Edited stage record record' hw hw')
include edited

theorem Edited.present_iff
    (apart : record.Apart other) (below : other.PolicersBelow hw.next) {key : AclEntryKey}
    {objs : AclEntryObjs} (hf : other.entries[key]? = some objs) (table : Oid) :
    objs.Present table hw' ↔ objs.Present table hw := by
  have entry : hw'.entries objs.entry = hw.entries objs.entry :=
    edited.entries objs.entry fun key' objs' hf' => apart.entry key' key objs' objs hf' hf
  have policer : objs.policer.map hw'.policers = objs.policer.map hw.policers := by
    cases has : objs.policer with
    | none => rfl
    | some oid =>
      rw [Option.map_some, Option.map_some, edited.policers oid (below key objs oid hf has)
        fun key' objs' hf' has' => apart.policer key' key objs' objs oid hf' hf has' has]
  constructor
  · intro hp
    exact ⟨by rw [← entry, hp.entry], by rw [← policer, hp.policer]⟩
  · intro hp
    exact ⟨by rw [entry, hp.entry], by rw [policer, hp.policer]⟩

theorem Edited.faithful_apart
    (apart : record.Apart other) (there : other.Faithful stage hw) (fresh : hw.Fresh) :
    other.Faithful stage hw' where
  table := by rw [edited.tables, there.table]
  present _ _ found :=
    (edited.present_iff apart (there.policersBelow fresh) found _).mpr (there.present _ _ found)
  complete oid entry found inTable := by
    have tag := edited.tags oid
    rw [found] at tag
    obtain ⟨entry', hf', sameTable⟩ := Option.map_eq_some_iff.mp tag.symm
    exact there.complete oid entry' hf' (sameTable.trans inTable)

theorem Edited.apart
    (apart : record.Apart other) (below : other.PolicersBelow hw.next) : record'.Apart other where
  table := by rw [edited.table]; exact apart.table
  entry key key' objs objs' found found' := by
    obtain ⟨was, hr, entry, -⟩ := edited.owner key objs found
    rw [entry]
    exact apart.entry key key' was objs' hr found'
  policer key key' objs objs' oid found found' has has' := by
    obtain ⟨was, hr, -, -, owner⟩ := edited.owner key objs found
    rcases owner oid has with old | ⟨new, -⟩
    · exact apart.policer key key' was objs' oid hr found' old has'
    · exact Nat.not_lt_of_le new (below key' objs' oid found' has')

variable {portId : PortId}

theorem Edited.held {desired : Desired} (hm : record'.Matches desired)
    (hr : w.tables[(port, stage)]? = some record) {before : Option Desired}
    (held : Held stage w hw port portId before) (fresh : hw.Fresh) :
    Held stage (recordTable port stage record' w) hw' port portId (some desired) := by
  have faithful := held.faithful record hr
  have orderly := held.orderly record hr
  have hf : (recordTable port stage record' w).tables[(port, stage)]? = some record' := by
    rw [tables_recordTable, if_pos rfl]
  refine ⟨?_, ?_, ?_, ?_⟩
  · rw [hf]
    exact hm
  · rintro _ isRecord
    cases hf.symm.trans isRecord
    exact edited.faithful orderly faithful fresh
  · rintro _ isRecord
    cases hf.symm.trans isRecord
    exact edited.orderly orderly faithful fresh
  · rw [edited.bound, held.bound, hf, hr, Option.map_some, Option.map_some, edited.table]

theorem Edited.held_apart {port' : String} {wish : Option Desired} (ne : port ≠ port')
    (apart : ∀ other ∈ w.tables[(port', stage)]?, record.Apart other)
    (held : Held stage w hw port' portId wish) (fresh : hw.Fresh) :
    Held stage (recordTable port stage record' w) hw' port' portId wish := by
  have hs : (recordTable port stage record' w).tables[(port', stage)]? = w.tables[(port', stage)]? := by
    rw [tables_recordTable, if_neg ne]
  refine ⟨?_, ?_, ?_, ?_⟩
  · rw [hs]
    exact held.realized
  · rw [hs]
    intro other isOther
    exact edited.faithful_apart (apart other isOther) (held.faithful other isOther) fresh
  · rw [hs]
    exact held.orderly
  · rw [hs, edited.bound, held.bound]

omit edited

variable (hi : Sound switch stage targets w hw wishes)
include hi

theorem Sound.step (hm : port ∈ targets) (step : Step stage goal port w hw w' hw') :
    Sound switch stage targets w' hw' (Function.update wishes port goal) := by
  cases step with
  | skip ha nothing =>
    refine ⟨?_, hi.apart, hi.fresh⟩
    intro port' hm'
    have held := hi.held port' hm'
    by_cases hs : port' = port
    · subst hs
      rw [Function.update_self, nothing]
      exact ⟨by rw [ha]; trivial, held.faithful, held.orderly, held.bound⟩
    · rw [Function.update_of_ne hs]
      exact held
  | edit hr wanted matched edited =>
    refine ⟨?_, ?_, edited.fresh hi.fresh⟩
    · intro port' hm'
      have held := hi.held port' hm'
      by_cases hs : port = port'
      · subst hs
        rw [Function.update_self, wanted]
        exact edited.held matched hr held hi.fresh
      · rw [Function.update_of_ne (Ne.symm hs)]
        exact edited.held_apart hs (hi.apart port hm port' hm' hs _ hr) held hi.fresh
    · intro port₁ hm₁ port₂ hm₂ ne record₁ hr₁ record₂ hr₂
      rw [tables_recordTable] at hr₁ hr₂
      by_cases isFirst : port = port₁
      · rw [if_pos isFirst, Option.mem_def, Option.some.injEq] at hr₁
        rw [if_neg (by rwa [isFirst])] at hr₂
        subst isFirst hr₁
        exact edited.apart (hi.apart port hm port₂ hm₂ ne _ hr _ hr₂)
          (((hi.held port₂ hm₂).faithful _ hr₂).policersBelow hi.fresh)
      · rw [if_neg isFirst] at hr₁
        by_cases isSecond : port = port₂
        · rw [if_pos isSecond, Option.mem_def, Option.some.injEq] at hr₂
          subst isSecond hr₂
          exact (edited.apart (hi.apart port hm port₁ hm₁ isFirst _ hr _ hr₁)
            (((hi.held port₁ hm₁).faithful _ hr₁).policersBelow hi.fresh)).symm
        · rw [if_neg isSecond] at hr₂
          exact hi.apart port₁ hm₁ port₂ hm₂ ne _ hr₁ _ hr₂

theorem Sound.of_tables (hs : w'.tables = w.tables) : Sound switch stage targets w' hw wishes where
  __ := hi
  held port member := by
    have held := hi.held port member
    exact ⟨by rw [hs]; exact held.realized, by rw [hs]; exact held.faithful,
      by rw [hs]; exact held.orderly, by rw [hs]; exact held.bound⟩
  apart := by
    rw [hs]
    exact hi.apart

theorem Sound.policed
    (policed : Hardware.Policed none hw hw') : Sound switch stage targets w hw' wishes where
  __ := hi
  held port member := by
    have held := hi.held port member
    refine ⟨held.realized, ?_, held.orderly, by rw [policed.bound, held.bound]⟩
    intro record hr
    have faithful := held.faithful record hr
    refine ⟨by rw [policed.tables, faithful.table], ?_, by rw [policed.entries]; exact faithful.complete⟩
    intro key objs hf
    have hp := faithful.present key objs hf
    refine ⟨by rw [policed.entries, hp.entry], ?_⟩
    cases has : objs.policer with
    | none => simpa [has] using hp.policer
    | some oid =>
      rw [Option.map_some, policed.policers oid (Edited.policer_lt faithful hi.fresh hf has) (by simp)]
      simpa [has] using hp.policer
  fresh := by
    have unused := hi.fresh
    exact ⟨fun oid late => by rw [policed.tables]; exact unused.tables oid (policed.next.trans late),
      fun oid late => by rw [policed.counters]; exact unused.counters oid (policed.next.trans late),
      fun oid late => by rw [policed.entries]; exact unused.entries oid (policed.next.trans late),
      fun oid late => policed.fresh oid late (unused.policers oid (policed.next.trans late))⟩

omit hi

end

structure Kept (before after : Hardware) : Prop where
  tables : after.tables = before.tables
  counters : after.counters = before.counters
  bound : after.bound = before.bound
  next : before.next ≤ after.next

theorem Kept.refl (hw : Hardware) : Kept hw hw := ⟨rfl, rfl, rfl, le_rfl⟩

theorem Kept.trans {first second third : Hardware} (early : Kept first second)
    (late : Kept second third) : Kept first third :=
  ⟨late.tables.trans early.tables, late.counters.trans early.counters, late.bound.trans early.bound,
    early.next.trans late.next⟩

theorem Hardware.Policed.kept {touched : Option Oid} {before after : Hardware}
    (policed : Hardware.Policed touched before after) : Kept before after :=
  ⟨policed.tables, policed.counters, policed.bound, policed.next⟩

/-- The entries are those of the older record, with the same counters. -/
structure PortAclTable.Descends (record' record : PortAclTable) : Prop where
  table : record'.table = record.table
  objs : ∀ (key : AclEntryKey) objs', record'.entries[key]? = some objs' →
    ∃ objs : AclEntryObjs, record.entries[key]? = some objs ∧ objs'.entry = objs.entry ∧
      objs'.counter = objs.counter

/-- Every record has the objects of an older one of the same port. -/
def Descends (tables tables' : StageMap PortAclTable) : Prop :=
  ∀ (key : String × AclStage) record', tables'[key]? = some record' →
    ∃ record, tables[key]? = some record ∧ record'.Descends record

theorem Descends.refl (tables : StageMap PortAclTable) : Descends tables tables :=
  fun _ record' hr => ⟨record', hr, rfl, fun _ objs hf => ⟨objs, hf, rfl, rfl⟩⟩

theorem Descends.trans {first second third : StageMap PortAclTable} (early : Descends first second)
    (late : Descends second third) : Descends first third := by
  intro key record'' hr''
  obtain ⟨record', hr', table', objs'⟩ := late key record'' hr''
  obtain ⟨record, hr, table, objs⟩ := early key record' hr'
  refine ⟨record, hr, table'.trans table, fun entryKey last hf => ?_⟩
  obtain ⟨middle, hf', entry', counter'⟩ := objs' entryKey last hf
  obtain ⟨initial, hf'', entry, counter⟩ := objs entryKey middle hf'
  exact ⟨initial, hf'', entry'.trans entry, counter'.trans counter⟩

section

variable {w w' : AclWorld} {hw hw' : Hardware} {port port' : String}
  {stage : AclStage} {wish : Option Desired}

section

variable (step : Step stage wish port w hw w' hw')
include step

theorem Step.sameIntent : SameIntent w w' := by
  cases step <;> exact ⟨rfl, rfl, rfl⟩

theorem Step.tables_of_ne (ne : port ≠ port') : w'.tables[(port', stage)]? = w.tables[(port', stage)]? := by
  cases step with
  | skip => rfl
  | edit => rw [tables_recordTable, if_neg ne]

theorem Step.kept : Kept hw hw' := by
  cases step with
  | skip => exact .refl _
  | edit _ _ _ edited => exact ⟨edited.tables, edited.counters, edited.bound, edited.next⟩

theorem Step.descends : Descends w.tables w'.tables := by
  cases step with
  | skip => exact .refl _
  | edit hr _ _ edited =>
    intro key record'' hr''
    rw [recordTable, lookup_insert] at hr''
    split_ifs at hr'' with isKey
    · rw [← isKey]
      cases hr''
      refine ⟨_, hr, edited.table, fun entryKey objs' hf => ?_⟩
      obtain ⟨objs, hf', entry, counter, -⟩ := edited.owner entryKey objs' hf
      exact ⟨objs, hf', entry, counter⟩
    · exact Descends.refl _ key record'' hr''

end

/-- The table is apart from that of the port, and its policers are not new. -/
structure Aside (stage : AclStage) (other : PortAclTable) (ports : List String) (w : AclWorld)
    (hw : Hardware) : Prop where
  apart : ∀ port ∈ ports, ∀ record ∈ w.tables[(port, stage)]?, record.Apart other
  below : other.PolicersBelow hw.next

theorem Aside.step {other : PortAclTable} {ports : List String}
    (aside : Aside stage other ports w hw) (hm : port ∈ ports)
    (step : Step stage wish port w hw w' hw') : Aside stage other ports w' hw' ∧
      ∀ (key : AclEntryKey) objs, other.entries[key]? = some objs →
        ∀ table, objs.Present table hw' ↔ objs.Present table hw := by
  cases step with
  | skip => exact ⟨aside, fun _ _ _ _ => Iff.rfl⟩
  | edit hr _ _ edited =>
    have apart := aside.apart port hm _ hr
    refine ⟨⟨?_, ?_⟩, fun _ _ hf => edited.present_iff apart aside.below hf⟩
    · intro port' hm' record' hr'
      rw [tables_recordTable] at hr'
      split_ifs at hr' with hs
      · cases hr'
        exact edited.apart apart aside.below
      · exact aside.apart port' hm' record' hr'
    · intro key objs oid hf has
      exact lt_of_lt_of_le (aside.below key objs oid hf has) edited.next

end

end Hemlock.Acl
