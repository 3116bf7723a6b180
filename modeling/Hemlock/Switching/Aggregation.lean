import Hemlock.Switching.Bridge

/-!
# Port-Channels and router interfaces

The requests that create and remove Port-Channels, change their members, and give ports
and VLANs router interfaces keep the tables and the switch in agreement.
-/

namespace Hemlock.Switching

open Contracts OrderedMap World Hardware
open Acl (lagGroupOf)

section

variable {κ ν : Type} {cmp : κ → κ → Ordering} [Std.TransCmp cmp] {table table' : Std.ExtTreeMap κ ν cmp}
  {saiId : ν → PortId} {program : ν → Option SwitchportState}

theorem held_congr (hs : ∀ key : κ, table'[key]?.map (fun value => (saiId value, program value)) =
      table[key]?.map fun value => (saiId value, program value)) (port : PortId)
    (switchport : SwitchportState) :
    Held table' saiId program port switchport ↔ Held table saiId program port switchport := by
  refine exists_congr fun key => ?_
  have isSame := hs key
  cases hf : table[key]? with
  | none =>
    rw [hf, Option.map_none, Option.map_eq_none_iff] at isSame
    simp [isSame]
  | some value =>
    rw [hf, Option.map_some, Option.map_eq_some_iff] at isSame
    obtain ⟨value', hf', isSame⟩ := isSame
    simp only [Prod.mk.injEq] at isSame
    simp [hf', isSame.1, isSame.2]

variable [Std.LawfulEqCmp cmp] [DecidableEq κ]

theorem held_modify_congr {key : κ} {change : ν → ν}
    (saiId_same : ∀ value, saiId (change value) = saiId value)
    (program_same : ∀ value, program (change value) = program value) (port : PortId)
    (switchport : SwitchportState) : Held (table.modify key change) saiId program port switchport ↔
      Held table saiId program port switchport := by
  refine held_congr (fun other => ?_) port switchport
  rw [lookup_modify]
  split_ifs with isKey
  · subst isKey
    cases table[key]? <;> simp [saiId_same, program_same]
  · rfl

theorem held_insert_unprogrammed {key : κ} {value : ν} (fresh : key ∉ table)
    (unprogrammed : program value = none) (port : PortId) (switchport : SwitchportState) :
    Held (table.insert key value) saiId program port switchport ↔
      Held table saiId program port switchport := by
  refine exists_congr fun other => exists_congr fun value' => ?_
  rw [lookup_insert]
  split_ifs with isKey
  · subst isKey
    rw [getElem?_eq_none fresh]
    constructor
    · rintro ⟨isValue, -, held⟩
      cases isValue
      rw [unprogrammed] at held
      cases held
    · rintro ⟨isValue, -⟩
      cases isValue
  · rfl

theorem held_erase {key : κ} {value : ν} (hk : table[key]? = some value)
    (hd : ∀ {key key' : κ} {value value' : ν}, table[key]? = some value →
      table[key']? = some value' → saiId value = saiId value' → key = key') (port : PortId)
    (switchport : SwitchportState) : Held (table.erase key) saiId program port switchport ↔
      port ≠ saiId value ∧ Held table saiId program port switchport := by
  constructor
  · rintro ⟨other, value', hf, rfl, held⟩
    rw [lookup_erase] at hf
    split_ifs at hf with isKey
    exact ⟨fun hs => isKey (hd hk hf hs.symm), other, value', hf, rfl, held⟩
  · rintro ⟨ne, other, value', hf, rfl, held⟩
    refine ⟨other, value', ?_, rfl, held⟩
    rw [lookup_erase, if_neg]
    · exact hf
    · rintro rfl
      rw [hk] at hf
      cases hf
      exact ne rfl

end

section

variable {w after : World} {port : PortId} {name : String} {group : UInt16}

theorem World.Memberships.of_same (memberships : w.Memberships)
    (holds : ∀ port switchport, after.Holds port switchport ↔ w.Holds port switchport)
    (active : ∀ id, w.Active id → after.Active id) (ports : after.hardware.ports = w.hardware.ports)
    (vlans : after.hardware.vlans = w.hardware.vlans)
    (vlanMembers : after.hardware.vlanMembers = w.hardware.vlanMembers)
    (next : w.hardware.next ≤ after.hardware.next) : after.Memberships := by
  have record : after.record = w.record := by
    funext port membership
    simp only [record, holds]
  constructor
  case tracked =>
    rw [record]
    exact memberships.tracked.of_same vlanMembers vlans next
  case valid =>
    intro port switchport held
    exact memberships.valid ((holds port switchport).mp held)
  case attached =>
    rw [record, ports, vlanMembers]
    exact memberships.attached
  case active =>
    intro port membership hp hr
    rw [record] at hr
    rw [ports] at hp
    exact active _ (memberships.active hp hr)

theorem World.Sound.setHardware {hw : Hardware} (hi : w.Sound) (hs : w.hardware.SameBridge hw)
    (vlanMembers : hw.vlanMembers = w.hardware.vlanMembers) : World.Sound { w with hardware := hw } where
  toPortObjects := hi.toPortObjects.of_same hs.samePorts
    (fun hf => ⟨hi.routed hf, _, hf, rfl, rfl⟩) fun hf => ⟨_, hf, rfl⟩
  toVlanObjects := hi.toVlanObjects.of_same hs.vlans hs.vlanRifs hs.next fun _ => rfl
  toMemberships := hi.toMemberships.of_same (fun _ _ => Iff.rfl) (fun _ active => active) hs.ports
    hs.vlans vlanMembers hs.next

theorem World.Sound.modifyLag {change : LagState → LagState} (hi : w.Sound)
    (saiId : ∀ lag, (change lag).saiId = lag.saiId)
    (switchport : ∀ lag, (change lag).switchport = lag.switchport) :
    World.Sound { w with lags := w.lags.modify group change } where
  toPortObjects := by
    refine hi.toPortObjects.of_same (.refl _)
      (fun hf => ⟨hi.routed hf, _, hf, rfl, rfl⟩) fun {other lag} hf => ?_
    simp only [lookup_modify] at hf
    split_ifs at hf with isGroup
    · obtain ⟨earlier, hk, rfl⟩ := Option.map_eq_some_iff.mp hf
      exact ⟨earlier, isGroup ▸ hk, saiId earlier⟩
    · exact ⟨lag, hf, rfl⟩
  toVlanObjects := hi.toVlanObjects.of_same rfl rfl (Nat.le_refl _) fun _ => rfl
  toMemberships := hi.toMemberships.of_same
    (fun port program => or_congr_right (held_modify_congr saiId switchport port program))
    (fun _ active => active) rfl rfl rfl (Nat.le_refl _)

def World.Has (group : UInt16) (lag : LagState) (w : World) : Prop :=
  w.Sound ∧ w.lags[group]? = some lag

variable {lag : LagState}
variable {refusal : Hardware → Option SaiError}

theorem contract_harmless {Value : Type} {effect : Hardware → Value × Hardware}
    (hs : ∀ hw : Hardware, hw.SameBridge (effect hw).2)
    (vlanMembers : ∀ hw : Hardware, (effect hw).2.vlanMembers = hw.vlanMembers) :
    Keeps (World.Has group lag) (sai (checked refusal effect)) World.Sound :=
  contract_sai (fun _ before _ => ⟨before.1.setHardware (hs _) (vlanMembers _), before.2⟩)
    fun _ before _ => before.1

theorem dropLagMember_has (hm : String × LagMemberState) :
    Keeps (World.Has group lag) (dropLagMember hm) World.Sound := by
  refine contract_read fun start => ?_
  refine (contract_settle (fun _ _ _ has => has) fun _ has => has.1).bind fun saiId => ?_
  exact contract_harmless (fun _ => ⟨rfl, rfl, rfl, rfl, rfl, Nat.le_refl _⟩) fun _ => rfl

variable {object : PortId}

theorem addLagMember_has {enabled : Bool} :
    Keeps (World.Has group lag) (addLagMember object name enabled) World.Sound := by
  refine contract_read fun start => ?_
  refine (contract_settle (fun _ _ _ has => has) fun _ has => has.1).bind fun saiId => ?_
  split_ifs
  · exact contract_throw fun _ has => has.1
  all_goals
    have adds : Keeps (World.Has group lag) (sai (Hardware.addLagMember object saiId)) World.Sound :=
      contract_harmless (fun _ => ⟨rfl, rfl, rfl, rfl, rfl, Nat.le_succ _⟩) fun _ => rfl
    refine adds.bind fun oid => ?_
  · have opens : Keeps (World.Has group lag) (sai (Hardware.setLagMemberState oid true)) World.Sound :=
      contract_harmless (fun _ => ⟨rfl, rfl, rfl, rfl, rfl, Nat.le_refl _⟩) fun _ => rfl
    exact opens.bind fun _ => contract_done
  · exact contract_done

theorem settleLagMembers_has (wanted : List (String × Bool)) (members : NameMap LagMemberState) :
    Keeps (World.Has group lag) (settleLagMembers object wanted members) World.Sound := by
  induction wanted generalizing members with
  | nil => exact contract_done
  | cons entry rest ih =>
    obtain ⟨name, enabled⟩ := entry
    rw [settleLagMembers]
    cases members[name]? with
    | none => exact addLagMember_has.bind fun hm => ih _
    | some hm =>
      dsimp only
      split_ifs
      · have settles : Keeps (World.Has group lag)
            (sai (setLagMemberState hm.oid enabled)) World.Sound :=
          contract_harmless (fun _ => ⟨rfl, rfl, rfl, rfl, rfl, Nat.le_refl _⟩) fun _ => rfl
        exact settles.bind fun _ => ih _
      · exact ih _

theorem World.Sound.setLagMembers {req : SetLagMembersRequest} (hi : w.Sound) :
    (final (Switching.setLagMembers req) w).Sound := by
  unfold Switching.setLagMembers
  cases lagGroup req.group with
  | error failure => exact hi
  | ok group =>
    cases hk : w.lags[group]? with
    | none => simpa [final, hk] using hi
    | some lag =>
      have contract (stale wanted) (members : NameMap LagMemberState) :
          Contract (World.Has group lag) (do
            each dropLagMember stale
            let members ← settleLagMembers lag.saiId wanted members
            modify fun w =>
              { w with lags := w.lags.modify group fun lag => { lag with members } })
            (fun _ => World.Sound) World.Sound := by
        refine (contract_each_keep dropLagMember_has stale).bind fun _ => ?_
        refine (settleLagMembers_has wanted members).bind fun settled => ?_
        exact contract_modify fun _ has => has.1.modifyLag (fun _ => rfl) fun _ => rfl
      simpa [final, hk] using (contract _ _ _).final ⟨hi, hk⟩

/-- A new Port-Channel in the default VLAN. -/
def World.addLag (group : UInt16) (req : CreateLagRequest) (w : World) : World :=
  { w with
    lags := w.lags.insert group
      { saiId := w.hardware.next, description := req.description, adminUp := req.adminUp }
    hardware :=
      { w.hardware with
        next := w.hardware.next + 1
        lags := w.hardware.lags.insert w.hardware.next
        defaultMembers := w.hardware.defaultMembers.insert w.hardware.next
        pvids := w.hardware.pvids.insert w.hardware.next 1 } }

variable {req : CreateLagRequest}

theorem World.PortObjects.addLag (objects : w.PortObjects) : (w.addLag group req).PortObjects := by
  have lookup (other : UInt16) : (w.addLag group req).lags[other]? = if group = other then some
        { saiId := w.hardware.next, description := req.description, adminUp := req.adminUp }
      else w.lags[other]? := by
    simp [World.addLag, lookup_insert]
  have notPort : w.hardware.ports.contains w.hardware.next = false := by
    by_contra hp
    exact Nat.lt_irrefl _ (objects.portNumbered (by simpa using hp))
  refine { objects with
    lagKnown := ?known, lagDistinct := ?distinct, lagNumbered := ?numbered
    portNumbered := fun hp => Nat.lt_succ_of_lt (objects.portNumbered hp) }
  case known =>
    intro other lag hk
    rw [lookup] at hk
    split_ifs at hk with isGroup
    · cases hk
      exact ⟨by simp [World.addLag], notPort⟩
    · exact ⟨by simp [World.addLag, (objects.lagKnown hk).1], (objects.lagKnown hk).2⟩
  case distinct =>
    intro first second lag lag' hk hk' hs
    rw [lookup] at hk hk'
    split_ifs at hk hk' with isGroup isGroup' isGroup'
    · exact isGroup.symm.trans isGroup'
    · cases hk
      exact absurd hs (Nat.ne_of_gt (objects.lagNumbered (objects.lagKnown hk').1))
    · cases hk'
      exact absurd hs (Nat.ne_of_lt (objects.lagNumbered (objects.lagKnown hk).1))
    · exact objects.lagDistinct hk hk' hs
  case numbered =>
    intro lag isLag
    simp only [World.addLag, Std.ExtTreeSet.contains_insert, Bool.or_eq_true, beq_iff_eq,
      Std.LawfulEqCmp.compare_eq_iff_eq] at isLag ⊢
    rcases isLag with rfl | isLag
    · exact Nat.lt_succ_self _
    · exact Nat.lt_succ_of_lt (objects.lagNumbered isLag)

theorem World.Sound.addLag (hi : w.Sound) (fresh : group ∉ w.lags) : (w.addLag group req).Sound where
  toPortObjects := hi.toPortObjects.addLag
  toVlanObjects := hi.toVlanObjects.of_same rfl rfl (Nat.le_succ _) fun _ => rfl
  toMemberships := hi.toMemberships.of_same
    (fun port switchport => or_congr_right (held_insert_unprogrammed fresh rfl port switchport))
    (fun _ active => active) rfl rfl rfl (Nat.le_succ _)

theorem World.Sound.createLag {caps : Capabilities} (hi : w.Sound) :
    (final (Switching.createLag caps req) w).Sound := by
  unfold Switching.createLag
  cases requireCapability caps.lag "port-channel" with
  | error failure => exact hi
  | ok _ =>
    cases lagGroup req.group with
    | error failure => exact hi
    | ok group =>
      by_cases hk : group ∈ w.lags
      · have after := @modifyLag w group
          (fun lag => { lag with description := req.description, adminUp := req.adminUp })
          hi (fun _ => rfl) fun _ => rfl
        simpa [final, hk] using after
      · have created : sai Hardware.createLag w = _ := sai_checked rfl
        simpa [final, hk, bind_of_ok created, World.addLag] using hi.addLag hk

def World.eraseLag (group : UInt16) (lag : PortId) (w : World) : World :=
  { w with
    lags := w.lags.erase group
    hardware :=
      { w.hardware with
        lags := w.hardware.lags.erase lag
        defaultMembers := w.hardware.defaultMembers.erase lag
        pvids := w.hardware.pvids.erase lag } }

theorem World.PortObjects.eraseLag (objects : w.PortObjects)
    (hk : w.lags[group]? = some lag) : (w.eraseLag group lag.saiId).PortObjects := by
  have lookup {other : UInt16} {lag' : LagState}
      (hf : (w.eraseLag group lag.saiId).lags[other]? = some lag') :
      group ≠ other ∧ w.lags[other]? = some lag' := by
    simpa [World.eraseLag, lookup_erase] using hf
  refine { objects with lagKnown := ?known, lagDistinct := ?distinct, lagNumbered := ?numbered }
  case known =>
    intro other lag' hf
    obtain ⟨ne, hf⟩ := lookup hf
    have hd : lag.saiId ≠ lag'.saiId := fun hs => ne (objects.lagDistinct hk hf hs)
    exact ⟨by simp [World.eraseLag, hd, (objects.lagKnown hf).1], (objects.lagKnown hf).2⟩
  case distinct =>
    intro first second lag' lag'' hf hf'
    exact objects.lagDistinct (lookup hf).2 (lookup hf').2
  case numbered =>
    intro lag' isLag
    simp only [World.eraseLag, Std.ExtTreeSet.contains_erase, Bool.and_eq_true] at isLag
    exact objects.lagNumbered isLag.2

theorem World.Sound.eraseLag (hi : w.Sound) (hk : w.lags[group]? = some lag)
    (unused : ∀ {hm : Oid} {entry : VlanMember}, w.hardware.vlanMembers[hm]? = some entry →
      entry.port ≠ lag.saiId) : (w.eraseLag group lag.saiId).Sound where
  toPortObjects := hi.toPortObjects.eraseLag hk
  toVlanObjects := hi.toVlanObjects.of_same rfl rfl (Nat.le_refl _) fun _ => rfl
  toMemberships := by
    have reprograms : w.Reprograms (w.eraseLag group lag.saiId) lag.saiId none := by
      intro port switchport
      rw [World.Holds, World.eraseLag, held_erase hk hi.lagDistinct]
      split_ifs with isThis
      · subst isThis
        simp only [ne_eq, not_true_eq_false, false_and, or_false, iff_false]
        rintro ⟨name, state, hk', hs, -⟩
        exact hi.port_ne_lag hk' hk hs
      · simp [isThis, World.Holds]
    have ht : w.hardware.Tracked (w.record.set lag.saiId []) := by
      refine hi.tracked.forget (fun port membership hr => ?_) fun {hm entry} hf => ?_
      · unfold Record.set at hr
        split_ifs at hr
        · cases hr
        · exact hr
      · obtain ⟨membership, hr, isMember⟩ := hi.tracked.known hf
        exact ⟨membership, (Record.set_other (unused hf)).mpr hr, isMember⟩
    exact hi.toMemberships.reprogram reprograms rfl ⟨rfl, ht.of_same rfl rfl (Nat.le_refl _), fun hf _ => hf, by simp⟩
      fun _ _ hl => by cases hl

theorem removeLag_erases : Contract (World.Has group lag) (do
      sai (Hardware.removeLag lag.saiId)
      modify fun w => { w with lags := w.lags.erase group })
      (fun _ => World.Sound) World.Sound := by
  have removes : Contract (World.Has group lag) (sai (Hardware.removeLag lag.saiId))
      (fun _ left => World.Sound { left with lags := left.lags.erase group }) World.Sound := by
    refine contract_sai (fun left has granted => ?_) fun _ has _ => has.1
    refine has.1.eraseLag has.2 fun {hm entry} hf hp => ?_
    rw [Hardware.first_eq_none] at granted
    have free := granted _ (List.mem_cons_of_mem _ (List.mem_cons_of_mem _ (List.mem_cons_self ..)))
    simp only [List.any_eq_false, decide_eq_true_eq] at free
    exact free entry (mem_values_iff.mpr ⟨hm, hf⟩) hp
  exact removes.bind fun _ => contract_modify fun _ erased => erased

theorem World.Sound.removeLag {raw : UInt32} (hi : w.Sound) :
    (final (Switching.removeLag raw) w).Sound := by
  unfold Switching.removeLag
  cases lagGroup raw with
  | error failure => exact hi
  | ok group =>
    cases hk : w.lags[group]? with
    | none => simpa [final, hk] using hi
    | some lag =>
      rcases hi.resetLag hk with ⟨failure, after, failed, isSound⟩ | ⟨hw, ran, cleared⟩
      · simpa [final, hk, bind_of_error failed] using isSound
      · have erased := @eraseLagMembers w group lag
          ((members lag.switchport).map Membership.member) hi hk
          (fun hm hl => List.mem_map.mp hl)
        have reset : World.Sound { w with hardware := hw } :=
          erased.setHardware ⟨cleared.same.ports, cleared.same.lags, cleared.same.vlans,
            cleared.same.rifs, cleared.same.vlanRifs, cleared.same.next⟩ cleared.left
        have contract := (contract_each_keep (@dropLagMember_has group lag) lag.members.toList).bind
          fun _ => removeLag_erases
        simpa [final, hk, bind_of_ok ran] using contract.final ⟨reset, hk⟩

/-- A VLAN that is recorded, or the default one before it is. -/
def World.IsVlan (w : World) (id : UInt16) (state : VlanState) : Prop :=
  w.vlans[id]? = some state ∨ id ∉ w.vlans ∧ id = 1 ∧ state.oid = none

/-- The router interface of one VLAN changes in the tables. -/
structure World.Refronts (w after : World) (id : UInt16) (state : VlanState) (rif : Option Oid) :
    Prop where
  isVlan : w.IsVlan id state
  lookup : ∀ other : UInt16, after.vlans[other]? =
    if id = other then some { state with rif := rif } else w.vlans[other]?
  ports : after.ports = w.ports
  lags : after.lags = w.lags
  hardwarePorts : after.hardware.ports = w.hardware.ports
  hardwareLags : after.hardware.lags = w.hardware.lags
  hardwareVlans : after.hardware.vlans = w.hardware.vlans
  hardwareRifs : after.hardware.rifs = w.hardware.rifs
  vlanMembers : after.hardware.vlanMembers = w.hardware.vlanMembers
  next : w.hardware.next ≤ after.hardware.next

section

variable {id : UInt16} {state : VlanState} {rif : Option Oid}

theorem World.Refronts.vlanObject (refronts : w.Refronts after id state rif) (other : UInt16) :
    after.vlanObject other = w.vlanObject other := by
  rw [World.vlanObject, refronts.lookup]
  split_ifs with isId
  · subst isId
    rcases refronts.isVlan with hk | ⟨ha, -, objectless⟩
    · rw [World.vlanObject, hk]
      rfl
    · rw [World.vlanObject, getElem?_eq_none ha]
      exact objectless
  · rfl

theorem World.Refronts.active (refronts : w.Refronts after id state rif) (other : UInt16)
    (active : w.Active other) : after.Active other := by
  obtain ⟨state', hk', unsuspended⟩ := active
  rw [World.Active, refronts.lookup]
  split_ifs with isId
  · subst isId
    rcases refronts.isVlan with hk | ⟨ha, -⟩
    · rw [hk] at hk'
      cases hk'
      exact ⟨_, rfl, unsuspended⟩
    · exact absurd (mem_of_lookup hk') ha
  · exact ⟨state', hk', unsuspended⟩

theorem World.Sound.refront (hi : w.Sound) (refronts : w.Refronts after id state rif)
    (fronts : ∀ {other : UInt16} {state' : VlanState} {rif' : Oid}, after.vlans[other]? = some state' →
      state'.rif = some rif' → after.hardware.vlanRifs[rif']? = some state'.oid)
    (rifKnown : ∀ {rif' : Oid} {vlan : Option Oid}, after.hardware.vlanRifs[rif']? = some vlan →
      ∃ other : UInt16, ∃ state', after.vlans[other]? = some state' ∧
        state'.rif = some rif' ∧ state'.oid = vlan)
    (rifNumbered : ∀ {rif' : Oid}, after.hardware.vlanRifs.contains rif' = true →
      rif' < after.hardware.next) : after.Sound where
  toPortObjects := by
    refine hi.toPortObjects.of_same
      ⟨refronts.hardwarePorts, refronts.hardwareLags, refronts.hardwareRifs, refronts.next⟩
      (fun hf => ?_) fun hf => ?_
    · rw [refronts.ports] at hf
      exact ⟨hi.routed hf, _, hf, rfl, rfl⟩
    · rw [refronts.lags] at hf
      exact ⟨_, hf, rfl⟩
  objects := by
    intro other
    rw [refronts.hardwareVlans, refronts.vlanObject]
    exact hi.objects other
  plain := (refronts.vlanObject 1).trans hi.plain
  created := by
    intro other state' hk' ne
    rw [refronts.lookup] at hk'
    split_ifs at hk' with isId
    · subst isId
      cases hk'
      rcases refronts.isVlan with hk | ⟨-, isDefault, -⟩
      · exact (hi.created hk ne :)
      · exact absurd isDefault ne
    · exact hi.created hk' ne
  vlanNumbered := by
    intro other vlan hf
    rw [refronts.hardwareVlans] at hf
    exact Nat.lt_of_lt_of_le (hi.vlanNumbered hf) refronts.next
  fronts := fronts
  rifKnown := rifKnown
  rifNumbered := rifNumbered
  toMemberships := hi.toMemberships.of_same
    (fun port switchport => by rw [World.Holds, World.Holds, refronts.ports, refronts.lags])
    refronts.active refronts.hardwarePorts refronts.hardwareVlans refronts.vlanMembers refronts.next

theorem World.Sound.addVlanRif (hi : w.Sound)
    (refronts : w.Refronts after id state (some w.hardware.next)) (unfronted : state.rif = none)
    (vlanRifs : after.hardware.vlanRifs = w.hardware.vlanRifs.insert w.hardware.next state.oid)
    (next : w.hardware.next < after.hardware.next) : after.Sound := by
  refine hi.refront refronts ?_ ?_ ?_
  · intro other state' rif' hk' held
    rw [refronts.lookup] at hk'
    rw [vlanRifs, lookup_insert]
    split_ifs at hk' with isId
    · cases hk'
      cases held
      rw [if_pos rfl]
    · have hf := hi.fronts hk' held
      have older := hi.rifNumbered (mem_of_lookup hf)
      rw [if_neg (Nat.ne_of_gt older)]
      exact hf
  · intro rif' vlan hf
    rw [vlanRifs, lookup_insert] at hf
    split_ifs at hf with isNew
    · cases hf
      exact ⟨id, { state with rif := some w.hardware.next }, by rw [refronts.lookup, if_pos rfl],
        congrArg some isNew, rfl⟩
    · obtain ⟨other, state', hk', held, isVlan⟩ := hi.rifKnown hf
      refine ⟨other, state', ?_, held, isVlan⟩
      rw [refronts.lookup, if_neg]
      · exact hk'
      · rintro rfl
        rcases refronts.isVlan with hk | ⟨ha, -⟩
        · rw [hk] at hk'
          cases hk'
          rw [unfronted] at held
          cases held
        · exact ha (mem_of_lookup hk')
  · intro rif' hf
    rw [vlanRifs] at hf
    simp only [contains_insert, Bool.or_eq_true, beq_iff_eq, Std.LawfulEqCmp.compare_eq_iff_eq] at hf
    rcases hf with rfl | hf
    · exact next
    · exact Nat.lt_of_lt_of_le (hi.rifNumbered hf) refronts.next

end

variable {id : UInt16} {state : VlanState} {rif : Oid}

theorem World.Sound.rif_unique (hi : w.Sound) {other : UInt16} {state' : VlanState}
    (hk : w.vlans[id]? = some state) (hk' : w.vlans[other]? = some state')
    (fronted : state.rif = some rif) (fronted' : state'.rif = some rif) : id = other := by
  have sameObject : state.oid = state'.oid :=
    Option.some.inj ((hi.fronts hk fronted).symm.trans (hi.fronts hk' fronted'))
  cases ho : state.oid with
  | none =>
    have isDefault : id = 1 := by_contra fun ne => hi.created hk ne ho
    have isDefault' : other = 1 := by_contra fun ne =>
      hi.created hk' ne (sameObject ▸ ho)
    rw [isDefault, isDefault']
  | some vlan =>
    refine @Hardware.Tracked.distinct _ _ hi.tracked id other vlan ?_ ?_
    · rw [hi.objects, vlanObject, hk]
      exact ho
    · rw [hi.objects, vlanObject, hk']
      exact sameObject.symm.trans ho

theorem World.Sound.teardownSvi (hi : w.Sound) (hk : w.vlans[id]? = some state) :
    ∃ after, Switching.teardownSvi id state w = .ok () after ∧ after.Sound ∧
      w.Refronts after id state none := by
  unfold Switching.teardownSvi
  cases fronted : state.rif with
  | none =>
    refine ⟨w, rfl, hi, ⟨.inl hk, fun other => ?_, rfl, rfl, rfl, rfl, rfl, rfl, rfl, Nat.le_refl _⟩⟩
    split_ifs with isId
    · rw [← isId, hk, ← fronted]
    · rfl
  | some rif =>
    have hf := hi.fronts hk fronted
    have removed : sai (removeVlanRouterInterface rif) w = _ := sai_checked (by
      have hp : rif ∈ w.hardware.vlanRifs := mem_of_lookup hf
      simp [hp])
    refine ⟨_, bind_of_ok removed, ?_⟩
    have refronts : w.Refronts (setVlanRif id none { w with hardware :=
        { w.hardware with vlanRifs := w.hardware.vlanRifs.erase rif } }) id state none := by
      refine ⟨.inl hk, fun other => ?_, rfl, rfl, rfl, rfl, rfl, rfl, rfl, Nat.le_refl _⟩
      simp only [setVlanRif, lookup_modify, hk, Option.map_some]
    refine ⟨hi.refront refronts ?_ ?_ ?_, refronts⟩
    · intro other state' rif' hk' held
      rw [refronts.lookup] at hk'
      split_ifs at hk' with isId
      · cases hk'
        cases held
      · simp only [setVlanRif, lookup_erase]
        rw [if_neg]
        · exact hi.fronts hk' held
        · rintro rfl
          exact isId (hi.rif_unique hk hk' fronted held)
    · intro rif' vlan hf'
      simp only [setVlanRif, lookup_erase] at hf'
      split_ifs at hf' with isThis
      obtain ⟨other, state', hk', held, isVlan⟩ := hi.rifKnown hf'
      refine ⟨other, state', ?_, held, isVlan⟩
      rw [refronts.lookup, if_neg]
      · exact hk'
      · rintro rfl
        rw [hk] at hk'
        cases hk'
        exact isThis (Option.some.inj (fronted.symm.trans held))
    · intro rif' hf'
      simp only [setVlanRif, Std.ExtTreeMap.contains_erase, Bool.and_eq_true] at hf'
      exact hi.rifNumbered hf'.2

/-- The router interface of a port without a program changes, in the table and in the switch. -/
theorem World.Sound.changeRif {state : PortState} {rif : Option Oid} {rifs : OidMap Oid} {next : Oid}
    {defaultMembers : OidSet} {pvids : OidMap UInt16} (hi : w.Sound)
    (hk : w.ports[name]? = some state) (unprogrammed : state.switchport = none)
    (later : w.hardware.next ≤ next)
    (lookupRif : ∀ other : PortId, rifs[other]? = if state.saiId = other then rif else w.hardware.rifs[other]?) :
    World.Sound { w with
      ports := w.ports.modify name fun port => { port with rif := rif }
      hardware := { w.hardware with rifs, next, defaultMembers, pvids } } := by
  have lookup (other : String) : (w.ports.modify name fun port => { port with rif := rif })[other]? =
      if name = other then some { state with rif := rif } else w.ports[other]? := by
    simp only [lookup_modify, hk, Option.map_some]
  have object {other : String} {state' : PortState}
      (hf : (w.ports.modify name fun port => { port with rif := rif })[other]? = some state') :
      ∃ earlier, w.ports[other]? = some earlier ∧ state'.saiId = earlier.saiId := by
    rw [lookup] at hf
    split_ifs at hf with isName
    · cases hf
      exact ⟨state, isName ▸ hk, rfl⟩
    · exact ⟨state', hf, rfl⟩
  constructor
  case toPortObjects =>
    refine { hi.toPortObjects with
      portKnown := ?known, portDistinct := ?distinct, rifs := ?rifs, routed := ?routed, rifPorts := ?rifPorts
      portNumbered := fun hp => Nat.lt_of_lt_of_le (hi.portNumbered hp) later
      lagNumbered := fun isLag => Nat.lt_of_lt_of_le (hi.lagNumbered isLag) later }
    case known =>
      intro other state' hf
      obtain ⟨earlier, hk', hs⟩ := object hf
      rw [hs]
      exact hi.portKnown hk'
    case distinct =>
      intro other other' state' state'' hf hf' hs
      obtain ⟨earlier, hk', hs'⟩ := object hf
      obtain ⟨earlier', hk'', hs''⟩ := object hf'
      exact hi.portDistinct hk' hk'' (hs' ▸ hs'' ▸ hs)
    case rifs =>
      intro other state' hf
      rw [lookup] at hf
      rw [lookupRif]
      split_ifs at hf with isName
      · cases hf
        rw [if_pos rfl]
      · rw [if_neg fun hs => isName (hi.portDistinct hk hf hs)]
        exact hi.rifs hf
    case routed =>
      intro other state' hf routed
      rw [lookup] at hf
      split_ifs at hf with isName
      · cases hf
        exact unprogrammed
      · exact hi.routed hf routed
    case rifPorts =>
      intro port hf
      rw [contains_eq_isSome_getElem?, lookupRif] at hf
      split_ifs at hf with isThis
      · rw [← isThis]
        exact hi.portKnown hk
      · exact hi.rifPorts (mem_iff_isSome_getElem?.mpr hf)
  case toVlanObjects => exact hi.toVlanObjects.of_same rfl rfl later fun _ => rfl
  case toMemberships =>
    refine hi.toMemberships.of_same (fun port switchport => ?_) (fun _ active => active) rfl rfl rfl later
    exact or_congr_left (@held_modify_congr String PortState compare _ w.ports PortState.saiId
      PortState.switchport _ _ name (fun port => { port with rif := rif }) (fun _ => rfl) (fun _ => rfl)
      port switchport)

/-- What a call returns is recorded in the tables. -/
theorem World.Sound.recordCall {Value : Type}
    {effect : Hardware → Value × Hardware} (call : Sai Value) (isCall : call = checked refusal effect)
    (record : Value → World → World) (hi : w.Sound)
    (granted : (record (effect w.hardware).1 { w with hardware := (effect w.hardware).2 }).Sound) :
    (final (do
      let value ← sai call
      modify (record value)) w).Sound := by
  subst isCall
  have calls : Contract (· = w) (sai (checked refusal effect))
      (fun value left => (record value left).Sound) World.Sound :=
    contract_sai (fun _ isStart _ => isStart ▸ granted) fun _ isStart _ => isStart ▸ hi
  exact (calls.bind fun _ => contract_modify fun _ isSound => isSound).final rfl

theorem World.Sound.addSvi (hi : w.Sound) (isVlan : w.IsVlan id state)
    (unfronted : state.rif = none) {record : Oid → World → World}
    (lookup : ∀ (rif : Oid) (hw : Hardware) (other : UInt16),
      (record rif { w with hardware := hw }).vlans[other]? =
        if id = other then some { state with rif := some rif } else w.vlans[other]?)
    (hs : ∀ (rif : Oid) (left : World), record rif left =
      { left with vlans := (record rif left).vlans }) :
    (final (do
      let rif ← sai (createVlanRouterInterface state.oid)
      modify (record rif)) w).Sound := by
  refine hi.recordCall _ rfl record ?_
  rw [hs]
  exact hi.addVlanRif ⟨isVlan, lookup _ _, rfl, rfl, rfl, rfl, rfl, rfl, rfl, Nat.le_succ _⟩
    unfronted rfl (Nat.lt_succ_self _)

theorem World.Sound.setInterfaceAddress (hi : w.Sound) :
    (final (Switching.setInterfaceAddress name) w).Sound := by
  unfold Switching.setInterfaceAddress
  cases svi : sviVlanId name with
  | some id =>
    cases hk : w.vlans[id]? with
    | some state =>
      cases fronted : state.rif with
      | some rif => simpa [final, hk, fronted] using hi
      | none =>
        have added := @addSvi w id state hi (.inl hk) fronted (fun rif => setVlanRif id (some rif))
          (fun rif hw other => by simp [setVlanRif, lookup_modify, hk])
          fun _ _ => rfl
        simpa [final, svi, hk, fronted] using added
    | none =>
      by_cases isDefault : id = 1
      · subst isDefault
        have ha : 1 ∉ w.vlans := by
          rw [mem_iff_isSome_getElem?, hk]
          exact Bool.false_ne_true
        have added := @addSvi w 1 { oid := none, name := "", suspended := false, rif := none } hi
          (.inr ⟨ha, rfl, rfl⟩) rfl
          (fun rif w => { w with vlans := w.vlans.insert 1 ⟨none, "", false, some rif⟩ })
          (fun rif hw other => by simp [lookup_insert]) fun _ _ => rfl
        simpa [final, hk] using added
      · simpa [final, hk, isDefault] using hi
  | none =>
    cases hk : w.ports[name]? with
    | none => simpa [final, svi, hk] using hi
    | some state =>
      cases programmed : state.switchport with
      | some program => simpa [final, hk, programmed] using hi
      | none =>
        cases hr : state.rif with
        | some rif => simpa [final, hk, programmed, hr] using hi
        | none =>
          have added := hi.recordCall (createRouterInterface state.saiId) rfl
            (fun rif w => { w with ports := w.ports.modify name fun port => { port with rif := some rif } })
            (hi.changeRif hk programmed (Nat.le_succ _) fun _ => lookup_insert)
          simpa [final, svi, hk, programmed, hr] using added

theorem World.Sound.clearInterfaceAddress (hi : w.Sound) :
    (final (Switching.clearInterfaceAddress name) w).Sound := by
  unfold Switching.clearInterfaceAddress
  cases svi : sviVlanId name with
  | some id =>
    cases hk : w.vlans[id]? with
    | none => simpa [final, hk] using hi
    | some state =>
      obtain ⟨after, ran, isSound, -⟩ := hi.teardownSvi hk
      simpa [final, hk, ran] using isSound
  | none =>
    cases hk : w.ports[name]? with
    | none => simpa [final, svi, hk] using hi
    | some state =>
      cases hr : state.rif with
      | none => simpa [final, hk, hr] using hi
      | some rif =>
        have dropped := hi.recordCall (removeRouterInterface state.saiId rif) rfl
          (fun _ w => { w with ports := w.ports.modify name fun port => { port with rif := none } })
          (hi.changeRif hk (hi.routed hk (by simp [hr])) (Nat.le_refl _) fun _ => lookup_erase)
        simpa [final, svi, hk, hr] using dropped

end

end Hemlock.Switching
