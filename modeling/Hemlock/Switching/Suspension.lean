import Hemlock.Switching.Aggregation

/-!
# VLANs that are suspended, resumed and removed

A request about a VLAN looks at the physical ports only.  On these it does all that it has
to, and the tables and the switch still agree afterwards.
-/

namespace Hemlock.Switching

open Contracts OrderedMap PortState World VlanState World.Sound

section

variable {κ ν : Type} {cmp : κ → κ → Ordering} [Std.TransCmp cmp] [Std.LawfulEqCmp cmp]
  {table : Std.ExtTreeMap κ ν cmp} {saiId : ν → PortId} {program : ν → Option SwitchportState}

theorem held_map {change : ν → ν} {reprogram : SwitchportState → SwitchportState}
    (saiId_same : ∀ value, saiId (change value) = saiId value)
    (program_map : ∀ value, program (change value) = (program value).map reprogram) {port : PortId}
    {switchport : SwitchportState} : Held (table.map fun _ => change) saiId program port switchport ↔
      ∃ earlier, Held table saiId program port earlier ∧ reprogram earlier = switchport := by
  constructor
  · rintro ⟨key, value, hf, hp, held⟩
    rw [getElem?_map, Option.map_eq_some_iff] at hf
    obtain ⟨earlier, hf, rfl⟩ := hf
    rw [program_map, Option.map_eq_some_iff] at held
    obtain ⟨switchport', held, isSwitchport⟩ := held
    exact ⟨switchport', ⟨key, earlier, hf, (saiId_same earlier) ▸ hp, held⟩, isSwitchport⟩
  · rintro ⟨earlier, ⟨key, value, hf, hp, held⟩, isSwitchport⟩
    refine ⟨key, change value, ?_, (saiId_same value).trans hp, ?_⟩
    · rw [getElem?_map, hf, Option.map_some]
    · rw [program_map, held, Option.map_some, isSwitchport]

end

section

variable {w after : World} {port : PortId} {name : String} {id : UInt16}

variable {switchport : SwitchportState}

theorem World.PortObjects.holds_iff (objects : w.PortObjects)
    (hp : w.hardware.ports.contains port = true) : w.Holds port switchport ↔
      Held w.ports PortState.saiId PortState.switchport port switchport := by
  refine or_iff_left ?_
  rintro ⟨group, lag, hk, rfl, -⟩
  rw [(objects.lagKnown hk).2] at hp
  cases hp

theorem mem_portMembers {hm : Oid} : hm ∈ w.portMembers id ↔
    ∃ (port : PortId) (switchport : SwitchportState) (membership : Membership),
      Held w.ports PortState.saiId PortState.switchport port switchport ∧
        membership ∈ switchport.members ∧ membership.vlan = id ∧ membership.member = hm := by
  simp only [portMembers, List.mem_flatMap, mem_values_iff, Option.mem_toList,
    List.mem_map, List.mem_filter, decide_eq_true_eq]
  constructor
  · rintro ⟨state, ⟨name, hk⟩, switchport, held, membership, ⟨hl, inVlan⟩, isMember⟩
    exact ⟨state.saiId, switchport, membership, ⟨name, state, hk, rfl, held⟩, hl, inVlan, isMember⟩
  · rintro ⟨port, switchport, membership, ⟨name, state, hk, -, held⟩, hl, inVlan, isMember⟩
    exact ⟨state, ⟨name, hk⟩, switchport, held, membership, ⟨hl, inVlan⟩, isMember⟩

theorem World.Sound.mem_portMembers (hi : w.Sound) {hm : Oid} :
    hm ∈ w.portMembers id ↔ ∃ port membership, w.hardware.ports.contains port = true ∧
      w.record port membership ∧ membership.vlan = id ∧ membership.member = hm := by
  rw [Switching.mem_portMembers]
  constructor
  · rintro ⟨port, switchport, membership, held, hl, inVlan, isMember⟩
    have isHeld := held
    obtain ⟨name, state, hk, rfl, -⟩ := isHeld
    exact ⟨_, membership, hi.portKnown hk, ⟨switchport, .inl held, hl⟩, inVlan, isMember⟩
  · rintro ⟨port, membership, hp, ⟨switchport, holds, hl⟩, inVlan, isMember⟩
    exact ⟨port, switchport, membership, (hi.holds_iff hp).mp holds, hl, inVlan, isMember⟩

theorem World.Sound.nodup_portMembers (hi : w.Sound) : (w.portMembers id).Nodup := by
  rw [portMembers, ← Std.ExtTreeMap.map_snd_toList, List.flatMap_map, List.nodup_flatMap]
  constructor
  · rintro ⟨name, state⟩ hl
    have hk := mem_toList_iff_getElem?_eq_some.mp hl
    cases held : state.switchport with
    | none => simp
    | some switchport =>
      have hr := hi.recorded fun _ => hi.holds_port hk
      rw [held] at hr
      simpa [members] using hr.nodup.sublist (List.filter_sublist.map _)
  · have hd := w.ports.distinct_keys_toList
    refine List.Pairwise.imp_of_mem ?_ hd
    rintro ⟨name, state⟩ ⟨name', state'⟩ hl hl' ne hm isMember hm'
    have hk := mem_toList_iff_getElem?_eq_some.mp hl
    have hk' := mem_toList_iff_getElem?_eq_some.mp hl'
    simp only [List.mem_flatMap, Option.mem_toList, List.mem_map, List.mem_filter] at isMember hm'
    obtain ⟨switchport, held, membership, ⟨isListed, -⟩, rfl⟩ := isMember
    obtain ⟨switchport', held', membership', ⟨isListed', -⟩, hs⟩ := hm'
    have hr : w.record state.saiId membership :=
      ⟨switchport, (hi.holds_port hk).mpr held, isListed⟩
    have hr' : w.record state'.saiId membership' :=
      ⟨switchport', (hi.holds_port hk').mpr held', isListed'⟩
    have sameObject := (hi.tracked.separate hr' hr hs).1
    exact ne (Std.LawfulEqCmp.compare_eq_iff_eq.mpr (hi.portDistinct hk hk' sameObject.symm))

variable {vlans : VlanMap VlanState}

theorem World.Sound.removeMembers_port (hi : w.Sound) :
    removeMembers (w.portMembers id) { w with vlans := vlans } =
      .ok () (eraseMembers (w.portMembers id) { w with vlans := vlans }) := by
  refine removeMembers_ok hi.nodup_portMembers fun hm hl => ?_
  obtain ⟨port, membership, hp, hr, -, rfl⟩ := hi.mem_portMembers.mp hl
  exact hi.attached hp hr

/-- The world without the memberships of physical ports in a VLAN. -/
def World.detach (id : UInt16) (w : World) : World :=
  World.leaveVlan id (w.eraseMembers (w.portMembers id))

theorem SwitchportState.Valid.leave (valid : switchport.Valid) : (switchport.leave id).Valid where
  distinct := valid.distinct.sublist (List.filter_sublist.map _)
  refers := fun membership hl => valid.refers membership (List.mem_of_mem_filter hl)

theorem held_detach : Held (w.detach id).ports PortState.saiId PortState.switchport port switchport ↔
      ∃ earlier, Held w.ports PortState.saiId PortState.switchport port earlier ∧
        earlier.leave id = switchport :=
  @held_map String PortState compare _ _ w.ports PortState.saiId PortState.switchport
    (PortState.mapSwitchport (.leave id)) (.leave id) (fun _ => rfl) (fun _ => rfl) port switchport

variable {membership : Membership}

theorem World.Sound.record_detach (hi : w.Sound) :
    (w.detach id).record port membership ↔ w.record port membership ∧
      (w.hardware.ports.contains port = true → membership.vlan ≠ id) := by
  constructor
  · rintro ⟨switchport, held | held, hl⟩
    · obtain ⟨earlier, isHeld, rfl⟩ := held_detach.mp held
      obtain ⟨isListed, ne⟩ := List.mem_filter.mp hl
      exact ⟨⟨earlier, .inl isHeld, isListed⟩, fun _ => by simpa using ne⟩
    · refine ⟨⟨switchport, .inr held, hl⟩, fun hp => ?_⟩
      obtain ⟨group, lag, hk, rfl, -⟩ := held
      rw [(hi.lagKnown hk).2] at hp
      cases hp
  · rintro ⟨⟨switchport, held | held, hl⟩, elsewhere⟩
    · have isHeld := held
      obtain ⟨name, state, hk, rfl, -⟩ := isHeld
      refine ⟨switchport.leave id, .inl (held_detach.mpr ⟨switchport, held, rfl⟩), ?_⟩
      exact List.mem_filter.mpr ⟨hl, by simpa using elsewhere (hi.portKnown hk)⟩
    · exact ⟨switchport, .inr held, hl⟩

theorem World.Sound.detach (hi : w.Sound)
    (objects : ∀ other : UInt16, vlans[other]?.map objects =
      w.vlans[other]?.map objects)
    (active : ∀ other ≠ id, w.Active other → World.Active { w.detach id with vlans := vlans } other) :
    World.Sound { w.detach id with vlans := vlans } where
  toPortObjects := by
    refine hi.toPortObjects.of_same ⟨rfl, rfl, rfl, Nat.le_refl _⟩
      (fun {name state} hf => ?_) fun hf => ⟨_, hf, rfl⟩
    simp only [World.detach, World.leaveVlan, getElem?_map,
      Option.map_eq_some_iff] at hf
    obtain ⟨earlier, hk, rfl⟩ := hf
    exact ⟨fun routed => by simp [mapSwitchport, hi.routed hk routed], earlier, hk, rfl, rfl⟩
  toVlanObjects := hi.toVlanObjects.of_same rfl rfl (Nat.le_refl _) objects
  tracked := by
    refine (hi.tracked.eraseMembers (w.portMembers id)).forget
      (fun port membership hr => (hi.record_detach.mp hr).1) fun {hm entry} hf => ?_
    obtain ⟨kept, hf⟩ := getElem?_eraseMembers.mp hf
    obtain ⟨membership, hr, rfl⟩ := hi.tracked.known hf
    refine ⟨membership, hi.record_detach.mpr ⟨hr, fun hp inVlan => kept ?_⟩, rfl⟩
    exact hi.mem_portMembers.mpr ⟨entry.port, membership, hp, hr, inVlan, rfl⟩
  valid := by
    rintro port switchport (held | held)
    · obtain ⟨earlier, isHeld, rfl⟩ := held_detach.mp held
      exact (hi.valid (.inl isHeld)).leave
    · exact hi.valid (.inr held)
  attached := by
    intro port membership hp hr
    obtain ⟨hr, elsewhere⟩ := hi.record_detach.mp hr
    obtain ⟨entry, hf⟩ := exists_of_mem (hi.attached hp hr)
    refine mem_of_lookup (getElem?_eraseMembers.mpr ⟨fun gone => ?_, hf⟩)
    obtain ⟨other, membership', -, hr', inVlan, hs⟩ := hi.mem_portMembers.mp gone
    obtain ⟨-, rfl⟩ := hi.tracked.separate hr' hr hs
    exact elsewhere hp inVlan
  active := by
    intro port membership hp hr
    obtain ⟨hr, elsewhere⟩ := hi.record_detach.mp hr
    exact active _ (elsewhere hp) (hi.active hp hr)

variable {entry : String × PortId × Bool}

theorem mem_missing : entry ∈ w.missing id ↔
    ∃ state switchport, w.ports[entry.1]? = some state ∧ state.switchport = some switchport ∧
      switchport.isMember id = false ∧ switchport.tagging id = some entry.2.2 ∧
      state.saiId = entry.2.1 := by
  simp only [missing, List.mem_filterMap, Prod.exists, mem_toList_iff_getElem?_eq_some]
  constructor
  · rintro ⟨name, state, hk, isEntry⟩
    simp only [Option.bind_eq_bind, Option.bind_none, Option.bind_eq_some_iff,
      Option.ite_none_left_eq_some, Bool.not_eq_true] at isEntry
    obtain ⟨switchport, held, hm, tagged, tagging, ⟨⟩⟩ := isEntry
    exact ⟨state, switchport, hk, held, hm, tagging, rfl⟩
  · rintro ⟨state, switchport, hk, held, hm, tagging, ho⟩
    exact ⟨entry.1, state, hk, by simp [held, hm, tagging, ho]⟩

theorem pairwise_missing : (w.missing id).Pairwise fun first second => first.1 ≠ second.1 := by
  refine List.Pairwise.filterMap _ ?_ w.ports.distinct_keys_toList
  rintro ⟨name, state⟩ ⟨name', state'⟩ ne entry isEntry entry' isEntry' hs
  simp only [Option.bind_eq_bind, Option.bind_none, Option.bind_eq_some_iff,
    Option.ite_none_left_eq_some] at isEntry isEntry'
  obtain ⟨_, -, -, _, -, ⟨⟩⟩ := isEntry
  obtain ⟨_, -, -, _, -, ⟨⟩⟩ := isEntry'
  exact ne (Std.LawfulEqCmp.compare_eq_iff_eq.mpr hs)

def World.join (w : World) (vlan : Oid) (id : UInt16) (entry : String × PortId × Bool) : World :=
  World.recordMember entry.1 ⟨id, w.hardware.next, entry.2.2⟩
    { w with hardware := w.hardware.addMember vlan entry.2.1 entry.2.2 }

theorem SwitchportState.isMember_eq_false :
    switchport.isMember id = false ↔ ∀ membership ∈ switchport.members, membership.vlan ≠ id := by
  simp [SwitchportState.isMember]

theorem SwitchportState.isMember_join : (switchport.join membership).isMember membership.vlan = true := by
  simp [SwitchportState.isMember, SwitchportState.join]

theorem SwitchportState.Valid.join (valid : switchport.Valid)
    (ha : switchport.isMember membership.vlan = false)
    (tagging : switchport.tagging membership.vlan = some membership.tagged) :
    (switchport.join membership).Valid where
  distinct := by
    rw [SwitchportState.join, List.map_append, List.nodup_append]
    refine ⟨valid.distinct, by simp, fun vlan hl other isNew => ?_⟩
    obtain ⟨membership', isListed, rfl⟩ := List.mem_map.mp hl
    rw [List.map_singleton, List.mem_singleton] at isNew
    subst isNew
    exact SwitchportState.isMember_eq_false.mp ha membership' isListed
  refers := by
    intro membership' hl
    rcases List.mem_append.mp hl with earlier | isNew
    · exact valid.refers membership' earlier
    · rw [List.mem_singleton] at isNew
      exact isNew ▸ tagging

variable {vlan : Oid}

theorem join_eq {tagged : Bool} {state : PortState} (hk : w.ports[name]? = some state)
    (held : state.switchport = some switchport) :
    w.join vlan id (name, state.saiId, tagged) = { w with
        ports := w.ports.modify name fun port =>
          { port with switchport := some (switchport.join ⟨id, w.hardware.next, tagged⟩) }
        hardware := w.hardware.addMember vlan state.saiId tagged } := by
  unfold join recordMember
  congr 1
  refine ext_getElem? fun other => ?_
  rw [lookup_modify, lookup_modify]
  simp [hk, mapSwitchport, held]

theorem World.Sound.attach (hi : w.Sound) (object : w.vlanObject id = some vlan)
    (active : w.Active id) (missing : entry ∈ w.missing id) :
    attach vlan id entry w = .ok () (w.join vlan id entry) ∧ (w.join vlan id entry).Sound := by
  obtain ⟨state, switchport, hk, held, ha, tagging, ho⟩ := mem_missing.mp missing
  obtain ⟨name, object', tagged⟩ := entry
  subst ho
  have unrouted : state.rif = none := by
    by_contra routed
    rw [hi.routed hk routed] at held
    cases held
  have hr := hi.recorded fun _ => hi.holds_port hk
  have inSwitch : w.hardware.vlans[id]? = some vlan := (hi.objects id).trans object
  have lacks (membership : Membership) (isRecorded : w.record state.saiId membership) :
      membership.vlan ≠ id := by
    rw [← set_record fun _ => hi.holds_port hk, Record.set_self, held] at isRecorded
    exact SwitchportState.isMember_eq_false.mp ha membership isRecorded
  have granted := @addVlanMember_ok w _ state.saiId id vlan tagged (hi.bridged_port hk unrouted)
    hi.tracked inSwitch lacks
  refine ⟨bind_of_ok granted, ?_⟩
  rw [join_eq hk held]
  rw [held] at hr
  have retained {hm : Oid} {entry : VlanMember} (hf : w.hardware.vlanMembers[hm]? = some entry) :
      (w.hardware.addMember vlan state.saiId tagged).vlanMembers[hm]? = some entry := by
    rw [getElem?_addMember, if_neg]
    · exact hf
    · rintro rfl
      rw [hi.tracked.fresh] at hf
      cases hf
  refine hi.reprogram_port hk (fun routed => absurd unrouted routed) sameBridge_addMember ⟨rfl,
    hr.tracked.addMember inSwitch (gains_append _ _ _), fun hf _ => retained hf, ?_⟩ ?_
  · rintro joined isJoined
    cases isJoined
    exact (hi.valid ((hi.holds_port hk).mpr held)).join ha tagging
  · intro membership hl
    rcases List.mem_append.mp hl with earlier | isNew
    · have isRecorded := hr.recorded membership earlier
      obtain ⟨entry, hf⟩ := exists_of_mem (hi.attached (hi.portKnown hk) isRecorded)
      exact ⟨mem_of_lookup (retained hf), hi.active (hi.portKnown hk) isRecorded⟩
    · rw [List.mem_singleton] at isNew
      subst isNew
      have hf : (w.hardware.addMember vlan state.saiId tagged).vlanMembers[w.hardware.next]? =
          some ⟨vlan, state.saiId, tagged⟩ := by rw [getElem?_addMember, if_pos rfl]
      exact ⟨mem_of_lookup hf, active⟩

theorem mem_missing_join {other : String × PortId × Bool} (missing : entry ∈ w.missing id) :
    other ∈ (w.join vlan id entry).missing id ↔ other ∈ w.missing id ∧ other.1 ≠ entry.1 := by
  obtain ⟨state, switchport, hk, held, ha, tagging, ho⟩ := mem_missing.mp missing
  have lookup : (w.join vlan id entry).ports[other.1]? = if entry.1 = other.1 then
      some (state.mapSwitchport (.join ⟨id, w.hardware.next, entry.2.2⟩))
      else w.ports[other.1]? := by
    simp only [join, recordMember, lookup_modify, hk, Option.map_some]
  rw [mem_missing, mem_missing, lookup]
  split_ifs with hs
  · constructor
    · rintro ⟨state', switchport', isState, isHeld, isAbsent, -⟩
      cases isState
      simp only [mapSwitchport, held, Option.map_some, Option.some.injEq] at isHeld
      subst isHeld
      exact absurd SwitchportState.isMember_join (Bool.not_eq_true _ ▸ isAbsent)
    · exact fun ⟨_, ne⟩ => absurd hs.symm ne
  · exact (and_iff_left (Ne.symm hs)).symm

/-- A program without what came of it. -/
def SwitchportState.program (switchport : SwitchportState) : SwitchportState :=
  { switchport with members := [] }

def PortState.programmed (port : PortState) : PortId × Option SwitchportState :=
  (port.saiId, port.switchport.map SwitchportState.program)

theorem PortState.programmed_mapSwitchport {change : SwitchportState → SwitchportState}
    (hs : ∀ switchport, (change switchport).program = switchport.program) (port : PortState) :
    (port.mapSwitchport change).programmed = port.programmed := by
  unfold programmed mapSwitchport
  rw [Option.map_map]
  exact congrArg (fun change => (port.saiId, port.switchport.map change)) (funext hs)

structure World.OnPorts (w after : World) : Prop where
  lags : after.lags = w.lags
  programs : ∀ name : String,
    after.ports[name]?.map PortState.programmed = w.ports[name]?.map PortState.programmed
  ports : after.hardware.ports = w.hardware.ports
  defaultMembers : after.hardware.defaultMembers = w.hardware.defaultMembers
  others : ∀ {member : Oid} {entry : VlanMember}, w.hardware.ports.contains entry.port = false →
    (after.hardware.vlanMembers[member]? = some entry ↔
      w.hardware.vlanMembers[member]? = some entry)

theorem World.OnPorts.refl (w : World) : w.OnPorts w :=
  ⟨rfl, fun _ => rfl, rfl, rfl, fun _ => Iff.rfl⟩

theorem World.OnPorts.trans {last : World} (onPorts : w.OnPorts after) (more : after.OnPorts last) :
    w.OnPorts last where
  lags := more.lags.trans onPorts.lags
  programs := fun name => (more.programs name).trans (onPorts.programs name)
  ports := more.ports.trans onPorts.ports
  defaultMembers := more.defaultMembers.trans onPorts.defaultMembers
  others := by
    intro hm entry notPort
    rw [more.others (onPorts.ports ▸ notPort), onPorts.others notPort]

theorem World.Sound.onPorts_detach (hi : w.Sound) : w.OnPorts (w.detach id) where
  lags := rfl
  programs := by
    intro name
    simp only [World.detach, World.leaveVlan, getElem?_map, Option.map_map]
    exact congrArg (Option.map · _) (funext (programmed_mapSwitchport fun _ => rfl))
  ports := rfl
  defaultMembers := rfl
  others := by
    intro hm entry notPort
    refine getElem?_eraseMembers.trans (and_iff_right_of_imp fun hf gone => ?_)
    obtain ⟨port, membership, hp, hr, -, rfl⟩ := hi.mem_portMembers.mp gone
    rw [(hi.tracked.own hr hf).1, hp] at notPort
    cases notPort

theorem World.Sound.onPorts_join (hi : w.Sound) (missing : entry ∈ w.missing id) :
    w.OnPorts (w.join vlan id entry) where
  lags := rfl
  programs := by
    intro name
    simp only [join, recordMember, lookup_modify]
    split_ifs with isName
    · rw [isName, Option.map_map]
      exact congrArg (Option.map · _) (funext (programmed_mapSwitchport fun _ => rfl))
    · rfl
  ports := rfl
  defaultMembers := rfl
  others := by
    intro hm other notPort
    obtain ⟨state, switchport, hk, -, -, -, ho⟩ := mem_missing.mp missing
    refine Iff.trans (Eq.congr_left getElem?_addMember) ?_
    split_ifs with isNew
    · subst isNew
      rw [hi.tracked.fresh]
      simp only [Option.some.injEq, reduceCtorEq, iff_false]
      rintro rfl
      rw [← ho, hi.portKnown hk] at notPort
      cases notPort
    · rfl

structure World.Attached (w after : World) (id : UInt16) : Prop where
  sound : after.Sound
  onPorts : w.OnPorts after
  vlans : after.vlans = w.vlans
  hardwareVlans : after.hardware.vlans = w.hardware.vlans
  complete : ∀ entry, entry ∉ after.missing id

theorem World.Sound.attachAll {entries : List (String × PortId × Bool)} (hi : w.Sound)
    (object : w.vlanObject id = some vlan) (active : w.Active id)
    (hd : entries.Pairwise fun first second => first.1 ≠ second.1)
    (missing : ∀ entry, entry ∈ entries ↔ entry ∈ w.missing id) :
    ∃ after, each (Switching.attach vlan id) entries w = .ok () after ∧ w.Attached after id := by
  induction entries generalizing w with
  | nil =>
    refine ⟨w, rfl, hi, .refl w, rfl, rfl, fun entry hl => ?_⟩
    exact List.not_mem_nil ((missing entry).mpr hl)
  | cons entry rest ih =>
    have isMissing := (missing entry).mp (List.mem_cons_self ..)
    obtain ⟨ran, isSound⟩ := hi.attach object active isMissing
    rw [List.pairwise_cons] at hd
    have left (other : String × PortId × Bool) :
        other ∈ rest ↔ other ∈ (w.join vlan id entry).missing id := by
      rw [mem_missing_join isMissing, ← missing, List.mem_cons]
      constructor
      · intro hl
        exact ⟨.inr hl, (hd.1 other hl).symm⟩
      · rintro ⟨rfl | hl, ne⟩
        · exact absurd rfl ne
        · exact hl
    obtain ⟨after, returns, attached⟩ :=
      ih isSound object active hd.2 left
    refine ⟨after, (bind_of_ok ran).trans returns, attached.sound,
      (hi.onPorts_join isMissing).trans attached.onPorts, attached.vlans, attached.hardwareVlans,
      attached.complete⟩

variable {state : VlanState}

theorem World.Sound.reviseVlan {state' : VlanState} (hi : w.Sound)
    (hk : w.vlans[id]? = some state) (objects : state'.objects = state.objects)
    (keeps : state.suspended = false → state'.suspended = false) :
    World.Sound { w with vlans := w.vlans.insert id state' } := by
  refine ⟨hi.toPortObjects.of_same (.refl _) (fun hf => ⟨hi.routed hf, _, hf, rfl, rfl⟩)
    fun hf => ⟨_, hf, rfl⟩, hi.toVlanObjects.of_same rfl rfl (Nat.le_refl _) fun other => ?_,
    hi.toMemberships.of_same (fun _ _ => Iff.rfl) (fun other active => ?_) rfl rfl rfl (Nat.le_refl _)⟩
  · rw [lookup_insert]
    split_ifs with isId
    · rw [← isId, hk, Option.map_some, Option.map_some, objects]
    · rfl
  · obtain ⟨earlier, hk', unsuspended⟩ := active
    rw [World.Active, lookup_insert]
    split_ifs with isId
    · rw [← isId, hk] at hk'
      cases hk'
      exact ⟨state', rfl, keeps unsuspended⟩
    · exact ⟨earlier, hk', unsuspended⟩

theorem World.VlanObjects.undefined (objects : w.VlanObjects) (hu : w.vlans[id]? = none) :
    w.hardware.vlans[id]? = none := by
  rw [objects.objects, vlanObject, hu, Option.bind_none]

/-- The object of a VLAN that is new: none for the default one. -/
def Hardware.defineVlan (hw : Hardware) (id : UInt16) : Option Oid → Hardware
  | none => hw
  | some oid => { hw with next := oid + 1, vlans := hw.vlans.insert id oid }

variable {hw : Hardware} {oid : Option Oid}

theorem samePorts_defineVlan (fresh : ∀ object, oid = some object → object = hw.next) :
    hw.SamePorts (hw.defineVlan id oid) := by
  cases oid with
  | none => exact .refl _
  | some object => exact ⟨rfl, rfl, rfl, Nat.le_succ_of_le (Nat.le_of_eq (fresh object rfl).symm)⟩

theorem vlanMembers_defineVlan (oid : Option Oid) :
    (hw.defineVlan id oid).vlanMembers = hw.vlanMembers := by
  cases oid <;> rfl

theorem vlanRifs_defineVlan (oid : Option Oid) : (hw.defineVlan id oid).vlanRifs = hw.vlanRifs := by
  cases oid <;> rfl

theorem getElem?_defineVlan {other : UInt16} (ha : hw.vlans[id]? = none) :
    (hw.defineVlan id oid).vlans[other]? = if id = other then oid else hw.vlans[other]? := by
  cases oid with
  | none =>
    split_ifs with isId
    · exact isId ▸ ha
    · rfl
  | some object =>
    simp only [Hardware.defineVlan, lookup_insert]

def World.Vacant (w : World) (id : UInt16) : Prop :=
  ∀ {member : Oid} {entry : VlanMember}, w.hardware.vlanMembers[member]? = some entry →
    w.hardware.vlans[id]? ≠ some entry.vlan

/-- A VLAN that nothing is in and that has no router interface is defined or removed. -/
structure World.Redefines (w : World) (id : UInt16) (row : Option VlanState) (vlans : VlanMap VlanState)
    (hw : Hardware) : Prop where
  lookup : ∀ other : UInt16, vlans[other]? = if id = other then row else w.vlans[other]?
  object : ∀ other : UInt16, hw.vlans[other]? =
    if id = other then row.bind VlanState.oid else w.hardware.vlans[other]?
  same : w.hardware.SamePorts hw
  vlanRifs : hw.vlanRifs = w.hardware.vlanRifs
  vlanMembers : hw.vlanMembers = w.hardware.vlanMembers
  named : ∀ state, row = some state → (state.oid = none ↔ id = 1)
  fresh : ∀ vlan, row.bind VlanState.oid = some vlan → vlan = w.hardware.next ∧ vlan < hw.next
  unfronted : ∀ state, row = some state ∨ w.vlans[id]? = some state → state.rif = none
  vacant : w.Vacant id
  left : ∀ port membership, w.hardware.ports.contains port = true → w.record port membership →
    membership.vlan ≠ id

section

variable {row : Option VlanState} (redefines : w.Redefines id row vlans hw)
include redefines

theorem World.VlanObjects.redefine (objects : w.VlanObjects) :
    World.VlanObjects { w with vlans := vlans, hardware := hw } := by
  have object (other : UInt16) : vlanObject { w with vlans := vlans, hardware := hw } other =
      if id = other then row.bind VlanState.oid else w.vlanObject other := by
    rw [vlanObject, redefines.lookup]
    split_ifs <;> rfl
  constructor
  case objects =>
    intro other
    rw [redefines.object, object, objects.objects]
  case plain =>
    rw [object]
    split_ifs with isId
    · cases isRow : row with
      | none => rfl
      | some state => exact (redefines.named state isRow).mpr isId
    · exact objects.plain
  case created =>
    intro other state' hk' ne
    rw [redefines.lookup] at hk'
    split_ifs at hk' with isId
    · exact fun absent => ne (isId ▸ (redefines.named state' hk').mp absent)
    · exact objects.created hk' ne
  case vlanNumbered =>
    intro other vlan hf
    rw [redefines.object] at hf
    split_ifs at hf with isId
    · exact (redefines.fresh vlan hf).2
    · exact Nat.lt_of_lt_of_le (objects.vlanNumbered hf) redefines.same.next
  case fronts =>
    intro other state' rif hk' held
    rw [redefines.lookup] at hk'
    rw [redefines.vlanRifs]
    split_ifs at hk' with isId
    · rw [redefines.unfronted state' (.inl hk')] at held
      cases held
    · exact objects.fronts hk' held
  case rifKnown =>
    intro rif vlan hf
    rw [redefines.vlanRifs] at hf
    obtain ⟨other, state', hk', held, isVlan⟩ := objects.rifKnown hf
    refine ⟨other, state', ?_, held, isVlan⟩
    rw [redefines.lookup, if_neg]
    · exact hk'
    · rintro rfl
      rw [redefines.unfronted state' (.inr hk')] at held
      cases held
  case rifNumbered =>
    intro rif hf
    rw [redefines.vlanRifs] at hf
    exact Nat.lt_of_lt_of_le (objects.rifNumbered hf) redefines.same.next

theorem World.Sound.redefine (hi : w.Sound) : World.Sound { w with vlans := vlans, hardware := hw } where
  toPortObjects := hi.toPortObjects.of_same redefines.same (fun hf => ⟨hi.routed hf, _, hf, rfl, rfl⟩)
    fun hf => ⟨_, hf, rfl⟩
  toVlanObjects := hi.toVlanObjects.redefine redefines
  tracked := by
    constructor
    case known =>
      intro hm entry hf
      rw [redefines.vlanMembers] at hf
      exact hi.tracked.known hf
    case own =>
      intro port membership entry hr hf
      rw [redefines.vlanMembers] at hf
      obtain ⟨hp, isTagged, isVlan⟩ := hi.tracked.own hr hf
      refine ⟨hp, isTagged, ?_⟩
      rw [redefines.object, if_neg]
      · exact isVlan
      · rintro rfl
        exact redefines.vacant hf isVlan
    case separate => exact hi.tracked.separate
    case numbered => exact fun hr => Nat.lt_of_lt_of_le (hi.tracked.numbered hr) redefines.same.next
    case distinct =>
      intro first second vlan hf hf'
      rw [redefines.object] at hf hf'
      split_ifs at hf hf' with isFirst isSecond isSecond
      · exact isFirst.symm.trans isSecond
      · exact absurd (redefines.fresh vlan hf).1 (Nat.ne_of_lt (hi.vlanNumbered hf'))
      · exact absurd (redefines.fresh vlan hf').1 (Nat.ne_of_lt (hi.vlanNumbered hf))
      · exact hi.tracked.distinct hf hf'
  valid := hi.valid
  attached := by
    intro port membership hp hr
    rw [redefines.vlanMembers]
    exact hi.attached (redefines.same.ports ▸ hp) hr
  active := by
    intro port membership hp hr
    rw [redefines.same.ports] at hp
    obtain ⟨earlier, hk, unsuspended⟩ := hi.active hp hr
    refine ⟨earlier, ?_, unsuspended⟩
    rw [redefines.lookup, if_neg (Ne.symm (redefines.left port membership hp hr))]
    exact hk

end

theorem World.Sound.defineVlan (hi : w.Sound) (hu : w.vlans[id]? = none)
    (object : state.oid = if id = 1 then none else some w.hardware.next)
    (unfronted : state.rif = none) :
    World.Sound { w with
        vlans := w.vlans.insert id state
        hardware := w.hardware.defineVlan id state.oid } := by
  have undefined := hi.undefined hu
  have fresh (vlan : Oid) (isVlan : state.oid = some vlan) : vlan = w.hardware.next := by
    rw [object] at isVlan
    split_ifs at isVlan
    exact (Option.some.inj isVlan).symm
  refine @redefine w id _ _ (some state) ⟨fun _ => lookup_insert, fun _ =>
    getElem?_defineVlan undefined, samePorts_defineVlan fresh, vlanRifs_defineVlan _, vlanMembers_defineVlan _,
    ?_, fun vlan isVlan => ⟨fresh vlan isVlan, ?_⟩, ?_, ?_, ?_⟩ hi
  · rintro _ ⟨⟩
    rw [object]
    split_ifs with isDefault <;> simp [isDefault]
  · rw [Option.bind_some] at isVlan
    rw [isVlan]
    exact Nat.lt_succ_self vlan
  · rintro _ (⟨⟨⟩⟩ | hk)
    · exact unfronted
    · rw [hu] at hk
      cases hk
  · intro hm entry _
    rw [undefined]
    exact (Option.some_ne_none _).symm
  · rintro port membership hp hr rfl
    obtain ⟨earlier, hk, -⟩ := hi.active hp hr
    rw [hu] at hk
    cases hk

/-- What defining a VLAN, suspending or resuming it leaves. -/
structure World.Ensured (w after : World) (id : UInt16) (suspend : Bool) : Prop where
  sound : after.Sound
  onPorts : w.OnPorts after
  recorded : ∃ state, after.vlans[id]? = some state ∧ state.suspended = suspend
  object : after.hardware.vlans[id]? = w.hardware.vlans[id]? ∨
    w.hardware.vlans[id]? = none ∧ after.hardware.vlans[id]? = some w.hardware.next
  complete : ∀ state, w.vlans[id]? = some state → state.suspended = true → suspend = false →
    id ≠ 1 → ∀ entry, entry ∉ after.missing id

theorem World.Sound.newVlan_ok (hi : w.Sound) (hu : w.vlans[id]? = none) :
    newVlan id none w = .ok (if id = 1 then none else some w.hardware.next) { w with
        hardware := w.hardware.defineVlan id (if id = 1 then none else some w.hardware.next) } := by
  unfold newVlan
  by_cases isDefault : id = 1
  · simp [isDefault, Hardware.defineVlan]
  · have undefined := hi.undefined hu
    have ha : id ∉ w.hardware.vlans := by
      rw [mem_iff_isSome_getElem?, undefined]
      exact Bool.false_ne_true
    have created : sai (Hardware.createVlan id) w = _ :=
      sai_checked (by simp [Hardware.first, isDefault, ha])
    simp [isDefault, map_of_ok created, Hardware.defineVlan]

variable {req : EnsureVlanRequest}

theorem World.Sound.ensureNew (hi : w.Sound) (hu : w.vlans[id]? = none) :
    w.Ensured (recordVlan id (if id = 1 then none else some w.hardware.next) req
      { w with
        hardware := w.hardware.defineVlan id (if id = 1 then none else some w.hardware.next) })
      id req.suspend := by
  have undefined := hi.undefined hu
  generalize isObject : (if id = 1 then none else some w.hardware.next) = object
  have hr : recordVlan id object req { w with hardware := w.hardware.defineVlan id object } =
      { w with
        vlans := w.vlans.insert id { oid := object, name := req.name, suspended := req.suspend }
        hardware := w.hardware.defineVlan id object } := by
    simp [recordVlan, hu]
  rw [hr]
  constructor
  case sound =>
    exact @defineVlan w id
      { oid := object, name := req.name, suspended := req.suspend } hi hu isObject.symm rfl
  case onPorts =>
    refine ⟨rfl, fun _ => rfl, ?_, ?_, fun {hm entry} _ => ?_⟩
    · cases object <;> rfl
    · cases object <;> rfl
    · rw [vlanMembers_defineVlan]
  case recorded => exact ⟨_, getElem?_insert_self, rfl⟩
  case object =>
    rw [getElem?_defineVlan undefined, if_pos rfl, ← isObject]
    split_ifs
    · exact .inl undefined.symm
    · exact .inr ⟨undefined, rfl⟩
  case complete =>
    intro state hk
    rw [hu] at hk
    cases hk

/-- The record of a VLAN that is known. -/
def VlanState.revise (state : VlanState) (req : EnsureVlanRequest) : VlanState :=
  { state with name := req.name, suspended := req.suspend }

theorem recordVlan_known (hk : w.vlans[id]? = some state) : w.recordVlan id none req =
      { w with vlans := w.vlans.insert id (state.revise req) } := by
  simp [recordVlan, hk, revise]

theorem World.OnPorts.setVlans (onPorts : w.OnPorts after) : w.OnPorts { after with vlans := vlans } :=
  { onPorts with }

theorem World.Sound.suspend (hi : w.Sound) (hk : w.vlans[id]? = some state)
    (suspends : req.suspend = true) :
    ∃ after, reconcileVlanSuspension id true (w.recordVlan id none req) = .ok () after ∧
      w.Ensured after id true := by
  refine ⟨{ w.detach id with vlans := w.vlans.insert id (state.revise req) }, ?_, ?_⟩
  · rw [recordVlan_known hk]
    exact bind_of_ok hi.removeMembers_port
  constructor
  case sound =>
    refine hi.detach (fun other => ?_) fun other ne active => ?_
    · rw [lookup_insert]
      split_ifs with isId
      · rw [← isId, hk]
        rfl
      · rfl
    · rw [World.Active, lookup_insert, if_neg (Ne.symm ne)]
      exact active
  case onPorts => exact hi.onPorts_detach.setVlans
  case recorded => exact ⟨_, by rw [lookup_insert, if_pos rfl], suspends⟩
  case object => exact .inl rfl
  case complete => exact fun _ _ _ isFalse => Bool.noConfusion isFalse

theorem World.Sound.resume (hi : w.Sound) (hk : w.vlans[id]? = some state)
    (resumes : req.suspend = false) :
    ∃ after, reconcileVlanSuspension id false (w.recordVlan id none req) = .ok () after ∧
      w.Ensured after id false := by
  have isSound := hi.reviseVlan hk (rfl : (state.revise req).objects = state.objects) fun _ => resumes
  rw [recordVlan_known hk]
  generalize isRevised : ({ w with vlans := w.vlans.insert id (state.revise req) } : World) =
    revised at isSound
  have hk' : revised.vlans[id]? = some (state.revise req) := by simp [← isRevised]
  have onPorts : w.OnPorts revised := isRevised ▸ (World.OnPorts.refl w).setVlans
  have hw : revised.hardware = w.hardware := by rw [← isRevised]
  unfold reconcileVlanSuspension
  cases ho : revised.vlanObject id with
  | none =>
    refine ⟨revised, by simp [ho], isSound, onPorts, ⟨_, hk', resumes⟩, .inl (by rw [hw]),
      fun _ _ _ _ ne => ?_⟩
    rw [vlanObject, hk'] at ho
    exact absurd ho (isSound.created hk' ne)
  | some vlan =>
    obtain ⟨after, ran, attached⟩ := isSound.attachAll ho ⟨_, hk', resumes⟩
      pairwise_missing fun _ => Iff.rfl
    refine ⟨after, by simpa [ho] using ran, attached.sound, onPorts.trans attached.onPorts,
      ⟨_, attached.vlans ▸ hk', resumes⟩, .inl (by rw [attached.hardwareVlans, hw]),
      fun _ _ _ _ _ => attached.complete⟩

theorem World.Sound.ensureVlan (hi : w.Sound) (valid : vlanId req.id = .ok id) :
    ∃ after, Switching.ensureVlan req w = .ok () after ∧ w.Ensured after id req.suspend := by
  unfold Switching.ensureVlan
  rw [valid, settle_ok_bind_apply, get_bind_apply]
  cases hk : w.vlans[id]? with
  | none =>
    refine ⟨_, bind_of_ok (hi.newVlan_ok hk), ?_⟩
    exact hi.ensureNew hk
  | some state =>
    have hs : newVlan id (some state) w = .ok none w := by simp [newVlan]
    rw [bind_of_ok hs]
    by_cases flips : state.suspended = req.suspend
    · refine ⟨w.recordVlan id none req, by simp [flips], ?_⟩
      rw [recordVlan_known hk]
      refine ⟨hi.reviseVlan hk rfl (fun unsuspended => flips.symm.trans unsuspended),
        (World.OnPorts.refl w).setVlans, ⟨_, getElem?_insert_self, rfl⟩, .inl rfl, ?_⟩
      intro state' hk' suspended resumes
      rw [hk] at hk'
      cases hk'
      rw [← flips, suspended] at resumes
      cases resumes
    · cases suspends : req.suspend with
      | true =>
        rw [suspends] at flips
        simpa [flips] using hi.suspend hk suspends
      | false =>
        rw [suspends] at flips
        simpa [suspends, flips] using hi.resume hk suspends

def World.eraseVlan (id : UInt16) (oid : Option Oid) (w : World) : World :=
  { w with
    vlans := w.vlans.erase id
    hardware.vlans := w.hardware.vlans.filter fun _ vlan => some vlan ≠ oid }

theorem World.Sound.getElem?_eraseVlan (hi : w.Sound) (hk : w.vlans[id]? = some state) (other : UInt16) :
    (w.eraseVlan id state.oid).hardware.vlans[other]? =
      if id = other then none else w.hardware.vlans[other]? := by
  have object : w.hardware.vlans[id]? = state.oid := by
    rw [hi.objects, vlanObject, hk, Option.bind_some]
  unfold eraseVlan
  rw [getElem?_filter']
  split_ifs with isId
  · rw [← isId, object]
    cases state.oid <;> simp
  · cases hf : w.hardware.vlans[other]? with
    | none => rfl
    | some vlan =>
      have ne : some vlan ≠ state.oid := fun hs =>
        isId (hi.tracked.distinct (object.trans hs.symm) hf)
      simp [ne]

theorem World.Sound.eraseVlan (hi : w.Sound) (hk : w.vlans[id]? = some state)
    (unfronted : state.rif = none) (vacant : w.Vacant id)
    (left : ∀ port membership, w.hardware.ports.contains port = true → w.record port membership →
      membership.vlan ≠ id) : (w.eraseVlan id state.oid).Sound := by
  refine @redefine w id _ _ none ⟨fun _ => lookup_erase, hi.getElem?_eraseVlan hk,
    ⟨rfl, rfl, rfl, Nat.le_refl _⟩, rfl, rfl, by simp, by simp, ?_, vacant, left⟩ hi
  rintro state' (⟨⟨⟩⟩ | hk')
  rw [hk] at hk'
  cases hk'
  exact unfronted

/-- What the request comes to before it removes the object. -/
structure World.Emptied (w after : World) (id : UInt16) : Prop where
  sound : after.Sound
  lags : after.lags = w.lags
  record : ∀ port membership, after.record port membership ↔ w.record port membership ∧
    (w.hardware.ports.contains port = true → membership.vlan ≠ id)
  ports : after.hardware.ports = w.hardware.ports

/-- The object of a VLAN without a router interface can be removed when it has no members. -/
theorem World.Sound.removeVlanObject (hi : w.Sound) (hk : w.vlans[id]? = some state)
    (unfronted : state.rif = none) :
    (∃ failure, Switching.removeVlanObject state w = .error failure w) ∧ ¬ w.Vacant id ∨
      Switching.removeVlanObject state w = .ok () { w with
        hardware.vlans := w.hardware.vlans.filter fun _ vlan => some vlan ≠ state.oid } ∧
      w.Vacant id := by
  have object : w.hardware.vlans[id]? = state.oid := by
    rw [hi.objects, vlanObject, hk, Option.bind_some]
  unfold Switching.removeVlanObject
  cases ho : state.oid with
  | none =>
    refine .inr ⟨?_, fun {hm entry} hf => ?_⟩
    · have all : (w.hardware.vlans.filter fun _ vlan => some vlan ≠ none) = w.hardware.vlans := by
        refine ext_getElem? fun other => ?_
        rw [getElem?_filter']
        cases w.hardware.vlans[other]? <;> rfl
      rw [all]
      rfl
    · rw [object, ho]
      exact (Option.some_ne_none _).symm
  | some vlan =>
    rw [ho] at object
    have hasVlan : w.hardware.hasVlan vlan = true := by
      simpa [Hardware.hasVlan] using mem_values_iff.mpr ⟨id, object⟩
    have free : some vlan ∉ w.hardware.vlanRifs.values := by
      rw [mem_values_iff]
      rintro ⟨rif, hf⟩
      obtain ⟨other, state', hk', held, isVlan⟩ := hi.rifKnown hf
      have hf' : w.hardware.vlans[other]? = some vlan := by
        rw [hi.objects, vlanObject, hk', Option.bind_some, isVlan]
      obtain rfl := hi.tracked.distinct object hf'
      rw [hk] at hk'
      cases hk'
      rw [unfronted] at held
      cases held
    by_cases vacant : w.Vacant id
    · refine .inr ⟨?_, vacant⟩
      have empty : (w.hardware.vlanMembers.values.any fun hm => hm.vlan = vlan) = false := by
        simp only [List.any_eq_false, decide_eq_true_eq]
        intro entry hl isVlan
        obtain ⟨hm, hf⟩ := mem_values_iff.mp hl
        exact vacant hf (isVlan ▸ object)
      have granted : sai (Hardware.removeVlan vlan) w = _ := sai_checked (by simp [empty, free, hasVlan])
      simpa using granted
    · refine .inl ⟨?_, vacant⟩
      simp only [World.Vacant, not_forall, not_not] at vacant
      obtain ⟨hm, entry, hf, isVlan⟩ := vacant
      rw [object, Option.some.injEq] at isVlan
      have occupied : (w.hardware.vlanMembers.values.any fun hm => hm.vlan = vlan) = true :=
        List.any_eq_true.mpr ⟨entry, mem_values_iff.mpr ⟨hm, hf⟩, by simp [isVlan]⟩
      have refused : sai (Hardware.removeVlan vlan) w = _ :=
        sai_refused (by simp [occupied]; rfl)
      exact ⟨_, refused⟩

theorem World.Sound.removeVlan {raw : UInt32} (hi : w.Sound) (valid : vlanId raw = .ok id)
    (hk : w.vlans[id]? = some state) : ∃ after, w.Emptied after id ∧
      ((∃ failure, Switching.removeVlan raw w = .error failure after) ∧ ¬ after.Vacant id ∨
        Switching.removeVlan raw w = .ok () (after.eraseVlan id state.oid) ∧ after.Vacant id ∧
          (after.eraseVlan id state.oid).Sound) := by
  obtain ⟨torn, ran, tornSound, refronts⟩ := hi.teardownSvi hk
  have record (port : PortId) (membership : Membership) :
      torn.record port membership ↔ w.record port membership := by
    simp only [record, World.Holds, refronts.ports, refronts.lags]
  have hk' : (torn.detach id).vlans[id]? = some { state with rif := none } :=
    (refronts.lookup id).trans (if_pos rfl)
  have detached : (torn.detach id).Sound := tornSound.detach (fun _ => rfl) fun _ _ active => active
  have removed : removeMembers (w.portMembers id) torn =
      .ok () (torn.eraseMembers (torn.portMembers id)) := by
    rw [portMembers, ← refronts.ports]
    exact tornSound.removeMembers_port
  have runs : Switching.removeVlan raw w = (Switching.removeVlanObject state >>= fun _ =>
      modify fun w : World => { w with vlans := w.vlans.erase id }) (torn.detach id) := by
    unfold Switching.removeVlan
    rw [valid, settle_ok_bind_apply, get_bind_apply, hk]
    dsimp only
    rw [bind_of_ok ran, bind_of_ok removed]
    rfl
  refine ⟨torn.detach id, ⟨detached, refronts.lags, fun port membership => ?_, refronts.hardwarePorts⟩, ?_⟩
  · rw [tornSound.record_detach, record, refronts.hardwarePorts]
  · rw [runs]
    rcases detached.removeVlanObject hk' rfl with ⟨⟨failure, refused⟩, occupied⟩ | ⟨granted, vacant⟩
    · exact .inl ⟨⟨failure, bind_of_error refused⟩, occupied⟩
    · have erased := @eraseVlan (torn.detach id) id { state with rif := none } detached hk' rfl
        vacant fun port membership hp hr => (tornSound.record_detach.mp hr).2 hp
      exact .inr ⟨bind_of_ok granted, vacant, erased⟩

end

end Hemlock.Switching
