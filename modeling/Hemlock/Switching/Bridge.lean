import Hemlock.Switching.Membership

/-!
# What every request keeps

The tables and the switch agree: on the objects of ports, Port-Channels and VLANs, on
router interfaces, and on memberships.  The memberships of a physical port are all there
and in VLANs that are not suspended; a Port-Channel may have a record of memberships
that are gone, since a request about it can fail half way.
-/

namespace Hemlock.Switching

open Contracts OrderedMap Hardware VlanState
open Acl (lagGroupOf)

/-- An entry of a table has an object and a program. -/
def Held {κ ν : Type} {cmp : κ → κ → Ordering} [Std.TransCmp cmp] (table : Std.ExtTreeMap κ ν cmp)
    (saiId : ν → PortId) (program : ν → Option SwitchportState) (port : PortId)
    (switchport : SwitchportState) : Prop :=
  ∃ key : κ, ∃ value, table[key]? = some value ∧ saiId value = port ∧
    program value = some switchport

def World.Holds (w : World) (port : PortId) (switchport : SwitchportState) : Prop :=
  Held w.ports PortState.saiId PortState.switchport port switchport ∨
    Held w.lags LagState.saiId LagState.switchport port switchport

def World.record (w : World) : Record := fun port membership =>
  ∃ switchport, w.Holds port switchport ∧ membership ∈ switchport.members

/-- One membership for a VLAN, and only in VLANs that the program refers to. -/
structure SwitchportState.Valid (switchport : SwitchportState) : Prop where
  distinct : (switchport.members.map Membership.vlan).Nodup
  refers : ∀ membership ∈ switchport.members,
    switchport.tagging membership.vlan = some membership.tagged

structure World.PortObjects (w : World) : Prop where
  portKnown : ∀ {name : String} {port : PortState}, w.ports[name]? = some port →
    w.hardware.ports.contains port.saiId = true
  portDistinct : ∀ {name other : String} {port port' : PortState}, w.ports[name]? = some port →
    w.ports[other]? = some port' → port.saiId = port'.saiId → name = other
  portNumbered : ∀ {port : PortId}, w.hardware.ports.contains port = true → port < w.hardware.next
  rifs : ∀ {name : String} {port : PortState}, w.ports[name]? = some port →
    w.hardware.rifs[port.saiId]? = port.rif
  routed : ∀ {name : String} {port : PortState}, w.ports[name]? = some port →
    port.rif ≠ none → port.switchport = none
  rifPorts : ∀ {port : PortId}, w.hardware.rifs.contains port = true →
    w.hardware.ports.contains port = true
  lagKnown : ∀ {group : UInt16} {lag : LagState}, w.lags[group]? = some lag →
    w.hardware.lags.contains lag.saiId = true ∧ w.hardware.ports.contains lag.saiId = false
  lagDistinct : ∀ {group other : UInt16} {lag lag' : LagState}, w.lags[group]? = some lag →
    w.lags[other]? = some lag' → lag.saiId = lag'.saiId → group = other
  lagNumbered : ∀ {lag : PortId}, w.hardware.lags.contains lag = true → lag < w.hardware.next

structure World.VlanObjects (w : World) : Prop where
  objects : ∀ id : UInt16, w.hardware.vlans[id]? = w.vlanObject id
  plain : w.vlanObject 1 = none
  created : ∀ {id : UInt16} {state : VlanState}, w.vlans[id]? = some state → id ≠ 1 →
    state.oid ≠ none
  vlanNumbered : ∀ {id : UInt16} {vlan : Oid}, w.hardware.vlans[id]? = some vlan →
    vlan < w.hardware.next
  fronts : ∀ {id : UInt16} {state : VlanState} {rif : Oid}, w.vlans[id]? = some state →
    state.rif = some rif → w.hardware.vlanRifs[rif]? = some state.oid
  rifKnown : ∀ {rif : Oid} {vlan : Option Oid}, w.hardware.vlanRifs[rif]? = some vlan →
    ∃ id : UInt16, ∃ state, w.vlans[id]? = some state ∧ state.rif = some rif ∧
      state.oid = vlan
  rifNumbered : ∀ {rif : Oid}, w.hardware.vlanRifs.contains rif = true → rif < w.hardware.next

structure World.Memberships (w : World) : Prop where
  tracked : w.hardware.Tracked w.record
  valid : ∀ {port : PortId} {switchport : SwitchportState}, w.Holds port switchport →
    switchport.Valid
  attached : ∀ {port : PortId} {membership : Membership}, w.hardware.ports.contains port = true →
    w.record port membership → membership.member ∈ w.hardware.vlanMembers
  active : ∀ {port : PortId} {membership : Membership}, w.hardware.ports.contains port = true →
    w.record port membership → w.Active membership.vlan

structure World.Sound (w : World) : Prop extends
  w.PortObjects, w.VlanObjects, w.Memberships

section

variable {κ ν : Type} {cmp : κ → κ → Ordering} [Std.TransCmp cmp] [Std.LawfulEqCmp cmp] [DecidableEq κ]
  {table : Std.ExtTreeMap κ ν cmp} {saiId : ν → PortId} {program : ν → Option SwitchportState}

theorem held_modify {key : κ} {value : ν} {change : ν → ν} {port : PortId} {switchport : SwitchportState}
    (hd : ∀ {key key' : κ} {value value' : ν}, table[key]? = some value →
      table[key']? = some value' → saiId value = saiId value' → key = key')
    (hk : table[key]? = some value) (keeps : saiId (change value) = saiId value) :
    Held (table.modify key change) saiId program port switchport ↔
      if port = saiId value then program (change value) = some switchport
      else Held table saiId program port switchport := by
  have lookup (other : κ) : (table.modify key change)[other]? =
      if key = other then some (change value) else table[other]? := by
    rw [lookup_modify, hk, Option.map_some]
  split_ifs with isThis
  · subst isThis
    constructor
    · rintro ⟨other, value', hf, hs, held⟩
      rw [lookup] at hf
      split_ifs at hf with isKey
      · cases hf
        exact held
      · exact absurd (hd hk hf hs.symm) isKey
    · intro held
      exact ⟨key, change value, by rw [lookup, if_pos rfl], keeps, held⟩
  · refine exists_congr fun other => exists_congr fun value' => ?_
    rw [lookup]
    split_ifs with isKey
    · subst isKey
      rw [hk]
      constructor
      · rintro ⟨isValue, hs, -⟩
        cases isValue
        exact absurd (hs.symm.trans keeps) isThis
      · rintro ⟨isValue, hs, -⟩
        cases isValue
        exact absurd hs.symm isThis
    · rfl

end

section

variable {w after : World} {port : PortId} {name : String} {group : UInt16}

variable {state : PortState} {lag : LagState}

theorem World.PortObjects.port_ne_lag (objects : w.PortObjects)
    (hk : w.ports[name]? = some state) (hk' : w.lags[group]? = some lag) : state.saiId ≠ lag.saiId := by
  intro hs
  have hp := objects.portKnown hk
  rw [hs, (objects.lagKnown hk').2] at hp
  cases hp

variable {switchport : SwitchportState}

theorem World.PortObjects.holds_port (objects : w.PortObjects) (hk : w.ports[name]? = some state) :
    w.Holds state.saiId switchport ↔ state.switchport = some switchport := by
  constructor
  · rintro (⟨other, state', hk', hs, held⟩ | ⟨group, lag, hk', hs, -⟩)
    · obtain rfl := objects.portDistinct hk' hk hs
      rw [hk] at hk'
      cases hk'
      exact held
    · exact absurd hs.symm (objects.port_ne_lag hk hk')
  · intro held
    exact .inl ⟨name, state, hk, rfl, held⟩

theorem World.PortObjects.holds_lag (objects : w.PortObjects) (hk : w.lags[group]? = some lag) :
    w.Holds lag.saiId switchport ↔ lag.switchport = some switchport := by
  constructor
  · rintro (⟨name, state, hk', hs, -⟩ | ⟨other, lag', hk', hs, held⟩)
    · exact absurd hs (objects.port_ne_lag hk' hk)
    · obtain rfl := objects.lagDistinct hk' hk hs
      rw [hk] at hk'
      cases hk'
      exact held
  · intro held
    exact .inr ⟨group, lag, hk, rfl, held⟩

/-- Only the program of one object changes. -/
def World.Reprograms (w after : World) (port : PortId) (program : Option SwitchportState) : Prop :=
  ∀ other switchport, after.Holds other switchport ↔
    if other = port then program = some switchport else w.Holds other switchport

variable {program : Option SwitchportState}

theorem World.Reprograms.record (reprograms : w.Reprograms after port program) :
    after.record = w.record.set port (members program) := by
  funext other membership
  unfold World.record Record.set
  simp only [reprograms other]
  split_ifs with hs
  · cases program <;> simp [members]
  · rfl

theorem World.PortObjects.reprograms_port (objects : w.PortObjects)
    (hk : w.ports[name]? = some state)
    (ports : after.ports = w.ports.modify name fun port => { port with switchport := program })
    (lags : after.lags = w.lags) : w.Reprograms after state.saiId program := by
  intro port switchport
  rw [World.Holds, ports, lags, held_modify objects.portDistinct hk rfl]
  split_ifs with isThis
  · subst isThis
    refine or_iff_left ?_
    rintro ⟨group, lag, hk', hs, -⟩
    exact objects.port_ne_lag hk hk' hs.symm
  · rfl

theorem World.PortObjects.reprograms_lag (objects : w.PortObjects)
    (hk : w.lags[group]? = some lag) (ports : after.ports = w.ports)
    (lags : after.lags = w.lags.modify group fun lag => { lag with switchport := program }) :
    w.Reprograms after lag.saiId program := by
  intro port switchport
  rw [World.Holds, ports, lags, held_modify objects.lagDistinct hk rfl]
  split_ifs with isThis
  · subst isThis
    refine or_iff_right ?_
    rintro ⟨name, state, hk', hs, -⟩
    exact objects.port_ne_lag hk' hk hs
  · rfl

variable {hw : Hardware}

/-- The memberships of one object in the switch are those of a program. -/
structure World.Follows (w : World) (hw : Hardware) (port : PortId) (program : Option SwitchportState) :
    Prop where
  ports : hw.ports = w.hardware.ports
  tracked : hw.Tracked (w.record.set port (members program))
  elsewhere : ∀ {hm : Oid} {entry : VlanMember}, w.hardware.vlanMembers[hm]? = some entry →
    entry.port ≠ port → hw.vlanMembers[hm]? = some entry
  valid : ∀ switchport, program = some switchport → switchport.Valid

theorem World.Memberships.reprogram (memberships : w.Memberships)
    (reprograms : w.Reprograms after port program) (vlans : after.vlans = w.vlans)
    (follows : w.Follows after.hardware port program)
    (firm : w.hardware.ports.contains port = true → ∀ membership ∈ members program,
      membership.member ∈ after.hardware.vlanMembers ∧ w.Active membership.vlan) : after.Memberships where
  tracked := by
    rw [reprograms.record]
    exact follows.tracked
  valid := by
    intro other switchport held
    rw [reprograms] at held
    split_ifs at held
    · exact follows.valid switchport held
    · exact memberships.valid held
  attached := by
    intro other membership hp hr
    rw [reprograms.record] at hr
    rw [follows.ports] at hp
    unfold Record.set at hr
    split_ifs at hr with isThis
    · exact (firm (isThis ▸ hp) membership hr).1
    · obtain ⟨entry, hf⟩ := exists_of_mem (memberships.attached hp hr)
      have isOther : entry.port ≠ port := by
        rw [(memberships.tracked.own hr hf).1]
        exact isThis
      exact mem_of_lookup (follows.elsewhere hf isOther)
  active := by
    intro other membership hp hr
    rw [reprograms.record] at hr
    rw [follows.ports] at hp
    rw [World.Active, vlans]
    unfold Record.set at hr
    split_ifs at hr with isThis
    · exact (firm (isThis ▸ hp) membership hr).2
    · exact memberships.active hp hr

theorem World.PortObjects.of_same (objects : w.PortObjects) (hs : w.hardware.SamePorts after.hardware)
    (ports : ∀ {name : String} {port : PortState}, after.ports[name]? = some port →
      (port.rif ≠ none → port.switchport = none) ∧
        ∃ earlier, w.ports[name]? = some earlier ∧ port.saiId = earlier.saiId ∧ port.rif = earlier.rif)
    (lags : ∀ {group : UInt16} {lag : LagState}, after.lags[group]? = some lag →
      ∃ earlier, w.lags[group]? = some earlier ∧ lag.saiId = earlier.saiId) : after.PortObjects where
  portKnown := by
    intro name port hk
    obtain ⟨-, earlier, hk', isSame, -⟩ := ports hk
    rw [hs.ports, isSame]
    exact objects.portKnown hk'
  portDistinct := by
    intro name other port port' hk hk' sameId
    obtain ⟨-, earlier, isKnown, isSame, -⟩ := ports hk
    obtain ⟨-, earlier', isKnown', isSame', -⟩ := ports hk'
    exact objects.portDistinct isKnown isKnown' (isSame ▸ isSame' ▸ sameId)
  portNumbered := by
    intro port hp
    rw [hs.ports] at hp
    exact Nat.lt_of_lt_of_le (objects.portNumbered hp) hs.next
  rifs := by
    intro name port hk
    obtain ⟨-, earlier, isKnown, isSame, isSameRif⟩ := ports hk
    rw [hs.rifs, isSame, isSameRif]
    exact objects.rifs isKnown
  routed := fun hk => (ports hk).1
  rifPorts := by
    rw [hs.rifs, hs.ports]
    exact objects.rifPorts
  lagKnown := by
    intro group lag hk
    obtain ⟨earlier, isKnown, isSame⟩ := lags hk
    rw [hs.lags, hs.ports, isSame]
    exact objects.lagKnown isKnown
  lagDistinct := by
    intro group other lag lag' hk hk' sameId
    obtain ⟨earlier, isKnown, isSame⟩ := lags hk
    obtain ⟨earlier', isKnown', isSame'⟩ := lags hk'
    exact objects.lagDistinct isKnown isKnown' (isSame ▸ isSame' ▸ sameId)
  lagNumbered := by
    intro lag isLag
    rw [hs.lags] at isLag
    exact Nat.lt_of_lt_of_le (objects.lagNumbered isLag) hs.next

def VlanState.objects (state : VlanState) : Option Oid × Option Oid := (state.oid, state.rif)

theorem exists_of_objects {first second : Option VlanState} {state : VlanState}
    (hs : first.map objects = second.map objects) (hk : first = some state) :
    ∃ state', second = some state' ∧ state'.oid = state.oid ∧ state'.rif = state.rif := by
  subst hk
  cases second with
  | none => cases hs
  | some state' =>
    simp only [Option.map_some, Option.some.injEq, objects, Prod.mk.injEq] at hs
    exact ⟨state', rfl, hs.1.symm, hs.2.symm⟩

theorem World.VlanObjects.of_same (objects : w.VlanObjects)
    (hardwareVlans : after.hardware.vlans = w.hardware.vlans)
    (vlanRifs : after.hardware.vlanRifs = w.hardware.vlanRifs)
    (next : w.hardware.next ≤ after.hardware.next)
    (vlans : ∀ id : UInt16, after.vlans[id]?.map VlanState.objects =
      w.vlans[id]?.map VlanState.objects) : after.VlanObjects := by
  have object (id : UInt16) : after.vlanObject id = w.vlanObject id := by
    have both := congrArg (Option.bind · Prod.fst) (vlans id)
    simpa [Option.bind_map, Function.comp_def, VlanState.objects, World.vlanObject] using both
  constructor
  case objects =>
    intro id
    rw [hardwareVlans, object]
    exact objects.objects id
  case plain => exact (object 1).trans objects.plain
  case created =>
    intro id state hk ne
    obtain ⟨earlier, isKnown, isSame, -⟩ := exists_of_objects (vlans id) hk
    rw [← isSame]
    exact objects.created isKnown ne
  case vlanNumbered =>
    intro id vlan hf
    rw [hardwareVlans] at hf
    exact Nat.lt_of_lt_of_le (objects.vlanNumbered hf) next
  case fronts =>
    intro id state rif hk held
    obtain ⟨earlier, isKnown, isSame, isSameRif⟩ := exists_of_objects (vlans id) hk
    rw [vlanRifs, ← isSame]
    exact objects.fronts isKnown (isSameRif.trans held)
  case rifKnown =>
    intro rif vlan hf
    rw [vlanRifs] at hf
    obtain ⟨id, earlier, isKnown, held, isVlan⟩ := objects.rifKnown hf
    obtain ⟨state, hk, isSame, isSameRif⟩ := exists_of_objects (vlans id).symm isKnown
    exact ⟨id, state, hk, isSameRif.trans held, isSame.trans isVlan⟩
  case rifNumbered =>
    intro rif hf
    rw [vlanRifs] at hf
    exact Nat.lt_of_lt_of_le (objects.rifNumbered hf) next

theorem World.PortObjects.bridged_port (objects : w.PortObjects)
    (hk : w.ports[name]? = some state) (unrouted : state.rif = none) : w.hardware.Bridged state.saiId where
  portLike := by rw [isPortLike, objects.portKnown hk, Bool.true_or]
  unrouted := by
    have lookup := objects.rifs hk
    rw [contains_eq_isSome_getElem?, lookup, unrouted, Option.isSome_none]

theorem World.PortObjects.bridged_lag (objects : w.PortObjects)
    (hk : w.lags[group]? = some lag) : w.hardware.Bridged lag.saiId where
  portLike := by rw [isPortLike, (objects.lagKnown hk).1, Bool.or_true]
  unrouted := by
    by_contra routed
    have hp := objects.rifPorts (Bool.not_eq_false _ ▸ routed)
    rw [(objects.lagKnown hk).2] at hp
    cases hp

theorem set_record (holds : ∀ switchport, w.Holds port switchport ↔ program = some switchport) :
    w.record.set port (members program) = w.record := by
  funext other membership
  unfold Record.set World.record
  split_ifs with isThis
  · subst isThis
    simp only [holds]
    cases program <;> simp [members]
  · rfl

variable {tunnel : Bool} {memberships : List Membership}

theorem valid_state {program : L2Program} (distinct : (memberships.map Membership.vlan).Nodup)
    (wanted : ∀ membership ∈ memberships, (membership.vlan, membership.tagged) ∈ program.wanted) :
    (program.state tunnel memberships).Valid where
  distinct := distinct
  refers := by
    intro membership hl
    have isWanted := wanted membership hl
    unfold L2Program.wanted at isWanted
    unfold SwitchportState.tagging L2Program.state
    split_ifs at isWanted with trunk isNative isNative <;>
      simp only [trunk, List.mem_append, List.mem_singleton, List.mem_map, List.mem_filter,
        decide_eq_true_eq, Prod.mk.injEq, List.not_mem_nil, false_or] at isWanted ⊢
    · rcases isWanted with ⟨isVlan, isTagged⟩ | ⟨vlan, ⟨isTrunk, ne, -⟩, rfl, isTagged⟩
      · simp [isVlan, isTagged]
      · simp [ne.symm, isTrunk, ← isTagged]
    · obtain ⟨vlan, ⟨isTrunk, ne, -⟩, rfl, isTagged⟩ := isWanted
      simp [ne.symm, isTrunk, ← isTagged]
    · simp [isWanted.1, isWanted.2]

variable {record : Record} {current : List Membership}

theorem Hardware.Tracked.nodup_members (ht : hw.Tracked record)
    (hr : ∀ membership ∈ current, record port membership)
    (hd : (current.map Membership.vlan).Nodup) : (current.map Membership.member).Nodup :=
  (List.Nodup.of_map _ hd).map_on fun first hl second hl' hs =>
    (ht.separate (hr first hl) (hr second hl') hs).2

theorem World.Sound.reprogram_port (hi : w.Sound) (hk : w.ports[name]? = some state)
    (unrouted : state.rif ≠ none → program = none) (hs : w.hardware.SameBridge hw)
    (follows : w.Follows hw state.saiId program)
    (firm : ∀ membership ∈ members program,
      membership.member ∈ hw.vlanMembers ∧ w.Active membership.vlan) :
    World.Sound
      { w with
        ports := w.ports.modify name fun port => { port with switchport := program }
        hardware := hw } where
  toPortObjects := by
    refine hi.toPortObjects.of_same hs.samePorts (fun {other port} hf => ?_) fun hf => ⟨_, hf, rfl⟩
    simp only [lookup_modify, hk] at hf
    split_ifs at hf with isName
    · cases hf
      exact ⟨unrouted, state, isName ▸ hk, rfl, rfl⟩
    · exact ⟨hi.routed hf, port, hf, rfl, rfl⟩
  toVlanObjects := hi.toVlanObjects.of_same hs.vlans hs.vlanRifs hs.next fun _ => rfl
  toMemberships := hi.toMemberships.reprogram (hi.reprograms_port hk rfl rfl) rfl follows fun _ => firm

theorem World.Sound.reprogram_lag (hi : w.Sound) (hk : w.lags[group]? = some lag)
    (hs : w.hardware.SameBridge hw) (follows : w.Follows hw lag.saiId program) :
    World.Sound
      { w with
        lags := w.lags.modify group fun lag => { lag with switchport := program }
        hardware := hw } where
  toPortObjects := by
    refine hi.toPortObjects.of_same hs.samePorts (fun hf => ⟨hi.routed hf, _, hf, rfl, rfl⟩)
      fun {other lag'} hf => ?_
    simp only [lookup_modify, hk] at hf
    split_ifs at hf with isGroup
    · cases hf
      exact ⟨lag, isGroup ▸ hk, rfl⟩
    · exact ⟨lag', hf, rfl⟩
  toVlanObjects := hi.toVlanObjects.of_same hs.vlans hs.vlanRifs hs.next fun _ => rfl
  toMemberships := hi.toMemberships.reprogram (hi.reprograms_lag hk rfl rfl) rfl follows fun hp => by
    rw [(hi.lagKnown hk).2] at hp
    cases hp

theorem setPortTpid_ok {tpid : UInt16} (hk : w.hardware.ports.contains port = true) :
    ∃ hw, sai (setPortTpid port tpid) w = .ok () { w with hardware := hw } ∧
      w.hardware.SameBridge hw ∧ hw.vlanMembers = w.hardware.vlanMembers := by
  have granted : sai (setPortTpid port tpid) w = _ := sai_checked (by simp [hk])
  exact ⟨_, granted, ⟨rfl, rfl, rfl, rfl, rfl, Nat.le_refl _⟩, rfl⟩

theorem settleTpid_ok {wasTunnel : Bool} (hk : w.hardware.ports.contains port = true) :
    ∃ hw, settleTpid port tunnel wasTunnel w = .ok () { w with hardware := hw } ∧
      w.hardware.SameBridge hw ∧ hw.vlanMembers = w.hardware.vlanMembers := by
  rw [settleTpid]
  by_cases hs : tunnel = wasTunnel
  · rw [if_pos hs]
    exact ⟨w.hardware, rfl, .refl _, rfl⟩
  · rw [if_neg hs]
    exact setPortTpid_ok hk

structure World.Recorded (w : World) (port : PortId) (program : Option SwitchportState) : Prop where
  tracked : w.hardware.Tracked (w.record.set port (members program))
  distinct : ((members program).map Membership.vlan).Nodup
  recorded : ∀ membership ∈ members program, w.record port membership

theorem World.Memberships.recorded (memberships : w.Memberships)
    (holds : ∀ switchport, w.Holds port switchport ↔ program = some switchport) :
    w.Recorded port program where
  tracked := by
    rw [set_record holds]
    exact memberships.tracked
  distinct := by
    cases isProgram : program with
    | none => exact List.nodup_nil
    | some switchport => exact (memberships.valid ((holds switchport).mpr isProgram)).distinct
  recorded := by
    intro membership hl
    rw [← set_record holds]
    exact Record.set_self.mpr hl

theorem World.Recorded.nodup (hr : w.Recorded port program) :
    ((members program).map Membership.member).Nodup :=
  hr.tracked.nodup_members (fun _ => Record.set_self.mpr) hr.distinct

theorem Programmed.follows {program : L2Program} (tunnel : Bool)
    (programmed : Programmed w w.record port current program memberships hw) :
    w.Follows hw port (some (program.state tunnel memberships)) where
  ports := programmed.same.ports
  tracked := programmed.tracked
  elsewhere := programmed.elsewhere
  valid := by
    rintro _ ⟨⟩
    exact valid_state programmed.distinct programmed.wanted

theorem World.Sound.setPhysicalSwitchport {program : L2Program} (hi : w.Sound) :
    (final (Switching.setPhysicalSwitchport name tunnel program) w).Sound := by
  unfold final Switching.setPhysicalSwitchport
  cases hk : w.ports[name]? with
  | none => simpa [hk] using hi
  | some state =>
    cases unrouted : state.rif with
    | some rif => simpa [hk, unrouted] using hi
    | none =>
      have hr := hi.recorded fun _ => hi.holds_port hk
      have attached (membership : Membership) (hl : membership ∈ members state.switchport) :=
        hi.attached (hi.portKnown hk) (hr.recorded membership hl)
      have removed := @removeMembers_ok w
        (staleMembers (w.desired program) (members state.switchport))
        (hr.nodup.sublist (List.filter_sublist.map _))
        (by
          intro hm stale
          obtain ⟨membership, hl, -, rfl⟩ := mem_staleMembers stale
          exact attached membership hl)
      obtain ⟨members, hw, ran, programmed⟩ := programL2_of_removed
        (hi.bridged_port hk unrouted) hr.tracked hr.distinct hi.objects removed
      have hp : hw.ports.contains state.saiId = true := by
        rw [programmed.same.ports]
        exact hi.portKnown hk
      obtain ⟨settled, settles, hs, left⟩ := @settleTpid_ok { w with hardware := hw }
        state.saiId tunnel (state.switchport.any SwitchportState.dot1qTunnel) hp
      have follows := programmed.follows tunnel
      have after := hi.reprogram_port hk (fun routed => absurd unrouted routed) (programmed.same.trans hs)
        ⟨hs.ports.trans follows.ports, follows.tracked.of_same left hs.vlans hs.next,
          fun hf ne => left ▸ follows.elsewhere hf ne, follows.valid⟩
        (fun membership hl => ⟨left ▸ programmed.present attached membership hl,
          programmed.active membership hl⟩)
      simpa [hk, unrouted, bind_of_ok ran, bind_of_ok settles] using after

theorem World.Sound.eraseLagMembers {removed : List Oid} (hi : w.Sound) (hk : w.lags[group]? = some lag)
    (own : ∀ member ∈ removed, ∃ membership ∈ members lag.switchport, membership.member = member) :
    (w.eraseMembers removed).Sound where
  __ := hi
  toPortObjects := hi.toPortObjects.of_same ⟨rfl, rfl, rfl, Nat.le_refl _⟩
    (fun hf => ⟨hi.routed hf, _, hf, rfl, rfl⟩) fun hf => ⟨_, hf, rfl⟩
  toVlanObjects := hi.toVlanObjects.of_same rfl rfl (Nat.le_refl _) fun _ => rfl
  tracked := hi.tracked.eraseMembers removed
  attached := by
    intro port membership hp hr
    obtain ⟨entry, hf⟩ := exists_of_mem (hi.attached hp hr)
    refine mem_of_lookup (getElem?_eraseMembers.mpr ⟨fun gone => ?_, hf⟩)
    obtain ⟨membership', hl, hm⟩ := own _ gone
    have isRecorded := (hi.recorded fun _ => hi.holds_lag hk).recorded membership' hl
    obtain ⟨rfl, -⟩ := hi.tracked.separate isRecorded hr hm
    exact absurd hp (by simp [World.eraseMembers, Hardware.eraseMembers, (hi.lagKnown hk).2])

theorem World.Sound.setLagSwitchport {program : L2Program} (hi : w.Sound) :
    (final (Switching.setLagSwitchport group program) w).Sound := by
  unfold final Switching.setLagSwitchport
  cases hk : w.lags[group]? with
  | none => simpa [hk] using hi
  | some lag =>
    have hr := hi.recorded fun _ => hi.holds_lag hk
    rcases removeMembers_cases w (staleMembers (w.desired program) (members lag.switchport))
      with removed | ⟨removed, failure, isPrefix, failed⟩
    · obtain ⟨members, hw, ran, programmed⟩ := programL2_of_removed
        (hi.bridged_lag hk) hr.tracked hr.distinct hi.objects removed
      have after := hi.reprogram_lag hk programmed.same (programmed.follows false)
      simpa [hk, bind_of_ok ran] using after
    · have after := @eraseLagMembers w group lag removed hi hk (by
        intro hm hl
        obtain ⟨membership, isListed, -, isMember⟩ := mem_staleMembers (isPrefix.subset hl)
        exact ⟨membership, isListed, isMember⟩)
      have stopped : programL2 lag.saiId (members lag.switchport) program w =
          .error failure (w.eraseMembers removed) := by
        rw [programL2, get_bind_apply]
        exact bind_of_error failed
      simpa [hk, bind_of_error stopped] using after

theorem Hardware.Tracked.clear (ht : hw.Tracked (record.set port current)) :
    (hw.eraseMembers (current.map Membership.member)).Tracked (record.set port []) := by
  have kept := @Hardware.Tracked.keep hw record port [] current ht
  have nothing : current.filter (isDesired []) = [] := List.filter_eq_nil_iff.mpr (by simp [isDesired])
  rw [nothing] at kept
  simpa [staleMembers, isDesired] using kept

theorem Hardware.Tracked.elsewhere (ht : hw.Tracked (record.set port current))
    {hm : Oid} {entry : VlanMember} (hf : hw.vlanMembers[hm]? = some entry) (ne : entry.port ≠ port) :
    (hw.eraseMembers (current.map Membership.member)).vlanMembers[hm]? = some entry := by
  refine getElem?_eraseMembers.mpr ⟨fun gone => ?_, hf⟩
  obtain ⟨membership, hl, rfl⟩ := List.mem_map.mp gone
  exact ne (ht.own (Record.set_self.mpr hl) hf).1

/-- The hardware after the memberships of an object were removed. -/
structure Hardware.Cleared (hw : Hardware) (program : Option SwitchportState) (after : Hardware) :
    Prop where
  same : hw.SameBridge after
  left : after.vlanMembers = (hw.eraseMembers ((members program).map Membership.member)).vlanMembers

theorem Hardware.Cleared.follows (cleared : w.hardware.Cleared program hw)
    (ht : w.hardware.Tracked (w.record.set port (members program))) : w.Follows hw port none where
  ports := cleared.same.ports
  tracked := ht.clear.of_same cleared.left cleared.same.vlans cleared.same.next
  elsewhere := fun hf ne => cleared.left ▸ ht.elsewhere hf ne
  valid := fun _ isNone => by cases isNone

theorem restore_ok (cleared : w.hardware.Cleared program hw)
    (bridged : w.hardware.Bridged port) :
    ∃ after, sai (restorePortDefaultVlan port) { w with hardware := hw } =
        .ok () { w with hardware := after } ∧ w.hardware.Cleared program after := by
  have bridged := bridged.of_same cleared.same
  have granted : sai (restorePortDefaultVlan port) { w with hardware := hw } = _ :=
    sai_checked (by simp [bridged.portLike, bridged.unrouted])
  exact ⟨_, granted, cleared.same.trans ⟨rfl, rfl, rfl, rfl, rfl, Nat.le_refl _⟩, cleared.left⟩

theorem cleared_eraseMembers (hw : Hardware) (program : Option SwitchportState) : hw.Cleared program
      (hw.eraseMembers ((members program).map Membership.member)) :=
  ⟨⟨rfl, rfl, rfl, rfl, rfl, Nat.le_refl _⟩, rfl⟩

variable (hi : w.Sound)
include hi

theorem World.Sound.resetPort (hk : w.ports[name]? = some state)
    (held : state.switchport = some switchport) :
    ∃ hw, Switching.resetPort state.saiId switchport w = .ok () { w with hardware := hw } ∧
      w.hardware.Cleared state.switchport hw := by
  have unrouted : state.rif = none := by
    by_contra routed
    rw [hi.routed hk routed] at held
    cases held
  have hr := hi.recorded fun _ => hi.holds_port hk
  have removed := @removeMembers_ok w ((members state.switchport).map Membership.member)
    hr.nodup (by
      intro hm hl
      obtain ⟨membership, isListed, rfl⟩ := List.mem_map.mp hl
      exact hi.attached (hi.portKnown hk) (hr.recorded membership isListed))
  have isMembers : members state.switchport = switchport.members := by
    rw [held]
    rfl
  rw [isMembers] at removed
  have cleared : w.hardware.Cleared state.switchport
      (w.hardware.eraseMembers (switchport.members.map Membership.member)) :=
    isMembers ▸ cleared_eraseMembers w.hardware state.switchport
  have bridged := hi.bridged_port hk unrouted
  rw [Switching.resetPort, bind_of_ok removed]
  cases switchport.dot1qTunnel with
  | false => exact restore_ok cleared bridged
  | true =>
    obtain ⟨settled, settles, hs, left⟩ := @setPortTpid_ok
      (w.eraseMembers (switchport.members.map Membership.member)) state.saiId 0x8100
      (hi.portKnown hk)
    rw [if_pos rfl, bind_of_ok settles]
    exact restore_ok ⟨cleared.same.trans hs, left.trans cleared.left⟩ bridged

theorem World.Sound.clearPhysicalSwitchport
    (hk : w.ports[name]? = some state) (held : state.switchport = some switchport) :
    World.Sound <| final (do
      Switching.resetPort state.saiId switchport
      modify fun w =>
        { w with
          ports := w.ports.modify name fun port => { port with switchport := none } }) w := by
  obtain ⟨hw, ran, cleared⟩ := hi.resetPort hk held
  have hr := hi.recorded fun _ => hi.holds_port hk
  have after := hi.reprogram_port hk (fun _ => rfl) cleared.same (cleared.follows hr.tracked)
    (fun _ hl => by cases hl)
  rw [final, bind_of_ok ran]
  exact after

theorem World.Sound.resetLag (hk : w.lags[group]? = some lag) :
    (∃ failure after, Switching.resetLag lag w = .error failure after ∧ after.Sound) ∨
      ∃ hw, Switching.resetLag lag w = .ok () { w with hardware := hw } ∧
        w.hardware.Cleared lag.switchport hw := by
  unfold Switching.resetLag
  cases held : lag.switchport with
  | none => exact .inr ⟨w.hardware, rfl, cleared_eraseMembers w.hardware none⟩
  | some switchport =>
    dsimp only
    rcases removeMembers_cases w (switchport.members.map Membership.member) with
      removed | ⟨removed, failure, isPrefix, failed⟩
    · rw [bind_of_ok removed]
      exact .inr (restore_ok (cleared_eraseMembers w.hardware (some switchport))
        (hi.bridged_lag hk))
    · rw [bind_of_error failed]
      refine .inl ⟨failure, _, rfl, hi.eraseLagMembers hk fun hm hl => ?_⟩
      obtain ⟨membership, isListed, isMember⟩ := List.mem_map.mp (isPrefix.subset hl)
      rw [held]
      exact ⟨membership, isListed, isMember⟩

theorem World.Sound.clearLagSwitchport (hk : w.lags[group]? = some lag) :
    World.Sound <| final (do
      Switching.resetLag lag
      modify fun w =>
        { w with lags := w.lags.modify group fun lag => { lag with switchport := none } })
      w := by
  rcases hi.resetLag hk with ⟨failure, after, failed, isSound⟩ | ⟨hw, ran, cleared⟩
  · rw [final, bind_of_error failed]
    exact isSound
  · have hr := hi.recorded fun _ => hi.holds_lag hk
    have after := hi.reprogram_lag hk cleared.same (cleared.follows hr.tracked)
    rw [final, bind_of_ok ran]
    exact after

theorem World.Sound.clearPortSwitchport : (final (Switching.clearPortSwitchport name) w).Sound := by
  unfold Switching.clearPortSwitchport
  cases lagGroupOf name with
  | some group =>
    cases hk : w.lags[group]? with
    | none => simpa [final, hk] using hi
    | some lag => simpa [final, hk] using hi.clearLagSwitchport hk
  | none =>
    cases hk : w.ports[name]? with
    | none => simpa [final, hk] using hi
    | some state =>
      cases held : state.switchport with
      | none => simpa [final, hk, held] using hi
      | some switchport => simpa [final, hk, held] using hi.clearPhysicalSwitchport hk held

theorem World.Sound.setPortSwitchport {caps : Capabilities} {req : SetPortSwitchportRequest}
    : (final (Switching.setPortSwitchport caps req) w).Sound := by
  unfold Switching.setPortSwitchport
  cases req.program caps with
  | error failure => exact hi
  | ok program =>
    cases lagGroupOf req.name with
    | some group =>
      by_cases tunnel : req.mode = .dot1qTunnel
      · simpa [final, tunnel] using hi
      · simpa [final, tunnel] using hi.setLagSwitchport
    | none => exact hi.setPhysicalSwitchport

omit hi

end

end Hemlock.Switching
