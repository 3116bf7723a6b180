import Hemlock.Library.Machine
import Hemlock.Switching.SpanningTree
import Hemlock.Switching.Suspension

/-!
# Which members a VLAN loses and regains

A VLAN that is suspended should have no members, one that is resumed all that refer to it,
and one that is removed no record anywhere.  The requests look at physical ports, and in
the default VLAN not even at these, so this holds exactly where nothing else is involved.
-/

namespace Hemlock.Switching

open Contracts OrderedMap Board World.Sound

inductive BridgeCall where
  | ensureVlan (req : EnsureVlanRequest)
  | removeVlan (raw : UInt32)
  | setPortSwitchport (req : SetPortSwitchportRequest)
  | clearPortSwitchport (name : String)
  | setInterfaceAddress (name : String)
  | clearInterfaceAddress (name : String)
  | createLag (req : CreateLagRequest)
  | removeLag (raw : UInt32)
  | setLagMembers (req : SetLagMembersRequest)
  | createStpInstance (raw : UInt32)
  | removeStpInstance (raw : UInt32)
  | setStpInstanceVlans (req : SetStpInstanceVlansRequest)
  | setPortStpState (req : SetPortStpStateRequest)

def BridgeCall.rpc (caps : Capabilities) : BridgeCall → Rpc Unit
  | .ensureVlan req => Switching.ensureVlan req
  | .removeVlan raw => Switching.removeVlan raw
  | .setPortSwitchport req => Switching.setPortSwitchport caps req
  | .clearPortSwitchport name => Switching.clearPortSwitchport name
  | .setInterfaceAddress name => Switching.setInterfaceAddress name
  | .clearInterfaceAddress name => Switching.clearInterfaceAddress name
  | .createLag req => Switching.createLag caps req
  | .removeLag raw => Switching.removeLag raw
  | .setLagMembers req => Switching.setLagMembers req
  | .createStpInstance raw => Switching.createStpInstance caps raw
  | .removeStpInstance raw => Switching.removeStpInstance raw
  | .setStpInstanceVlans req => Switching.setStpInstanceVlans req
  | .setPortStpState req => Switching.setPortStpState caps req

def bridgeMachine (caps : Capabilities) (board : Board) : Machine World BridgeCall Empty where
  init := board.boot
  next := fun w call => final (call.rpc caps) w
  emit := fun _ _ => []

section

variable {w after : World} {caps : Capabilities} {id : UInt16} {raw : UInt32}

theorem World.Sound.setStps {stps : InstanceMap StpInstanceState} (hi : w.Sound) :
    World.Sound { w with stps := stps } where
  toPortObjects := hi.toPortObjects.of_same (.refl _)
    (fun hf => ⟨hi.routed hf, _, hf, rfl, rfl⟩) fun hf => ⟨_, hf, rfl⟩
  toVlanObjects := hi.toVlanObjects.of_same rfl rfl (Nat.le_refl _) fun _ => rfl
  toMemberships := hi.toMemberships.of_same (fun _ _ => Iff.rfl) (fun _ active => active) rfl rfl rfl
    (Nat.le_refl _)

theorem sai_sound {Value : Type} {refusal : Hardware → Option SaiError}
    {effect : Hardware → Value × Hardware} (hs : ∀ hw : Hardware, hw.SameBridge (effect hw).2)
    (vlanMembers : ∀ hw : Hardware, (effect hw).2.vlanMembers = hw.vlanMembers) :
    Keeps World.Sound (sai (Hardware.checked refusal effect)) World.Sound :=
  contract_sai (fun _ hi _ => hi.setHardware (hs _) (vlanMembers _)) fun _ hi _ => hi

theorem moveVlans_sound {refs : List (Option Oid)} {stp : Option Oid} :
    Keeps World.Sound (moveVlans refs stp) World.Sound :=
  contract_each_keep (fun _ => sai_sound (fun _ => ⟨rfl, rfl, rfl, rfl, rfl, Nat.le_refl _⟩) fun _ => rfl)
    refs

theorem setStps_sound (change : InstanceMap StpInstanceState → InstanceMap StpInstanceState) :
    Keeps World.Sound (modify fun w => { w with stps := change w.stps } : Rpc Unit) World.Sound :=
  contract_modify fun _ hi => hi.setStps

theorem World.Sound.createStpInstance (hi : w.Sound) :
    (final (Switching.createStpInstance caps raw) w).Sound := by
  rcases createStpInstance_cases w caps raw with ⟨-, hs⟩ | ⟨-, number, -, after⟩
  · rwa [hs]
  · rw [after]
    have grown := @setHardware w { w.hardware with
      next := w.hardware.next + 1
      stpInstances := w.hardware.stpInstances.insert w.hardware.next } hi
      ⟨rfl, rfl, rfl, rfl, rfl, Nat.le_succ _⟩ rfl
    exact grown.setStps

theorem World.Sound.removeStpInstance (hi : w.Sound) :
    (final (Switching.removeStpInstance raw) w).Sound := by
  unfold Switching.removeStpInstance
  cases stpInstance raw with
  | error failure => exact hi
  | ok number =>
    cases hk : w.stps[number]? with
    | none => simpa [final, hk] using hi
    | some state =>
      have removes : Keeps World.Sound (sai (Hardware.removeStpInstance state.oid)) World.Sound :=
        sai_sound (fun _ => ⟨rfl, rfl, rfl, rfl, rfl, Nat.le_refl _⟩) fun _ => rfl
      have contract := (@moveVlans_sound (state.vlans.map w.refOrDefault) none).bind fun _ =>
        removes.bind fun _ => setStps_sound fun stps => stps.erase number
      simpa [final, hk] using contract.final hi

theorem World.Sound.setStpInstanceVlans {req : SetStpInstanceVlansRequest} (hi : w.Sound) :
    (final (Switching.setStpInstanceVlans req) w).Sound := by
  unfold Switching.setStpInstanceVlans
  cases stpInstance req.number with
  | error failure => exact hi
  | ok number =>
    cases req.vlans.mapM vlanId with
    | error failure => exact hi
    | ok listed =>
      cases hk : w.stps[number]? with
      | none => simpa [final, hk] using hi
      | some state =>
        have contract (old new : List (Option Oid)) :=
          (@moveVlans_sound old none).bind fun _ =>
            (@moveVlans_sound new (some state.oid)).bind fun _ => setStps_sound fun stps =>
              stps.modify number fun state => { state with vlans := sortDedup listed }
        simpa [final, hk] using (contract _ _).final hi

theorem World.Sound.setPortStpState {req : SetPortStpStateRequest} (hi : w.Sound) :
    (final (Switching.setPortStpState caps req) w).Sound := by
  have contract : Keeps World.Sound (Switching.setPortStpState caps req) World.Sound := by
    refine settle_keeps.bind fun _ => ?_
    refine settle_keeps.bind fun state => ?_
    refine contract_read fun start => ?_
    refine settle_keeps.bind fun port => ?_
    refine settle_keeps.bind fun targets => ?_
    exact contract_each_keep
      (fun _ => sai_sound (fun _ => ⟨rfl, rfl, rfl, rfl, rfl, Nat.le_refl _⟩) fun _ => rfl) targets
  exact contract.final hi

theorem World.Sound.next (hi : w.Sound) (call : BridgeCall) : (final (call.rpc caps) w).Sound := by
  cases call with
  | ensureVlan req =>
    cases valid : vlanId req.id with
    | error failure => simpa [final, BridgeCall.rpc, Switching.ensureVlan, valid] using hi
    | ok id =>
      obtain ⟨after, ran, ensured⟩ := hi.ensureVlan valid
      simpa [final, BridgeCall.rpc, ran] using ensured.sound
  | removeVlan raw =>
    cases valid : vlanId raw with
    | error failure => simpa [final, BridgeCall.rpc, Switching.removeVlan, valid] using hi
    | ok id =>
      cases hk : w.vlans[id]? with
      | none => simpa [final, BridgeCall.rpc, Switching.removeVlan, valid, hk] using hi
      | some state =>
        obtain ⟨after, emptied, ⟨⟨failure, refused⟩, -⟩ | ⟨ran, -, isSound⟩⟩ :=
          hi.removeVlan valid hk
        · simpa [final, BridgeCall.rpc, refused] using emptied.sound
        · simpa [final, BridgeCall.rpc, ran] using isSound
  | setPortSwitchport req => exact hi.setPortSwitchport
  | clearPortSwitchport name => exact hi.clearPortSwitchport
  | setInterfaceAddress name => exact hi.setInterfaceAddress
  | clearInterfaceAddress name => exact hi.clearInterfaceAddress
  | createLag req => exact hi.createLag
  | removeLag raw => exact hi.removeLag
  | setLagMembers req => exact hi.setLagMembers
  | createStpInstance raw => exact hi.createStpInstance
  | removeStpInstance raw => exact hi.removeStpInstance
  | setStpInstanceVlans req => exact hi.setStpInstanceVlans
  | setPortStpState req => exact hi.setPortStpState

theorem boot_sound (board : Board) : board.boot.Sound := by
  have lookup {name : String} {state : PortState} (hk : board.boot.ports[name]? = some state) :
      ∃ port, board.ports[name]? = some port ∧ state = { saiId := port } := by
    simp only [boot, getElem?_map, Option.map_eq_some_iff] at hk
    obtain ⟨port, hk, rfl⟩ := hk
    exact ⟨port, hk, rfl⟩
  have hp {port : PortId} : board.identifiers.contains port = true ↔
      ∃ name : String, board.ports[name]? = some port := by
    rw [identifiers, Std.ExtTreeSet.contains_ofList, List.contains_iff_mem, mem_values_iff]
  have unprogrammed (port : PortId) (switchport : SwitchportState) : ¬ board.boot.Holds port switchport := by
    rintro (⟨name, state, hk, -, held⟩ | ⟨group, lag, hk, -⟩)
    · obtain ⟨port, -, rfl⟩ := lookup hk
      cases held
    · simp [boot] at hk
  have unrecorded (port : PortId) (membership : Membership) : ¬ board.boot.record port membership := by
    rintro ⟨switchport, held, -⟩
    exact unprogrammed port switchport held
  constructor
  case toPortObjects =>
    constructor
    case portKnown =>
      intro name state hk
      obtain ⟨port, isPortOf, rfl⟩ := lookup hk
      exact hp.mpr ⟨name, isPortOf⟩
    case portDistinct =>
      intro name other state state' hk hk' hs
      obtain ⟨port, isPortOf, rfl⟩ := lookup hk
      obtain ⟨port', isPortOf', rfl⟩ := lookup hk'
      cases hs
      exact board.distinct isPortOf isPortOf'
    case portNumbered =>
      intro port hf
      obtain ⟨name, hk⟩ := hp.mp hf
      exact board.below hk
    case rifs =>
      intro name state hk
      obtain ⟨port, -, rfl⟩ := lookup hk
      simp [boot]
    case routed =>
      intro name state hk routed
      obtain ⟨port, -, rfl⟩ := lookup hk
      rfl
    case rifPorts => simp [boot]
    case lagKnown => simp [boot]
    case lagDistinct => simp [boot]
    case lagNumbered => simp [boot]
  case toVlanObjects => constructor <;> simp [boot, World.vlanObject]
  case toMemberships =>
    constructor
    case tracked =>
      constructor
      case known => simp [boot]
      case own => exact fun hr => absurd hr (unrecorded _ _)
      case separate => exact fun hr => absurd hr (unrecorded _ _)
      case numbered => exact fun hr => absurd hr (unrecorded _ _)
      case distinct => simp [boot]
    case valid => exact fun held => absurd held (unprogrammed _ _)
    case attached => exact fun _ hr => absurd hr (unrecorded _ _)
    case active => exact fun _ hr => absurd hr (unrecorded _ _)

theorem run_sound (caps : Capabilities) (board : Board) (calls : List BridgeCall) :
    ((bridgeMachine caps board).run calls).Sound :=
  (bridgeMachine caps board).run_invariant (boot_sound board) (fun _ call hi => hi.next call) calls

end

/-- After any run of bridging requests, failed ones among them, the memberships of a physical
port in the switch are exactly those that its program has on record. -/
theorem memberships_recorded (caps : Capabilities) (board : Board) (calls : List BridgeCall) (name : String)
    (membership : Membership) :
    let w := (bridgeMachine caps board).run calls
    (∃ state vlan, w.ports[name]? = some state ∧ w.hardware.vlans[membership.vlan]? = some vlan ∧
      w.hardware.vlanMembers[membership.member]? = some ⟨vlan, state.saiId, membership.tagged⟩) ↔
    ∃ state switchport, w.ports[name]? = some state ∧ state.switchport = some switchport ∧
      membership ∈ switchport.members := by
  intro w
  have sound : w.Sound := run_sound caps board calls
  constructor
  · rintro ⟨state, vlan, hk, isVlan, hf⟩
    obtain ⟨recorded, ⟨switchport, holds, hl⟩, isMember⟩ := sound.tracked.known hf
    obtain ⟨-, tagged, isVlan'⟩ := sound.tracked.own ⟨switchport, holds, hl⟩ (isMember ▸ hf)
    have sameVlan := sound.tracked.distinct isVlan' isVlan
    cases recorded
    cases membership
    cases sameVlan
    cases isMember
    cases tagged
    exact ⟨state, switchport, hk, (sound.holds_port hk).mp holds, hl⟩
  · rintro ⟨state, switchport, hk, held, hl⟩
    have recorded : w.record state.saiId membership := ⟨switchport, (sound.holds_port hk).mpr held, hl⟩
    obtain ⟨entry, hf⟩ := exists_of_mem (sound.attached (sound.portKnown hk) recorded)
    obtain ⟨isPort, tagged, isVlan⟩ := sound.tracked.own recorded hf
    refine ⟨state, entry.vlan, hk, isVlan, ?_⟩
    rw [hf, ← isPort, ← tagged]

def World.IsPort (w : World) (object : PortId) : Prop :=
  ∃ name : String, ∃ state, w.ports[name]? = some state ∧ state.saiId = object

def World.IsLag (w : World) (object : PortId) : Prop :=
  ∃ group : UInt16, ∃ lag, w.lags[group]? = some lag ∧ lag.saiId = object

/-- An object is a member of a VLAN in the switch.  Members of the default VLAN are
untagged. -/
def World.IsMember (w : World) (object : PortId) (id : UInt16) (tagged : Bool) : Prop :=
  (id = 1 ∧ tagged = false ∧ object ∈ w.hardware.defaultMembers) ∨
    ∃ vlan member : Oid, w.hardware.vlans[id]? = some vlan ∧
      w.hardware.vlanMembers[member]? = some ⟨vlan, object, tagged⟩

def World.Suspended (w : World) (id : UInt16) : Prop :=
  ∃ state, w.vlans[id]? = some state ∧ state.suspended = true

/-- No object is a member once the VLAN is suspended. -/
def World.SuspendsAll (w : World) (raw : UInt32) (id : UInt16) : Prop :=
  ∀ name after, ensureVlan ⟨raw, name, true⟩ w = .ok () after →
    ∀ object tagged, after.IsPort object ∨ after.IsLag object → ¬ after.IsMember object id tagged

/-- Every object whose program refers to the VLAN is a member once it is resumed. -/
def World.ResumesAll (w : World) (raw : UInt32) (id : UInt16) : Prop :=
  ∀ name after, ensureVlan ⟨raw, name, false⟩ w = .ok () after →
    ∀ object switchport tagged, after.Holds object switchport → switchport.tagging id = some tagged →
      after.IsMember object id tagged

/-- The VLAN can be removed, and no object has a record of it then. -/
def World.RemovesAll (w : World) (raw : UInt32) (id : UInt16) : Prop :=
  ∃ after, removeVlan raw w = .ok () after ∧
    ∀ object membership, after.record object membership → membership.vlan ≠ id

/-- Suspending, resuming and removing a VLAN reach every port and Port-Channel. -/
structure World.Covers (w : World) (raw : UInt32) (id : UInt16) : Prop where
  suspends : w.SuspendsAll raw id
  resumes : w.Suspended id → w.ResumesAll raw id
  removes : id ∈ w.vlans → w.RemovesAll raw id

/-- What the requests do not look at: Port-Channels, and no port in the default VLAN. -/
def World.Aside (w : World) (id : UInt16) (object : PortId) : Prop :=
  w.IsLag object ∨ id = 1 ∧ w.IsPort object

/-- Nothing that the requests do not look at is in the VLAN, refers to it while it is
suspended, or has a record of it. -/
structure World.Clear (w : World) (id : UInt16) : Prop where
  members : ∀ object tagged, w.Aside id object → ¬ w.IsMember object id tagged
  programs : w.Suspended id → ∀ object switchport, w.Aside id object →
    w.Holds object switchport → switchport.tagging id = none
  records : id ∈ w.vlans → ∀ object membership, w.IsLag object →
    w.record object membership → membership.vlan ≠ id

section

variable {w after : World} {id : UInt16} {raw : UInt32} {object : PortId} {tagged suspend : Bool}
variable (onPorts : w.OnPorts after)
include onPorts

theorem World.OnPorts.isLag : after.IsLag object ↔ w.IsLag object := by
  rw [World.IsLag, onPorts.lags, World.IsLag]

/-- A port and its program, but for the memberships. -/
theorem World.OnPorts.exists_port {name : String} {state : PortState}
    (hk : after.ports[name]? = some state) :
    ∃ earlier, w.ports[name]? = some earlier ∧ earlier.programmed = state.programmed := by
  have hs := onPorts.programs name
  rw [hk] at hs
  exact Option.map_eq_some_iff.mp hs.symm

theorem World.OnPorts.symm : after.OnPorts w where
  lags := onPorts.lags.symm
  programs := fun name => (onPorts.programs name).symm
  ports := onPorts.ports.symm
  defaultMembers := onPorts.defaultMembers.symm
  others := by
    intro hm entry notPort
    exact (onPorts.others (onPorts.ports ▸ notPort)).symm

theorem World.OnPorts.isPort_of (hp : after.IsPort object) : w.IsPort object := by
  obtain ⟨name, state, hk, ho⟩ := hp
  obtain ⟨earlier, hk', hs⟩ := onPorts.exists_port hk
  exact ⟨name, earlier, hk', (congrArg Prod.fst hs).trans ho⟩

variable {switchport : SwitchportState}

theorem World.OnPorts.holds_of (held : after.Holds object switchport) (id : UInt16) :
    ∃ earlier, w.Holds object earlier ∧ earlier.tagging id = switchport.tagging id := by
  rcases held with ⟨name, state, hk, ho, held⟩ | held
  · obtain ⟨before, hk', hs⟩ := onPorts.exists_port hk
    have sameProgram : before.switchport.map SwitchportState.program = some switchport.program := by
      have both := congrArg Prod.snd hs
      simpa only [PortState.programmed, held, Option.map_some] using both
    obtain ⟨earlier, held', isSame⟩ := Option.map_eq_some_iff.mp sameProgram
    refine ⟨earlier, .inl ⟨name, before, hk', (congrArg Prod.fst hs).trans ho, held'⟩, ?_⟩
    exact (congrArg (fun program : SwitchportState => program.tagging id) isSame :)
  · exact ⟨switchport, .inr (onPorts.lags ▸ held), rfl⟩

omit onPorts

theorem World.Sound.not_isPort (hi : w.Sound) (isLag : w.IsLag object) :
    w.hardware.ports.contains object = false := by
  obtain ⟨group, lag, hk, rfl⟩ := isLag
  exact (hi.lagKnown hk).2

theorem World.Sound.isPort (hi : w.Sound) (hp : w.IsPort object) :
    w.hardware.ports.contains object = true := by
  obtain ⟨name, state, hk, rfl⟩ := hp
  exact hi.portKnown hk

theorem World.Sound.record_of_isMember (hi : w.Sound) {vlan hm : Oid}
    (isVlan : w.hardware.vlans[id]? = some vlan)
    (hf : w.hardware.vlanMembers[hm]? = some ⟨vlan, object, tagged⟩) :
    w.record object ⟨id, hm, tagged⟩ := by
  obtain ⟨⟨other, hm', tagged'⟩, hr, rfl⟩ := hi.tracked.known hf
  obtain ⟨-, rfl, isVlan'⟩ := hi.tracked.own hr hf
  obtain rfl := hi.tracked.distinct isVlan' isVlan
  exact hr

theorem World.Ensured.isMember_lag (ensured : w.Ensured after id suspend) (hi : w.Sound)
    (isLag : w.IsLag object) : after.IsMember object id tagged ↔ w.IsMember object id tagged := by
  unfold World.IsMember
  rw [ensured.onPorts.defaultMembers]
  refine or_congr_right ?_
  have others (vlan hm : Oid) :=
    @World.OnPorts.others _ _ ensured.onPorts hm ⟨vlan, object, tagged⟩ (hi.not_isPort isLag)
  simp only [others]
  rcases ensured.object with hs | ⟨undefined, isNew⟩
  · rw [hs]
  · -- no member can be in a VLAN that is new
    rw [undefined, isNew]
    constructor
    · rintro ⟨vlan, hm, isVlan, hf⟩
      obtain ⟨membership, hr, rfl⟩ := hi.tracked.known hf
      have older := hi.vlanNumbered (hi.tracked.own hr hf).2.2
      cases isVlan
      exact absurd older (Nat.lt_irrefl _)
    · rintro ⟨vlan, hm, isVlan, -⟩
      cases isVlan

theorem World.Sound.isMember_default (hi : w.Sound) :
    w.IsMember object 1 tagged ↔ tagged = false ∧ object ∈ w.hardware.defaultMembers := by
  have undefined : w.hardware.vlans[(1 : UInt16)]? = none := (hi.objects 1).trans hi.plain
  simp [World.IsMember, undefined]

theorem World.Ensured.isMember_aside (ensured : w.Ensured after id suspend) (hi : w.Sound)
    (aside : w.Aside id object) : after.IsMember object id tagged ↔ w.IsMember object id tagged := by
  rcases aside with isLag | ⟨rfl, -⟩
  · exact ensured.isMember_lag hi isLag
  · rw [ensured.sound.isMember_default, hi.isMember_default, ensured.onPorts.defaultMembers]

theorem World.Sound.not_isMember (hi : w.Sound) (hp : w.IsPort object)
    (suspended : w.Suspended id) (ne : id ≠ 1) : ¬ w.IsMember object id tagged := by
  rintro (⟨isDefault, -⟩ | ⟨vlan, hm, isVlan, hf⟩)
  · exact ne isDefault
  · obtain ⟨state, hk, unsuspended⟩ :=
      hi.active (hi.isPort hp) (hi.record_of_isMember isVlan hf)
    obtain ⟨state', hk', isSuspended⟩ := suspended
    rw [hk] at hk'
    cases hk'
    rw [unsuspended] at isSuspended
    cases isSuspended

theorem World.Sound.isMember_of_complete (hi : w.Sound) (complete : ∀ entry, entry ∉ w.missing id)
    (held : Held w.ports PortState.saiId PortState.switchport object switchport)
    (tagging : switchport.tagging id = some tagged) : w.IsMember object id tagged := by
  obtain ⟨name, state, hk, rfl, held⟩ := held
  cases hm : switchport.isMember id with
  | false =>
    exact absurd (mem_missing.mpr ⟨state, switchport, hk, held, hm, tagging, rfl⟩)
      (complete (name, state.saiId, tagged))
  | true =>
    obtain ⟨membership, hl, inVlan⟩ := List.any_eq_true.mp hm
    rw [decide_eq_true_eq] at inVlan
    have holds : w.Holds state.saiId switchport := (hi.holds_port hk).mpr held
    have hr : w.record state.saiId membership := ⟨switchport, holds, hl⟩
    obtain ⟨⟨vlan, port, tagged'⟩, hf⟩ := exists_of_mem (hi.attached (hi.portKnown hk) hr)
    obtain ⟨hp, isTagged, isVlan⟩ := hi.tracked.own hr hf
    have refers := (hi.valid holds).refers membership hl
    rw [inVlan, tagging, Option.some.injEq] at refers
    subst hp isTagged
    rw [inVlan] at isVlan
    exact .inr ⟨vlan, membership.member, isVlan, refers ▸ hf⟩

theorem World.Sound.suspends_iff (hi : w.Sound) (valid : vlanId raw = .ok id) :
    w.SuspendsAll raw id ↔ ∀ object tagged, w.Aside id object → ¬ w.IsMember object id tagged := by
  constructor
  · intro suspends object tagged aside hm
    obtain ⟨after, ran, ensured⟩ := @ensureVlan w id ⟨raw, "", true⟩ hi valid
    refine suspends "" after ran object tagged ?_ ((ensured.isMember_aside hi aside).mpr hm)
    rcases aside with isLag | ⟨-, hp⟩
    · exact .inr (ensured.onPorts.isLag.mpr isLag)
    · exact .inl (ensured.onPorts.symm.isPort_of hp)
  · intro members name after ran object tagged ho hm
    obtain ⟨after', returned', ensured⟩ := @ensureVlan w id ⟨raw, name, true⟩ hi valid
    rw [ran] at returned'
    cases returned'
    rcases ho with hp | isLag
    · by_cases isDefault : id = 1
      · have aside : w.Aside id object := .inr ⟨isDefault, ensured.onPorts.isPort_of hp⟩
        exact members object tagged aside ((ensured.isMember_aside hi aside).mp hm)
      · exact ensured.sound.not_isMember hp ensured.recorded isDefault hm
    · have aside : w.Aside id object := .inl (ensured.onPorts.isLag.mp isLag)
      exact members object tagged aside ((ensured.isMember_aside hi aside).mp hm)

theorem World.Sound.resumes_iff (hi : w.Sound) (valid : vlanId raw = .ok id)
    (members : ∀ object tagged, w.Aside id object → ¬ w.IsMember object id tagged)
    (suspended : w.Suspended id) :
    w.ResumesAll raw id ↔ ∀ object switchport, w.Aside id object → w.Holds object switchport →
        switchport.tagging id = none := by
  constructor
  · intro resumes object switchport aside held
    obtain ⟨after, ran, ensured⟩ := @ensureVlan w id ⟨raw, "", false⟩ hi valid
    cases tagging : switchport.tagging id with
    | none => rfl
    | some tagged =>
      obtain ⟨later, held', hs⟩ := ensured.onPorts.symm.holds_of held id
      have hm := resumes "" after ran object later tagged held' (hs.trans tagging)
      exact absurd ((ensured.isMember_aside hi aside).mp hm) (members object tagged aside)
  · intro programs name after ran object switchport tagged held tagging
    obtain ⟨after', returned', ensured⟩ := @ensureVlan w id ⟨raw, name, false⟩ hi valid
    rw [ran] at returned'
    cases returned'
    obtain ⟨state, hk, isSuspended⟩ := suspended
    have refuted (aside : w.Aside id object) : after.IsMember object id tagged := by
      obtain ⟨earlier, held', hs⟩ := ensured.onPorts.holds_of held id
      rw [programs object earlier aside held'] at hs
      rw [← hs] at tagging
      cases tagging
    rcases held with held | held
    · by_cases isDefault : id = 1
      · obtain ⟨name, state, hk, ho, -⟩ := held
        exact refuted (.inr ⟨isDefault, ensured.onPorts.isPort_of ⟨name, state, hk, ho⟩⟩)
      · exact ensured.sound.isMember_of_complete
          (ensured.complete state hk isSuspended rfl isDefault) held tagging
    · obtain ⟨group, lag, hk, ho, -⟩ := held
      exact refuted (.inl (ensured.onPorts.isLag.mp ⟨group, lag, hk, ho⟩))

theorem World.Sound.removes_iff (hi : w.Sound) (valid : vlanId raw = .ok id) (hr : id ∈ w.vlans) :
    w.RemovesAll raw id ↔ ∀ object membership, w.IsLag object → w.record object membership →
        membership.vlan ≠ id := by
  obtain ⟨state, hk⟩ := exists_of_mem hr
  obtain ⟨emptied, isEmptied, ho⟩ := hi.removeVlan valid hk
  have eraseVlan_record : (emptied.eraseVlan id state.oid).record = emptied.record := rfl
  constructor
  · rintro ⟨after, ran, forgotten⟩ object membership isLag isRecorded
    rcases ho with ⟨⟨failure, failed⟩, -⟩ | ⟨returned', -⟩
    · rw [ran] at failed
      cases failed
    · rw [ran] at returned'
      cases returned'
      refine forgotten object membership ?_
      rw [eraseVlan_record, isEmptied.record, hi.not_isPort isLag]
      exact ⟨isRecorded, fun hp => Bool.noConfusion hp⟩
  · intro records
    have forgotten (object : PortId) (membership : Membership)
        (isRecorded : emptied.record object membership) : membership.vlan ≠ id := by
      obtain ⟨⟨switchport, held, hl⟩, elsewhere⟩ := (isEmptied.record object membership).mp isRecorded
      rcases held with held | held
      · obtain ⟨name, port, hp, rfl, -⟩ := held
        exact elsewhere (hi.portKnown hp)
      · have isHeld := held
        obtain ⟨group, lag, isLag, isObject, -⟩ := isHeld
        exact records object membership ⟨group, lag, isLag, isObject⟩ ⟨switchport, .inr held, hl⟩
    have vacant : emptied.Vacant id := by
      rintro hm ⟨vlan, object, tagged⟩ hf isVlan
      exact forgotten object _ (isEmptied.sound.record_of_isMember isVlan hf) rfl
    rcases ho with ⟨-, occupied⟩ | ⟨ran, -⟩
    · exact (occupied @vacant).elim
    · exact ⟨_, ran, eraseVlan_record ▸ forgotten⟩

end

/-- Suspending, resuming and removing a VLAN reach every object exactly when no
Port-Channel, and in the default VLAN no port, is in the way. -/
theorem covers_iff_clear (caps : Capabilities) (board : Board) (calls : List BridgeCall)
    (raw : UInt32) (id : UInt16) (valid : vlanId raw = .ok id) :
    ((bridgeMachine caps board).run calls).Covers raw id ↔
      ((bridgeMachine caps board).run calls).Clear id := by
  have sound := run_sound caps board calls
  constructor
  · intro covers
    have members := (sound.suspends_iff valid).mp covers.suspends
    exact ⟨members, fun suspended => (sound.resumes_iff valid members suspended).mp (covers.resumes suspended),
      fun recorded => (sound.removes_iff valid recorded).mp (covers.removes recorded)⟩
  · intro clear
    exact ⟨(sound.suspends_iff valid).mpr clear.members,
      fun suspended => (sound.resumes_iff valid clear.members suspended).mpr (clear.programs suspended),
      fun recorded => (sound.removes_iff valid recorded).mpr (clear.records recorded)⟩

def accessPort (name : String) (vlan : UInt32) : SetPortSwitchportRequest :=
  ⟨name, .access, vlan, 0, []⟩

/-- Without Port-Channels a VLAN is covered. -/
theorem covers_iff_clear_ports : ((bridgeMachine {} smallBoard).run
      [.ensureVlan ⟨10, "", false⟩, .setPortSwitchport (accessPort "Ethernet1" 10)]).Covers 10 10 := by
  have none : ((bridgeMachine {} smallBoard).run
      [.ensureVlan ⟨10, "", false⟩, .setPortSwitchport (accessPort "Ethernet1" 10)]).lags.toList = [] := by
    decide +kernel
  rw [covers_iff_clear {} smallBoard _ 10 10 rfl]
  generalize (bridgeMachine {} smallBoard).run _ = w at none ⊢
  have outside (object : PortId) : ¬ w.Aside 10 object := by
    rintro (⟨group, lag, known, -⟩ | ⟨isDefault, -⟩)
    · have listed := mem_toList_iff_getElem?_eq_some.mpr known
      rw [none] at listed
      cases listed
    · cases isDefault
  refine ⟨?_, ?_, ?_⟩
  · exact fun object tagged aside => absurd aside (outside object)
  · exact fun _ object switchport aside => absurd aside (outside object)
  · exact fun _ object membership isLag => absurd (.inl isLag) (outside object)

variable {w : World} {object : PortId}

theorem isLag_of_map (group : UInt16) (hf : w.lags[group]?.map LagState.saiId = some object) : w.IsLag object := by
  obtain ⟨lag, hk, ho⟩ := Option.map_eq_some_iff.mp hf
  exact ⟨group, lag, hk, ho⟩

theorem held_of_map {switchport : SwitchportState} (group : UInt16)
    (hf : w.lags[group]?.map (fun lag => (lag.saiId, lag.switchport)) = some (object, some switchport)) :
    Held w.lags LagState.saiId LagState.switchport object switchport := by
  obtain ⟨lag, hk, ho⟩ := Option.map_eq_some_iff.mp hf
  exact ⟨group, lag, hk, congrArg Prod.fst ho, congrArg Prod.snd ho⟩

theorem not_isMember_of_empty {id : UInt16} {tagged : Bool} (ne : id ≠ 1)
    (empty : w.hardware.vlanMembers.toList = []) : ¬ w.IsMember object id tagged := by
  rintro (⟨isDefault, -⟩ | ⟨vlan, hm, -, hf⟩)
  · exact ne isDefault
  · have hl := mem_toList_iff_getElem?_eq_some.mpr hf
    rw [empty] at hl
    cases hl

/-- A Port-Channel that is in a VLAN stays in it when the VLAN is suspended and prevents that
the VLAN is removed; one that was programmed while the VLAN was suspended stays out of it. -/
theorem lag_not_covered : ¬ ((bridgeMachine {} smallBoard).run
      [.ensureVlan ⟨10, "", false⟩, .createLag ⟨1, "", true⟩,
        .setPortSwitchport (accessPort "Port-Channel1" 10)]).SuspendsAll 10 10 ∧
    ¬ ((bridgeMachine {} smallBoard).run
      [.ensureVlan ⟨10, "", false⟩, .createLag ⟨1, "", true⟩,
        .setPortSwitchport (accessPort "Port-Channel1" 10)]).RemovesAll 10 10 ∧
    ¬ ((bridgeMachine {} smallBoard).run
      [.ensureVlan ⟨10, "", true⟩, .createLag ⟨1, "", true⟩,
        .setPortSwitchport (accessPort "Port-Channel1" 10)]).ResumesAll 10 10 := by
  refine ⟨?_, ?_, ?_⟩
  · intro suspends
    refine suspends "" _ (ok_of_succeeds (by decide +kernel)) 2 false (.inr ?_) (.inr ⟨1, 3, ?_, ?_⟩)
    · exact isLag_of_map 1 (by decide +kernel)
    all_goals decide +kernel
  · rintro ⟨after, ran, -⟩
    have refused : succeeds (removeVlan 10) ((bridgeMachine {} smallBoard).run
        [.ensureVlan ⟨10, "", false⟩, .createLag ⟨1, "", true⟩,
          .setPortSwitchport (accessPort "Port-Channel1" 10)]) = false := by decide +kernel
    simp [Contracts.succeeds, ran] at refused
  · intro resumes
    have isMember := resumes "" _ (ok_of_succeeds (by decide +kernel)) 2 ⟨false, false, 10, [], 1, []⟩ false
      (.inr (held_of_map 1 (by decide +kernel))) (by decide)
    exact not_isMember_of_empty (by decide) (by decide +kernel) isMember

end Hemlock.Switching
