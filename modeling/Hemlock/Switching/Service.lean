import Hemlock.Acl.Service
import Hemlock.Library.Contracts
import Hemlock.Switching.Hardware

/-!
# Bridging requests

The requests that define VLANs, program switchports, aggregate ports and map VLANs to
spanning-tree instances, with what the daemon remembers about them.
-/

namespace Hemlock.Switching

open OrderedMap Hardware
open Acl (Status saiErr quoted lagGroupOf portChannel)
open Contracts

/-- A membership: the VLAN, its object, and whether frames carry the tag. -/
structure Membership where
  vlan : UInt16
  member : Oid
  tagged : Bool
  deriving DecidableEq

structure SwitchportState where
  trunk : Bool
  dot1qTunnel : Bool := false
  accessVlan : UInt16
  trunkVlans : List UInt16
  nativeVlan : UInt16
  /-- The memberships in VLANs other than the default one. -/
  members : List Membership
  deriving DecidableEq

structure PortState where
  saiId : PortId
  switchport : Option SwitchportState := none
  rif : Option Oid := none
  deriving DecidableEq

structure VlanState where
  /-- The default VLAN has no object of its own. -/
  oid : Option Oid
  name : String
  suspended : Bool
  rif : Option Oid := none
  deriving DecidableEq

structure LagMemberState where
  oid : Oid
  enabled : Bool
  deriving DecidableEq

structure LagState where
  saiId : PortId
  description : String
  adminUp : Bool
  members : NameMap LagMemberState := ∅
  switchport : Option SwitchportState := none
  deriving DecidableEq

structure StpInstanceState where
  oid : Oid
  vlans : List UInt16
  deriving DecidableEq

abbrev GroupMap (Value : Type) := Std.ExtTreeMap UInt16 Value compare
abbrev InstanceMap (Value : Type) := Std.ExtTreeMap UInt8 Value compare

structure World where
  ports : NameMap PortState
  vlans : VlanMap VlanState := ∅
  lags : GroupMap LagState := ∅
  stps : InstanceMap StpInstanceState := ∅
  hardware : Hardware

structure Capabilities where
  lag : Bool := true
  stp : Bool := true
  portTpid : Bool := true

abbrev Rpc (Value : Type) := EStateM Status World Value

def hardwarePart : Part World Hardware := ⟨World.hardware, fun hw w => { w with hardware := hw }⟩

def sai {Value : Type} (call : Sai Value) : Rpc Value :=
  hardwarePart.lift (fun error => saiErr error.text) call

variable {refusal : Hardware → Option SaiError} {w : World}
variable {Value : Type}

theorem sai_checked {effect : Hardware → Value × Hardware} (granted : refusal w.hardware = none) :
    sai (checked refusal effect) w =
      .ok (effect w.hardware).1 { w with hardware := (effect w.hardware).2 } := by
  simp [sai, Part.lift, hardwarePart, checked, granted]

theorem sai_refused {effect : Hardware → Value × Hardware} {error : SaiError}
    (refused : refusal w.hardware = some error) :
    sai (checked refusal effect) w = .error (saiErr error.text) w := by
  simp [sai, Part.lift, hardwarePart, checked, refused]

theorem contract_sai {effect : Hardware → Value × Hardware} {Before : World → Prop}
    {After : Value → World → Prop} {Failed : World → Prop}
    (after : ∀ w, Before w → refusal w.hardware = none →
      After (effect w.hardware).1 { w with hardware := (effect w.hardware).2 })
    (failed : ∀ w, Before w → refusal w.hardware ≠ none → Failed w) :
    Contract Before (sai (checked refusal effect)) After Failed := by
  apply contract_lift
  intro w before
  cases refused : refusal w.hardware with
  | none => simpa [hardwarePart, checked, refused] using after w before refused
  | some error =>
    simpa [hardwarePart, checked, refused] using failed w before (by simp [refused])

def removeMembers (members : List Oid) : Rpc Unit :=
  each (fun member => sai (Hardware.removeVlanMember member)) members

def requireCapability (supported : Bool) (family : String) : Except Status Unit :=
  if supported then .ok ()
  else .error ⟨.failedPrecondition, family ++ " is not supported by this platform's SAI"⟩

def vlanId (raw : UInt32) : Except Status UInt16 :=
  if 1 ≤ raw ∧ raw ≤ 4094 then .ok raw.toUInt16
  else .error ⟨.invalidArgument, "bad VLAN id " ++ toString raw.toNat⟩

/-- Zero stands for the default VLAN. -/
def defaultVlanId (raw : UInt32) : Except Status UInt16 := if raw = 0 then .ok 1 else vlanId raw

def sviVlanId (name : String) : Option UInt16 := do
  let digits ← name.toList.dropPrefix? "Vlan".toList
  let id ← Net.parseUnsigned 10 65536 digits
  if 1 ≤ id ∧ id ≤ 4094 ∧ digits.head? ≠ some '0' then some (UInt16.ofNat id) else none

def World.portSaiId (w : World) (name : String) : Except Status PortId :=
  match w.ports[name]? with
  | some port => .ok port.saiId
  | none => .error ⟨.notFound, "no port " ++ quoted name⟩

def World.portLikeSaiId (w : World) (name : String) : Except Status PortId :=
  match lagGroupOf name with
  | some group =>
    match w.lags[group]? with
    | some lag => .ok lag.saiId
    | none => .error ⟨.failedPrecondition, portChannel group ++ " not created"⟩
  | none => w.portSaiId name

def World.vlanObject (w : World) (id : UInt16) : Option Oid :=
  w.vlans[id]?.bind VlanState.oid

/-- Whether a program refers to a VLAN, and if so whether tagged. -/
def SwitchportState.tagging (switchport : SwitchportState) (id : UInt16) : Option Bool :=
  if switchport.trunk then
    if switchport.nativeVlan = id then some false
    else if switchport.trunkVlans.contains id then some true
    else none
  else if switchport.accessVlan = id then some false
  else none

def SwitchportState.isMember (switchport : SwitchportState) (id : UInt16) : Bool :=
  switchport.members.any fun membership => membership.vlan = id

def SwitchportState.leave (id : UInt16) (switchport : SwitchportState) : SwitchportState :=
  { switchport with members := switchport.members.filter fun membership => membership.vlan ≠ id }

def SwitchportState.join (membership : Membership) (switchport : SwitchportState) : SwitchportState :=
  { switchport with members := switchport.members ++ [membership] }

def PortState.mapSwitchport (change : SwitchportState → SwitchportState) (port : PortState) : PortState :=
  { port with switchport := port.switchport.map change }

def World.portMembers (w : World) (id : UInt16) : List Oid :=
  w.ports.values.flatMap fun port => port.switchport.toList.flatMap fun switchport =>
    (switchport.members.filter fun membership => membership.vlan = id).map Membership.member

/-- The physical ports forget their memberships in a VLAN. -/
def World.leaveVlan (id : UInt16) (w : World) : World :=
  { w with ports := w.ports.map fun _ port => port.mapSwitchport (.leave id) }

def World.missing (w : World) (id : UInt16) : List (String × PortId × Bool) :=
  w.ports.toList.filterMap fun (name, port) => do
    let switchport ← port.switchport
    if switchport.isMember id then none
    let tagged ← switchport.tagging id
    return (name, port.saiId, tagged)

def World.recordMember (name : String) (membership : Membership) (w : World) : World :=
  { w with ports := w.ports.modify name (·.mapSwitchport (.join membership)) }

def attach (vlan : Oid) (id : UInt16) (port : String × PortId × Bool) : Rpc Unit := do
  let member ← sai (Hardware.addVlanMember vlan port.2.1 port.2.2)
  modify (World.recordMember port.1 ⟨id, member, port.2.2⟩)

def reconcileVlanSuspension (id : UInt16) (suspend : Bool) : Rpc Unit := do
  let w ← get
  if suspend then
    removeMembers (w.portMembers id)
    modify (World.leaveVlan id)
  else
    match w.vlanObject id with
    | some vlan => each (attach vlan id) (w.missing id)
    | none => return

structure EnsureVlanRequest where
  id : UInt32
  name : String
  suspend : Bool

def World.recordVlan (id : UInt16) (oid : Option Oid) (req : EnsureVlanRequest) (w : World) : World :=
  let state :=
    match w.vlans[id]? with
    | some state => { state with name := req.name, suspended := req.suspend }
    | none => { oid, name := req.name, suspended := req.suspend }
  { w with vlans := w.vlans.insert id state }

/-- The object for a VLAN that is new; the default one has none. -/
def newVlan (id : UInt16) (known : Option VlanState) : Rpc (Option Oid) :=
  if known.isSome ∨ id = 1 then pure none else some <$> sai (Hardware.createVlan id)

def ensureVlan (req : EnsureVlanRequest) : Rpc Unit := do
  let id ← settle (vlanId req.id)
  let w ← get
  let known := w.vlans[id]?
  let oid ← newVlan id known
  modify (World.recordVlan id oid req)
  if known.any fun state => state.suspended ≠ req.suspend then
    reconcileVlanSuspension id req.suspend

def World.setVlanRif (id : UInt16) (rif : Option Oid) (w : World) : World :=
  { w with vlans := w.vlans.modify id fun state => { state with rif } }

/-- The router interface of a VLAN goes. -/
def teardownSvi (id : UInt16) (state : VlanState) : Rpc Unit :=
  match state.rif with
  | some rif => do
      sai (Hardware.removeVlanRouterInterface rif)
      modify (World.setVlanRif id none)
  | none => pure ()

def removeVlanObject (state : VlanState) : Rpc Unit :=
  match state.oid with
  | some oid => sai (Hardware.removeVlan oid)
  | none => pure ()

def removeVlan (raw : UInt32) : Rpc Unit := do
  let id ← settle (vlanId raw)
  let w ← get
  match w.vlans[id]? with
  | none => return
  | some state =>
    teardownSvi id state
    removeMembers (w.portMembers id)
    modify (World.leaveVlan id)
    removeVlanObject state
    modify fun w => { w with vlans := w.vlans.erase id }

def sortDedup (vlans : List UInt16) : List UInt16 := (Std.ExtTreeSet.ofList vlans compare).toList

theorem nodup_sortDedup (vlans : List UInt16) : (sortDedup vlans).Nodup :=
  Std.ExtTreeSet.distinct_toList.imp fun ne => by simpa using ne

structure L2Program where
  trunk : Bool
  accessVlan : UInt16
  nativeVlan : UInt16
  trunkVlans : List UInt16
  distinct : trunkVlans.Nodup

/-- The memberships that a program asks for. -/
def L2Program.wanted (program : L2Program) : List (UInt16 × Bool) :=
  if program.trunk then
    (if program.nativeVlan ≠ 1 then [(program.nativeVlan, false)] else []) ++
      (program.trunkVlans.filter fun vlan => vlan ≠ program.nativeVlan ∧ vlan ≠ 1).map (·, true)
  else if program.accessVlan ≠ 1 then [(program.accessVlan, false)]
  else []

/-- The VLAN of untagged frames. -/
def L2Program.untagged (program : L2Program) : UInt16 :=
  if program.trunk then program.nativeVlan else program.accessVlan

/-- Of these, the ones in VLANs that exist and are not suspended. -/
def World.desired (w : World) (program : L2Program) : List (UInt16 × Bool × Oid) :=
  program.wanted.filterMap fun (vlan, tagged) =>
    match w.vlans[vlan]? with
    | some state => if state.suspended then none else state.oid.map (vlan, tagged, ·)
    | none => none

def isDesired (desired : List (UInt16 × Bool × Oid)) (membership : Membership) : Bool :=
  desired.any fun (vlan, tagged, _) => vlan = membership.vlan && tagged = membership.tagged

def staleMembers (desired : List (UInt16 × Bool × Oid)) (current : List Membership) : List Oid :=
  (current.filter fun membership => !isDesired desired membership).map Membership.member

def addMissing (saiId : PortId) : List (UInt16 × Bool × Oid) → List Membership → Rpc (List Membership)
  | [], members => pure members
  | (vlan, tagged, oid) :: rest, members =>
    if members.any fun membership => membership.vlan = vlan && membership.tagged = tagged then
      addMissing saiId rest members
    else do
      let member ← sai (Hardware.addVlanMember oid saiId tagged)
      addMissing saiId rest (members ++ [⟨vlan, member, tagged⟩])

def settleDefaultVlan (saiId : PortId) (program : L2Program) : Rpc Unit :=
  if program.untagged = 1 then sai (Hardware.restorePortDefaultVlan saiId)
  else sai (Hardware.removePortDefaultVlan saiId)

def programL2 (saiId : PortId) (current : List Membership) (program : L2Program) :
    Rpc (List Membership) := do
  let w ← get
  let desired := w.desired program
  removeMembers (staleMembers desired current)
  settleDefaultVlan saiId program
  let members ← addMissing saiId desired (current.filter (isDesired desired))
  sai (Hardware.setPortPvid saiId program.untagged)
  return members

inductive SwitchportMode where
  | unspecified
  | access
  | trunk
  | dot1qTunnel
  deriving DecidableEq

structure SetPortSwitchportRequest where
  name : String
  mode : SwitchportMode
  accessVlan : UInt32
  nativeVlan : UInt32
  trunkVlans : List UInt32

def SetPortSwitchportRequest.program (caps : Capabilities) (req : SetPortSwitchportRequest) :
    Except Status L2Program := do
  if req.mode = .unspecified then
    throw ⟨.invalidArgument, "unspecified switchport mode"⟩
  if req.mode = .dot1qTunnel then requireCapability caps.portTpid "dot1q-tunnel"
  let accessVlan ← defaultVlanId req.accessVlan
  let nativeVlan ← defaultVlanId req.nativeVlan
  let trunkVlans ← req.trunkVlans.mapM vlanId
  return ⟨req.mode = .trunk, accessVlan, nativeVlan, sortDedup trunkVlans, nodup_sortDedup trunkVlans⟩

def L2Program.state (program : L2Program) (dot1qTunnel : Bool) (members : List Membership) :
    SwitchportState :=
  ⟨program.trunk, dot1qTunnel, program.accessVlan, program.trunkVlans, program.nativeVlan, members⟩

def members (switchport : Option SwitchportState) : List Membership :=
  switchport.elim [] SwitchportState.members

def setLagSwitchport (group : UInt16) (program : L2Program) : Rpc Unit := do
  let w ← get
  match w.lags[group]? with
  | none => throw ⟨.failedPrecondition, portChannel group ++ " not created"⟩
  | some lag =>
    let members ← programL2 lag.saiId (members lag.switchport) program
    modify fun w =>
      { w with
        lags := w.lags.modify group fun lag =>
          { lag with switchport := some (program.state false members) } }

def settleTpid (saiId : PortId) (tunnel wasTunnel : Bool) : Rpc Unit :=
  if tunnel = wasTunnel then pure ()
  else sai (Hardware.setPortTpid saiId (if tunnel then 0x88a8 else 0x8100))

def setPhysicalSwitchport (name : String) (tunnel : Bool) (program : L2Program) : Rpc Unit := do
  let w ← get
  match w.ports[name]? with
  | none => throw ⟨.notFound, "no port " ++ quoted name⟩
  | some port =>
    if port.rif.isSome then
      throw ⟨.failedPrecondition, name ++ " is routed; delete its address before switchport config"⟩
    else
      let members ← programL2 port.saiId (members port.switchport) program
      settleTpid port.saiId tunnel (port.switchport.any SwitchportState.dot1qTunnel)
      modify fun w =>
        { w with
          ports := w.ports.modify name fun port =>
            { port with switchport := some (program.state tunnel members) } }

def setPortSwitchport (caps : Capabilities) (req : SetPortSwitchportRequest) : Rpc Unit := do
  let program ← settle (req.program caps)
  match lagGroupOf req.name with
  | some group =>
    if req.mode = .dot1qTunnel then
      throw ⟨.invalidArgument, "dot1q-tunnel is not supported on port-channel interfaces"⟩
    else setLagSwitchport group program
  | none => setPhysicalSwitchport req.name (req.mode = .dot1qTunnel) program

/-- A port is in the default VLAN again, and in no other. -/
def resetPort (saiId : PortId) (switchport : SwitchportState) : Rpc Unit := do
  removeMembers (switchport.members.map Membership.member)
  if switchport.dot1qTunnel then sai (Hardware.setPortTpid saiId 0x8100)
  sai (Hardware.restorePortDefaultVlan saiId)

/-- A Port-Channel is in the default VLAN again, and in no other. -/
def resetLag (lag : LagState) : Rpc Unit :=
  match lag.switchport with
  | some switchport => do
      removeMembers (switchport.members.map Membership.member)
      sai (Hardware.restorePortDefaultVlan lag.saiId)
  | none => pure ()

def clearPortSwitchport (name : String) : Rpc Unit := do
  let w ← get
  match lagGroupOf name with
  | some group =>
    match w.lags[group]? with
    | none => return
    | some lag =>
      resetLag lag
      modify fun w =>
        { w with lags := w.lags.modify group fun lag => { lag with switchport := none } }
  | none =>
    match w.ports[name]? with
    | none => throw ⟨.notFound, "no port " ++ quoted name⟩
    | some port =>
      match port.switchport with
      | none => return
      | some switchport =>
        resetPort port.saiId switchport
        modify fun w =>
          { w with
            ports := w.ports.modify name fun port => { port with switchport := none } }

/-- The bridging side of an interface address: the interface of a VLAN or of a port.  The
routes are left out, and so is a route that is refused (IPv6 on a platform without it), which
leaves a new interface unrecorded. -/
def setInterfaceAddress (name : String) : Rpc Unit := do
  let w ← get
  match sviVlanId name with
  | some id =>
    match w.vlans[id]? with
    | some state =>
      if state.rif.isSome then return
      else
        let rif ← sai (Hardware.createVlanRouterInterface state.oid)
        modify (World.setVlanRif id (some rif))
    | none =>
      if id = 1 then
        let rif ← sai (Hardware.createVlanRouterInterface none)
        modify fun w =>
          { w with vlans := w.vlans.insert 1 ⟨none, "", false, some rif⟩ }
      else
        throw ⟨.failedPrecondition, "VLAN " ++ toString id.toNat ++ " is not defined (set vlans vlan "
          ++ toString id.toNat ++ ")"⟩
  | none =>
    match w.ports[name]? with
    | none => throw ⟨.notFound, "no port " ++ quoted name⟩
    | some port =>
      if port.switchport.isSome then
        throw ⟨.failedPrecondition,
          name ++ " has switchport config; delete it before addressing the port"⟩
      else if port.rif.isSome then return
      else
        let rif ← sai (Hardware.createRouterInterface port.saiId)
        modify fun w =>
          { w with
            ports := w.ports.modify name fun port => { port with rif := some rif } }

def clearInterfaceAddress (name : String) : Rpc Unit := do
  let w ← get
  match sviVlanId name with
  | some id =>
    match w.vlans[id]? with
    | some state => teardownSvi id state
    | none => return
  | none =>
    match w.ports[name]? with
    | none => throw ⟨.notFound, "no port " ++ quoted name⟩
    | some port =>
      match port.rif with
      | none => return
      | some rif =>
        sai (Hardware.removeRouterInterface port.saiId rif)
        modify fun w =>
          { w with ports := w.ports.modify name fun port => { port with rif := none } }

def lagGroup (raw : UInt32) : Except Status UInt16 :=
  if 1 ≤ raw ∧ raw ≤ 64 then .ok raw.toUInt16
  else .error ⟨.invalidArgument, "bad group " ++ toString raw.toNat⟩

structure CreateLagRequest where
  group : UInt32
  description : String
  adminUp : Bool

def createLag (caps : Capabilities) (req : CreateLagRequest) : Rpc Unit := do
  settle (requireCapability caps.lag "port-channel")
  let group ← settle (lagGroup req.group)
  let w ← get
  if group ∈ w.lags then
    modify fun w =>
      { w with
        lags := w.lags.modify group fun lag =>
          { lag with description := req.description, adminUp := req.adminUp } }
  else
    let saiId ← sai Hardware.createLag
    modify fun w =>
      { w with
        lags := w.lags.insert group
          { saiId, description := req.description, adminUp := req.adminUp } }

def dropLagMember (member : String × LagMemberState) : Rpc Unit := do
  let w ← get
  let port ← settle (w.portSaiId member.1)
  sai (Hardware.removeLagMember member.2.oid port)

def removeLag (raw : UInt32) : Rpc Unit := do
  let group ← settle (lagGroup raw)
  let w ← get
  match w.lags[group]? with
  | none => return
  | some lag =>
    resetLag lag
    each dropLagMember lag.members.toList
    sai (Hardware.removeLag lag.saiId)
    modify fun w => { w with lags := w.lags.erase group }

structure SetLagMembersRequest where
  group : UInt32
  members : List (String × Bool)

def addLagMember (lag : PortId) (name : String) (enabled : Bool) : Rpc LagMemberState := do
  let w ← get
  let port ← settle (w.portSaiId name)
  if w.ports[name]?.any fun port => port.rif.isSome then
    throw ⟨.failedPrecondition, name ++ " is routed; delete its address before channel-group"⟩
  else
    let oid ← sai (Hardware.addLagMember lag port)
    if enabled then sai (Hardware.setLagMemberState oid true)
    return ⟨oid, enabled⟩

/-- Adds the members that are missing and settles the gates of the others. -/
def settleLagMembers (lag : PortId) :
    List (String × Bool) → NameMap LagMemberState → Rpc (NameMap LagMemberState)
  | [], members => pure members
  | (name, enabled) :: rest, members => do
      match members[name]? with
      | some member =>
        if member.enabled ≠ enabled then sai (Hardware.setLagMemberState member.oid enabled)
        settleLagMembers lag rest (members.insert name { member with enabled })
      | none =>
        let member ← addLagMember lag name enabled
        settleLagMembers lag rest (members.insert name member)

def setLagMembers (req : SetLagMembersRequest) : Rpc Unit := do
  let group ← settle (lagGroup req.group)
  let w ← get
  match w.lags[group]? with
  | none => throw ⟨.failedPrecondition, portChannel group ++ " not created"⟩
  | some lag =>
    let wanted := Std.ExtTreeMap.ofList req.members compare
    each dropLagMember (lag.members.filter fun name _ => !wanted.contains name).toList
    let members ← settleLagMembers lag.saiId wanted.toList
      (lag.members.filter fun name _ => wanted.contains name)
    modify fun w =>
      { w with lags := w.lags.modify group fun lag => { lag with members } }

/-- The ports of a switch, each with an identifier of its own below the numbers of objects. -/
structure Board where
  ports : NameMap PortId
  firstObject : Oid
  distinct : ∀ {name other : String} {port : PortId},
    ports[name]? = some port → ports[other]? = some port → name = other
  below : ∀ {name : String} {port : PortId}, ports[name]? = some port → port < firstObject

def Board.identifiers (board : Board) : OidSet := Std.ExtTreeSet.ofList board.ports.values compare

/-- All ports are in the default VLAN. -/
def Board.boot (board : Board) : World where
  ports := board.ports.map fun _ saiId => { saiId }
  hardware :=
    { ports := board.identifiers
      next := board.firstObject
      defaultMembers := board.identifiers
      pvids := Std.ExtTreeMap.ofList (board.ports.values.map (·, 1)) compare }

def smallBoard : Board where
  ports := (∅ : NameMap PortId).insert "Ethernet1" 0
  firstObject := 1
  distinct := by
    intro name other port found found'
    simp only [getElem?_insert] at found found'
    split_ifs at found found' with same same' <;> simp_all
  below := by
    intro name port found
    simp only [getElem?_insert] at found
    split_ifs at found with same
    · cases found
      decide
    · simp at found

end Hemlock.Switching
