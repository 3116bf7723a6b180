import Hemlock.Intent.Interfaces
import Hemlock.Intent.Routes
import Hemlock.Intent.Security

/-!
# Checks across families, and the whole extraction

What can only be checked once every block has been read: pools and relays, addresses of
interfaces that other families name, channel groups, mirror sessions, access lists,
quality of service, bindings.  Then `extract`, which reads a tree.
-/

namespace Hemlock.Intent

open Config Net
open Acl (portChannel)
open Rib (splitOnce)
open Routing (parseCidr)

abbrev Check := Except IntentError Unit

def check (holds : Bool) (refusal : IntentError) : Check := if holds then .ok () else .error refusal

/-- The networks of the pools before, and who reserved which MAC address. -/
structure PoolsSeen where
  reservedMacs : NameMap String := ∅
  subnets : List (String × (Ipv4Addr × UInt8)) := []

def poolReservation (name network : String) (subnet : Ipv4Addr × UInt8)
    (reservedMacs : NameMap String) (reservation : String × Ipv4Addr) :
    Except IntentError (NameMap String) := do
  let (mac, address) := reservation
  check (inSubnet address subnet.1 subnet.2)
    (.badDhcpPool name ("reservation " ++ mac ++ " address " ++ ipv4Text address
      ++ " is outside " ++ network))
  match reservedMacs[mac]? with
  | some other =>
    check (other = name)
      (.badDhcpPool name ("reservation " ++ mac ++ " is already reserved in pool " ++ other))
  | none => pure ()
  return reservedMacs.insert mac name

/-- One pool: what it has to say, that it stays in its network, and that it keeps out of
the pools before. -/
def validatePool (seen : PoolsSeen) (entry : String × DhcpPoolIntent) : Except IntentError PoolsSeen := do
  let (name, pool) := entry
  let network := pool.network.getD ""
  let some subnet := pool.subnet | throw (.badDhcpPool name "network is required")
  let some (start, stop) := pool.range | throw (.badDhcpPool name "range is required")
  let some gateway := pool.defaultGateway
    | throw (.badDhcpPool name "default-gateway is required")
  check (inSubnet start subnet.1 subnet.2)
    (.badDhcpPool name ("range start " ++ ipv4Text start ++ " is outside " ++ network))
  check (inSubnet stop subnet.1 subnet.2)
    (.badDhcpPool name ("range end " ++ ipv4Text stop ++ " is outside " ++ network))
  check (inSubnet gateway subnet.1 subnet.2)
    (.badDhcpPool name ("default-gateway " ++ ipv4Text gateway ++ " is outside " ++ network))
  let reservedMacs ← pool.reservations.toList.foldlM (poolReservation name network subnet)
    seen.reservedMacs
  seen.subnets.forM fun (other, otherSubnet) =>
    check (!subnetsOverlap subnet otherSubnet)
      (.badDhcpPool name ("network " ++ network ++ " overlaps pool " ++ other))
  return { reservedMacs, subnets := seen.subnets ++ [(name, subnet)] }

def sviName (vlan : UInt16) : String := "Vlan" ++ toString vlan.toNat

section

variable (intents : Intents)

/-- A VLAN that relays has no pool of its own. -/
def validateRelayPool (vlan : UInt16) : Check :=
  match (intents.svis[sviName vlan]?).bind SviIntent.address with
  | none => .ok ()
  | some address =>
    match parseCidr address with
    | .ok (.v4 address, _) =>
      intents.dhcpServer.toList.forM fun (pool, intent) =>
        match intent.subnet with
        | none => .ok ()
        | some (base, length) =>
          check (!inSubnet address base length)
            (.badDhcpRelay (sviName vlan)
              ("dhcp-relay and a local dhcp-server pool cannot serve the same VLAN (pool "
                ++ pool ++ ")"))
    | _ => .ok ()

def validateDhcpPools : Check := do
  let _ ← intents.dhcpServer.toList.foldlM validatePool {}
  intents.dhcpRelay.keys.forM (validateRelayPool intents)

/-- An interface's address: none for no such interface, `some none` for one without. -/
def addressOf (name : String) : Option (Option String) :=
  ((intents.ports[name]?).map InterfaceIntent.address).or
    (((intents.svis[name]?).map SviIntent.address).or
      ((intents.management[name]?).map MgmtIntent.address))

/-- Without its prefix length, the address of the first management interface that has one. -/
def managementAddress : Option String :=
  (intents.management.values.filterMap MgmtIntent.address).head?.map fun cidr =>
    String.ofList (cidr.toList.takeWhile (· ≠ '/'))

def validateRelays : Check :=
  intents.dhcpRelay.keys.forM fun vlan =>
    check ((intents.svis[sviName vlan]?).any fun svi => svi.address.isSome)
      (.badDhcpRelay (sviName vlan) "the interface must carry an address (the relay's giaddr)")

def SflowIntent.isSet (intent : SflowIntent) : Bool := intent ≠ {}

/-- Sampling needs a collector, the agent an address to listen on. -/
def validateAgents : Check := do
  let perPortSflow := intents.ports.values.any InterfaceIntent.sflowDisabled
  check (!(!intents.sflow.enabled && (intents.sflow.isSet || perPortSflow)))
    (.badSflow "at least one collector is required")
  check (!(intents.snmp.enabled && (managementAddress intents).isNone))
    (.badSnmp "the management interface must carry an address (the agent listens there only)")

def validateArp (entry : String × ArpStatic) : Check :=
  match addressOf intents entry.2.interface with
  | some (some _) => .ok ()
  | some none => .error (.badArp entry.1 (entry.2.interface ++ " has no address (not L3)"))
  | none => .error (.badArp entry.1 ("no such L3 interface " ++ debug entry.2.interface))

def validateOspf : Check :=
  match intents.ospf with
  | none => .ok ()
  | some ospf =>
    (ospf.interfaces.keys ++ ospf.passiveInterfaces.toList).forM fun name =>
      match addressOf intents name with
      | some (some _) => .ok ()
      | some none => .error (.badOspf ("interface " ++ name ++ " has no address (not L3)"))
      | none => .error (.badOspf ("no such L3 interface " ++ debug name))

/-- A virtual address is in the subnet of its interface. -/
def validateVrrp (entry : (String × UInt8) × VrrpIntent) : Check := do
  let ((interface, group), vrrp) := entry
  let refuse := IntentError.badVrrp interface (toString group.toNat)
  let some (some address) := addressOf intents interface
    | throw (refuse "the interface must carry an address")
  let .ok (addr, length) := parseCidr address
    | throw (refuse ("bad interface address " ++ debug address))
  check (!vrrp.addresses.isEmpty) (refuse "at least one address (VIP) is required")
  vrrp.addresses.toList.forM fun vip =>
    match parseIpAddr vip.toList with
    | none => .error (refuse ("bad address " ++ debug vip))
    | some vipAddr =>
      check (vipAddr.isIpv4 && network length.toNat vipAddr = network length.toNat addr)
        (refuse ("address " ++ vip ++ " is outside " ++ interface ++ "'s subnet " ++ address))

/-- The first member of each group with its mode, and the sizes. -/
structure GroupsSeen where
  modes : Std.ExtTreeMap UInt16 (String × LacpMode) compare := ∅
  sizes : Std.ExtTreeMap UInt16 Nat compare := ∅

/-- A member has no switchport of its own and runs the mode of its group. -/
def validateMember (seen : GroupsSeen) (entry : String × InterfaceIntent) : Except IntentError GroupsSeen :=
  let (name, port) := entry
  match port.channelGroup with
  | none => .ok seen
  | some member => do
      check port.switchport.isNone (.memberConfigConflict name member.group)
      let sizes := seen.sizes.insert member.group ((seen.sizes[member.group]?).getD 0 + 1)
      match seen.modes[member.group]? with
      | some (first, mode) =>
        check (mode = member.mode) (.badChannelGroup name
          ("mode " ++ member.mode.word ++ " does not match " ++ first ++ " (" ++ mode.word
            ++ ") in channel-group " ++ toString member.group.toNat))
        return { seen with sizes }
      | none => return { sizes, modes := seen.modes.insert member.group (name, member.mode) }

def maxMembers : Nat := 8

def validateSize (entry : UInt16 × Nat) : Check :=
  let (group, size) := entry
  let member := (intents.ports.toList.find? fun port =>
    port.2.channelGroup.map ChannelGroup.group = some group).map Prod.fst
  check (size ≤ maxMembers) (.badChannelGroup (member.getD "")
    ("channel-group " ++ toString group.toNat ++ " has " ++ toString size ++ " members (max 8)"))

/-- The sizes of the groups, for the note about port-channels without members. -/
def validateGroups : Except IntentError Intents := do
  let seen ← intents.ports.toList.foldlM validateMember {}
  seen.sizes.toList.forM (validateSize intents)
  let empty := intents.lags.keys.filter fun group => !seen.sizes.contains group
  let notes := empty.map fun group => portChannel group ++ " has no member ports"
  return { intents with warnings := intents.warnings ++ notes }

/-- The session that mirrors a port, for each direction. -/
structure SourcesSeen where
  rx : NameMap UInt8 := ∅
  tx : NameMap UInt8 := ∅

/-- A port is a source in at most one session for each direction. -/
def claimSource (session : UInt8) (port : String) (map : NameMap UInt8) :
    Except IntentError (NameMap UInt8) := do
  match map[port]? with
  | some other =>
    check (other = session) (.badMirror session (port ++ " is already a source in session "
      ++ toString other.toNat ++ " for that direction"))
  | none => pure ()
  return map.insert port session

def claimDirections (session : UInt8) (seen : SourcesSeen) (source : String × MirrorDirection) :
    Except IntentError SourcesSeen :=
  match source.2 with
  | .rx => do return { seen with rx := ← claimSource session source.1 seen.rx }
  | .tx => do return { seen with tx := ← claimSource session source.1 seen.tx }
  | .both => do
      let rx ← claimSource session source.1 seen.rx
      let tx ← claimSource session source.1 seen.tx
      return { rx, tx }

/-- A destination is no source, no member of a port-channel and not routed. -/
def validateDestination (seen : SourcesSeen) (warnings : List String)
    (entry : UInt8 × MirrorIntent) : Except IntentError (List String) :=
  let (session, mirror) := entry
  match mirror.destination with
  | none =>
    .ok (warnings ++ ["mirror session " ++ toString session.toNat ++ " has no destination"])
  | some dest => do
      check (!(seen.rx.contains dest || seen.tx.contains dest))
        (.badMirror session ("destination " ++ dest ++ " is a mirror source"))
      match intents.ports[dest]? with
      | none => pure ()
      | some port =>
        match port.channelGroup with
        | some member => throw (.badMirror session ("destination " ++ dest
            ++ " is a member of Port-Channel" ++ toString member.group.toNat))
        | none => pure ()
        check port.address.isNone
          (.badMirror session ("destination " ++ dest ++ " carries an address"))
      return warnings

def validateMirrors : Except IntentError Intents := do
  let seen ← intents.mirror.toList.foldlM (fun seen (session, mirror) =>
    mirror.sources.toList.foldlM (claimDirections session) seen) {}
  let warnings ← intents.mirror.toList.foldlM (validateDestination intents seen) intents.warnings
  return { intents with warnings }

/-- A member of a port-channel is bound on the port-channel. -/
def portBinding (entry : String × InterfaceIntent) : Except IntentError (List (String × AccessGroups)) :=
  let (name, port) := entry
  if port.accessGroups.isEmpty then .ok []
  else
    match port.channelGroup with
    | some member => .error (.accessGroupOnMember name member.group)
    | none => .ok [(name, port.accessGroups)]

def validateBinding (binding : String × AccessGroups) : Check :=
  (binding.2.ingress.toList ++ binding.2.egress.toList).forM fun acl =>
    check (intents.acls.contains acl) (.badAccessGroup binding.1 ("no such ACL " ++ debug acl))

def validateBindings : Check := do
  let ports ← intents.ports.toList.mapM portBinding
  let lags := intents.lags.toList.filterMap fun (group, lag) =>
    if lag.accessGroups.isEmpty then none else some (portChannel group, lag.accessGroups)
  (ports.flatten ++ lags).forM (validateBinding intents)

def validateDot1x : Check := do
  let ports := intents.ports.toList.filter fun entry => entry.2.dot1x
  check (ports.isEmpty || intents.dot1x.radiusServers.any fun server => server.key.isSome)
    (.badDot1x "radius-server with key is required")
  ports.forM fun (name, port) =>
    match port.channelGroup with
    | some member => .error (.badDot1x (name ++ ": member of Port-Channel"
        ++ toString member.group.toNat ++ "; dot1x runs on standalone ports"))
    | none => .ok ()

def portQosTarget (entry : String × InterfaceIntent) : Except IntentError (List (String × PortQosIntent)) :=
  let (name, port) := entry
  match port.qos with
  | none => .ok []
  | some qos =>
    match port.channelGroup with
    | some member => .error (.memberConfigConflict name member.group)
    | none => .ok [(name, qos)]

/-- The strict queues of a program and the profiles that its queues name. -/
structure QueuesSeen where
  strict : List UInt8 := []
  references : NameMap (List String) := ∅

def validateQueue (name : String) (qos : PortQosIntent) (seen : QueuesSeen)
    (entry : UInt8 × QueueQosIntent) : Except IntentError QueuesSeen := do
  let (index, queue) := entry
  let refuse := IntentError.badQueueQos name (toString index.toNat)
  check (!(queue.strict && queue.weight.isSome)) (refuse "strict and weight are mutually exclusive")
  match queue.shape, qos.shape with
  | some queueRate, some portRate =>
    check (queueRate ≤ portRate) (refuse ("shaper " ++ formatScaled queueRate.toNat
      ++ " exceeds the port shaper " ++ formatScaled portRate.toNat))
  | _, _ => pure ()
  let references :=
    match queue.wredProfile with
    | none => seen.references
    | some profile => seen.references.insert profile
        ((seen.references[profile]?).getD [] ++ [name ++ " (q" ++ toString index.toNat ++ ")"])
  return { strict := if queue.strict then seen.strict ++ [index] else seen.strict, references }

def qosQueueCount : Nat := 8

def strictOnTop (strict : List UInt8) : Bool :=
  strict.map UInt8.toNat =
    (List.range strict.length).map fun offset => qosQueueCount - strict.length + offset

def validateQos (references : NameMap (List String)) (target : String × PortQosIntent) :
    Except IntentError (NameMap (List String)) := do
  let seen ← target.2.queues.toList.foldlM (validateQueue target.1 target.2) { references }
  check (strictOnTop seen.strict) .strictQueueOrder
  return seen.references

/-- A profile that a queue names exists, and has its thresholds in order. -/
def validateProfile (references : NameMap (List String)) (entry : String × WredProfileIntent) : Check :=
  let (name, profile) := entry
  match profile.minThreshold, profile.maxThreshold with
  | some low, some high =>
    check (low < high) (.badWredProfile name ("min-threshold " ++ toString low.toNat
      ++ " must be below max-threshold " ++ toString high.toNat))
  | _, _ =>
    check (!references.contains name) (.badWredProfile name
      "min-threshold and max-threshold are required when the profile is referenced")

def validateQosTargets : Check := do
  let ports ← intents.ports.toList.mapM portQosTarget
  let lags := intents.lags.toList.filterMap fun (group, lag) =>
    lag.qos.map fun qos => (portChannel group, qos)
  let references ← (ports.flatten ++ lags).foldlM validateQos ∅
  references.toList.forM fun (profile, users) =>
    check (intents.wredProfiles.contains profile) (.badWredProfile profile
      ("not defined; referenced by " ++ ", ".intercalate users))
  intents.wredProfiles.toList.forM (validateProfile references)

def validateSecured (entry : String × InterfaceIntent) : Check :=
  let (name, port) := entry
  if port.portSecurity.isNone then .ok ()
  else
    match port.channelGroup with
    | some member => .error (.badPortSecurity name ("member of Port-Channel"
        ++ toString member.group.toNat
        ++ "; port-security and channel-group are mutually exclusive"))
    | none =>
      check (!intents.mirror.values.any fun mirror => mirror.destination = some name)
        (.badPortSecurity name "mirror destinations take no port-security")

/-- An inspected VLAN has something to validate against. -/
def validateInspected (vlan : UInt16) : Check :=
  check (intents.snoopSec.dhcpVlans.contains vlan ||
      intents.snoopSec.staticBindings.keys.any fun key => key.2 = vlan)
    (.badArpInspection ("vlan " ++ toString vlan.toNat ++ " needs dhcp-snooping vlan "
      ++ toString vlan.toNat ++ " (or a static binding) to validate against"))

def lagNamed (name : String) : Option LagIntent :=
  (name.toList.dropPrefix? "Port-Channel".toList).bind fun digits =>
    (parseUnsigned 10 (2 ^ 16) digits).bind fun group => intents.lags[UInt16.ofNat group]?

/-- The switchport program that counts for a name; a member has that of its port-channel. -/
def effectiveSwitchport (name : String) : Option (Option SwitchportIntent) :=
  match intents.ports[name]? with
  | some port =>
    match port.channelGroup with
    | some member => some ((intents.lags[member.group]?).bind LagIntent.switchport)
    | none => some port.switchport
  | none => (lagNamed intents name).map LagIntent.switchport

def carriesVlan (name : String) (vlan : UInt16) : Bool :=
  match effectiveSwitchport intents name with
  | none => false
  | some none => vlan = 1
  | some (some program) =>
    match program.mode with
    | .access | .dot1qTunnel => program.accessVlan.getD 1 = vlan
    | .trunk => program.trunkVlans.contains vlan || program.nativeVlan.getD 1 = vlan

def validateStatic (entry : (String × UInt16) × StaticBinding) : Check := do
  let ((mac, vlan), binding) := entry
  let what := "binding " ++ mac ++ " vlan " ++ toString vlan.toNat ++ ": "
  check (intents.ports.contains binding.interface || (lagNamed intents binding.interface).isSome)
    (.badDhcpSnooping (what ++ "no such interface " ++ debug binding.interface))
  check (carriesVlan intents binding.interface vlan)
    (.badDhcpSnooping (what ++ binding.interface ++ " does not carry VLAN " ++ toString vlan.toNat))

def trustNotes (name : String) (dhcpTrust arpTrust : Bool) : List String :=
  let note (feature : String) (trusted : Bool) (vlans : VlanSet) : List String :=
    if trusted && !vlans.toList.any fun vlan => carriesVlan intents name vlan then
      [name ++ ": " ++ feature ++ " trust has no effect (the interface carries no such VLAN)"]
    else []
  note "dhcp-snooping" dhcpTrust intents.snoopSec.dhcpVlans ++
    note "arp-inspection" arpTrust intents.snoopSec.arpVlans

def allTrustNotes : List String :=
  (intents.ports.toList.flatMap fun (name, port) =>
    trustNotes intents name port.dhcpSnoopingTrust port.arpInspectionTrust) ++
  intents.lags.toList.flatMap fun (group, lag) =>
    trustNotes intents (portChannel group) lag.dhcpSnoopingTrust lag.arpInspectionTrust

def finishValidation : Except IntentError Intents := do
  validateDhcpPools intents
  validateRelays intents
  validateAgents intents
  intents.arpStatics.toList.forM (validateArp intents)
  validateOspf intents
  intents.vrrp.toList.forM (validateVrrp intents)
  let intents ← validateGroups intents
  let intents ← validateMirrors intents
  validateBindings intents
  validateDot1x intents
  validateQosTargets intents
  intents.ports.toList.forM (validateSecured intents)
  intents.snoopSec.arpVlans.toList.forM (validateInspected intents)
  intents.snoopSec.staticBindings.toList.forM (validateStatic intents)
  return { intents with warnings := intents.warnings ++ allTrustNotes intents }

end

/-- Extract every intent family from a configuration tree. -/
def extract (zoneFiles : Option (String → Bool)) (tree : ConfigTree) : Except IntentError Intents := do
  let ssh ← ssh tree
  let vlans ← vlans tree
  let intents ← system zoneFiles tree { ssh, web := web tree, vlans }
  let intents ← routing tree intents
  let intents ← protocols tree intents
  let intents ← switching tree intents
  let intents ← security tree intents
  let intents ← services tree intents
  let intents ← qos tree intents
  let intents ← interfaces tree intents
  finishValidation intents

end Hemlock.Intent
