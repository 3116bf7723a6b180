import Hemlock.Intent.Services

/-!
# The interfaces block

Front-panel ports, port-channels, management ports and VLAN interfaces.  Each kind has
settings that the others refuse.
-/

namespace Hemlock.Intent

open Config Net ConfigTree
open Routing (parseCidr)

section

variable (children : List Item) (name : String)

/-- The current spelling of the administrative state, or one of the older ones. -/
def adminState : Except IntentError (Option Bool) :=
  let shutdown := ConfigTree.hasLeaf children "shutdown"
  let noShutdown :=
    ConfigTree.hasPhrase children "no" "shutdown" || ConfigTree.hasLeaf children "no-shutdown"
  if shutdown && noShutdown then
    .error (.badInterfaceBlock (name ++ ": both shutdown and no-shutdown"))
  else if shutdown then .ok (some false)
  else if noShutdown then .ok (some true)
  else
    match ConfigTree.leafValue children "admin-state" with
    | some "enabled" => .ok (some true)
    | some "disabled" => .ok (some false)
    | some other => .error (.badAdminState name other)
    | none => .ok none

def interfaceAddress : Except IntentError (Option String) :=
  match ConfigTree.leafValue children "address" with
  | none => .ok none
  | some value => do
      let _ ← (parseCidr value).mapError (.badAddress name)
      return some value

def mtu : Except IntentError (Option UInt32) :=
  optionalLeaf children "mtu" fun value => do
    let some bytes := parseUnsigned 10 (2 ^ 32) value.toList
      | throw (.badLinkParam name ("bad MTU " ++ debug value ++ " (68..9216)"))
    (validMtu bytes).mapError (.badLinkParam name)
    return UInt32.ofNat bytes

/-- A pinned rate; `auto` pins none. -/
def speed : Except IntentError (Option UInt32) :=
  match ConfigTree.leafValue children "speed" with
  | none => .ok none
  | some value =>
    if lowercase value = "auto" then .ok none
    else
      match parseSpeed value with
      | some mbps => .ok (some mbps)
      | none => .error (.badLinkParam name
          ("bad speed " ++ debug value ++ " (auto, or a rate in Mb/s such as 1000)"))

def duplex : Except IntentError (Option Duplex) :=
  match ConfigTree.leafValue children "duplex" with
  | none => .ok none
  | some value =>
    if lowercase value = "auto" then .ok none
    else
      match Duplex.parse value with
      | some duplex => .ok (some duplex)
      | none => .error (.badLinkParam name
          ("bad duplex " ++ debug value ++ " (auto, full or half)"))

/-- Interfaces without a PHY take no speed and no duplex. -/
def noLinkPinning (children : List Item) (name what : String) : Except IntentError Unit :=
  ["speed", "duplex"].forM fun leaf =>
    if ConfigTree.hasLeaf children leaf then
      .error (.badLinkParam name (leaf ++ " is not supported on " ++ what))
    else .ok ()

/-- `<feature> disable`, the one spelling for services that run by default. -/
def portServiceDisable (children : List Item) (name feature : String) : Except IntentError Bool :=
  match ConfigTree.leafValues children feature with
  | none => .ok false
  | some ["disable"] => .ok true
  | some _ =>
    let reason := name ++ ": expected `" ++ feature ++ " disable`"
    .error (if feature = "sflow" then .badSflow reason else .badLldp reason)

def portLldp : Except IntentError Bool :=
  portServiceDisable children name "lldp"

def noPortServices : Except IntentError Unit :=
  ["lldp", "sflow"].forM fun feature =>
    if ConfigTree.hasLeaf children feature then .error (.portServiceOnNonPort name feature)
    else .ok ()

def maxDhcpRelayServers : Nat := 4

def relayStatement (name : String) (servers : List Ipv4Addr) :
    Item → Except IntentError (List Ipv4Addr)
  | .leaf "dhcp-relay" [keyword, address] =>
    if keyword ≠ "server" then
      .error (.badDhcpRelay name ("expected `server`, got " ++ debug keyword))
    else
      match parseIpv4 address with
      | some server => .ok (pushNew servers server)
      | none => .error (.badDhcpRelay name ("bad server address " ++ debug address))
  | .leaf "dhcp-relay" _ => .error (.badDhcpRelay name "expected `dhcp-relay server <ipv4>`")
  | _ => .ok servers

def dhcpRelayServers : Except IntentError (List Ipv4Addr) := do
  let servers ← children.foldlM (relayStatement name) []
  if maxDhcpRelayServers < servers.length then
    throw (.badDhcpRelay name
      ("at most 4 servers (" ++ toString servers.length ++ " configured)"))
  return servers

def noDhcpRelay : Except IntentError Unit :=
  if ConfigTree.hasLeaf children "dhcp-relay" then
    .error (.badDhcpRelay name "dhcp-relay is an SVI setting")
  else .ok ()

def switchportMode (block : List Item) (name : String) : Except IntentError SwitchportMode :=
  match ConfigTree.leafValue block "mode" with
  | some "trunk" => .ok .trunk
  | some "dot1q-tunnel" => .ok .dot1qTunnel
  | some "access" | none => .ok .access
  | some other => .error (.badSwitchport name
      ("mode must be `access`, `trunk` or `dot1q-tunnel`, got " ++ debug other))

/-- A VLAN as a phrase, or in the older leaf. -/
def vlanLeaf (block : List Item) (name first second legacy : String) : Except IntentError (Option UInt16) :=
  match ((ConfigTree.phraseValues block first second).bind List.head?).or
      (ConfigTree.leafValue block legacy) with
  | some value => some <$> (parseVlanId value).mapError (.badSwitchport name)
  | none => .ok none

def listParts (values : List String) : List String :=
  ((values.flatMap fun value => value.toList.splitOn ',').filter fun part => !part.isEmpty).map
    String.ofList

def switchport : Except IntentError (Option SwitchportIntent) :=
  match (ConfigTree.blocksNamed children "switchport").head? with
  | none => .ok none
  | some (_, block) => do
      let mode ← switchportMode block name
      let trunkValues := (ConfigTree.phraseValues block "trunk" "vlans").or
        (ConfigTree.leafValues block "trunk-vlans")
      if mode = .dot1qTunnel ∧ (trunkValues.isSome ∨
          ConfigTree.hasPhrase block "native" "vlan" ∨
          (ConfigTree.leafValue block "native-vlan").isSome) then
        throw (.badSwitchport name "dot1q-tunnel mode excludes trunk configuration")
      let trunkVlans ← (listParts (trunkValues.getD [])).mapM fun part =>
        (parseVlanId part).mapError (.badSwitchport name)
      let accessVlan ← vlanLeaf block name "access" "vlan" "access-vlan"
      let nativeVlan ← vlanLeaf block name "native" "vlan" "native-vlan"
      return some { mode, accessVlan, trunkVlans := sortedDistinct trunkVlans, nativeVlan }

def lacpModeOf : String → Option LacpMode
  | "active" => some .active
  | "passive" => some .passive
  | "on" => some .on
  | _ => none

def parseGroup (digits : List Char) : Option UInt16 :=
  ((parseUnsigned 10 (2 ^ 16) digits).filter fun group => 1 ≤ group && group ≤ 64).map UInt16.ofNat

def channelGroup : Except IntentError (Option ChannelGroup) :=
  match ConfigTree.leafValues children "channel-group" with
  | none => .ok none
  | some [group, keyword, mode] => do
      if keyword ≠ "mode" then
        throw (.badChannelGroup name ("expected `mode`, got " ++ debug keyword))
      let some number := parseGroup group.toList
        | throw (.badChannelGroup name ("bad channel-group number " ++ debug group ++ " (1..64)"))
      let some mode := lacpModeOf mode
        | throw (.badChannelGroup name
            ("mode must be `active`, `passive` or `on`, got " ++ debug mode))
      return some { group := number, mode }
  | some _ => .error (.badChannelGroup name "expected `channel-group <1-64> mode <mode>`")

/-- The first of the leaves that belongs elsewhere. -/
def misplaced (block : List Item) (leaves : List String) (refuse : String → IntentError) :
    Except IntentError Unit :=
  leaves.forM fun leaf =>
    if (ConfigTree.leafValues block leaf).isSome then .error (refuse leaf) else .ok ()

def portLacp : Except IntentError (Option PortLacpIntent) :=
  match (ConfigTree.blocksNamed children "lacp").head? with
  | none => .ok none
  | some (_, block) => do
      let refuse := fun reason => IntentError.badChannelGroup name ("lacp: " ++ reason)
      misplaced block ["fallback", "fallback-timeout"] fun leaf =>
        refuse (leaf ++ " belongs on the Port-Channel")
      let rateFast ←
        match ConfigTree.leafValue block "rate" with
        | some "fast" => pure true
        | some "normal" | none => pure false
        | some other => throw (refuse ("rate must be `normal` or `fast`, got " ++ debug other))
      let portPriority ← optionalLeaf block "port-priority" fun value =>
        (parseInt16 value 0 65535 "port-priority").mapError refuse
      return some { rateFast, portPriority }

def lagMinLinks : Except IntentError (Option UInt8) :=
  optionalLeaf children "min-links" fun value =>
    (parseInt8 value 0 8 "min-links").mapError (.badLag name)

def lagFallback : Except IntentError (Option LagFallback) :=
  match (ConfigTree.blocksNamed children "lacp").head? with
  | none => .ok none
  | some (_, block) => do
      misplaced block ["rate", "port-priority"] fun leaf =>
        .badLag name ("lacp: " ++ leaf ++ " belongs on the member ports")
      match ConfigTree.leafValue block "fallback" with
      | some "static" => return some .static
      | some "individual" => return some .individual
      | some other => throw (.badLag name
          ("lacp: fallback must be `static` or `individual`, got " ++ debug other))
      | none => return none

def lagFallbackTimeout : Except IntentError (Option UInt16) :=
  match (ConfigTree.blocksNamed children "lacp").head? with
  | none => .ok none
  | some (_, block) => optionalLeaf block "fallback-timeout" fun value =>
    (parseInt16 value 1 900 "fallback-timeout").mapError fun reason =>
      .badLag name ("lacp: " ++ reason)

def portStp : Except IntentError (Option PortStpIntent) :=
  match (ConfigTree.blocksNamed children "spanning-tree").head? with
  | none => .ok none
  | some (_, block) => do
      let cost ← optionalLeaf block "cost" fun value =>
        (parseInt32 value 1 200000000 "cost").mapError (.badPortStp name)
      let portPriority ← optionalLeaf block "port-priority" fun value => do
        let priority ← (parseInt8 value 0 240 "port-priority").mapError (.badPortStp name)
        if priority.toNat % 16 ≠ 0 then
          throw (.badPortStp name
            ("port-priority " ++ toString priority.toNat ++ " is not a multiple of 16"))
        return priority
      return some {
        portfast := ConfigTree.hasLeaf block "portfast"
        bpduguard := ConfigTree.hasLeaf block "bpduguard"
        cost, portPriority }

def stormKindOf : String → Option StormKind
  | "broadcast" => some .broadcast
  | "multicast" => some .multicast
  | "unknown-unicast" => some .unknownUnicast
  | _ => none

def stormStatement (name : String) (levels : StormLevels) : Item → Except IntentError StormLevels
  | .block block _ _ => .error (.badStormControl name ("unrecognized block " ++ debug block))
  | .leaf word values => do
      let some kind := stormKindOf word
        | throw (.badStormControl name ("unrecognized traffic class " ++ debug word))
      match values with
      | [keyword, level] =>
        if keyword ≠ "level" then
          throw (.badStormControl name (kind.word ++ ": expected `level`"))
        let level ← (parseStormLevel level).mapError (.badStormControl name)
        insertNew levels kind level
          (.badStormControl name ("duplicate " ++ kind.word ++ " level"))
      | _ => throw (.badStormControl name (kind.word ++ ": expected `level <pct>`"))

def stormControl : Except IntentError StormLevels :=
  match (ConfigTree.blocksNamed children "storm-control").head? with
  | none => .ok ∅
  | some (_, block) => block.foldlM (stormStatement name) ∅

def accessStatement (name : String) (groups : AccessGroups) : Item → Except IntentError AccessGroups
  | .leaf "access-group" [acl, "in"] =>
    if groups.ingress.isSome then .error (.badAccessGroup name "duplicate in binding")
    else .ok { groups with ingress := some acl }
  | .leaf "access-group" [acl, "out"] =>
    if groups.egress.isSome then .error (.badAccessGroup name "duplicate out binding")
    else .ok { groups with egress := some acl }
  | .leaf "access-group" [_, other] =>
    .error (.badAccessGroup name ("direction must be `in` or `out`, got " ++ debug other))
  | .leaf "access-group" _ =>
    .error (.badAccessGroup name "expected `access-group <name> <in|out>`")
  | _ => .ok groups

def accessGroups : Except IntentError AccessGroups :=
  children.foldlM (accessStatement name) {}

def securityLimit (name : String) (intent : PortSecurityIntent) :
    Item → Except IntentError PortSecurityIntent
  | .block block _ _ => .error (.badPortSecurity name ("unrecognized block " ++ debug block))
  | .leaf leaf values =>
    Except.mapError (.badPortSecurity name) <|
    match leaf, values with
    | "maximum", [value] => do
        let maximum ← parseInt32 value 1 1024 "maximum"
        return { intent with maximum }
    | "violation", ["protect"] => .ok { intent with shutdown := false }
    | "violation", ["shutdown"] => .ok { intent with shutdown := true }
    | "violation", [other] =>
      .error ("violation must be `protect` or `shutdown`, got " ++ debug other)
    | _, _ => .error ("unrecognized statement " ++ debug leaf)

def portSecurity : Except IntentError (Option PortSecurityIntent) :=
  match (ConfigTree.blocksNamed children "port-security").head? with
  | none => .ok none
  | some (_, block) => some <$> block.foldlM (securityLimit name) {}

def queueStatement (refuse : String → IntentError) (queue : QueueQosIntent) :
    Item → Except IntentError QueueQosIntent
  | .block name _ _ => .error (refuse ("unrecognized block " ++ debug name))
  | .leaf name values =>
    Except.mapError refuse <|
    match name, values with
    | "priority", ["strict"] => .ok { queue with strict := true }
    | "priority", [other] => .error ("bad priority " ++ debug other ++ " (strict)")
    | "weight", [value] => do
        let weight ← parseInt8 value 1 127 "weight"
        return { queue with weight := some weight }
    | "shape", ["rate", rate] => do
        let shape ← parseShapeRate rate
        return { queue with shape := some shape }
    | "wred-profile", [profile] => .ok { queue with wredProfile := some profile }
    | _, _ => .error ("unrecognized statement " ++ debug name)

def queueQos (children : List Item) (refuse : String → IntentError) :
    Except IntentError QueueQosIntent := do
  let queue ← children.foldlM (queueStatement refuse) {}
  if queue.strict ∧ queue.weight.isSome then
    throw (refuse "strict and weight are mutually exclusive")
  return queue

def portQosLeaf (qos : PortQosIntent) (name : String) (values : List String) :
    Except String PortQosIntent :=
  match name, values with
  | "trust", ["untrusted"] => .ok { qos with trust := .untrusted }
  | "trust", ["dscp"] => .ok { qos with trust := .dscp }
  | "trust", ["cos"] => .ok { qos with trust := .cos }
  | "trust", [other] => .error ("bad trust " ++ debug other ++ " (dscp|cos|untrusted)")
  | "default-tc", [value] => do
      let defaultTc ← parseInt8 value 0 7 "default-tc"
      return { qos with defaultTc }
  | "shape", ["rate", rate] => do
      let shape ← parseShapeRate rate
      return { qos with shape := some shape }
  | _, _ => .error ("unrecognized statement " ++ debug name)

def portQosStatement (name : String) (qos : PortQosIntent) : Item → Except IntentError PortQosIntent
  | .leaf leaf values => (portQosLeaf qos leaf values).mapError (.badPortQos name)
  | .block block keys children =>
    if block ≠ "queue" then .error (.badPortQos name ("unrecognized block " ++ debug block))
    else
      match keys with
      | [text] => do
          let index ← (parseInt8 text 0 7 "queue").mapError (.badQueueQos name text)
          let queue ← queueQos children (.badQueueQos name text)
          let queues ← insertNew qos.queues index queue
            (.badQueueQos name text "duplicate queue block")
          return { qos with queues }
      | _ => .error (.badPortQos name "queue block needs exactly one index key")

/-- The program of a port; queues that are left at their defaults are not part of it. -/
def portQos : Except IntentError (Option PortQosIntent) :=
  match ConfigTree.blocksNamed children "qos" with
  | [] => .ok none
  | [([], block)] => do
      let qos ← block.foldlM (portQosStatement name) {}
      return some { qos with queues := qos.queues.filter fun _ queue => queue ≠ {} }
  | _ => .error (.badPortQos name "duplicate qos block")

def vrrpStatement (refuse : String → IntentError) (vrrp : VrrpIntent) :
    Item → Except IntentError VrrpIntent
  | .block name _ _ => .error (refuse ("unrecognized block " ++ debug name))
  | .leaf name values =>
    Except.mapError refuse <|
    match name, values with
    | "address", [address] =>
      match parseIpv4 address with
      | some vip => .ok { vrrp with addresses := vrrp.addresses.insert (ipv4Text vip) }
      | none => .error ("bad address " ++ debug address ++ " (IPv4)")
    | "priority", [value] => do
        let priority ← parseInt8 value 1 254 "priority"
        return { vrrp with priority }
    | "advertisement-interval", [value] => do
        let advertisementInterval ← parseInt8 value 1 40 "advertisement-interval"
        return { vrrp with advertisementInterval }
    | "no-preempt", [] => .ok { vrrp with preempt := false }
    | _, _ => .error ("unrecognized statement " ++ debug name)

def vrrpGroup (name : String) (keys : List String) (body : List Item) :
    Except IntentError (UInt8 × VrrpIntent) :=
  match keys with
  | [text] => do
      let group ← (parseInt8 text 1 255 "group").mapError (.badVrrp name text)
      let vrrp ← body.foldlM (vrrpStatement (.badVrrp name text)) {}
      return (group, vrrp)
  | _ => .error (.badVrrp name "?" "expected `vrrp <1-255>`")

def vrrpGroups : Except IntentError (List (UInt8 × VrrpIntent)) :=
  (ConfigTree.blocksNamed children "vrrp").mapM fun block => vrrpGroup name block.1 block.2

end

inductive Kind where
  | port
  | management
  | vlan
  | lag
  deriving DecidableEq

/-- The kind and the name of an interface block; the older form has the name as a key. -/
def kindOf (name : String) (keys : List String) : Except IntentError (Kind × String) :=
  match name, keys with
  | "ethernet", [key] => .ok (.port, key)
  | "management", [key] => .ok (.management, key)
  | "ethernet", _ | "management", _ =>
    .error (.badInterfaceBlock (name ++ " block needs exactly one name key"))
  | _, [] =>
    if "Management".toList.isPrefixOf name.toList then .ok (.management, name)
    else if "Ethernet".toList.isPrefixOf name.toList then .ok (.port, name)
    else if "Vlan".toList.isPrefixOf name.toList then .ok (.vlan, name)
    else if "Port-Channel".toList.isPrefixOf name.toList then .ok (.lag, name)
    else .error (.badInterfaceBlock ("unrecognized interface block " ++ debug name))
  | _, _ => .error (.badInterfaceBlock ("unrecognized interface block " ++ debug name))

/-- The groups of VRRP, which only routed ports and VLAN interfaces take. -/
def addVrrp (kind : Kind) (name : String) (children : List Item) (intents : Intents) :
    Except IntentError Intents := do
  let groups ← vrrpGroups children name
  groups.foldlM (fun intents (group, vrrp) =>
    if kind = .management ∨ kind = .lag then
      .error (.badVrrp name (toString group.toNat) "vrrp runs on L3 ports and SVIs only")
    else .ok { intents with vrrp := intents.vrrp.insert (name, group) vrrp }) intents

section

variable (name : String) (children : List Item) (adminUp : Option Bool) (address : Option String)
  (intents : Intents)

def addPort : Except IntentError Intents := do
  let switchport ← switchport children name
  if switchport.isSome ∧ address.isSome then throw (.addressSwitchportConflict name)
  let channelGroup ← channelGroup children name
  if channelGroup.isSome ∧ address.isSome then throw (.addressChannelGroupConflict name)
  let lacp ← portLacp children name
  let spanningTree ← portStp children name
  let stormControl ← stormControl children name
  let accessGroups ← accessGroups children name
  let portSecurity ← portSecurity children name
  let qos ← portQos children name
  let lldpDisabled ← portLldp children name
  let sflowDisabled ← portServiceDisable children name "sflow"
  let speedMbps ← speed children name
  let duplex ← duplex children name
  let mtu ← mtu children name
  noDhcpRelay children name
  let intent : InterfaceIntent := {
    adminUp, address, switchport, channelGroup, lacp, spanningTree, stormControl, accessGroups,
    portSecurity, qos, lldpDisabled, sflowDisabled, speedMbps, duplex, mtu
    description := ConfigTree.leafValue children "description"
    dot1x := ConfigTree.hasLeaf children "dot1x"
    dhcpSnoopingTrust := ConfigTree.hasPhrase children "dhcp-snooping" "trust"
    arpInspectionTrust := ConfigTree.hasPhrase children "arp-inspection" "trust" }
  if intent.dot1x ∧ intent.portSecurity.isSome then
    throw (.badPortSecurity name "port-security and dot1x are mutually exclusive")
  let ports ← insertNew intents.ports name intent (.duplicate name)
  return { intents with ports }

def addLag : Except IntentError Intents := do
  let some group := (name.toList.dropPrefix? "Port-Channel".toList).bind fun digits =>
      parseGroup digits
    | throw (.badInterfaceBlock
        ("bad port-channel name " ++ debug name ++ " (Port-Channel1..Port-Channel64)"))
  if address.isSome then throw (.badLag name "port-channels are L2 interfaces (no address)")
  if (ConfigTree.leafValues children "channel-group").isSome then
    throw (.badLag name "a port-channel cannot join a channel-group")
  if ConfigTree.hasLeaf children "dot1x" then
    throw (.badDot1x (name ++ ": dot1x runs on physical ports only"))
  noPortServices children name
  if !(ConfigTree.blocksNamed children "port-security").isEmpty then
    throw (.badPortSecurity name "port-security runs on physical ports only")
  noLinkPinning children name "port-channel interfaces"
  if ConfigTree.hasLeaf children "mtu" then
    throw (.badLinkParam name "mtu follows the member ports; set it on those")
  noDhcpRelay children name
  let switchport ← switchport children name
  let minLinks ← lagMinLinks children name
  let fallback ← lagFallback children name
  let fallbackTimeout ← lagFallbackTimeout children name
  let spanningTree ← portStp children name
  let stormControl ← stormControl children name
  let accessGroups ← accessGroups children name
  let qos ← portQos children name
  let lags ← insertNew intents.lags group {
    adminUp, switchport, minLinks, fallback, fallbackTimeout, spanningTree, stormControl,
    accessGroups, qos
    description := ConfigTree.leafValue children "description"
    dhcpSnoopingTrust := ConfigTree.hasPhrase children "dhcp-snooping" "trust"
    arpInspectionTrust := ConfigTree.hasPhrase children "arp-inspection" "trust" } (.duplicate name)
  return { intents with lags }

/-- The blocks of front-panel ports that a management port refuses, and what it is not. -/
def portBlocks : List (String × String) :=
  [("switchport", "switchports"), ("spanning-tree", "spanning-tree ports"),
    ("storm-control", "storm-control ports"), ("lacp", "LACP ports")]

def addManagement : Except IntentError Intents := do
  if !(ConfigTree.blocksNamed children "qos").isEmpty then
    throw (.badPortQos name "QoS is a front-panel concept (not supported on Management)")
  portBlocks.forM fun (block, what) =>
    if !(ConfigTree.blocksNamed children block).isEmpty then
      throw (.badSwitchport name ("management ports are not " ++ what))
    else pure ()
  if (ConfigTree.leafValues children "channel-group").isSome then
    throw (.badChannelGroup name "management ports cannot join a channel-group")
  if !(ConfigTree.blocksNamed children "port-security").isEmpty then
    throw (.badPortSecurity name "port-security is not supported on Management")
  if ConfigTree.hasLeaf children "dot1x" then
    throw (.badDot1x (name ++ ": dot1x is not supported on Management"))
  noPortServices children name
  if ConfigTree.hasLeaf children "access-group" then
    throw (.badAccessGroup name "management ports take no ACL bindings")
  noLinkPinning children name "management ports"
  noDhcpRelay children name
  let mtu ← mtu children name
  let management ← insertNew intents.management name { adminUp, address, mtu } (.duplicate name)
  return { intents with management }

def sviVlan (name : String) : Option UInt16 :=
  (name.toList.dropPrefix? "Vlan".toList).bind fun digits =>
    ((parseUnsigned 10 (2 ^ 16) digits).filter fun id => 1 ≤ id && id ≤ 4094).map UInt16.ofNat

def addSvi : Except IntentError Intents := do
  let some id := sviVlan name
    | throw (.badInterfaceBlock
        ("bad VLAN interface name " ++ debug name ++ " (Vlan1..Vlan4094)"))
  if !(ConfigTree.blocksNamed children "switchport").isEmpty then
    throw (.badSwitchport name "VLAN interfaces are not switchports")
  if !(ConfigTree.blocksNamed children "qos").isEmpty then
    throw (.badPortQos name
      "QoS is a front-panel concept; classification happens at the physical port")
  if address.isSome ∧ id ≠ 1 ∧ ¬ intents.vlans.contains id then
    throw (.badInterfaceBlock (name ++ ": VLAN " ++ toString id.toNat
      ++ " is not defined (set vlans vlan " ++ toString id.toNat ++ ")"))
  noLinkPinning children name "VLAN interfaces"
  noPortServices children name
  let relay ← dhcpRelayServers children name
  let intents :=
    if relay.isEmpty then intents
    else { intents with dhcpRelay := intents.dhcpRelay.insert id relay }
  let mtu ← mtu children name
  let svis ← insertNew intents.svis name { address, mtu } (.duplicate name)
  return { intents with svis }

end

/-- One interface block; a leaf among them is passed over. -/
def interfaceStatement (intents : Intents) : Item → Except IntentError Intents
  | .leaf _ _ => .ok intents
  | .block name keys children => do
      let (kind, name) ← kindOf name keys
      let adminUp ← adminState children name
      let address ← interfaceAddress children name
      let intents ← addVrrp kind name children intents
      match kind with
      | .port => addPort name children adminUp address intents
      | .lag => addLag name children adminUp address intents
      | .management => addManagement name children adminUp address intents
      | .vlan => addSvi name children address intents

def interfaces (tree : ConfigTree) (intents : Intents) : Except IntentError Intents :=
  match tree.block "interfaces" with
  | none => .ok intents
  | some (_, items) => items.foldlM interfaceStatement intents

end Hemlock.Intent
