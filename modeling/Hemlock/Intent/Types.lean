import Hemlock.Library.IpAddr
import Hemlock.Library.OrderedMap
import Hemlock.Names

/-!
# Intents

The typed slices of a configuration that are applied: the ports and the VLANs of the
switch, the protocols and services, and what the operating system is told.  Defaults are
those of the source; an absent value stands for what its reader documents.
-/

namespace Hemlock.Intent

open Net

abbrev NameSet := Std.ExtTreeSet String compare

abbrev VlanSet := Std.ExtTreeSet UInt16 compare

abbrev Ipv4Addr := Vector UInt8 4

/-- Entries for a MAC address, in its usual text, and a VLAN. -/
abbrev MacVlanMap (Value : Type) := Std.ExtTreeMap (String × UInt16) Value comparePair

inductive Duplex where
  | full
  | half
  deriving DecidableEq

inductive SwitchportMode where
  | access
  | trunk
  | dot1qTunnel
  deriving DecidableEq

structure SwitchportIntent where
  mode : SwitchportMode := .access
  accessVlan : Option UInt16 := none
  trunkVlans : List UInt16 := []
  nativeVlan : Option UInt16 := none
  deriving DecidableEq

inductive LacpMode where
  | active
  | passive
  | on
  deriving DecidableEq

def LacpMode.word : LacpMode → String
  | .active => "active"
  | .passive => "passive"
  | .on => "on"

structure ChannelGroup where
  group : UInt16
  mode : LacpMode
  deriving DecidableEq

structure PortLacpIntent where
  rateFast : Bool := false
  portPriority : Option UInt16 := none
  deriving DecidableEq

structure PortStpIntent where
  portfast : Bool := false
  bpduguard : Bool := false
  cost : Option UInt32 := none
  portPriority : Option UInt8 := none
  deriving DecidableEq

inductive StormKind where
  | broadcast
  | multicast
  | unknownUnicast
  deriving DecidableEq, Ord

def StormKind.word : StormKind → String
  | .broadcast => "broadcast"
  | .multicast => "multicast"
  | .unknownUnicast => "unknown-unicast"

instance : Std.TransOrd StormKind where
  eq_swap {first second} := by cases first <;> cases second <;> rfl
  isLE_trans {first second third} := by cases first <;> cases second <;> cases third <;> decide

instance : Std.LawfulEqOrd StormKind where
  compare_self {kind} := by cases kind <;> rfl
  eq_of_compare {first second} := by cases first <;> cases second <;> decide

/-- Storm-control levels, in percent with two decimals. -/
abbrev StormLevels := Std.ExtTreeMap StormKind String compare

structure AccessGroups where
  ingress : Option String := none
  egress : Option String := none
  deriving DecidableEq

def AccessGroups.isEmpty (groups : AccessGroups) : Bool :=
  groups.ingress.isNone && groups.egress.isNone

structure PortSecurityIntent where
  maximum : UInt32 := 1
  shutdown : Bool := false
  deriving DecidableEq

inductive QosTrust where
  | untrusted
  | dscp
  | cos
  deriving DecidableEq

/-- One egress queue; without configuration it is served by weight 1, unshaped. -/
structure QueueQosIntent where
  strict : Bool := false
  weight : Option UInt8 := none
  shape : Option UInt64 := none
  wredProfile : Option String := none
  deriving DecidableEq

structure PortQosIntent where
  trust : QosTrust := .untrusted
  defaultTc : UInt8 := 0
  shape : Option UInt64 := none
  queues : Std.ExtTreeMap UInt8 QueueQosIntent compare := ∅
  deriving DecidableEq

structure InterfaceIntent where
  adminUp : Option Bool := none
  description : Option String := none
  address : Option String := none
  switchport : Option SwitchportIntent := none
  channelGroup : Option ChannelGroup := none
  lacp : Option PortLacpIntent := none
  spanningTree : Option PortStpIntent := none
  stormControl : StormLevels := ∅
  accessGroups : AccessGroups := {}
  portSecurity : Option PortSecurityIntent := none
  dot1x : Bool := false
  dhcpSnoopingTrust : Bool := false
  arpInspectionTrust : Bool := false
  qos : Option PortQosIntent := none
  lldpDisabled : Bool := false
  sflowDisabled : Bool := false
  speedMbps : Option UInt32 := none
  duplex : Option Duplex := none
  mtu : Option UInt32 := none
  deriving DecidableEq

inductive LagFallback where
  | static
  | individual
  deriving DecidableEq

structure LagIntent where
  adminUp : Option Bool := none
  description : Option String := none
  switchport : Option SwitchportIntent := none
  minLinks : Option UInt8 := none
  fallback : Option LagFallback := none
  fallbackTimeout : Option UInt16 := none
  spanningTree : Option PortStpIntent := none
  stormControl : StormLevels := ∅
  accessGroups : AccessGroups := {}
  dhcpSnoopingTrust : Bool := false
  arpInspectionTrust : Bool := false
  qos : Option PortQosIntent := none
  deriving DecidableEq

structure SviIntent where
  address : Option String := none
  mtu : Option UInt32 := none
  deriving DecidableEq

structure MgmtIntent where
  adminUp : Option Bool := none
  address : Option String := none
  mtu : Option UInt32 := none
  deriving DecidableEq

structure VlanIntent where
  description : Option String := none
  suspended : Bool := false
  deriving DecidableEq

structure IdentityIntent where
  hostname : Option String := none
  timezone : Option String := none
  nameServers : List String := []
  domainName : Option String := none
  bannerLogin : Option String := none
  deriving DecidableEq

inductive Role where
  | admin
  | operator
  deriving DecidableEq

structure UserIntent where
  role : Role := .operator
  passwordHash : Option String := none
  sshKeys : List String := []
  deriving DecidableEq

structure LogHost where
  address : String
  port : UInt16
  protocol : String
  deriving DecidableEq

structure LoggingIntent where
  hosts : List LogHost := []
  level : Option String := none
  deriving DecidableEq

structure SshIntent where
  enabled : Bool := false
  authLocal : Bool := false
  deriving DecidableEq

structure WebIntent where
  http : Bool := false
  https : Bool := false
  sessionTimeout : Option UInt32 := none
  deriving DecidableEq

structure StaticRoute where
  nextHops : NameSet := ∅
  drop : Bool := false
  distance : UInt8 := 1
  deriving DecidableEq

structure ArpStatic where
  interface : String
  mac : String
  deriving DecidableEq

structure OspfInterfaceIntent where
  cost : Option UInt16 := none
  helloInterval : Option UInt16 := none
  deadInterval : Option UInt16 := none
  priority : Option UInt8 := none
  deriving DecidableEq

structure OspfIntent where
  routerId : Option String := none
  areas : NameMap NameSet := ∅
  passiveInterfaces : NameSet := ∅
  redistribute : NameSet := ∅
  maximumPaths : UInt8 := 4
  interfaces : NameMap OspfInterfaceIntent := ∅
  deriving DecidableEq

structure BgpNeighborIntent where
  remoteAs : Option UInt32 := none
  description : Option String := none
  shutdown : Bool := false
  ebgpMultihop : Option UInt8 := none
  nextHopSelf : Bool := false
  deriving DecidableEq

structure BgpIntent where
  asNumber : UInt32 := 0
  routerId : Option String := none
  neighbors : NameMap BgpNeighborIntent := ∅
  networks : NameSet := ∅
  redistribute : NameSet := ∅
  maximumPaths : UInt8 := 4
  deriving DecidableEq

structure VrrpIntent where
  addresses : NameSet := ∅
  priority : UInt8 := 100
  advertisementInterval : UInt8 := 1
  preempt : Bool := true
  deriving DecidableEq

structure LacpGlobalIntent where
  systemPriority : Option UInt16 := none
  deriving DecidableEq

inductive StpMode where
  | mstp
  | rstp
  | none
  deriving DecidableEq

structure StpIntent where
  mode : StpMode := .mstp
  priority : Option UInt16 := none
  helloTime : Option UInt8 := none
  maxAge : Option UInt8 := none
  forwardTime : Option UInt8 := none
  mstName : Option String := none
  mstRevision : Option UInt16 := none
  instances : Std.ExtTreeMap UInt8 (List UInt16) compare := ∅
  deriving DecidableEq

structure SnoopVlanIntent where
  disabled : Bool := false
  fastLeave : Bool := false
  querier : Bool := false
  querierAddress : Option String := none
  mrouters : List String := []
  deriving DecidableEq

structure SnoopingIntent where
  disabled : Bool := false
  robustness : Option UInt8 := none
  vlans : VlanMap SnoopVlanIntent := ∅
  deriving DecidableEq

inductive FdbTarget where
  | port (name : String)
  | drop
  deriving DecidableEq

structure MacTableIntent where
  agingTime : Option UInt32 := none
  statics : MacVlanMap FdbTarget := ∅
  deriving DecidableEq

inductive MirrorDirection where
  | rx
  | tx
  | both
  deriving DecidableEq

structure MirrorIntent where
  sources : NameMap MirrorDirection := ∅
  destination : Option String := none
  deriving DecidableEq

inductive AclFamily where
  | ipv4
  | ipv6
  | mac
  deriving DecidableEq

def AclFamily.word : AclFamily → String
  | .ipv4 => "ipv4"
  | .ipv6 => "ipv6"
  | .mac => "mac"

structure AclPolice where
  rate : UInt64
  burst : UInt64
  pps : Bool
  deriving DecidableEq

structure AclRule where
  permit : Bool := false
  protocol : Option UInt8 := none
  source : Option String := none
  destination : Option String := none
  sourcePort : Option (UInt16 × UInt16) := none
  destinationPort : Option (UInt16 × UInt16) := none
  dscp : Option UInt8 := none
  log : Bool := false
  police : Option AclPolice := none
  sourceMac : Option (String × String) := none
  destinationMac : Option (String × String) := none
  ethertype : Option UInt16 := none
  deriving DecidableEq

structure AclIntent where
  family : AclFamily
  rules : Std.ExtTreeMap UInt32 AclRule compare
  deriving DecidableEq

structure CoppClassIntent where
  rate : Option UInt32 := none
  burst : Option UInt32 := none
  deriving DecidableEq

structure RadiusServer where
  ip : String := ""
  key : Option String := none
  port : UInt16 := 1812
  timeout : UInt8 := 5
  retransmit : UInt8 := 3
  deriving DecidableEq

structure Dot1xIntent where
  radiusServers : List RadiusServer := []
  reauthInterval : UInt32 := 0
  deriving DecidableEq

inductive ArpValidate where
  | srcMac
  | dstMac
  | ip
  deriving DecidableEq, Ord

instance : Std.TransOrd ArpValidate where
  eq_swap {first second} := by cases first <;> cases second <;> rfl
  isLE_trans {first second third} := by cases first <;> cases second <;> cases third <;> decide

instance : Std.LawfulEqOrd ArpValidate where
  compare_self {check} := by cases check <;> rfl
  eq_of_compare {first second} := by cases first <;> cases second <;> decide

structure StaticBinding where
  address : String
  interface : String
  deriving DecidableEq

structure SnoopSecIntent where
  dhcpVlans : VlanSet := ∅
  arpVlans : VlanSet := ∅
  validate : Std.ExtTreeSet ArpValidate compare := ∅
  staticBindings : MacVlanMap StaticBinding := ∅
  deriving DecidableEq

structure LldpIntent where
  disabled : Bool := false
  txInterval : Option UInt16 := none
  holdMultiplier : Option UInt8 := none
  deriving DecidableEq

structure NtpIntent where
  servers : List String := []
  deriving DecidableEq

structure SnmpUser where
  authPassword : String
  privPassword : String
  deriving DecidableEq

structure SnmpCommunityIntent where
  name : String
  source : Option String
  deriving DecidableEq

structure SnmpIntent where
  enabled : Bool := false
  location : Option String := none
  contact : Option String := none
  communities : List SnmpCommunityIntent := []
  users : NameMap SnmpUser := ∅
  deriving DecidableEq

structure SflowCollector where
  address : String
  port : Option UInt16
  deriving DecidableEq

structure SflowIntent where
  collectors : List SflowCollector := []
  sampleRate : Option UInt32 := none
  pollingInterval : Option UInt16 := none
  deriving DecidableEq

structure DhcpPoolIntent where
  network : Option String := none
  range : Option (Ipv4Addr × Ipv4Addr) := none
  defaultGateway : Option Ipv4Addr := none
  dnsServers : List Ipv4Addr := []
  leaseTime : Option UInt32 := none
  domainName : Option String := none
  reservations : NameMap Ipv4Addr := ∅
  deriving DecidableEq

/-- A map of traffic markings: code points to classes, or the other way. -/
abbrev QosTable := Std.ExtTreeMap UInt8 UInt8 compare

structure QosMapsIntent where
  dscpToTc : QosTable := ∅
  cosToTc : QosTable := ∅
  tcToDscp : QosTable := ∅
  tcToCos : QosTable := ∅
  deriving DecidableEq

structure WredProfileIntent where
  minThreshold : Option UInt32 := none
  maxThreshold : Option UInt32 := none
  dropProbability : UInt32 := 0
  ecn : Bool := false
  deriving DecidableEq

structure Intents where
  ports : NameMap InterfaceIntent := ∅
  management : NameMap MgmtIntent := ∅
  identity : IdentityIntent := {}
  login : NameMap UserIntent := ∅
  logging : LoggingIntent := {}
  ssh : SshIntent := {}
  web : WebIntent := {}
  routes : NameMap StaticRoute := ∅
  arpStatics : NameMap ArpStatic := ∅
  routerId : Option String := none
  ospf : Option OspfIntent := none
  bgp : Option BgpIntent := none
  vrrp : Std.ExtTreeMap (String × UInt8) VrrpIntent comparePair := ∅
  vlans : VlanMap VlanIntent := ∅
  svis : NameMap SviIntent := ∅
  lags : Std.ExtTreeMap UInt16 LagIntent compare := ∅
  lacp : LacpGlobalIntent := {}
  stp : StpIntent := {}
  igmpSnooping : SnoopingIntent := {}
  mldSnooping : SnoopingIntent := {}
  macTable : MacTableIntent := {}
  mirror : Std.ExtTreeMap UInt8 MirrorIntent compare := ∅
  acls : NameMap AclIntent := ∅
  copp : NameMap CoppClassIntent := ∅
  dot1x : Dot1xIntent := {}
  snoopSec : SnoopSecIntent := {}
  lldp : LldpIntent := {}
  ntp : NtpIntent := {}
  snmp : SnmpIntent := {}
  sflow : SflowIntent := {}
  dhcpRelay : VlanMap (List Ipv4Addr) := ∅
  dhcpServer : NameMap DhcpPoolIntent := ∅
  qosMaps : QosMapsIntent := {}
  wredProfiles : NameMap WredProfileIntent := ∅
  warnings : List String := []

/-- Why a configuration is refused.  Most carry the interface, the block or the key they
are about, and a reason. -/
inductive IntentError where
  | badInterfaceBlock (reason : String)
  | badAdminState (name value : String)
  | duplicate (name : String)
  | badAddress (name reason : String)
  | badLinkParam (name reason : String)
  | badSwitchport (name reason : String)
  | addressSwitchportConflict (name : String)
  | badVlanBlock (reason : String)
  | badVlan (id reason : String)
  | badSystem (reason : String)
  | unknownTimezone (zone : String)
  | badLogin (reason : String)
  | badLoginUser (name reason : String)
  | badLogging (reason : String)
  | badWeb (reason : String)
  | badSsh (reason : String)
  | badRouting (reason : String)
  | badRoute (dest reason : String)
  | badArp (ip reason : String)
  | badOspf (reason : String)
  | badBgp (reason : String)
  | badVrrp (interface group reason : String)
  | badLag (name reason : String)
  | badChannelGroup (name reason : String)
  | memberConfigConflict (member : String) (group : UInt16)
  | addressChannelGroupConflict (name : String)
  | badStp (reason : String)
  | badPortStp (name reason : String)
  | badStormControl (name reason : String)
  | badSnooping (family reason : String)
  | badMacTable (reason : String)
  | badMirrorBlock (reason : String)
  | badMirror (session : UInt8) (reason : String)
  | badProtocols (reason : String)
  | badSwitching (reason : String)
  | badSecurity (reason : String)
  | badAcl (name reason : String)
  | badAclRule (name rule reason : String)
  | badAccessGroup (name reason : String)
  | accessGroupOnMember (member : String) (group : UInt16)
  | badCopp (reason : String)
  | badDot1x (reason : String)
  | badPortSecurity (name reason : String)
  | badDhcpSnooping (reason : String)
  | badArpInspection (reason : String)
  | badServices (reason : String)
  | badLldp (reason : String)
  | badNtp (reason : String)
  | badSnmp (reason : String)
  | badSflow (reason : String)
  | badDhcpRelay (name reason : String)
  | badDhcpServer (reason : String)
  | badDhcpPool (name reason : String)
  | portServiceOnNonPort (name feature : String)
  | badQos (reason : String)
  | badQosMap (table reason : String)
  | badWredProfile (name reason : String)
  | badPortQos (name reason : String)
  | badQueueQos (name queue reason : String)
  | strictQueueOrder

end Hemlock.Intent
