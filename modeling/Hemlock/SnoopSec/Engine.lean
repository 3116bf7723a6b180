import Hemlock.Library.Machine
import Hemlock.Library.OrderedMap
import Hemlock.SnoopSec.Packet
import Mathlib.Data.Finset.Basic

/-!
# The snooping-security engine

DHCP snooping, dynamic ARP inspection and the DHCP relay share one table of dynamic
bindings.  The engine handles one trapped frame or relay reply at a time; between
them it expires leases and takes new configuration.  Times are Unix seconds.
-/

namespace Hemlock.SnoopSec

open Bytes Checked Machine

abbrev NameSet := Std.ExtTreeSet String compare

abbrev VlanSet := Std.ExtTreeSet UInt16 compare

/-- A map from the text of a hardware address and a VLAN. -/
abbrev ClientMap (Value : Type) := Std.ExtTreeMap (String × UInt16) Value comparePair

inductive Validate where
  | srcMac
  | dstMac
  | ip
  deriving DecidableEq

structure RelayVlan where
  servers : List Ipv4
  giaddr : Ipv4
  deriving DecidableEq

structure StaticBinding where
  ip : Ipv4
  interface : String
  deriving DecidableEq

structure Config where
  dhcpVlans : VlanSet := ∅
  arpVlans : VlanSet := ∅
  /-- No checks stand for the default, `srcMac`. -/
  validate : Finset Validate := ∅
  dhcpTrusted : NameSet := ∅
  arpTrusted : NameSet := ∅
  statics : ClientMap StaticBinding := ∅
  relay : VlanMap RelayVlan := ∅
  deriving DecidableEq

/-- The ports that carry a VLAN, and the members of the Port-Channels. -/
structure L2View where
  vlanPorts : VlanMap NameSet := ∅
  poMembers : NameMap NameSet := ∅
  deriving DecidableEq

structure RedirectProgram where
  /-- A VLAN, its untrusted ports and its trusted ports. -/
  dhcp : List (UInt16 × List String × List String)
  arp : List (UInt16 × List String)
  deriving DecidableEq

structure DynamicBinding where
  ip : Ipv4
  interface : String
  expiresAt : Nat
  deriving DecidableEq

structure DhcpVlanStats where
  packets : Nat := 0
  dropped : Nat := 0

structure RelayVlanStats where
  toServer : Nat := 0
  toClient : Nat := 0
  dropped : Nat := 0

structure DaiVlanStats where
  forwarded : Nat := 0
  dropped : Nat := 0
  badBinding : Nat := 0
  badSrcMac : Nat := 0
  deriving DecidableEq

structure Inner where
  config : Config := {}
  view : L2View := {}
  dynamics : ClientMap DynamicBinding
  /-- The port that a client was last heard on. -/
  pending : ClientMap String := ∅
  dhcpStats : VlanMap DhcpVlanStats := ∅
  untrustedServerDrops : Nat := 0
  arpStats : VlanMap DaiVlanStats := ∅
  pushedRedirects : Option RedirectProgram := none
  relayStats : VlanMap RelayVlanStats := ∅
  systemMac : Mac

structure RelayDatagram where
  server : Ipv4
  giaddr : Ipv4
  payload : List UInt8
  deriving DecidableEq

inductive Output where
  | packet (port : String) (frame : List UInt8)
  | relay (datagram : RelayDatagram)
  | redirects (program : RedirectProgram)
  deriving DecidableEq

def expandTrusted (view : L2View) (trusted : NameSet) : NameSet :=
  .ofList (trusted.toList.flatMap fun name =>
    match view.poMembers[name]? with
    | some members => members.toList
    | none => [name]) compare

def L2View.carriers (view : L2View) (vlan : UInt16) : List String :=
  (view.vlanPorts[vlan]?.getD ∅).toList

def computeRedirects (config : Config) (view : L2View) : RedirectProgram :=
  let dhcpTrusted := expandTrusted view config.dhcpTrusted
  let arpTrusted := expandTrusted view config.arpTrusted
  { dhcp := config.dhcpVlans.toList.map fun vlan =>
      let carriers := view.carriers vlan
      (vlan, carriers.filter (· ∉ dhcpTrusted), carriers.filter (· ∈ dhcpTrusted))
    arp := config.arpVlans.toList.map fun vlan =>
      (vlan, (view.carriers vlan).filter (· ∉ arpTrusted)) }

section

variable (inner : Inner) (port : String) (vlan : UInt16) (frame : List UInt8)

/-- The redirect program is sent when it has changed. -/
def Inner.pushRedirects : Inner × List Output :=
  let program := computeRedirects inner.config inner.view
  if inner.pushedRedirects = some program then (inner, [])
  else ({ inner with pushedRedirects := some program }, [.redirects program])

def Inner.setConfig (config : Config) : Inner × List Output :=
  if inner.config = config then (inner, [])
  else { inner with config := config }.pushRedirects

def Inner.setL2View (view : L2View) : Inner × List Output :=
  if inner.view = view then (inner, []) else { inner with view := view }.pushRedirects

/-- An acknowledged lease binds the client, on the port it was heard on; a refusal
forgets the transaction. -/
def Inner.learn (vlan : UInt16) (now : Nat) (chaddr : Mac) (yiaddr : Ipv4) (options : Options) : Inner :=
  let client := (macText chaddr.toList, vlan)
  match options.messageType with
  | some 5 =>
    if yiaddr = unspecified then inner
    else
      let interface := (inner.pending[client]?.or
        (inner.dynamics[client]?.map DynamicBinding.interface)).getD ""
      let lease := (options.leaseSecs.getD 86400).toNat
      { inner with
        pending := inner.pending.erase client
        dynamics := inner.dynamics.insert client ⟨yiaddr, interface, now + lease⟩ }
  | some 6 => { inner with pending := inner.pending.erase client }
  | _ => inner

def Inner.expireLeases (now : Nat) : Inner :=
  { inner with dynamics := inner.dynamics.filter fun _ binding => now < binding.expiresAt }

def Inner.clearBindings (mac : Option String) : Inner :=
  match mac with
  | some mac => { inner with dynamics := inner.dynamics.filter fun (bound, _) _ => bound ≠ mac }
  | none => { inner with dynamics := ∅ }

def Inner.countDhcp (vlan : UInt16) (count : DhcpVlanStats → DhcpVlanStats) : Inner :=
  { inner with dhcpStats := inner.dhcpStats.insert vlan (count (inner.dhcpStats[vlan]?.getD {})) }

def Inner.countRelay (vlan : UInt16) (count : RelayVlanStats → RelayVlanStats) : Inner :=
  { inner with
    relayStats := inner.relayStats.insert vlan (count (inner.relayStats[vlan]?.getD {})) }

/-- Server messages are believed from a trusted port only. -/
def Inner.trustsDhcp : Bool :=
  port ∈ expandTrusted inner.view inner.config.dhcpTrusted || port ∈ inner.config.dhcpTrusted

/-- RELEASE and DECLINE drop the binding; any other message leaves the port it came
from. -/
def Inner.hearClient (dhcp : DhcpMessage) : Inner :=
  let client := (macText dhcp.chaddr.toList, vlan)
  if dhcp.options.messageType = some 7 ∨ dhcp.options.messageType = some 4 then
    { inner with dynamics := inner.dynamics.erase client }
  else { inner with pending := inner.pending.insert client port }

/-- A validated request goes on to every server of the VLAN. -/
def Inner.relayRequest (vlan : UInt16) (relay : RelayVlan) (frame : List UInt8) :
    Checked (Inner × List Output) := do
  let drop := inner.countRelay vlan fun stats => { stats with dropped := stats.dropped + 1 }
  if relay.giaddr = unspecified ∨ relay.servers = [] then return (drop, [])
  match ← bootpPayload frame with
  | none => return (drop, [])
  | some payload =>
    let relayed ← withGiaddr payload relay.giaddr
    return (inner.countRelay vlan fun stats => { stats with toServer := stats.toServer + 1 },
      relay.servers.map fun server => .relay ⟨server, relay.giaddr, relayed⟩)

/-- A validated request is sent again toward the trusted ports of the VLAN. -/
def Inner.reinject : List Output :=
  let targets := (expandTrusted inner.view inner.config.dhcpTrusted).toList.filter fun target =>
    target ≠ port && (inner.view.vlanPorts[vlan]?.map fun ports => decide (target ∈ ports)).getD false
  targets.map fun target => .packet target frame

def Inner.handleDhcp (now : Nat) : Checked (Inner × List Output) := do
  match ← parseDhcp frame with
  | none => return (inner, [])
  | some dhcp =>
    if vlan ∉ inner.config.dhcpVlans then return (inner, [])
    let trusted := inner.trustsDhcp port
    let inner := inner.countDhcp vlan fun stats => { stats with packets := stats.packets + 1 }
    let drop := inner.countDhcp vlan fun stats => { stats with dropped := stats.dropped + 1 }
    let source ← slice frame 6 12
    if dhcp.isReply then
      if trusted then return (inner.learn vlan now dhcp.chaddr dhcp.yiaddr dhcp.options, [])
      -- a rogue server on an access port
      return ({ drop with untrustedServerDrops := drop.untrustedServerDrops + 1 }, [])
    if dhcp.chaddr.toList ≠ source then return (drop, [])
    let inner := inner.hearClient port vlan dhcp
    match inner.config.relay[vlan]? with
    | some relay => inner.relayRequest vlan relay frame
    | none => return (inner, if trusted then [] else inner.reinject port vlan frame)

def Inner.countArp (vlan : UInt16) (count : DaiVlanStats → DaiVlanStats) : Inner :=
  { inner with arpStats := inner.arpStats.insert vlan (count (inner.arpStats[vlan]?.getD {})) }

/-- A valid ARP message is counted and flooded within its VLAN. -/
def Inner.forwardArp : Inner × List Output :=
  (inner.countArp vlan fun stats => { stats with forwarded := stats.forwarded + 1 },
    ((inner.view.carriers vlan).filter (· ≠ port)).map fun target => .packet target frame)

/-- The sender of an ARP message must hold its address: by its dynamic binding if it has
one, else by its static one. -/
def Inner.bound (vlan : UInt16) (arp : ArpMessage) : Bool :=
  let sender := (macText arp.sha.toList, vlan)
  ((inner.dynamics[sender]?.map fun binding => decide (binding.ip = arp.spa)).or
    (inner.config.statics[sender]?.map fun binding => decide (binding.ip = arp.spa))).getD false

def Config.checks (config : Config) : Finset Validate :=
  if config.validate = ∅ then {.srcMac} else config.validate

def badIp (arp : ArpMessage) : Bool :=
  arp.spa = broadcast || isMulticast arp.spa || isLoopback arp.spa ||
    arp.isReply && arp.spa = unspecified

def Inner.handleArp : Checked (Inner × List Output) := do
  match ← parseArp frame with
  | none => return (inner, [])
  | some arp =>
    if vlan ∉ inner.config.arpVlans then return (inner, [])
    let srcMac := macText (← slice frame 6 12)
    let senderMac := macText arp.sha.toList
    if .srcMac ∈ inner.config.checks ∧ senderMac ≠ srcMac then
      return (inner.countArp vlan fun stats =>
        { stats with dropped := stats.dropped + 1, badSrcMac := stats.badSrcMac + 1 }, [])
    if .dstMac ∈ inner.config.checks ∧ arp.isReply ∧
        macText arp.tha.toList ≠ macText (← slice frame 0 6) then
      return (inner.countArp vlan fun stats => { stats with dropped := stats.dropped + 1 }, [])
    if .ip ∈ inner.config.checks ∧ badIp arp then
      return (inner.countArp vlan fun stats => { stats with dropped := stats.dropped + 1 }, [])
    if inner.bound vlan arp then return inner.forwardArp port vlan frame
    return (inner.countArp vlan fun stats =>
      { stats with dropped := stats.dropped + 1, badBinding := stats.badBinding + 1 }, [])

def Inner.handleFrame (now : Nat) : Checked (Inner × List Output) :=
  if frame.length < 14 then pure (inner, [])
  else do
    let ethertype := ofBe16 (← index frame 12) (← index frame 13)
    if ethertype = 0x0806 then inner.handleArp port vlan frame
    else if ethertype = 0x0800 then inner.handleDhcp port vlan frame now
    else return (inner, [])

/-- What the relay socket of an address hands to the engine.  The buffer holds 1500
bytes; the address of the sender is dropped. -/
def readRelayReply (_source giaddr : Ipv4) (datagram : List UInt8) : Ipv4 × List UInt8 :=
  (giaddr, datagram.take 1500)

def Config.relayFor (config : Config) (giaddr : Ipv4) : Option (UInt16 × RelayVlan) :=
  config.relay.toList.find? fun (_, relay) => relay.giaddr = giaddr

/-- Where a reply goes: to the client's port when it is known and a unicast will do,
else to the whole VLAN. -/
def Inner.replyTargets (vlan : UInt16) (reply : BootpReply) : List String :=
  let interface :=
    if reply.broadcastFlag then none
    else inner.dynamics[(macText reply.chaddr.toList, vlan)]?.map DynamicBinding.interface
  match interface.filter fun port => port ≠ "" with
  | some port => [port]
  | none => inner.view.carriers vlan

def Inner.handleRelayReply (giaddr : Ipv4) (payload : List UInt8) (now : Nat) :
    Checked (Inner × List Output) :=
  match inner.config.relayFor giaddr with
  | none => pure (inner, [])
  | some (vlan, _) => do
      let drop := inner.countRelay vlan fun stats => { stats with dropped := stats.dropped + 1 }
      match ← parseBootp payload with
      | none => return (drop, [])
      | some reply =>
        if !reply.isReply then return (drop, [])
        let inner := inner.learn vlan now reply.chaddr reply.yiaddr reply.options
        let frame := buildClientReply inner.systemMac giaddr reply payload
        return (inner.countRelay vlan fun stats => { stats with toClient := stats.toClient + 1 },
          (inner.replyTargets vlan reply).map fun target => .packet target frame)

inductive Event where
  | setConfig (config : Config)
  | setL2View (view : L2View)
  | frame (port : String) (vlan : UInt16) (bytes : List UInt8)
  | datagram (source giaddr : Ipv4) (bytes : List UInt8)
  | expireLeases
  | clearBindings (mac : Option String)

abbrev Input := Timed Event

def Inner.react (input : Input) : Checked (Inner × List Output) :=
  match input.event with
  | .setConfig config => pure (inner.setConfig config)
  | .setL2View view => pure (inner.setL2View view)
  | .frame port vlan bytes => inner.handleFrame port vlan bytes input.time
  | .datagram source giaddr bytes =>
    let (giaddr, payload) := readRelayReply source giaddr bytes
    inner.handleRelayReply giaddr payload input.time
  | .expireLeases => pure (inner.expireLeases input.time, [])
  | .clearBindings mac => pure (inner.clearBindings mac, [])

/-- A panic would lose the input. -/
def Inner.next (input : Input) : Inner :=
  match inner.react input with
  | .ok (inner, _) => inner
  | .error _ => inner

def Inner.emit (input : Input) : List Output :=
  match inner.react input with
  | .ok (_, outputs) => outputs
  | .error _ => []

end

/-- The engine starts with the bindings it finds in its store. -/
def engine (stored : ClientMap DynamicBinding) (systemMac : Mac) : Machine Inner Input Output where
  init := { dynamics := stored, systemMac := systemMac }
  next := Inner.next
  emit := Inner.emit

end Hemlock.SnoopSec
