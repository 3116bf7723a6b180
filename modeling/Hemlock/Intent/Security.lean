import Hemlock.Intent.System

/-!
# The security block

Access lists, control-plane policing, 802.1X, DHCP snooping and ARP inspection.
-/

namespace Hemlock.Intent

open Config Net
open Rib (splitOnce)
open Routing (requireCanonicalPrefix)

def aclProtocol : String → Except String UInt8
  | "tcp" => .ok 6
  | "udp" => .ok 17
  | "icmp" => .ok 1
  | other =>
    match parseUnsigned 10 256 other.toList with
    | some number => .ok (UInt8.ofNat number)
    | none => .error ("bad protocol " ++ debug other ++ " (tcp|udp|icmp|0-255)")

/-- A prefix of the list's family; `any` is no condition. -/
def aclPrefix (family : AclFamily) (value : String) : Except String (Option String) :=
  if value = "any" then .ok none
  else do
    let canonical ← requireCanonicalPrefix value
    if canonical.toList.contains ':' ≠ (family = .ipv6) then
      throw (canonical ++ " does not match the ACL family (" ++ family.word ++ ")")
    return some canonical

def aclPolice (rate burst : String) : Except String AclPolice := do
  let (rateValue, pps) ← parsePoliceRate rate
  let (burstValue, burstPkts) ← parsePoliceBurst burst
  let burstScaled := ['k', 'm', 'g'].any fun unit => burst.toList.getLast?.map Char.toLower = some unit
  if pps ∧ burstScaled then throw "a pps rate takes its burst in packets"
  if !pps ∧ burstPkts then throw "a bps rate takes its burst in bytes"
  return { rate := rateValue, burst := burstValue, pps }

/-- A MAC address with its mask, all ones without one. -/
def aclMac (value : String) : Except String (String × String) := do
  match splitOnce '/' value.toList with
  | some (mac, mask) =>
    let mac ← parseMac (String.ofList mac)
    let mask ← parseMacMask (String.ofList mask)
    return (mac, mask)
  | none =>
    let mac ← parseMac value
    return (mac, "ff:ff:ff:ff:ff:ff")

def aclEthertype : String → Except String UInt16
  | "ipv4" => .ok 0x0800
  | "ipv6" => .ok 0x86dd
  | "arp" => .ok 0x0806
  | hex =>
    match (hex.toList.dropPrefix? "0x".toList).bind (parseUnsigned 16 65536 ·) with
    | some number => .ok (UInt16.ofNat number)
    | none => .error ("bad ethertype " ++ debug hex ++ " (0x0000-0xffff|ipv4|ipv6|arp)")

def ipCondition (family : AclFamily) (rule : AclRule) (name : String) (values : List String) :
    Option (Except String AclRule) :=
  match name, values with
  | "protocol", [value] => some do
      let protocol ← aclProtocol value
      return { rule with protocol := some protocol }
  | "source", [value] => some do
      let source ← aclPrefix family value
      return { rule with source }
  | "destination", [value] => some do
      let destination ← aclPrefix family value
      return { rule with destination }
  | "source-port", [value] => some do
      let ports ← parsePortMatch value
      return { rule with sourcePort := some ports }
  | "destination-port", [value] => some do
      let ports ← parsePortMatch value
      return { rule with destinationPort := some ports }
  | "dscp", [value] => some do
      let dscp ← parseInt8 value 0 63 "dscp"
      return { rule with dscp := some dscp }
  | "log", [] => some (.ok { rule with log := true })
  | "police", ["rate", rate, "burst", burst] => some do
      let police ← aclPolice rate burst
      return { rule with police := some police }
  | _, _ => none

def macCondition (rule : AclRule) (name : String) (values : List String) : Option (Except String AclRule) :=
  match name, values with
  | "source-mac", [value] => some do
      let mac ← aclMac value
      return { rule with sourceMac := some mac }
  | "destination-mac", [value] => some do
      let mac ← aclMac value
      return { rule with destinationMac := some mac }
  | "ethertype", [value] => some do
      let ethertype ← aclEthertype value
      return { rule with ethertype := some ethertype }
  | _, _ => none

/-- One statement of a rule: its action, at most once, or a condition of its family. -/
def ruleStatement (family : AclFamily) (refuse : String → IntentError)
    (state : AclRule × Option Bool) : Item → Except IntentError (AclRule × Option Bool)
  | .block name _ _ => .error (refuse ("unrecognized block " ++ debug name))
  | .leaf name values =>
    if (name = "permit" ∨ name = "deny") ∧ values = [] then
      if state.2.isSome then .error (refuse "both permit and deny")
      else .ok (state.1, some (name = "permit"))
    else
      let condition :=
        if family = .mac then macCondition state.1 name values
        else ipCondition family state.1 name values
      match condition with
      | some read => do
          let rule ← read.mapError refuse
          return (rule, state.2)
      | none => .error (refuse ("unrecognized statement " ++ debug name ++ " for an "
          ++ family.word ++ " rule"))

def aclRule (family : AclFamily) (children : List Item) (refuse : String → IntentError) :
    Except IntentError AclRule := do
  let (rule, action) ← children.foldlM (ruleStatement family refuse) ({}, none)
  let some permit := action | throw (refuse "needs `permit` or `deny`")
  if (rule.sourcePort.isSome ∨ rule.destinationPort.isSome) ∧
      ¬ (rule.protocol = some 6 ∨ rule.protocol = some 17) then
    throw (refuse "source-port/destination-port require protocol tcp or udp")
  return { rule with permit }

abbrev RuleMap := Std.ExtTreeMap UInt32 AclRule compare

def ruleNumber (text : String) : Option UInt32 :=
  ((parseUnsigned 10 (2 ^ 32) text.toList).filter fun number =>
    1 ≤ number && text.toList.head? ≠ some '0').map UInt32.ofNat

def aclStatement (acl : String) (family : AclFamily) (rules : RuleMap) :
    Item → Except IntentError RuleMap
  | .leaf name _ => .error (.badAcl acl ("unrecognized statement " ++ debug name))
  | .block name keys children =>
    if name ≠ "rule" then .error (.badAcl acl ("unrecognized block " ++ debug name))
    else
      match keys with
      | [text] => do
          let some number := ruleNumber text
            | throw (.badAclRule acl text
                ("bad rule number " ++ debug text ++ " (1..4294967295)"))
          let rule ← aclRule family children (.badAclRule acl text)
          insertNew rules number rule (.badAclRule acl text "duplicate rule number")
      | _ => .error (.badAcl acl "rule block needs exactly one number key")

def aclRules (acl : String) (family : AclFamily) (items : List Item) : Except IntentError RuleMap :=
  items.foldlM (aclStatement acl family) ∅

def aclFamilyOf : String → Option AclFamily
  | "ipv4" => some .ipv4
  | "ipv6" => some .ipv6
  | "mac" => some .mac
  | _ => none

def aclsStatement (intents : Intents) : Item → Except IntentError Intents
  | .leaf name _ => .error (.badSecurity ("acl: unrecognized statement " ++ debug name))
  | .block word keys children =>
    match aclFamilyOf word with
    | none => .error (.badSecurity ("acl: unrecognized family " ++ debug word))
    | some family =>
      match keys with
      | [name] =>
        if !validAclName name then .error (.badAcl name
          "bad name (letter first, then letters/digits/_/-, max 32)")
        else do
          let rules ← aclRules name family children
          let acls ← insertNew intents.acls name { family, rules }
            (.badAcl name "duplicate ACL name (names are shared across families)")
          return { intents with acls }
      | _ => .error (.badSecurity ("acl " ++ word ++ " block needs exactly one name key"))

def acls (items : List Item) (intents : Intents) : Except IntentError Intents :=
  items.foldlM aclsStatement intents

def coppClassNames : List String :=
  ["bpdu", "lacp", "eapol", "igmp", "mld", "arp", "dhcp", "ospf", "bgp", "vrrp", "ip2me",
    "acl-log", "default"]

def classStatement (name : String) (intent : CoppClassIntent) :
    Item → Except IntentError CoppClassIntent
  | .block block _ _ => .error (.badCopp ("class " ++ name ++ ": unrecognized block " ++ debug block))
  | .leaf leaf values =>
      Except.mapError (fun reason => .badCopp ("class " ++ name ++ ": " ++ reason)) <|
      match leaf, values with
      | "rate", [value] => do
          let rate ← parseInt32 value 1 10000000 "rate"
          return { intent with rate := some rate }
      | "burst", [value] => do
          let burst ← parseInt32 value 1 1000000 "burst"
          return { intent with burst := some burst }
      | _, _ => .error ("unrecognized statement " ++ debug leaf)

def coppStatement (intents : Intents) : Item → Except IntentError Intents
  | .leaf name _ => .error (.badCopp ("unrecognized statement " ++ debug name))
  | .block name keys children =>
      if name ≠ "class" then .error (.badCopp ("unrecognized block " ++ debug name))
      else
        match keys with
        | [class_] =>
            if !coppClassNames.contains class_ then
              .error (.badCopp ("unknown class " ++ debug class_))
            else do
              let intent ← children.foldlM (classStatement class_) {}
              let copp ← insertNew intents.copp class_ intent
                (.badCopp ("duplicate class " ++ debug class_))
              return { intents with copp }
        | _ => .error (.badCopp "class block needs a name key")

def copp (items : List Item) (intents : Intents) : Except IntentError Intents :=
  items.foldlM coppStatement intents

def serverStatement (ip : String) (server : RadiusServer) : Item → Except IntentError RadiusServer
  | .block name _ _ =>
      .error (.badDot1x ("radius-server " ++ ip ++ ": unrecognized block " ++ debug name))
  | .leaf name values =>
      Except.mapError (fun reason => .badDot1x ("radius-server " ++ ip ++ ": " ++ reason)) <|
      match name, values with
      | "key", [key] => .ok { server with key := some key }
      | "port", [value] => do
          let port ← parseInt16 value 1 65535 "port"
          return { server with port }
      | "timeout", [value] => do
          let timeout ← parseInt8 value 1 60 "timeout"
          return { server with timeout }
      | "retransmit", [value] => do
          let retransmit ← parseInt8 value 0 10 "retransmit"
          return { server with retransmit }
      | _, _ => .error ("unrecognized statement " ++ debug name)

def dot1xStatement (intent : Dot1xIntent) : Item → Except IntentError Dot1xIntent
  | .block "radius-server" [ip] children =>
      match parseIpAddr ip.toList with
      | none => .error (.badDot1x ("bad radius-server address " ++ debug ip))
      | some ip => do
          let server ← children.foldlM (serverStatement ip.text) { ip := ip.text }
          if intent.radiusServers.any fun existing => existing.ip = server.ip then
            throw (.badDot1x ("duplicate radius-server " ++ ip.text))
          return { intent with radiusServers := intent.radiusServers ++ [server] }
  | .block "radius-server" _ _ => .error (.badDot1x "radius-server block needs an address key")
  | .leaf "reauth-interval" [value] => do
      let seconds ← (parseInt32 value 0 86400 "reauth-interval").mapError .badDot1x
      if seconds ≠ 0 ∧ seconds < 60 then
        throw (.badDot1x ("bad reauth-interval " ++ toString seconds.toNat ++ " (0|60-86400)"))
      return { intent with reauthInterval := seconds }
  | .leaf "reauth-interval" _ => .error (.badDot1x "reauth-interval takes one value")
  | other => .error (.badDot1x ("unrecognized statement " ++ debug other.name))

def dot1x (items : List Item) : Except IntentError Dot1xIntent := items.foldlM dot1xStatement {}

def snoopingStatement (intents : Intents) : Item → Except IntentError Intents
  | .block name _ _ => .error (.badDhcpSnooping ("unrecognized block " ++ debug name))
  | .leaf "vlan" [id] => do
      let id ← (parseVlanId id).mapError .badDhcpSnooping
      return { intents with
        snoopSec := { intents.snoopSec with dhcpVlans := intents.snoopSec.dhcpVlans.insert id } }
  | .leaf "binding" [mac, "vlan", vlan, "address", address, "interface", interface] => do
      let mac ← (parseUnicastMac mac).mapError .badDhcpSnooping
      let vlan ← (parseVlanId vlan).mapError .badDhcpSnooping
      let some ip := parseIpv4 address
        | throw (.badDhcpSnooping ("bad binding address " ++ debug address ++ " (IPv4)"))
      let staticBindings ← insertNew intents.snoopSec.staticBindings (mac, vlan)
        { address := ipv4Text ip, interface }
        (.badDhcpSnooping ("duplicate binding " ++ mac ++ " vlan " ++ toString vlan.toNat))
      return { intents with snoopSec := { intents.snoopSec with staticBindings } }
  | .leaf name _ => .error (.badDhcpSnooping ("unrecognized statement " ++ debug name))

def dhcpSnooping (items : List Item) (intents : Intents) : Except IntentError Intents :=
  items.foldlM snoopingStatement intents

def arpValidateOf : String → Option ArpValidate
  | "src-mac" => some .srcMac
  | "dst-mac" => some .dstMac
  | "ip" => some .ip
  | _ => none

def inspectionStatement (intents : Intents) : Item → Except IntentError Intents
  | .block name _ _ => .error (.badArpInspection ("unrecognized block " ++ debug name))
  | .leaf "vlan" [id] => do
      let id ← (parseVlanId id).mapError .badArpInspection
      return { intents with
        snoopSec := { intents.snoopSec with arpVlans := intents.snoopSec.arpVlans.insert id } }
  | .leaf "validate" [check] =>
      match arpValidateOf check with
      | some check =>
          .ok { intents with
            snoopSec := { intents.snoopSec with validate := intents.snoopSec.validate.insert check } }
      | none =>
          .error (.badArpInspection ("bad validate " ++ debug check ++ " (src-mac|dst-mac|ip)"))
  | .leaf name _ => .error (.badArpInspection ("unrecognized statement " ++ debug name))

def arpInspection (items : List Item) (intents : Intents) : Except IntentError Intents :=
  items.foldlM inspectionStatement intents

def securityBlock (name : String) (children : List Item) (intents : Intents) : Except IntentError Intents :=
  match name with
  | "acl" => acls children intents
  | "copp" => copp children intents
  | "dot1x" => do
      let dot1x ← dot1x children
      return { intents with dot1x }
  | "dhcp-snooping" => dhcpSnooping children intents
  | "arp-inspection" => arpInspection children intents
  | other => .error (.badSecurity ("unrecognized block " ++ debug other))

def securityStatement (intents : Intents) : Item → Except IntentError Intents
  | .leaf name _ => .error (.badSecurity ("unrecognized statement " ++ debug name))
  | .block name keys children =>
      if keys ≠ [] then .error (.badSecurity ("unrecognized block " ++ debug name))
      else securityBlock name children intents

def security (tree : ConfigTree) (intents : Intents) : Except IntentError Intents :=
  match tree.block "security" with
  | none => .ok intents
  | some (_, items) => items.foldlM securityStatement intents

end Hemlock.Intent
