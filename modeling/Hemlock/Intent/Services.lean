import Hemlock.Intent.Protocols

/-!
# The services and quality-of-service blocks

LLDP, NTP, SNMP, sFlow and the DHCP server, and the global maps and profiles of `qos`.
-/

namespace Hemlock.Intent

open Config Net
open Rib (splitOnce)
open Routing (canonicalPrefix requireCanonicalPrefix)

def lldpStatement : Item → Except IntentError Unit
  | .block name _ _ => .error (.badLldp ("unrecognized block " ++ debug name))
  | .leaf name _ =>
    if ["disable", "tx-interval", "hold-multiplier"].contains name then .ok ()
    else .error (.badLldp ("unrecognized statement " ++ debug name))

def lldp (items : List Item) : Except IntentError LldpIntent := do
  items.forM lldpStatement
  let txInterval ← optionalLeaf items "tx-interval" fun value =>
    (parseInt16 value 5 300 "tx-interval").mapError .badLldp
  let holdMultiplier ← optionalLeaf items "hold-multiplier" fun value =>
    (parseInt8 value 2 10 "hold-multiplier").mapError .badLldp
  return { disabled := ConfigTree.hasLeaf items "disable", txInterval, holdMultiplier }

def maxNtpServers : Nat := 4

def ntpStatement (servers : List String) : Item → Except IntentError (List String)
  | .block name _ _ => .error (.badNtp ("unrecognized block " ++ debug name))
  | .leaf name values =>
    match name, values with
    | "server", [host] =>
      if validNtpServer host then .ok (pushNew servers host)
      else .error (.badNtp ("bad server " ++ debug host))
    | "server", _ => .error (.badNtp "expected `server <host>`")
    | "listen", _ | "master", _ => .error (.badNtp "NTP server mode is not supported")
    | "authentication", _ | "key", _ => .error (.badNtp "NTP authentication is not supported")
    | other, _ => .error (.badNtp ("unrecognized statement " ++ debug other))

def ntp (items : List Item) : Except IntentError NtpIntent := do
  let servers ← items.foldlM ntpStatement []
  if maxNtpServers < servers.length then
    throw (.badNtp ("at most 4 servers (" ++ toString servers.length ++ " configured)"))
  return { servers }

def minSnmpPassword : Nat := 8

def expectedSnmpUser : String := "expected `user <name> auth sha <pass> priv aes <pass>`"

def snmpCommunity : List String → Except String SnmpCommunityIntent
  | [community] => .ok { name := community, source := none }
  | [community, "source", source] =>
    match canonicalPrefix source with
    | .ok source => .ok { name := community, source := some source }
    | .error reason => .error ("community " ++ community ++ ": " ++ reason)
  | _ => .error "expected `community <name> [source <prefix>]`"

/-- A user: read only, with both protocols fixed. -/
def snmpUser : List String → Except String (String × SnmpUser)
  | [user, authKeyword, authProtocol, authPassword, privKeyword, privProtocol, privPassword] => do
      if !validSnmpName user then throw ("bad user name " ++ debug user)
      if authKeyword ≠ "auth" ∨ privKeyword ≠ "priv" then throw expectedSnmpUser
      if authProtocol ≠ "sha" then
        throw ("user " ++ user ++ ": auth protocol " ++ debug authProtocol
          ++ " is not supported (sha only)")
      if privProtocol ≠ "aes" then
        throw ("user " ++ user ++ ": priv protocol " ++ debug privProtocol
          ++ " is not supported (aes only)")
      if authPassword.utf8ByteSize < minSnmpPassword ∨ privPassword.utf8ByteSize < minSnmpPassword then
        throw ("user " ++ user ++ ": passwords must be at least 8 characters")
      return (user, { authPassword, privPassword })
  | _ => .error expectedSnmpUser

def onceText (leaf : String) (slot : Option String) : List String → Except String (Option String)
  | [text] => if slot.isSome then .error ("duplicate " ++ leaf) else .ok (some text)
  | _ => .error ("expected `" ++ leaf ++ " <text>`")

def snmpStatement (intent : SnmpIntent) : Item → Except IntentError SnmpIntent
  | .block name _ _ => .error (.badSnmp ("unrecognized block " ++ debug name))
  | .leaf name values =>
    Except.mapError IntentError.badSnmp <|
    match name with
    | "community" => do
        let community ← snmpCommunity values
        if !validSnmpName community.name then
          throw ("bad community name " ++ debug community.name)
        if intent.communities.any fun existing => existing.name = community.name then
          throw ("duplicate community " ++ community.name)
        return { intent with communities := intent.communities ++ [community] }
    | "user" => do
        let (user, entry) ← snmpUser values
        if intent.users.contains user then throw ("duplicate user " ++ user)
        return { intent with users := intent.users.insert user entry }
    | "location" => do
        let location ← onceText "location" intent.location values
        return { intent with location }
    | "contact" => do
        let contact ← onceText "contact" intent.contact values
        return { intent with contact }
    | "trap" | "trap2sink" | "informs" | "trapsink" | "alarm" =>
      throw "SNMP traps and informs are not supported"
    | "rwcommunity" | "rwuser" => throw "SNMP write access is not supported"
    | other => throw ("unrecognized statement " ++ debug other)

/-- The agent is on when its block exists. -/
def snmp (items : List Item) : Except IntentError SnmpIntent :=
  items.foldlM snmpStatement { enabled := true }

def maxSflowCollectors : Nat := 2

def minSflowSampleRate : Nat := 256

def maxSflowSampleRate : Nat := 1048576

def sampleRates : List Nat := (List.range 13).map fun exponent => 256 * 2 ^ exponent

def nearestSampleRates (rate : Nat) : Nat × Nat :=
  ((sampleRates.filter (· ≤ rate)).getLast?.getD minSflowSampleRate,
    (sampleRates.find? (rate ≤ ·)).getD maxSflowSampleRate)

def sflowCollector : List String → Except String SflowCollector
  | [address] => .ok { address, port := none }
  | [address, "port", port] => do
      let port ← parseInt16 port 1 65535 "collector port"
      return { address, port := some port }
  | _ => .error "expected `collector <ip> [port <1-65535>]`"

def sampleRate (value : String) : Except String UInt32 := do
  let rate ← parseInt (2 ^ 32) value minSflowSampleRate maxSflowSampleRate "sample-rate"
  if !sampleRates.contains rate then
    let (below, above) := nearestSampleRates rate
    throw ("sample-rate " ++ toString rate ++ " is not a power of two (nearest: "
      ++ toString below ++ ", " ++ toString above ++ ")")
  return UInt32.ofNat rate

def sflowStatement (intent : SflowIntent) : Item → Except IntentError SflowIntent
  | .block name _ _ => .error (.badSflow ("unrecognized block " ++ debug name))
  | .leaf name values =>
    Except.mapError IntentError.badSflow <|
    match name, values with
    | "collector", values => do
        let collector ← sflowCollector values
        if (parseIpAddr collector.address.toList).isNone then
          throw ("bad collector address " ++ debug collector.address)
        if intent.collectors.any fun existing => existing.address = collector.address then
          throw ("duplicate collector " ++ collector.address)
        return { intent with collectors := intent.collectors ++ [collector] }
    | "sample-rate", [value] => do
        let rate ← sampleRate value
        return { intent with sampleRate := some rate }
    | "sample-rate", _ => throw "expected `sample-rate <256-1048576>`"
    | "polling-interval", [value] => do
        let interval ← parseInt16 value 5 300 "polling-interval"
        return { intent with pollingInterval := some interval }
    | "polling-interval", _ => throw "expected `polling-interval <5-300>`"
    | "egress", _ | "egress-sample-rate", _ => throw "sFlow egress sampling is not supported"
    | other, _ => throw ("unrecognized statement " ++ debug other)

def sflow (items : List Item) : Except IntentError SflowIntent := do
  let intent ← items.foldlM sflowStatement {}
  if maxSflowCollectors < intent.collectors.length then
    throw (.badSflow
      ("at most 2 collectors (" ++ toString intent.collectors.length ++ " configured)"))
  return intent

def SflowIntent.enabled (intent : SflowIntent) : Bool := !intent.collectors.isEmpty

def maxPoolDnsServers : Nat := 3

def poolIpv4 (what text : String) : Except String Ipv4Addr :=
  match parseIpv4 text with
  | some addr => .ok addr
  | none => .error ("bad " ++ what ++ " " ++ debug text)

/-- The network of a pool; an IPv6 one is refused. -/
def poolNetwork (dest : String) : Except String String := do
  let canonical ← (requireCanonicalPrefix dest).mapError fun reason => "network: " ++ reason
  if canonical.toList.contains ':' then throw "DHCPv6 pools are not supported"
  return canonical

def poolLeaf (pool : DhcpPoolIntent) (leaf : String) (values : List String) :
    Except String DhcpPoolIntent :=
  match leaf, values with
  | "network", [dest] => do
      let network ← poolNetwork dest
      if pool.network.isSome then throw "duplicate network"
      return { pool with network := some network }
  | "network", _ => .error "expected `network <prefix>`"
  | "range", [start, stop] => do
      let start ← poolIpv4 "range start" start
      let stop ← poolIpv4 "range end" stop
      if ipv4Number stop < ipv4Number start then
        throw ("range " ++ ipv4Text start ++ " - " ++ ipv4Text stop ++ " runs backwards")
      if pool.range.isSome then throw "duplicate range"
      return { pool with range := some (start, stop) }
  | "range", _ => .error "expected `range <start-ip> <end-ip>`"
  | "default-gateway", [address] => do
      if pool.defaultGateway.isSome then throw "duplicate default-gateway"
      let gateway ← poolIpv4 "default-gateway" address
      return { pool with defaultGateway := some gateway }
  | "default-gateway", _ => .error "expected `default-gateway <ipv4>`"
  | "dns-server", [address] => do
      let server ← poolIpv4 "dns-server" address
      return { pool with dnsServers := pushNew pool.dnsServers server }
  | "dns-server", _ => .error "expected `dns-server <ipv4>`"
  | "lease-time", [value] => do
      if pool.leaseTime.isSome then throw "duplicate lease-time"
      let lease ← parseInt32 value 300 2592000 "lease-time"
      return { pool with leaseTime := some lease }
  | "lease-time", _ => .error "expected `lease-time <300-2592000>`"
  | "domain-name", [text] =>
    if pool.domainName.isSome then .error "duplicate domain-name"
    else .ok { pool with domainName := some text }
  | "domain-name", _ => .error "expected `domain-name <text>`"
  | "reservation", [mac, keyword, address] => do
      if keyword ≠ "address" then throw ("expected `address`, got " ++ debug keyword)
      let mac ← (parseUnicastMac mac).mapError fun reason => "reservation: " ++ reason
      let address ← poolIpv4 "reservation address" address
      if pool.reservations.contains mac then throw ("duplicate reservation for " ++ mac)
      return { pool with reservations := pool.reservations.insert mac address }
  | "reservation", _ => .error "expected `reservation <mac> address <ipv4>`"
  | "option-82", _ | "relay-agent-information", _ => .error "DHCP option-82 is not supported"
  | other, _ => .error ("unrecognized statement " ++ debug other)

def poolStatement (name : String) (pool : DhcpPoolIntent) : Item → Except IntentError DhcpPoolIntent
  | .block block _ _ => .error (.badDhcpPool name ("unrecognized block " ++ debug block))
  | .leaf leaf values => (poolLeaf pool leaf values).mapError (.badDhcpPool name)

def dhcpPool (name : String) (items : List Item) : Except IntentError DhcpPoolIntent := do
  let pool ← items.foldlM (poolStatement name) {}
  if maxPoolDnsServers < pool.dnsServers.length then
    throw (.badDhcpPool name
      ("at most 3 dns-servers (" ++ toString pool.dnsServers.length ++ " configured)"))
  return pool

def dhcpServerStatement (pools : NameMap DhcpPoolIntent) :
    Item → Except IntentError (NameMap DhcpPoolIntent)
  | .leaf name _ => .error (.badDhcpServer ("unrecognized statement " ++ debug name))
  | .block name keys children =>
    if name ≠ "pool" then .error (.badDhcpServer ("unrecognized block " ++ debug name))
    else
      match keys with
      | [pool] =>
        if !validPoolName pool then .error (.badDhcpServer ("bad pool name " ++ debug pool))
        else do
          let intent ← dhcpPool pool children
          insertNew pools pool intent (.badDhcpServer ("duplicate pool " ++ pool))
      | _ => .error (.badDhcpServer "pool block needs exactly one name key")

def dhcpServer (items : List Item) : Except IntentError (NameMap DhcpPoolIntent) :=
  items.foldlM dhcpServerStatement ∅

def DhcpPoolIntent.subnet (pool : DhcpPoolIntent) : Option (Ipv4Addr × UInt8) := do
  let network ← pool.network
  let (address, length) ← splitOnce '/' network.toList
  let address ← parseIpv4 (String.ofList address)
  let length ← parseUnsigned 10 256 length
  return (address, UInt8.ofNat length)

def servicesBlock (name : String) (children : List Item) (intents : Intents) : Except IntentError Intents :=
  match name with
  | "lldp" => do
      let lldp ← lldp children
      return { intents with lldp }
  | "ntp" => do
      let ntp ← ntp children
      return { intents with ntp }
  | "snmp" => do
      let snmp ← snmp children
      return { intents with snmp }
  | "sflow" => do
      let sflow ← sflow children
      return { intents with sflow }
  | "dhcp-server" => do
      let dhcpServer ← dhcpServer children
      return { intents with dhcpServer }
  | other => .error (.badServices ("unrecognized block " ++ debug other))

def servicesStatement (intents : Intents) : Item → Except IntentError Intents
  | .leaf name _ => .error (.badServices ("unrecognized statement " ++ debug name))
  | .block name keys children =>
    if keys ≠ [] then .error (.badServices ("unrecognized block " ++ debug name))
    else servicesBlock name children intents

def services (tree : ConfigTree) (intents : Intents) : Except IntentError Intents :=
  match tree.block "services" with
  | none => .ok intents
  | some (_, items) => items.foldlM servicesStatement intents

def wredStatement (profile : String) (intent : WredProfileIntent) :
    Item → Except IntentError WredProfileIntent
  | .block name _ _ => .error (.badWredProfile profile ("unrecognized block " ++ debug name))
  | .leaf name values =>
    Except.mapError (.badWredProfile profile) <|
    match name, values with
    | "min-threshold", [value] => do
        let threshold ← parseInt32 value 1 4096 "min-threshold"
        return { intent with minThreshold := some threshold }
    | "max-threshold", [value] => do
        let threshold ← parseInt32 value 1 4096 "max-threshold"
        return { intent with maxThreshold := some threshold }
    | "drop-probability", [value] => do
        let dropProbability ← parseInt32 value 1 100 "drop-probability"
        return { intent with dropProbability }
    | "ecn", [] => .ok { intent with ecn := true }
    | _, _ => .error ("unrecognized statement " ++ debug name)

def wredProfile (name : String) (children : List Item) : Except IntentError WredProfileIntent :=
  if !validWredName name then
    .error (.badWredProfile name "bad name (letter first, then letters/digits/_/-, max 32)")
  else children.foldlM (wredStatement name) { dropProbability := 10 }

/-- The words and bounds of the entries of a map. -/
structure QosTableForm where
  keyWord : String
  keyMax : Nat
  valueWord : String
  valueMax : Nat

def qosTableForm : String → Option QosTableForm
  | "dscp-to-tc" => some ⟨"dscp", 63, "tc", 7⟩
  | "cos-to-tc" => some ⟨"cos", 7, "tc", 7⟩
  | "tc-to-dscp" => some ⟨"tc", 7, "dscp", 63⟩
  | "tc-to-cos" => some ⟨"tc", 7, "cos", 7⟩
  | _ => none

def tableEntry (form : QosTableForm) (table : QosTable) (leaf : String) (values : List String) :
    Except String QosTable := do
  let expected := "expected `" ++ form.keyWord ++ " <value> " ++ form.valueWord ++ " <value>`"
  match values with
  | [key, keyword, value] =>
      if leaf ≠ form.keyWord ∨ keyword ≠ form.valueWord then throw expected
      let key ← parseInt8 key 0 form.keyMax form.keyWord
      let value ← parseInt8 value 0 form.valueMax form.valueWord
      if table.contains key then
        throw ("duplicate " ++ form.keyWord ++ " " ++ toString key.toNat)
      return table.insert key value
  | _ => throw expected

def tableStatement (name : String) (form : QosTableForm) (table : QosTable) :
    Item → Except IntentError QosTable
  | .block block _ _ => .error (.badQosMap name ("unrecognized block " ++ debug block))
  | .leaf leaf values => (tableEntry form table leaf values).mapError (.badQosMap name)

/-- The table of a name, put in its place; a place that is taken is refused. -/
def setTable (maps : QosMapsIntent) (name : String) (table : QosTable) : Except IntentError QosMapsIntent :=
  let refusal := IntentError.badQos ("duplicate map block " ++ debug name)
  match name with
  | "dscp-to-tc" => if maps.dscpToTc.isEmpty then .ok { maps with dscpToTc := table } else .error refusal
  | "cos-to-tc" => if maps.cosToTc.isEmpty then .ok { maps with cosToTc := table } else .error refusal
  | "tc-to-dscp" => if maps.tcToDscp.isEmpty then .ok { maps with tcToDscp := table } else .error refusal
  | _ => if maps.tcToCos.isEmpty then .ok { maps with tcToCos := table } else .error refusal

def mapStatement (intents : Intents) : Item → Except IntentError Intents
  | .leaf name _ => .error (.badQos ("map: unrecognized statement " ++ debug name))
  | .block name keys children =>
      if keys ≠ [] then .error (.badQos ("map: unrecognized block " ++ debug name))
      else
        match qosTableForm name with
        | none => .error (.badQos ("map: unrecognized table " ++ debug name))
        | some form => do
            let table ← children.foldlM (tableStatement name form) ∅
            let qosMaps ← setTable intents.qosMaps name table
            return { intents with qosMaps }

def qosMaps (items : List Item) (intents : Intents) : Except IntentError Intents :=
  items.foldlM mapStatement intents

def qosStatement (intents : Intents) : Item → Except IntentError Intents
  | .leaf name _ => .error (.badQos ("unrecognized statement " ++ debug name))
  | .block "map" [] children => qosMaps children intents
  | .block "wred-profile" [profile] children => do
      let intent ← wredProfile profile children
      let wredProfiles ← insertNew intents.wredProfiles profile intent
        (.badWredProfile profile "duplicate profile")
      return { intents with wredProfiles }
  | .block "wred-profile" _ _ => .error (.badQos "wred-profile block needs exactly one name key")
  | .block other _ _ => .error (.badQos ("unrecognized block " ++ debug other))

def qos (tree : ConfigTree) (intents : Intents) : Except IntentError Intents :=
  match tree.block "qos" with
  | none => .ok intents
  | some (_, items) => items.foldlM qosStatement intents

end Hemlock.Intent
