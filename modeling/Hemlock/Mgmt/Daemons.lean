import Hemlock.Config.Parser
import Hemlock.Intent.Validation
import Hemlock.Library.Lines
import Hemlock.Library.Refusal

/-!
# The files of the daemons

The configurations that are rendered for snmpd, FRR, dnsmasq and hostapd.  A line is made
of the renderer's own words, of numbers and addresses, and of configured texts, which are
written as they are: a text with a line break in it is read as more than one line.
-/

namespace Hemlock.Mgmt

open Config Net Intent Refusal

theorem plain_ofList (chars : List Char) (plain : chars.contains '\n' = false) :
    '\n' ∉ (String.ofList chars).toList := by
  simpa using plain

/-- A piece of a line.  The renderer's own words have no line break. -/
inductive Piece where
  | word (text : String) (plain : '\n' ∉ text.toList := by exact plain_ofList _ rfl)
  | number (count : Nat)
  | address (octets : Ipv4Addr)
  | value (text : String)

def Piece.text : Piece → List Char
  | word text _ | value text => text.toList
  | number count => Nat.toDigits 10 count
  | address octets => dotted octets

open Piece

abbrev Line := List Piece

def Line.text (line : Line) : List Char := line.flatMap Piece.text

def conf (lines : List Line) : String := String.ofList (Lines.ended '\n' (lines.map Line.text))

def optional {Value : Type} (value : Option Value) (line : Value → Line) : List Line :=
  value.toList.map line

def communityLines (community : SnmpCommunityIntent) : List Line :=
  match community.source with
  | some source =>
      [word "rocommunity ", value community.name, word " ", value source] ::
        if source.toList.contains ':' then
          [[word "rocommunity6 ", value community.name, word " ", value source]]
        else []
  | none =>
      [[word "rocommunity ", value community.name], [word "rocommunity6 ", value community.name]]

def createUser (user : String) (config : SnmpUser) : Line :=
  [word "createUser ", value user, word " SHA \"", value config.authPassword,
    word "\" AES \"", value config.privPassword, word "\""]

/-- The lines of `snmpd.conf`; none where the agent is off. -/
def renderSnmpd (intents : Intents) : Option (List Line) :=
  let snmp := intents.snmp
  if !snmp.enabled then none
  else
    (managementAddress intents).map fun address =>
      [[word "# Managed by hemlock-mgmtd; edit via the Hemlock config, not here."],
        [word "agentaddress udp:", value address, word ":161"],
        [],
        [word "# The IF-MIB comes from hemlock-orch's AgentX subagent (ASIC"],
        [word "# counters, not kernel netdev ones), so snmpd serves transport,"],
        [word "# auth and the system group only."],
        [word "master agentx"],
        [word "agentXSocket /var/agentx/master"],
        [word "agentXPerms 0660 0550"],
        []] ++
      optional snmp.location (fun location => [word "sysLocation ", value location]) ++
      optional snmp.contact (fun contact => [word "sysContact ", value contact]) ++
      (if snmp.location.isSome || snmp.contact.isSome then [[]] else []) ++
      (if snmp.communities.isEmpty then []
        else [word "# v2c, read-only. A community with a source only answers there."] ::
          (snmp.communities.flatMap communityLines ++ [[]])) ++
      (if snmp.users.isEmpty then []
        else [word "# v3 USM, read-only authPriv (SHA/AES)."] ::
          (snmp.users.toList.map (fun (user, config) => createUser user config) ++
            snmp.users.keys.map fun user => [word "rouser ", value user, word " authPriv"]))

def highestV4 (addresses : List String) : Option Ipv4Addr :=
  let parsed := addresses.filterMap fun cidr =>
    parseIpv4 (String.ofList (cidr.toList.takeWhile (· ≠ '/')))
  parsed.foldl (fun best address =>
    match best with
    | some best => some (if ipv4Number best ≤ ipv4Number address then address else best)
    | none => some address) none

def effectiveRouterId (intents : Intents) : Option String :=
  let svi := highestV4 (intents.svis.values.filterMap SviIntent.address)
  let management := highestV4 (intents.management.values.filterMap MgmtIntent.address)
  intents.routerId.or ((svi.or management).map ipv4Text)

def ospfKnobs (knobs : OspfInterfaceIntent) : List Line :=
  optional knobs.cost (fun cost => [word " ip ospf cost ", number cost.toNat]) ++
    optional knobs.helloInterval
      (fun hello => [word " ip ospf hello-interval ", number hello.toNat]) ++
    optional knobs.deadInterval (fun dead => [word " ip ospf dead-interval ", number dead.toNat]) ++
    optional knobs.priority (fun priority => [word " ip ospf priority ", number priority.toNat])

/-- A VRRP group; FRR counts the interval in milliseconds. -/
def vrrpGroup (group : UInt8) (config : VrrpIntent) : List Line :=
  let vrrp := fun rest => word " vrrp " :: number group.toNat :: rest
  [vrrp [word " priority ", number config.priority.toNat],
    vrrp [word " advertisement-interval ", number (config.advertisementInterval.toNat * 1000)]] ++
  config.addresses.toList.map (fun address => vrrp [word " ip ", value address]) ++
  if config.preempt then [] else [[word " no vrrp ", number group.toNat, word " preempt"]]

def addBody (bodies : NameMap (List Line)) (name : String) (lines : List Line) : NameMap (List Line) :=
  bodies.insert name ((bodies[name]?).getD [] ++ lines)

def interfaceBodies (intents : Intents) : NameMap (List Line) :=
  let ospf := (intents.ospf.elim [] (·.interfaces.toList)).foldl
    (fun bodies (name, knobs) => addBody bodies name (ospfKnobs knobs)) ∅
  intents.vrrp.toList.foldl
    (fun bodies ((name, group), config) => addBody bodies name (vrrpGroup group config)) ospf

def ospfLines (routerId : Option String) (ospf : OspfIntent) : List Line :=
  [word "router ospf"] ::
    optional (ospf.routerId.or routerId) (fun id => [word " ospf router-id ", value id]) ++
    [[word " maximum-paths ", number ospf.maximumPaths.toNat]] ++
    ospf.areas.toList.flatMap (fun (area, networks) => networks.toList.map fun network =>
      [word " network ", value network, word " area ", value area]) ++
    ospf.passiveInterfaces.toList.map (fun name => [word " passive-interface ", value name]) ++
    ospf.redistribute.toList.map (fun source => [word " redistribute ", value source]) ++
    [[word "exit"], [word "!"]]

def neighborLines (ip : String) (neighbor : BgpNeighborIntent) : List Line :=
  let start := fun rest => word " neighbor " :: value ip :: rest
  optional neighbor.remoteAs (fun remote => start [word " remote-as ", number remote.toNat]) ++
    optional neighbor.description (fun text => start [word " description ", value text]) ++
    optional neighbor.ebgpMultihop (fun ttl => start [word " ebgp-multihop ", number ttl.toNat]) ++
    if neighbor.shutdown then [start [word " shutdown"]] else []

def bgpLines (routerId : Option String) (bgp : BgpIntent) : List Line :=
  [word "router bgp ", number bgp.asNumber.toNat] ::
    optional (bgp.routerId.or routerId) (fun id => [word " bgp router-id ", value id]) ++
    bgp.neighbors.toList.flatMap (fun (ip, neighbor) => neighborLines ip neighbor) ++
    [[word " address-family ipv4 unicast"],
      [word "  maximum-paths ", number bgp.maximumPaths.toNat]] ++
    bgp.networks.toList.map (fun network => [word "  network ", value network]) ++
    bgp.redistribute.toList.map (fun source => [word "  redistribute ", value source]) ++
    (bgp.neighbors.toList.filter (·.2.nextHopSelf)).map (fun (ip, _) =>
      [word "  neighbor ", value ip, word " next-hop-self"]) ++
    [[word " exit-address-family"], [word "exit"], [word "!"]]

/-- The file of the member daemons: each one runs or does not. -/
def daemonsLines (intents : Intents) : List Line :=
  let enabled := fun on => word (if on then "yes" else "no") (by cases on <;> exact plain_ofList _ rfl)
  [[word "# Managed by hemlock-mgmtd — which FRR daemons run."], [word "zebra=yes"],
    [word "mgmtd=no"], [word "staticd=no"], [word "bgpd=", enabled intents.bgp.isSome],
    [word "ospfd=", enabled intents.ospf.isSome], [word "ospf6d=no"], [word "ripd=no"],
    [word "ripngd=no"], [word "isisd=no"], [word "pimd=no"], [word "pim6d=no"],
    [word "ldpd=no"], [word "nhrpd=no"], [word "eigrpd=no"], [word "babeld=no"],
    [word "sharpd=no"], [word "pbrd=no"], [word "bfdd=no"], [word "fabricd=no"],
    [word "vrrpd=", enabled (!intents.vrrp.isEmpty)], [word "pathd=no"]]

/-- The lines of `frr.conf` and of `daemons`; none where no family is configured. -/
def renderFrr (intents : Intents) : Option (List Line × List Line) :=
  if intents.ospf.isNone && intents.bgp.isNone && intents.vrrp.isEmpty then none
  else
    let routerId := effectiveRouterId intents
    some
      ([[word "! Managed by hemlock-mgmtd; edit via the Hemlock config, not here."],
          [word "frr defaults traditional"], [word "!"]] ++
        (interfaceBodies intents).toList.flatMap (fun (name, body) =>
          [word "interface ", value name] :: body ++ [[word "exit"], [word "!"]]) ++
        intents.ospf.elim [] (ospfLines routerId) ++ intents.bgp.elim [] (bgpLines routerId),
      daemonsLines intents)

def netmask (length : UInt8) : Ipv4Addr :=
  ipv4OfNumber (2 ^ 32 - 2 ^ (32 - min length.toNat 32))

/-- The lines of a pool; a pool without its network or range is passed over. -/
def poolLines (name : String) (pool : DhcpPoolIntent) : List Line :=
  match pool.subnet, pool.range with
  | some (_, length), some (start, stop) =>
      let option := fun rest => word "dhcp-option=tag:" :: value name :: rest
      [[], [word "# pool ", value name, word " (", value (pool.network.getD ""), word ")"],
        [word "dhcp-range=set:", value name, word ",", address start, word ",", address stop,
          word ",", address (netmask length), word ",",
          number ((pool.leaseTime.map UInt32.toNat).getD 86400)]] ++
      optional pool.defaultGateway (fun gateway =>
        option [word ",option:router,", address gateway]) ++
      (if pool.dnsServers.isEmpty then []
        else [option (word ",option:dns-server," ::
          (pool.dnsServers.map address).intersperse (word ","))]) ++
      optional pool.domainName (fun domain =>
        option [word ",option:domain-name,", value domain]) ++
      pool.reservations.toList.map fun (mac, ip) =>
        [word "dhcp-host=", value mac, word ",", address ip]
  | _, _ => []

/-- The lines of the DHCP server's file; none where there is no pool. -/
def renderDnsmasq (intents : Intents) : Option (List Line) :=
  if intents.dhcpServer.isEmpty then none
  else
    some <|
      [[word "# Managed by hemlock-mgmtd; edit via the Hemlock config, not here."],
        [word "# DHCP only: the DNS half is off."], [word "port=0"], [word "bind-dynamic"],
        [word "dhcp-leasefile=/var/lib/misc/dnsmasq.leases"], [word "dhcp-authoritative"]] ++
      intents.dhcpServer.toList.flatMap fun (name, pool) => poolLines name pool

def renderHostapdConf (port : String) (config : Dot1xIntent) (ctrlDir : String) : List Line :=
  [[word "interface=", value port], [word "driver=wired"], [word "ieee8021x=1"],
    [word "use_pae_group_addr=1"], [word "ctrl_interface=", value ctrlDir]] ++
  (if config.reauthInterval = 0 then []
    else [[word "eap_reauth_period=", number config.reauthInterval.toNat]]) ++
  [[word "own_ip_addr=127.0.0.1"]] ++
  config.radiusServers.flatMap (fun radius =>
    [[word "auth_server_addr=", value radius.ip],
      [word "auth_server_port=", number radius.port.toNat],
      [word "auth_server_shared_secret=", value (radius.key.getD "")]]) ++
  optional config.radiusServers.head? fun first =>
    [word "radius_retry_primary_interval=",
      number (first.timeout.toNat * (first.retransmit.toNat + 1))]

/-- A file for each port that authenticates, once there is a RADIUS server. -/
def hostapdFiles (intents : Intents) : List (List Line) :=
  if intents.dot1x.radiusServers.isEmpty then []
  else
    (intents.ports.toList.filter (·.2.dot1x)).map fun (port, _) =>
      renderHostapdConf port intents.dot1x "/run/hemlock/hostapd/ctrl"

def files (intents : Intents) : List (List Line) :=
  (renderSnmpd intents).toList ++ (renderFrr intents).elim [] (fun (conf, daemons) => [conf, daemons])
    ++ (renderDnsmasq intents).toList ++ hostapdFiles intents

/-- What stands between the quotation marks of a user's line. -/
def userFields (user : String) (config : SnmpUser) : List (List Char) :=
  ["createUser ".toList ++ user.toList ++ " SHA ".toList, config.authPassword.toList,
    " AES ".toList, config.privPassword.toList]

/-- Whoever reads the files finds the lines that were rendered and no other, and the
quoted passphrases of a user as they were configured. -/
structure Confined (intents : Intents) : Prop where
  lines : ∀ file ∈ files intents, (conf file).toList.splitOn '\n' = file.map Line.text ++ [[]]
  quoted : (renderSnmpd intents).isSome → ∀ user config, intents.snmp.users[user]? = some config →
    (createUser user config).text.splitOn '"' = userFields user config ++ [[]]

def snmpTexts (intents : Intents) : List String :=
  let snmp := intents.snmp
  if !snmp.enabled then []
  else
    (managementAddress intents).elim [] fun address =>
      address :: (snmp.location.toList ++ snmp.contact.toList ++
        snmp.communities.flatMap (fun community => community.name :: community.source.toList) ++
        snmp.users.toList.flatMap fun (user, config) =>
          [user, config.authPassword, config.privPassword])

def ospfTexts (routerId : Option String) (ospf : OspfIntent) : List String :=
  (ospf.routerId.or routerId).toList ++
    ospf.areas.toList.flatMap (fun (area, networks) => networks.toList.flatMap ([·, area])) ++
    ospf.passiveInterfaces.toList ++ ospf.redistribute.toList

/-- A neighbour of which nothing is said has no line. -/
def neighborTexts (ip : String) (neighbor : BgpNeighborIntent) : List String :=
  if neighbor = {} then [] else ip :: neighbor.description.toList

def bgpTexts (routerId : Option String) (bgp : BgpIntent) : List String :=
  (bgp.routerId.or routerId).toList ++
    bgp.neighbors.toList.flatMap (fun (ip, neighbor) => neighborTexts ip neighbor) ++
    bgp.networks.toList ++ bgp.redistribute.toList

def interfaceTexts (intents : Intents) : List String :=
  intents.ospf.elim [] (·.interfaces.keys) ++
    intents.vrrp.toList.flatMap fun ((name, _), config) => name :: config.addresses.toList

def frrTexts (intents : Intents) : List String :=
  let routerId := effectiveRouterId intents
  interfaceTexts intents ++ intents.ospf.elim [] (ospfTexts routerId) ++
    intents.bgp.elim [] (bgpTexts routerId)

def poolTexts (name : String) (pool : DhcpPoolIntent) : List String :=
  match pool.subnet, pool.range with
  | some _, some _ =>
      name :: (pool.network.toList ++ pool.domainName.toList ++ pool.reservations.toList.map Prod.fst)
  | _, _ => []

def hostapdTexts (intents : Intents) : List String :=
  if intents.dot1x.radiusServers.isEmpty then []
  else
    (intents.ports.toList.filter (·.2.dot1x)).flatMap fun (port, _) =>
      port :: intents.dot1x.radiusServers.flatMap fun radius => radius.ip :: radius.key.toList

/-- The configured texts that are printed.  Extraction reads addresses, networks, areas and
sources of routes as such and checks each letter of the names of communities, users and
pools, so they have no line break.  It takes the rest as it is: the location, the contact, the
passphrases, the descriptions, the domain names, the keys, and the names of interfaces, of
which it looks at the first letters at most. -/
def printed (intents : Intents) : List String :=
  snmpTexts intents ++ frrTexts intents ++
    intents.dhcpServer.toList.flatMap (fun (name, pool) => poolTexts name pool) ++
    hostapdTexts intents

/-- No configured text that is printed has a line break, and what stands between quotation
marks has none. -/
structure Plain (intents : Intents) : Prop where
  values : ∀ text ∈ printed intents, '\n' ∉ text.toList
  quoted : (renderSnmpd intents).isSome → ∀ (user : String) config,
    intents.snmp.users[user]? = some config →
    '"' ∉ user.toList ∧ '"' ∉ config.authPassword.toList ∧ '"' ∉ config.privPassword.toList

def plain (text : String) : Bool := !text.toList.contains '\n'

/-- Only a configured text can break a line. -/
def Piece.unbroken : Piece → Bool
  | value text => plain text
  | _ => true

abbrev unbroken (lines : List Line) : Bool := lines.all (·.all Piece.unbroken)

theorem not_mem_digits (count : Nat) : '\n' ∉ Nat.toDigits 10 count := fun hl =>
  absurd (Nat.isDigit_of_mem_toDigits (by decide) (by decide) hl) (by decide)

theorem Piece.unbroken_iff (piece : Piece) : '\n' ∉ piece.text ↔ piece.unbroken := by
  cases piece with
  | word text isPlain => exact iff_of_true isPlain rfl
  | number count => exact iff_of_true (not_mem_digits count) rfl
  | address octets =>
      refine iff_of_true (fun broken => ?_) rfl
      rcases mem_dotted broken with isDot | isDigit
      · exact absurd isDot (by decide)
      · exact absurd isDigit (by decide)
  | value text => simp [Piece.text, Piece.unbroken, plain]

theorem conf_split_iff (file : List Line) :
    (conf file).toList.splitOn '\n' = file.map Line.text ++ [[]] ↔ unbroken file := by
  rw [conf, String.toList_ofList, Lines.splitOn_ended_iff, List.forall_mem_map]
  simp only [Line.text, List.mem_flatMap, not_exists, not_and, Piece.unbroken_iff, unbroken,
    List.all_eq_true]

theorem all_and {Entry : Type} (entries : List Entry) (p q : Entry → Bool) :
    (entries.all fun entry => p entry && q entry) = (entries.all p && entries.all q) := by
  rw [Bool.eq_iff_iff]
  simp [forall_and]

theorem plain_getD (text : Option String) : plain (text.getD "") = text.toList.all plain := by
  cases text <;> simp [plain]

theorem communityLines_unbroken (community : SnmpCommunityIntent) :
    unbroken (communityLines community) = (community.name :: community.source.toList).all plain := by
  unfold communityLines
  split <;> (try split) <;> simp [*, Piece.unbroken]

theorem renderSnmpd_unbroken (intents : Intents) :
    (renderSnmpd intents).toList.all unbroken = (snmpTexts intents).all plain := by
  dsimp only [renderSnmpd, snmpTexts]
  split
  · rfl
  cases managementAddress intents with
  | none => rfl
  | some address =>
      have empty : (∅ : NameMap SnmpUser).toList = [] := rfl
      by_cases none : intents.snmp.users = ∅ <;>
        cases intents.snmp.location.isSome || intents.snmp.contact.isSome <;>
        cases intents.snmp.communities <;>
        simp [none, empty, optional, createUser, Function.comp_def, Piece.unbroken, List.all_flatMap,
          communityLines_unbroken, ← Std.ExtTreeMap.map_fst_toList_eq_keys, Bool.and_assoc, all_and] <;>
        ac_rfl

theorem ospfLines_unbroken (routerId : Option String) (ospf : OspfIntent) :
    unbroken (ospfLines routerId ospf) = (ospfTexts routerId ospf).all plain := by
  simp [ospfLines, ospfTexts, optional, List.all_flatMap, Function.comp_def, Piece.unbroken]

theorem neighborLines_unbroken (ip : String) (neighbor : BgpNeighborIntent) :
    (unbroken (neighborLines ip neighbor) && (!neighbor.nextHopSelf || plain ip)) =
      (neighborTexts ip neighbor).all plain := by
  obtain ⟨remoteAs, description, shutdown, ebgpMultihop, nextHopSelf⟩ := neighbor
  cases isPlain : plain ip <;> cases remoteAs <;> cases description <;> cases shutdown <;>
    cases ebgpMultihop <;> cases nextHopSelf <;>
    simp [isPlain, neighborLines, neighborTexts, Piece.unbroken, optional]

theorem bgpLines_unbroken (routerId : Option String) (bgp : BgpIntent) :
    unbroken (bgpLines routerId bgp) = (bgpTexts routerId bgp).all plain := by
  simp [bgpLines, bgpTexts, optional, List.all_flatMap, Function.comp_def, Piece.unbroken,
    ← neighborLines_unbroken, all_and]
  simp only [unbroken]
  ac_rfl

theorem vrrpGroup_unbroken (group : UInt8) (config : VrrpIntent) :
    unbroken (vrrpGroup group config) = config.addresses.toList.all plain := by
  cases preempt : config.preempt <;> simp [vrrpGroup, preempt, Function.comp_def, Piece.unbroken]

theorem servers_unbroken (servers : List Ipv4Addr) :
    ((servers.map address).intersperse (word ",")).all Piece.unbroken = true := by
  induction servers with
  | nil => rfl
  | cons server rest ih => cases rest <;> simp_all [Piece.unbroken]

theorem poolLines_unbroken (name : String) (pool : DhcpPoolIntent) :
    unbroken (poolLines name pool) = (poolTexts name pool).all plain := by
  unfold poolLines poolTexts
  cases pool.subnet <;> cases pool.range <;> try rfl
  cases isPlain : plain name
  · simp [*, Piece.unbroken]
  · cases pool.defaultGateway <;> cases pool.dnsServers.isEmpty <;>
      simp [*, optional, Function.comp_def, servers_unbroken, Piece.unbroken,
        plain_getD, -Std.ExtTreeMap.map_fst_toList_eq_keys]

theorem renderDnsmasq_unbroken (intents : Intents) :
    (renderDnsmasq intents).toList.all unbroken =
      (intents.dhcpServer.toList.flatMap fun (name, pool) => poolTexts name pool).all plain := by
  unfold renderDnsmasq
  split
  · simp_all
  · simp [List.all_flatMap, Piece.unbroken, poolLines_unbroken]

theorem hostapdFiles_unbroken (intents : Intents) :
    (hostapdFiles intents).all unbroken = (hostapdTexts intents).all plain := by
  have directory : plain "/run/hemlock/hostapd/ctrl" = true := by decide
  unfold hostapdFiles hostapdTexts
  split
  · rfl
  · have retry : (intents.dot1x.radiusServers.head?.toList.all fun _ => true) = true := by simp
    by_cases intents.dot1x.reauthInterval = 0 <;>
      simp [*, renderHostapdConf, optional, Function.comp_def, List.all_flatMap, Piece.unbroken,
        plain_getD]

def sound (entry : String × List Line) : Bool := plain entry.1 && unbroken entry.2

/-- What the blocks of interfaces print is what was added to them. -/
theorem addBody_sound (bodies : NameMap (List Line)) (name : String) (lines : List Line) :
    (addBody bodies name lines).toList.all sound = (bodies.toList.all sound && sound (name, lines)) := by
  have append (first second : List Line) :
      sound (name, first ++ second) = (sound (name, first) && sound (name, second)) := by
    simp only [sound, unbroken, List.all_append]
    ac_rfl
  generalize sound = sound at *
  rw [Bool.eq_iff_iff]
  simp only [List.all_eq_true, Bool.and_eq_true, Prod.forall,
    Std.ExtTreeMap.mem_toList_iff_getElem?_eq_some, addBody, Std.ExtTreeMap.getElem?_insert,
    Std.LawfulEqCmp.compare_eq_iff_eq]
  cases old : bodies[name]? <;> grind

theorem foldl_addBody {Entry : Type} (name : Entry → String) (lines : Entry → List Line)
    (entries : List Entry) (bodies : NameMap (List Line)) :
    (entries.foldl (fun bodies entry => addBody bodies (name entry) (lines entry)) bodies).toList.all
        sound =
      (bodies.toList.all sound && entries.all fun entry => sound (name entry, lines entry)) := by
  induction entries generalizing bodies with
  | nil => simp
  | cons entry rest ih => simp only [List.foldl_cons, ih, addBody_sound, List.all_cons, Bool.and_assoc]

theorem ospfKnobs_unbroken (knobs : OspfInterfaceIntent) : unbroken (ospfKnobs knobs) = true := by
  simp [ospfKnobs, optional, Piece.unbroken]

theorem interfaceBodies_unbroken (intents : Intents) :
    ((interfaceBodies intents).toList.all fun entry => plain entry.1 && unbroken entry.2) =
      (interfaceTexts intents).all plain := by
  change (interfaceBodies intents).toList.all sound = _
  have empty : (∅ : NameMap (List Line)).toList = [] := rfl
  unfold interfaceBodies interfaceTexts
  cases intents.ospf <;>
    simp [sound, foldl_addBody, vrrpGroup_unbroken, ospfKnobs_unbroken, List.all_flatMap,
      ← Std.ExtTreeMap.map_fst_toList_eq_keys, empty, Function.comp_def]

theorem renderFrr_unbroken (intents : Intents) :
    ((renderFrr intents).elim [] fun (conf, daemons) => [conf, daemons]).all unbroken =
      (frrTexts intents).all plain := by
  unfold renderFrr frrTexts
  split
  · simp_all [interfaceTexts]
  · have daemons : unbroken (daemonsLines intents) = true := by simp [daemonsLines, Piece.unbroken]
    cases intents.ospf <;> cases intents.bgp <;>
      simp [daemons, List.all_flatMap, Piece.unbroken, interfaceBodies_unbroken, ospfLines_unbroken,
        bgpLines_unbroken]

theorem createUser_split_iff (user : String) (config : SnmpUser) :
    (createUser user config).text.splitOn '"' = userFields user config ++ [[]] ↔
      '"' ∉ user.toList ∧ '"' ∉ config.authPassword.toList ∧ '"' ∉ config.privPassword.toList := by
  have ended : (createUser user config).text = Lines.ended '"' (userFields user config) := by
    simp [createUser, userFields, Line.text, Piece.text, Lines.ended]
  rw [ended, Lines.splitOn_ended_iff]
  simp [userFields]

theorem lines_iff (intents : Intents) :
    (∀ file ∈ files intents, (conf file).toList.splitOn '\n' = file.map Line.text ++ [[]]) ↔
      ∀ text ∈ printed intents, '\n' ∉ text.toList := by
  have texts : (files intents).all unbroken = (printed intents).all plain := by
    simp only [files, printed, List.all_append, renderSnmpd_unbroken, renderFrr_unbroken,
      renderDnsmasq_unbroken, hostapdFiles_unbroken]
  simpa [conf_split_iff, plain] using Bool.eq_iff_iff.mp texts

theorem confined_iff_plain (intents : Intents) : Confined intents ↔ Plain intents := by
  constructor
  · rintro ⟨lines, quoted⟩
    exact ⟨(lines_iff intents).mp lines, fun rendered user config found =>
      (createUser_split_iff user config).mp (quoted rendered user config found)⟩
  · rintro ⟨values, quoted⟩
    exact ⟨(lines_iff intents).mpr values, fun rendered user config found =>
      (createUser_split_iff user config).mpr (quoted rendered user config found)⟩

/-- A location with a line break, written as an escape. -/
def brokenLocation : String :=
  "interfaces \x7b Management1 \x7b address 10.0.0.1/24; \x7d \x7d
   services \x7b snmp \x7b location \"x\\nrocommunity public\"; \x7d \x7d"

/-- The agent reads a community that nothing configures. -/
theorem brokenLocation_adds_line :
    ∃ tree intents, parse brokenLocation = .ok tree ∧ extract none tree = .ok intents ∧
      ¬ Confined intents := by
  obtain ⟨tree, parsed, broken⟩ : ∃ tree, parse brokenLocation = .ok tree ∧
      (extract none tree).toOption.any (decide <| ∃ text ∈ printed ·, '\n' ∈ text.toList) = true :=
    exists_of_toOption (by decide +kernel)
  obtain ⟨intents, accepted, text, listed, isBroken⟩ := exists_of_toOption broken
  exact ⟨tree, intents, parsed, accepted,
    fun confined => (lines_iff intents).mp confined.lines text listed isBroken⟩

end Hemlock.Mgmt
