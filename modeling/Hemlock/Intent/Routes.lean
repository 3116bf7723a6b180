import Hemlock.Intent.System

/-!
# The routing block

Static routes, static ARP entries, and the processes of the routing daemon.
-/

namespace Hemlock.Intent

open Config Net
open Routing (requireCanonicalPrefix)

def expectedRoute : String := "expected `<next-hop> [distance <1-255>]` or `drop`"

/-- The routes read so far, and the distances that lines gave explicitly. -/
structure RoutesRead where
  routes : NameMap StaticRoute := ∅
  explicitDistance : NameMap UInt8 := ∅

/-- The distance behind a next hop; explicit distances of a prefix agree. -/
def routeDistance (canonical : String) (explicitDistance : NameMap UInt8) (entry : StaticRoute) :
    List String → Except String (NameMap UInt8 × StaticRoute)
  | [] => .ok (explicitDistance, entry)
  | ["distance", value] => do
      let distance ← parseInt8 value 1 255 "distance"
      match explicitDistance[canonical]? with
      | some prior =>
        if prior ≠ distance then
          throw ("conflicting distances (" ++ toString prior.toNat ++ " and "
            ++ toString distance.toNat ++ "); distance is per-prefix")
      | none => pure ()
      return (explicitDistance.insert canonical distance, { entry with distance })
  | _ => .error expectedRoute

/-- One line of a prefix, added to the lines read before. -/
def addRoute (read : RoutesRead) (canonical : String) (values : List String) :
    Except String RoutesRead := do
  let entry := (read.routes[canonical]?).getD {}
  match values with
  | ["drop"] =>
    if !entry.nextHops.isEmpty then throw "cannot mix drop with next hops"
    return { read with routes := read.routes.insert canonical { entry with drop := true } }
  | nextHop :: rest =>
    validateNextHop canonical nextHop
    if entry.drop then throw "cannot mix drop with next hops"
    let (explicitDistance, entry) ← routeDistance canonical read.explicitDistance entry rest
    let entry := { entry with nextHops := entry.nextHops.insert nextHop }
    return { routes := read.routes.insert canonical entry, explicitDistance }
  | [] => throw expectedRoute

def routeStatement (read : RoutesRead) : Item → Except IntentError RoutesRead
  | .block name _ _ => .error (.badRouting ("static: unrecognized block " ++ debug name))
  | .leaf dest values => do
      let canonical ← (requireCanonicalPrefix dest).mapError (.badRoute dest)
      (addRoute read canonical values).mapError (.badRoute dest)

def staticRoutes (children : List Item) : Except IntentError (NameMap StaticRoute) :=
  RoutesRead.routes <$> children.foldlM routeStatement {}

def arpStatement (statics : NameMap ArpStatic) : Item → Except IntentError (NameMap ArpStatic)
  | .block name _ _ => .error (.badRouting ("arp: unrecognized block " ++ debug name))
  | .leaf ip values =>
    match parseIpAddr ip.toList with
    | none => .error (.badArp ip ("bad address " ++ debug ip))
    | some address =>
      match values with
      | ["interface", interface, "mac", mac] => do
          let mac ← (parseUnicastMac mac).mapError (.badArp ip)
          return statics.insert address.text { interface, mac }
      | _ => .error (.badArp ip "expected `interface <name> mac <mac>`")

/-- Static neighbours, one leaf for each address; a later leaf replaces an earlier one. -/
def arpStatics (children : List Item) : Except IntentError (NameMap ArpStatic) :=
  children.foldlM arpStatement ∅

def areaNetwork (area : String) (networks : NameSet) : Item → Except IntentError NameSet
  | .block name _ _ =>
    .error (.badOspf ("area " ++ area ++ ": unrecognized block " ++ debug name))
  | .leaf "network" [dest] => do
      let canonical ← (requireCanonicalPrefix dest).mapError
        fun reason => .badOspf ("area " ++ area ++ ": " ++ reason)
      if canonical.toList.contains ':' then
        throw (.badOspf ("area " ++ area ++ ": " ++ canonical
          ++ " is IPv6 (OSPFv3 is not supported)"))
      return networks.insert canonical
  | .leaf _ _ => .error (.badOspf ("area " ++ area ++ ": expected `network <prefix>`"))

def ospfKnob (interface : String) (knobs : OspfInterfaceIntent) :
    Item → Except IntentError OspfInterfaceIntent
  | .block name _ _ =>
    .error (.badOspf ("interface " ++ interface ++ ": unrecognized block " ++ debug name))
  | .leaf name [value] =>
    Except.mapError (fun reason => .badOspf ("interface " ++ interface ++ ": " ++ reason)) <|
    match name with
    | "cost" => do
        let cost ← parseInt16 value 1 65535 "cost"
        return { knobs with cost := some cost }
    | "hello-interval" => do
        let interval ← parseInt16 value 1 65535 "hello-interval"
        return { knobs with helloInterval := some interval }
    | "dead-interval" => do
        let interval ← parseInt16 value 1 65535 "dead-interval"
        return { knobs with deadInterval := some interval }
    | "priority" => do
        let priority ← parseInt8 value 0 255 "priority"
        return { knobs with priority := some priority }
    | other => .error ("unrecognized statement " ++ debug other)
  | .leaf name _ =>
    .error (.badOspf ("interface " ++ interface ++ ": " ++ name ++ " takes one value"))

def ospfLeaf (ospf : OspfIntent) (name : String) (values : List String) : Except IntentError OspfIntent :=
  match name, values with
  | "router-id", [id] =>
    match parseIpv4 id with
    | some id => .ok { ospf with routerId := some (ipv4Text id) }
    | none => .error (.badOspf ("bad router-id " ++ debug id))
  | "passive-interface", [interface] =>
    .ok { ospf with passiveInterfaces := ospf.passiveInterfaces.insert interface }
  | "redistribute", [source] =>
    if ["connected", "static", "bgp"].contains source then
      .ok { ospf with redistribute := ospf.redistribute.insert source }
    else .error (.badOspf ("redistribute " ++ debug source ++ " (connected|static|bgp)"))
  | "maximum-paths", [paths] => do
      let maximumPaths ← (parseInt8 paths 1 8 "maximum-paths").mapError .badOspf
      return { ospf with maximumPaths }
  | _, _ => .error (.badOspf ("unrecognized statement " ++ debug name))

def ospfBlock (ospf : OspfIntent) (name : String) (keys : List String) (children : List Item) :
    Except IntentError OspfIntent :=
  match name, keys with
  | "area", [area] => do
      let area ← (canonicalArea area).mapError .badOspf
      let networks ← children.foldlM (areaNetwork area) ((ospf.areas[area]?).getD ∅)
      return { ospf with areas := ospf.areas.insert area networks }
  | "interface", [interface] => do
      let knobs ← children.foldlM (ospfKnob interface) {}
      return { ospf with interfaces := ospf.interfaces.insert interface knobs }
  | _, _ => .error (.badOspf ("unrecognized block " ++ debug name))

def ospfStatement (ospf : OspfIntent) : Item → Except IntentError OspfIntent
  | .leaf name values => ospfLeaf ospf name values
  | .block name keys children => ospfBlock ospf name keys children

def ospfIntent (children : List Item) : Except IntentError OspfIntent :=
  children.foldlM ospfStatement {}

def neighborKnob (ip : String) (neighbor : BgpNeighborIntent) :
    Item → Except IntentError BgpNeighborIntent
  | .block name _ _ =>
    .error (.badBgp ("neighbor " ++ ip ++ ": unrecognized block " ++ debug name))
  | .leaf name values =>
    Except.mapError (fun reason => .badBgp ("neighbor " ++ ip ++ ": " ++ reason)) <|
    match name, values with
    | "remote-as", [remote] => do
        let remoteAs ← parseInt32 remote 1 4294967295 "remote-as"
        return { neighbor with remoteAs := some remoteAs }
    | "description", [text] => .ok { neighbor with description := some text }
    | "shutdown", [] => .ok { neighbor with shutdown := true }
    | "ebgp-multihop", [ttl] => do
        let hops ← parseInt8 ttl 1 255 "ebgp-multihop"
        return { neighbor with ebgpMultihop := some hops }
    | "next-hop-self", [] => .ok { neighbor with nextHopSelf := true }
    | _, _ => .error ("unrecognized statement " ++ debug name)

def bgpLeaf (bgp : BgpIntent) (name : String) (values : List String) : Except IntentError BgpIntent :=
  match name, values with
  | "as", [number] => do
      let asNumber ← (parseInt32 number 1 4294967295 "as").mapError .badBgp
      return { bgp with asNumber }
  | "router-id", [id] =>
    match parseIpv4 id with
    | some id => .ok { bgp with routerId := some (ipv4Text id) }
    | none => .error (.badBgp ("bad router-id " ++ debug id))
  | "network", [dest] => do
      let canonical ← (requireCanonicalPrefix dest).mapError .badBgp
      if canonical.toList.contains ':' then
        throw (.badBgp (canonical ++ " is IPv6 (the IPv6 address family is not supported)"))
      return { bgp with networks := bgp.networks.insert canonical }
  | "redistribute", [source] =>
    if ["connected", "static", "ospf"].contains source then
      .ok { bgp with redistribute := bgp.redistribute.insert source }
    else .error (.badBgp ("redistribute " ++ debug source ++ " (connected|static|ospf)"))
  | "maximum-paths", [paths] => do
      let maximumPaths ← (parseInt8 paths 1 8 "maximum-paths").mapError .badBgp
      return { bgp with maximumPaths }
  | _, _ => .error (.badBgp ("unrecognized statement " ++ debug name))

def bgpStatement (bgp : BgpIntent) : Item → Except IntentError BgpIntent
  | .leaf name values => bgpLeaf bgp name values
  | .block "neighbor" [address] children =>
    match parseIpAddr address.toList with
    | none => .error (.badBgp ("bad neighbor address " ++ debug address))
    | some ip =>
      if !ip.isIpv4 then
        .error (.badBgp ("neighbor " ++ ip.text
          ++ " is IPv6 (the IPv6 address family is not supported)"))
      else do
        let neighbor ← children.foldlM (neighborKnob ip.text) {}
        return { bgp with neighbors := bgp.neighbors.insert ip.text neighbor }
  | .block name _ _ => .error (.badBgp ("unrecognized block " ++ debug name))

/-- Every neighbour has to say its autonomous system. -/
def neighborComplete (entry : String × BgpNeighborIntent) : Except IntentError Unit :=
  if entry.2.remoteAs.isNone then
    .error (.badBgp ("neighbor " ++ entry.1 ++ ": remote-as is required"))
  else .ok ()

def bgpIntent (children : List Item) : Except IntentError BgpIntent := do
  let bgp ← children.foldlM bgpStatement {}
  if bgp.asNumber = 0 then throw (.badBgp "as is required")
  bgp.neighbors.toList.forM neighborComplete
  return bgp

def routingBlock (name : String) (children : List Item) (intents : Intents) : Except IntentError Intents :=
  match name with
  | "static" => do
      let routes ← staticRoutes children
      return { intents with routes }
  | "arp" => do
      let arpStatics ← arpStatics children
      return { intents with arpStatics }
  | "ospf" => do
      let ospf ← ospfIntent children
      return { intents with ospf := some ospf }
  | "bgp" => do
      let bgp ← bgpIntent children
      return { intents with bgp := some bgp }
  | "vrf" | "ospfv3" | "pim" | "policy" | "route-map" | "prefix-list" =>
    .error (.badRouting (name ++ " is not supported"))
  | _ => .error (.badRouting ("unrecognized block " ++ debug name))

def routingStatement (intents : Intents) : Item → Except IntentError Intents
  | .block name keys children =>
    if keys ≠ [] then .error (.badRouting ("unrecognized block " ++ debug name))
    else routingBlock name children intents
  | .leaf "router-id" [id] =>
    match parseIpv4 id with
    | some id => .ok { intents with routerId := some (ipv4Text id) }
    | none => .error (.badRouting ("bad router-id " ++ debug id))
  | .leaf "router-id" _ => .error (.badRouting "router-id takes one IPv4 address")
  | .leaf name _ => .error (.badRouting ("unrecognized statement " ++ debug name))

def routing (tree : ConfigTree) (intents : Intents) : Except IntentError Intents :=
  match tree.block "routing" with
  | none => .ok intents
  | some (_, items) => items.foldlM routingStatement intents

end Hemlock.Intent
