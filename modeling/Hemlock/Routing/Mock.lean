import Hemlock.Routing.Service

/-!
# The routing tables of the switch

Router interfaces, routes, neighbors, next hops and groups of next hops, with the calls
that change them.  A call that does not make sense is refused and changes nothing, except
that a route which exists already is overwritten before the call is refused.
-/

namespace Hemlock.Routing

open Net
open Switching (Oid PortId OidMap OidSet hex)

structure MockSai where
  capabilities : Capabilities := {}
  ports : OidSet
  /-- The VLANs, but for the default one. -/
  vlans : OidSet := ∅
  /-- Objects are numbered from here on. -/
  next : Oid := 0
  /-- By port. -/
  rifs : OidMap Oid := ∅
  /-- Which VLAN a router interface fronts; `none` is the default VLAN. -/
  vlanRifs : OidMap (Option Oid) := ∅
  routes : Std.ExtTreeMap IpPrefix RouteTarget comparePair := ∅
  neighbors : Std.ExtTreeMap (Oid × IpAddr) String comparePair := ∅
  nextHops : OidMap (Oid × IpAddr) := ∅
  groups : OidSet := ∅
  /-- The group and the next hop of each member. -/
  members : OidMap (Oid × Oid) := ∅

namespace MockSai

/-- A call that is refused for the first of some reasons, or has one effect. -/
def checked {Value : Type} (reasons : MockSai → List (Bool × String))
    (effect : MockSai → Value × MockSai) : Sai MockSai Value := fun mock =>
  match (reasons mock).find? Prod.fst with
  | some (_, text) => .error text mock
  | none => .ok (effect mock).1 (effect mock).2

def rifExists (mock : MockSai) (rif : Oid) : Bool :=
  mock.rifs.values.contains rif || mock.vlanRifs.contains rif

def lacksIpv6 (mock : MockSai) (addr : IpAddr) : Bool × String :=
  (!addr.isIpv4 && !mock.capabilities.ipv6, "IPv6 is not supported")

def lacksRif (mock : MockSai) (rif : Oid) : Bool × String :=
  (!mock.rifExists rif, "no such RIF " ++ hex rif)

def lacksNextHop (mock : MockSai) (nextHop : Oid) : Bool × String :=
  (!mock.nextHops.contains nextHop, "no such next hop " ++ hex nextHop)

def lacksGroup (mock : MockSai) (group : Oid) : Bool × String :=
  (!mock.groups.contains group, "no such next-hop group " ++ hex group)

def routedTo (mock : MockSai) (target : RouteTarget) : Bool := mock.routes.values.contains target

def createRouterInterface (port : PortId) : Sai MockSai Oid :=
  checked
    (fun mock => [(!mock.ports.contains port, "unknown port PortId(" ++ toString port ++ ")"),
      (mock.rifs.contains port, "port " ++ hex port ++ " already has a RIF")])
    fun mock => (mock.next, { mock with next := mock.next + 1, rifs := mock.rifs.insert port mock.next })

def removeRouterInterface (port : PortId) (rif : Oid) : Sai MockSai Unit :=
  checked (fun mock => [(mock.rifs[port]? ≠ some rif, "port " ++ hex port ++ " has no RIF " ++ hex rif)])
    fun mock => ((), { mock with rifs := mock.rifs.erase port })

def createVlanRif (vlan : Option Oid) : Sai MockSai Oid :=
  checked
    (fun mock => [(vlan.any fun vlan => !mock.vlans.contains vlan, "no such VLAN " ++ hex (vlan.getD 0)),
      (mock.vlanRifs.values.contains vlan, "VLAN "
        ++ vlan.elim "None" (fun vlan => "Some(Oid(" ++ toString vlan ++ "))") ++ " already has a RIF")])
    fun mock =>
      (mock.next, { mock with next := mock.next + 1, vlanRifs := mock.vlanRifs.insert mock.next vlan })

def removeVlanRif (rif : Oid) : Sai MockSai Unit :=
  checked (fun mock => [(!mock.vlanRifs.contains rif, "no such VLAN RIF " ++ hex rif)])
    fun mock => ((), { mock with vlanRifs := mock.vlanRifs.erase rif })

/-- What a route cannot lead to. -/
def lacksTarget (mock : MockSai) : RouteTarget → List (Bool × String)
  | .rif rif => [mock.lacksRif rif]
  | .nextHop nextHop => [mock.lacksNextHop nextHop]
  | .group group => [mock.lacksGroup group]
  | .cpu => []
  | .drop => []

def createRoute (dest : IpPrefix) (target : RouteTarget) : Sai MockSai Unit := fun mock =>
  match (mock.lacksIpv6 dest.1 :: mock.lacksTarget target).find? Prod.fst with
  | some (_, text) => .error text mock
  | none =>
    let after := { mock with routes := mock.routes.insert dest target }
    if mock.routes.contains dest then .error ("route " ++ prefixText dest ++ " exists") after
    else .ok () after

def removeRoute (dest : IpPrefix) : Sai MockSai Unit :=
  checked (fun mock => [(!mock.routes.contains dest, "no route " ++ prefixText dest)])
    fun mock => ((), { mock with routes := mock.routes.erase dest })

def createNeighbor (rif : Oid) (ip : IpAddr) (mac : String) : Sai MockSai Unit :=
  checked (fun mock => [mock.lacksIpv6 ip, mock.lacksRif rif])
    fun mock => ((), { mock with neighbors := mock.neighbors.insert (rif, ip) mac })

def removeNeighbor (rif : Oid) (ip : IpAddr) : Sai MockSai Unit :=
  checked
    (fun mock => [(!mock.neighbors.contains (rif, ip), "no neighbor " ++ ip.text ++ " on " ++ hex rif)])
    fun mock => ((), { mock with neighbors := mock.neighbors.erase (rif, ip) })

def createNextHop (rif : Oid) (ip : IpAddr) : Sai MockSai Oid :=
  checked (fun mock => [mock.lacksIpv6 ip, mock.lacksRif rif])
    fun mock => (mock.next,
      { mock with next := mock.next + 1, nextHops := mock.nextHops.insert mock.next (rif, ip) })

def removeNextHop (nextHop : Oid) : Sai MockSai Unit :=
  checked
    (fun mock =>
      [(mock.routedTo (.nextHop nextHop), "next hop " ++ hex nextHop ++ " still routed to"),
        (mock.members.values.any fun member => member.2 = nextHop,
          "next hop " ++ hex nextHop ++ " still a group member"),
        mock.lacksNextHop nextHop])
    fun mock => ((), { mock with nextHops := mock.nextHops.erase nextHop })

def createNextHopGroup : Sai MockSai Oid :=
  checked (fun mock => [(mock.capabilities.ecmpWidth = 0, "next-hop groups are not supported")])
    fun mock => (mock.next, { mock with next := mock.next + 1, groups := mock.groups.insert mock.next })

def removeNextHopGroup (group : Oid) : Sai MockSai Unit :=
  checked
    (fun mock =>
      [(mock.members.values.any fun member => member.1 = group,
          "group " ++ hex group ++ " still has members"),
        (mock.routedTo (.group group), "group " ++ hex group ++ " still routed to"),
        mock.lacksGroup group])
    fun mock => ((), { mock with groups := mock.groups.erase group })

def addNextHopGroupMember (group nextHop : Oid) : Sai MockSai Oid :=
  checked
    (fun mock =>
      [mock.lacksGroup group, mock.lacksNextHop nextHop,
        (mock.capabilities.ecmpWidth.toNat ≤ mock.members.values.countP fun member => member.1 = group,
          "group " ++ hex group ++ " is at the ECMP width limit ("
            ++ toString mock.capabilities.ecmpWidth.toNat ++ ")")])
    fun mock => (mock.next,
      { mock with next := mock.next + 1, members := mock.members.insert mock.next (group, nextHop) })

def removeNextHopGroupMember (member : Oid) : Sai MockSai Unit :=
  checked (fun mock => [(!mock.members.contains member, "no such group member " ++ hex member)])
    fun mock => ((), { mock with members := mock.members.erase member })

end MockSai

/-- The switch as it is. -/
def mockBackend : Backend MockSai where
  createRouterInterface := MockSai.createRouterInterface
  removeRouterInterface := MockSai.removeRouterInterface
  createVlanRif := MockSai.createVlanRif
  removeVlanRif := MockSai.removeVlanRif
  createRoute := MockSai.createRoute
  removeRoute := MockSai.removeRoute
  createNeighbor := MockSai.createNeighbor
  removeNeighbor := MockSai.removeNeighbor
  createNextHop := MockSai.createNextHop
  removeNextHop := MockSai.removeNextHop
  createNextHopGroup := MockSai.createNextHopGroup
  removeNextHopGroup := MockSai.removeNextHopGroup
  addNextHopGroupMember := MockSai.addNextHopGroupMember
  removeNextHopGroupMember := MockSai.removeNextHopGroupMember

end Hemlock.Routing
