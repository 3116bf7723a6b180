import Hemlock.Library.RefCount
import Hemlock.Routing.Prefix
import Hemlock.Switching.Service

/-!
# Routing requests

Interface addresses, transit routes and neighbors.  Next hops, and groups of them, are
shared: a table holds each with a count of the routes that use it, and the object in the
switch goes with the last use.  The switch is any backend: each of its calls succeeds or
fails as it likes.
-/

namespace Hemlock.Routing

open Net Contracts RefCount Reconcile Table
open Acl (Status saiErr quoted)
open Switching (Oid PortId sviVlanId requireCapability)

inductive RouteTarget where
  | cpu
  | drop
  | rif (rif : Oid)
  | nextHop (nextHop : Oid)
  | group (group : Oid)
  deriving DecidableEq

abbrev Sai (δ Value : Type) := EStateM String δ Value

structure Backend (δ : Type) where
  createRouterInterface : PortId → Sai δ Oid
  removeRouterInterface : PortId → Oid → Sai δ Unit
  createVlanRif : Option Oid → Sai δ Oid
  removeVlanRif : Oid → Sai δ Unit
  createRoute : IpPrefix → RouteTarget → Sai δ Unit
  removeRoute : IpPrefix → Sai δ Unit
  createNeighbor : Oid → IpAddr → String → Sai δ Unit
  removeNeighbor : Oid → IpAddr → Sai δ Unit
  createNextHop : Oid → IpAddr → Sai δ Oid
  removeNextHop : Oid → Sai δ Unit
  createNextHopGroup : Sai δ Oid
  removeNextHopGroup : Oid → Sai δ Unit
  addNextHopGroupMember : Oid → Oid → Sai δ Oid
  removeNextHopGroupMember : Oid → Sai δ Unit

structure Capabilities where
  ipv6 : Bool := true
  ecmpWidth : UInt32 := 32

structure L3State where
  rif : Oid
  address : String
  deriving DecidableEq

structure PortState where
  saiId : PortId
  /-- Whether there is switchport config. -/
  switchport : Bool := false
  l3 : Option L3State := none
  deriving DecidableEq

structure VlanState where
  oid : Option Oid
  l3 : Option L3State := none
  deriving DecidableEq

/-- A next hop: router interface and address text. -/
abbrev HopKey := Oid × String

instance : LawfulBEq HopKey := inferInstance

abbrev HopMap (Value : Type) := Std.ExtTreeMap HopKey Value comparePair
abbrev GroupMap (Value : Type) := Std.ExtTreeMap (List Oid) Value compare

/-- What a transit route uses: next hops, none twice, and their group when there are several. -/
structure FibRoute where
  hopKeys : List HopKey
  distinct : hopKeys.Nodup
  /-- The next hops of the group, in order. -/
  groupKey : Option (List Oid)

structure FibGroup where
  oid : Oid
  members : List Oid
  deriving DecidableEq

structure FibTable where
  /-- By canonical prefix. -/
  routes : NameMap FibRoute := ∅
  nextHops : HopMap (Shared Oid) := ∅
  groups : GroupMap (Shared FibGroup) := ∅
  /-- By interface and address. -/
  neighbors : Std.ExtTreeMap (String × String) (Oid × String) comparePair := ∅

structure World (δ : Type) where
  ports : NameMap PortState := ∅
  vlans : VlanMap VlanState := ∅
  fib : FibTable := {}
  device : δ

abbrev Rpc (δ Value : Type) := EStateM Status (World δ) Value

section

variable {δ : Type}

def devicePart : Part (World δ) δ := ⟨World.device, fun device w => { w with device }⟩

def sai {Value : Type} (call : Sai δ Value) : Rpc δ Value := devicePart.lift saiErr call

/-- A call whose failure only is logged. -/
def trySai (call : Sai δ Unit) : Rpc δ Unit := attempt (sai call)

def modifyFib (change : FibTable → FibTable) : Rpc δ Unit :=
  modify fun w => { w with fib := change w.fib }

def World.rifOf (w : World δ) (iface : String) : Except Status Oid :=
  let noL3 : Status :=
    ⟨.failedPrecondition, iface ++ " has no router interface (no address configured)"⟩
  match sviVlanId iface with
  | some vlan =>
    match w.vlans[vlan]? with
    | none => .error ⟨.notFound, "no such VLAN " ++ toString vlan.toNat⟩
    | some state => (state.l3.map L3State.rif).elim (.error noL3) .ok
  | none =>
    match w.ports[iface]? with
    | none => .error ⟨.notFound, "no such interface " ++ quoted iface⟩
    | some port => (port.l3.map L3State.rif).elim (.error noL3) .ok

variable (backend : Backend δ)

def fibAcquireHop (rif : Oid) (ip : IpAddr) : Rpc δ Oid := do
  let w ← get
  match w.fib.nextHops[(rif, ip.text)]? with
  | some shared =>
    modifyFib fun fib => { fib with nextHops := Table.retain (rif, ip.text) fib.nextHops }
    return shared.object
  | none =>
    let oid ← sai (backend.createNextHop rif ip)
    modifyFib fun fib => { fib with nextHops := Table.publish (rif, ip.text) oid fib.nextHops }
    return oid

def fibReleaseHop (key : HopKey) : Rpc δ Unit := do
  let w ← get
  let (gone, nextHops) := Table.drop key w.fib.nextHops
  modifyFib fun fib => { fib with nextHops }
  match gone with
  | some oid => trySai (backend.removeNextHop oid)
  | none => return

def unwindGroup (group : Oid) (members : List Oid) : Rpc δ Unit := do
  each (fun member => trySai (backend.removeNextHopGroupMember member)) members
  trySai (backend.removeNextHopGroup group)

def addGroupMembers (group : Oid) : List Oid → List Oid → Rpc δ (List Oid)
  | [], members => pure members
  | nextHop :: rest, members => do
      let member ← recover (sai (backend.addNextHopGroupMember group nextHop))
        (unwindGroup backend group members)
      addGroupMembers group rest (members ++ [member])

def fibAcquireGroup (memberOids : List Oid) : Rpc δ Oid := do
  let w ← get
  match w.fib.groups[memberOids]? with
  | some shared =>
    modifyFib fun fib => { fib with groups := Table.retain memberOids fib.groups }
    return shared.object.oid
  | none =>
    let group ← sai backend.createNextHopGroup
    let members ← addGroupMembers backend group memberOids []
    modifyFib fun fib => { fib with groups := Table.publish memberOids ⟨group, members⟩ fib.groups }
    return group

def fibReleaseGroup (key : List Oid) : Rpc δ Unit := do
  let w ← get
  let (gone, groups) := Table.drop key w.fib.groups
  modifyFib fun fib => { fib with groups }
  match gone with
  | some group => unwindGroup backend group.oid group.members
  | none => return

/-- Groups go first: their members are next hops. -/
def fibReleaseRoute (route : FibRoute) : Rpc δ Unit := do
  match route.groupKey with
  | some key => fibReleaseGroup backend key
  | none => pure ()
  each (fibReleaseHop backend) route.hopKeys

def fibTeardownRoute (text : String) : Rpc δ Unit := do
  let w ← get
  match w.fib.routes[text]? with
  | none => return
  | some route =>
    modifyFib fun fib => { fib with routes := fib.routes.erase text }
    match parseCidr text with
    | .ok dest => trySai (backend.removeRoute dest)
    | .error _ => pure ()
    fibReleaseRoute backend route

def fibTeardownNeighbor (key : String × String) : Rpc δ Unit := do
  let w ← get
  match w.fib.neighbors[key]? with
  | none => return
  | some (rif, _) =>
    modifyFib fun fib => { fib with neighbors := fib.neighbors.erase key }
    match parseIpAddr key.2.toList with
    | some ip => trySai (backend.removeNeighbor rif ip)
    | none => return

def FibRoute.rides (rif : Oid) (route : FibRoute) : Bool := route.hopKeys.any fun key => key.1 = rif

/-- All that uses a router interface that is about to go. -/
def fibTeardownRif (rif : Oid) : Rpc δ Unit := do
  let w ← get
  each (fibTeardownRoute backend)
    ((w.fib.routes.toList.filter fun entry => entry.2.rides rif).map Prod.fst)
  each (fibTeardownNeighbor backend)
    ((w.fib.neighbors.toList.filter fun entry => entry.2.1 = rif).map Prod.fst)

structure NextHop where
  interface : String
  ip : String

structure EnsureRouteRequest where
  cidr : String
  cpu : Bool := false
  drop : Bool := false
  nextHops : List NextHop := []

/-- A check that blames the request. -/
def argument {Value : Type} (outcome : Except String Value) : Except Status Value :=
  outcome.mapError fun text => ⟨.invalidArgument, text⟩

/-- The destination of a request that may be tried. -/
def EnsureRouteRequest.check (caps : Capabilities) (req : EnsureRouteRequest) : Except Status IpPrefix := do
  let text ← argument (requireCanonicalPrefix req.cidr)
  let dest ← argument (parseCidr text)
  if !dest.1.isIpv4 then requireCapability caps.ipv6 "IPv6 routing"
  if ([req.cpu, req.drop, !req.nextHops.isEmpty].filter id).length ≠ 1 then
    throw ⟨.invalidArgument, "exactly one of cpu, drop, or next_hops must be given"⟩
  if 1 < req.nextHops.length then
    requireCapability (0 < caps.ecmpWidth) "ECMP next-hop groups"
    if caps.ecmpWidth.toNat < req.nextHops.length then
      throw ⟨.failedPrecondition, toString req.nextHops.length
        ++ " next hops exceed this platform's ECMP width of "
        ++ toString caps.ecmpWidth.toNat⟩
  return dest

/-- The next hops that a request holds so far, and their objects. -/
structure Resolved where
  keys : List HopKey := []
  oids : List Oid := []
  distinct : keys.Nodup := by exact List.nodup_nil

def Resolved.add (resolved : Resolved) (key : HopKey) (oid : Oid) (absent : key ∉ resolved.keys) :
    Resolved where
  keys := resolved.keys ++ [key]
  oids := resolved.oids ++ [oid]
  distinct := by
    rw [List.nodup_append]
    refine ⟨resolved.distinct, by simp, fun other listed key' isKey same => absent ?_⟩
    rw [List.mem_singleton] at isKey
    exact isKey ▸ same ▸ listed

/-- A text that is no address ends the request; what it holds then is not given back. -/
def resolveHops : List NextHop → Resolved → Rpc δ Resolved
  | [], resolved => pure resolved
  | hop :: rest, resolved =>
    match parseIpAddr hop.ip.toList with
    | none => throw ⟨.invalidArgument, "bad next-hop address " ++ quoted hop.ip⟩
    | some ip => do
        let w ← get
        match w.rifOf hop.interface with
        | .error status =>
          each (fibReleaseHop backend) resolved.keys
          throw status
        | .ok rif =>
          if absent : (rif, ip.text) ∉ resolved.keys then
            let oid ← recover (fibAcquireHop backend rif ip)
              (each (fibReleaseHop backend) resolved.keys)
            resolveHops rest (resolved.add (rif, ip.text) oid absent)
          else resolveHops rest resolved

/-- What the route leads to, and the group that it needs for this. -/
def resolveTarget (req : EnsureRouteRequest) (resolved : Resolved) :
    Rpc δ (RouteTarget × Option (List Oid)) :=
  if req.cpu then pure (.cpu, none)
  else if req.drop then pure (.drop, none)
  else
    match resolved.oids with
    | [oid] => pure (.nextHop oid, none)
    | oids => do
        let members := oids.insertionSort (· ≤ ·)
        let group ← recover (fibAcquireGroup backend members)
          (each (fibReleaseHop backend) resolved.keys)
        return (.group group, some members)

/-- The new route takes the place of the old one; without the new one both are given up. -/
def replaceRoute (text : String) (dest : IpPrefix) (target : RouteTarget) (route : FibRoute) :
    Rpc δ Unit := do
  let w ← get
  let old := w.fib.routes[text]?
  modifyFib fun fib => { fib with routes := fib.routes.erase text }
  if old.isSome then trySai (backend.removeRoute dest)
  recover (sai (backend.createRoute dest target)) do
    fibReleaseRoute backend route
    match old with
    | some old => fibReleaseRoute backend old
    | none => return
  modifyFib fun fib => { fib with routes := fib.routes.insert text route }
  match old with
  | some old => fibReleaseRoute backend old
  | none => return

def ensureRoute (caps : Capabilities) (req : EnsureRouteRequest) : Rpc δ Unit := do
  let dest ← settle (req.check caps)
  let resolved ← resolveHops backend req.nextHops {}
  let (target, groupKey) ← resolveTarget backend req resolved
  replaceRoute backend req.cidr dest target ⟨resolved.keys, resolved.distinct, groupKey⟩

def removeRoute (cidr : String) : Rpc δ Unit := do
  let text ← settle (argument (requireCanonicalPrefix cidr))
  fibTeardownRoute backend text

def isHexDigit (c : Char) : Bool := (toDigit 16 c).isSome

def parseMac (text : String) : Except String String :=
  let hex := text.toList.filter fun c => c ≠ ':' ∧ c ≠ '-' ∧ c ≠ '.'
  if hex.length ≠ 12 ∨ !hex.all isHexDigit then .error ("bad MAC address " ++ quoted text)
  else
    let hex := hex.map Char.toLower
    let octets := (List.range 6).map fun i => (hex.drop (2 * i)).take 2
    .ok (String.ofList ([':'].intercalate octets))

structure EnsureNeighborRequest where
  interface : String
  ip : String
  mac : String

def ensureNeighbor (caps : Capabilities) (req : EnsureNeighborRequest) : Rpc δ Unit := do
  let some ip := parseIpAddr req.ip.toList
    | throw ⟨.invalidArgument, "bad IP address " ++ quoted req.ip⟩
  if !ip.isIpv4 then settle (requireCapability caps.ipv6 "IPv6")
  let mac ← settle (argument (parseMac req.mac))
  let w ← get
  let rif ← settle (w.rifOf req.interface)
  match w.fib.neighbors[(req.interface, req.ip)]? with
  | some (old, _) => if old ≠ rif then trySai (backend.removeNeighbor old ip)
  | none => pure ()
  sai (backend.createNeighbor rif ip mac)
  modifyFib fun fib =>
    { fib with neighbors := fib.neighbors.insert (req.interface, req.ip) (rif, mac) }

def removeNeighbor (iface ip : String) : Rpc δ Unit := fibTeardownNeighbor backend (iface, ip)

structure SetInterfaceAddressRequest where
  name : String
  address : String

def dropRoutes (dests : List IpPrefix) : Rpc δ Unit :=
  each (fun dest => trySai (backend.removeRoute dest)) dests

/-- A route anew, whether there was one or not. -/
def renewRoute (dest : IpPrefix) (target : RouteTarget) : Rpc δ Unit := do
  trySai (backend.removeRoute dest)
  sai (backend.createRoute dest target)

/-- The routes of an old address go, those of the new one come; the router interface is
kept or made. -/
def readdress (existing : Option L3State) (create : Sai δ Oid) (dest : IpPrefix) : Rpc δ Oid := do
  match existing with
  | some old => dropRoutes backend (routeDests old.address)
  | none => pure ()
  let rif ← match existing with
    | some old => pure old.rif
    | none => sai create
  let (host, subnet) := routesFor dest.1 dest.2
  renewRoute backend host .cpu
  match subnet with
  | some subnet => renewRoute backend subnet (.rif rif)
  | none => pure ()
  return rif

def setSviAddress (vlan : UInt16) (address : String) (dest : IpPrefix) : Rpc δ Unit := do
  let w ← get
  let known := w.vlans[vlan]?
  if known.isNone ∧ vlan ≠ 1 then
    throw ⟨.failedPrecondition, "VLAN " ++ toString vlan.toNat ++ " is not defined (set vlans vlan "
      ++ toString vlan.toNat ++ ")"⟩
  let existing := known.bind VlanState.l3
  if existing.any fun l3 => l3.address = address then return
  let rif ← readdress backend existing (backend.createVlanRif (known.bind VlanState.oid)) dest
  modify fun w =>
    { w with
      vlans := w.vlans.insert vlan
        { oid := w.vlans[vlan]?.bind VlanState.oid, l3 := some ⟨rif, address⟩ } }

def setPortAddress (name address : String) (dest : IpPrefix) : Rpc δ Unit := do
  let w ← get
  match w.ports[name]? with
  | none => throw ⟨.notFound, "no port " ++ quoted name⟩
  | some port =>
    if port.switchport then
      throw ⟨.failedPrecondition,
        name ++ " has switchport config; delete it before addressing the port"⟩
    if port.l3.any fun l3 => l3.address = address then return
    let rif ← readdress backend port.l3 (backend.createRouterInterface port.saiId) dest
    modify fun w =>
      { w with
        ports := w.ports.modify name fun port => { port with l3 := some ⟨rif, address⟩ } }

def setInterfaceAddress (req : SetInterfaceAddressRequest) : Rpc δ Unit := do
  let dest ← settle (argument (parseCidr req.address))
  match sviVlanId req.name with
  | some vlan => setSviAddress backend vlan req.address dest
  | none => setPortAddress backend req.name req.address dest

/-- The routes over a router interface, the routes of its address, and the interface go. -/
def teardownL3 (l3 : L3State) (remove : Sai δ Unit) : Rpc δ Unit := do
  fibTeardownRif backend l3.rif
  dropRoutes backend (routeDests l3.address)
  sai remove

def clearInterfaceAddress (name : String) : Rpc δ Unit := do
  let w ← get
  match sviVlanId name with
  | some vlan =>
    match w.vlans[vlan]?.bind VlanState.l3 with
    | none => return
    | some l3 =>
      teardownL3 backend l3 (backend.removeVlanRif l3.rif)
      modify fun w =>
        { w with vlans := w.vlans.modify vlan fun state => { state with l3 := none } }
  | none =>
    match w.ports[name]? with
    | none => throw ⟨.notFound, "no port " ++ quoted name⟩
    | some port =>
      match port.l3 with
      | none => return
      | some l3 =>
        teardownL3 backend l3 (backend.removeRouterInterface port.saiId l3.rif)
        modify fun w =>
          { w with ports := w.ports.modify name fun port => { port with l3 := none } }

end

end Hemlock.Routing
