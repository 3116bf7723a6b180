import Hemlock.Routing.Replacement

/-!
# What address requests do to the switch

On the switch as it is, a request for an interface address that succeeds is an exact change
of the route table: the destinations of the old address go, those of the new one come.
-/

namespace Hemlock.Routing

open Net Contracts OrderedMap MockSai
open Acl (Status)
open Switching (Oid sviVlanId)

abbrev RouteTable := Std.ExtTreeMap IpPrefix RouteTarget comparePair

def dropped (dests : List IpPrefix) (routes : RouteTable) : RouteTable :=
  dests.foldl (fun routes dest => routes.erase dest) routes

def renewed (dest : IpPrefix) (target : RouteTarget) (routes : RouteTable) : RouteTable :=
  (routes.erase dest).insert dest target

def installed (rif : Oid) (dest : IpPrefix) (routes : RouteTable) : RouteTable :=
  let (host, subnet) := routesFor dest.1 dest.2
  let routes := renewed host .cpu routes
  subnet.elim routes fun subnet => renewed subnet (.rif rif) routes

section

variable {routes : RouteTable} {dest other : IpPrefix} {target : RouteTarget} {dests : List IpPrefix}
  {rif : Oid}

theorem getElem?_dropped :
    (dropped dests routes)[other]? = if other ∈ dests then none else routes[other]? := by
  induction dests generalizing routes with
  | nil => simp [dropped]
  | cons first rest ih =>
    change (dropped rest (routes.erase first))[other]? = _
    simp only [ih, lookup_erase]
    by_cases inRest : other ∈ rest
    · simp [inRest]
    · by_cases isFirst : first = other
      · simp [isFirst]
      · simp [isFirst, Ne.symm isFirst]

theorem getElem?_renewed :
    (renewed dest target routes)[other]? = if other = dest then some target else routes[other]? := by
  simp only [renewed, lookup_insert, lookup_erase, @eq_comm _ dest]
  split_ifs <;> rfl

theorem keepHigh_full {width kept part : Nat} (all : width ≤ kept) : keepHigh width kept part = part := by
  rw [keepHigh, Nat.sub_eq_zero_of_le all]
  simp

theorem network_maxLength (addr : IpAddr) : network (maxLength addr).toNat addr = addr := by
  cases addr with
  | v4 octets =>
    have whole (i : Fin 4) : keepHigh 8 (32 - 8 * i) octets[i].toNat = octets[i].toNat :=
      keepHigh_full (by omega)
    simp only [network, maxLength, IpAddr.isIpv4, if_true, UInt8.reduceToNat, whole]
    congr 1
    ext i
    simp
  | v6 segments =>
    have whole (i : Fin 8) : keepHigh 16 (128 - 16 * i) segments[i].toNat = segments[i].toNat :=
      keepHigh_full (by omega)
    simp only [network, maxLength, IpAddr.isIpv4, Bool.false_eq_true, if_false, UInt8.reduceToNat, whole]
    congr 1
    ext i
    simp

theorem maxLength_network (length : Nat) (addr : IpAddr) : maxLength (network length addr) = maxLength addr := by
  cases addr <;> rfl

theorem subnet_ne_host {addr addr' : IpAddr} {length length' : UInt8} {subnet : IpPrefix}
    (isSubnet : (routesFor addr length).2 = some subnet) : subnet ≠ (routesFor addr' length').1 := by
  unfold routesFor at isSubnet ⊢
  dsimp only at isSubnet ⊢
  split_ifs at isSubnet with ne
  cases isSubnet
  intro hs
  obtain ⟨isAddr, isLength⟩ := Prod.mk.inj hs
  have full : length = maxLength addr := by rw [isLength, ← isAddr, maxLength_network]
  exact ne (by rw [full, network_maxLength])

/-- The routes of an address: the host to the processor, the network to the router
interface. -/
structure Routed (routes : RouteTable) (rif : Oid) (dest : IpPrefix) : Prop where
  host : routes[(routesFor dest.1 dest.2).1]? = some .cpu
  subnet : ∀ subnet, (routesFor dest.1 dest.2).2 = some subnet → routes[subnet]? = some (.rif rif)

theorem mem_destsOf : other ∈ destsOf dest.1 dest.2 ↔
      other = (routesFor dest.1 dest.2).1 ∨ (routesFor dest.1 dest.2).2 = some other := by
  simp [destsOf]

theorem routed_installed : Routed (installed rif dest routes) rif dest := by
  have apart := @subnet_ne_host dest.1 dest.1 dest.2 dest.2
  unfold installed
  constructor
  · cases hs : (routesFor dest.1 dest.2).2 with
    | none => simp [hs, getElem?_renewed]
    | some subnet => simp [hs, getElem?_renewed, Ne.symm (apart hs)]
  · intro subnet hs
    simp [hs, getElem?_renewed]

theorem getElem?_installed_of_not_mem (elsewhere : other ∉ destsOf dest.1 dest.2) :
    (installed rif dest routes)[other]? = routes[other]? := by
  rw [mem_destsOf, not_or] at elsewhere
  unfold installed
  cases isSubnet : (routesFor dest.1 dest.2).2 with
  | none => simp [isSubnet, getElem?_renewed, elsewhere.1]
  | some subnet =>
    rw [isSubnet] at elsewhere
    have ne : other ≠ subnet := fun hs => elsewhere.2 (hs ▸ rfl)
    simp [isSubnet, getElem?_renewed, elsewhere.1, ne]

end

def World.withRoutes (w : World MockSai) (routes : RouteTable) : World MockSai :=
  { w with device := { w.device with routes } }

section

variable {w start : World MockSai} {dest : IpPrefix} {target : RouteTarget}

theorem attempt_apply {ε σ : Type} {program : EStateM ε σ PUnit} {state : σ} :
    attempt program state = .ok ⟨⟩ (final program state) := by
  unfold attempt final
  cases program state <;> rfl

theorem tryRemoveRoute_mock : trySai (mockBackend.removeRoute dest) w =
      .ok () (w.withRoutes (w.device.routes.erase dest)) := by
  have effect := @MockSai.final_removeRoute w.device dest
  unfold trySai
  rw [attempt_apply]
  unfold final at effect ⊢
  unfold sai devicePart Part.lift mockBackend
  dsimp only
  cases ho : MockSai.removeRoute dest w.device with
  | ok value device | error failure device =>
    rw [ho] at effect
    cases effect
    rfl

theorem dropRoutes_mock (dests : List IpPrefix) : dropRoutes mockBackend dests w =
      .ok () (w.withRoutes (dropped dests w.device.routes)) := by
  induction dests generalizing w with
  | nil => rfl
  | cons first rest ih =>
    exact (bind_of_ok tryRemoveRoute_mock).trans ih

theorem sai_ok {Value : Type} {call : Sai MockSai Value} {value : Value} {after : World MockSai}
    (ran : sai call w = .ok value after) :
    ∃ device, call w.device = .ok value device ∧ after = { w with device } := by
  unfold sai devicePart Part.lift at ran
  cases ho : call w.device with
  | ok value' device =>
    rw [ho] at ran
    cases ran
    exact ⟨device, rfl, rfl⟩
  | error failure device =>
    rw [ho] at ran
    cases ran

theorem renewRoute_mock : Contract (fun w => w = start) (renewRoute mockBackend dest target)
      (fun _ after => after = start.withRoutes (renewed dest target start.device.routes))
      fun _ => True := by
  rintro w rfl
  rw [renewRoute, bind_of_ok tryRemoveRoute_mock]
  cases ho : sai (mockBackend.createRoute dest target) (w.withRoutes (w.device.routes.erase dest)) with
  | error => trivial
  | ok value after =>
    obtain ⟨device, ran, rfl⟩ := sai_ok ho
    obtain ⟨-, rfl⟩ := createRoute_ok ran
    rfl

theorem installRoutes_mock (rif : Oid) : Contract (fun w => w = start)
      (do
        let (host, subnet) := routesFor dest.1 dest.2
        renewRoute mockBackend host .cpu
        match subnet with
        | some subnet => renewRoute mockBackend subnet (.rif rif)
        | none => pure ()
        return rif)
      (fun made after =>
        made = rif ∧ after = start.withRoutes (installed rif dest start.device.routes))
      fun _ => True := by
  unfold installed
  rcases routesFor dest.1 dest.2 with ⟨host, subnet⟩
  refine renewRoute_mock.bind fun _ => ?_
  cases subnet with
  | none => exact contract_pure fun _ isAfter => ⟨rfl, isAfter⟩
  | some subnet => exact renewRoute_mock.bind fun _ => contract_pure fun _ isAfter => ⟨rfl, isAfter⟩

/-- The router interface that an address request ends up with, and the switch by then. -/
def Fronted (existing : Option L3State) (create : Sai MockSai Oid) (device : MockSai) (rif : Oid)
    (device' : MockSai) : Prop :=
  match existing with
  | some old => rif = old.rif ∧ device' = device
  | none => create device = .ok rif device'

theorem readdress_mock (existing : Option L3State) {create : Sai MockSai Oid}
    (aloof : ∀ device rif device', create device = .ok rif device' → device'.routes = device.routes) :
    Contract (fun w => w = start) (readdress mockBackend existing create dest)
      (fun rif after => ∃ device, Fronted existing create start.device rif device ∧
        after = ({ start with device } : World MockSai).withRoutes
          (installed rif dest (dropped (oldDests existing) start.device.routes))) fun _ => True := by
  cases existing with
  | none =>
    have creates : Contract (fun w => w = start) (sai create : Rpc MockSai Oid)
        (fun rif after => ∃ device, create start.device = .ok rif device ∧
          after = { start with device }) fun _ => True := by
      rintro w rfl
      cases ho : (sai create : Rpc MockSai Oid) w with
      | ok value after =>
        obtain ⟨device, ran, rfl⟩ := sai_ok ho
        exact ⟨device, ran, rfl⟩
      | error => trivial
    refine creates.bind fun rif w created => ?_
    obtain ⟨device, created, rfl⟩ := created
    refine Contract.weaken (installRoutes_mock rif) ?_ _ rfl
    rintro made after ⟨rfl, rfl⟩
    refine ⟨device, created, ?_⟩
    rw [aloof _ _ _ created]
    rfl
  | some old =>
    have drops : Contract (fun w => w = start) (dropRoutes mockBackend (routeDests old.address))
        (fun _ after => after = start.withRoutes (dropped (routeDests old.address) start.device.routes))
        fun _ => True := by
      rintro w rfl
      rw [dropRoutes_mock]
    refine drops.bind fun _ => Contract.weaken (installRoutes_mock old.rif) ?_
    rintro made after ⟨rfl, rfl⟩
    exact ⟨start.device, ⟨rfl, rfl⟩, rfl⟩

variable {device device' : MockSai} {rif : Oid}
variable {iface : Interface}

theorem creates_routes
    (created : w.creates mockBackend iface device = .ok rif device') : device'.routes = device.routes := by
  cases iface with
  | port name =>
    change (w.ports[name]?.elim (throw "") fun port => createRouterInterface port.saiId) device =
      .ok rif device' at created
    cases hf : w.ports[name]? with
    | none =>
      rw [hf] at created
      cases created
    | some port =>
      rw [hf] at created
      obtain ⟨-, rfl⟩ := checked_ok (show createRouterInterface port.saiId device = _ from created)
      rfl
  | vlan id =>
    obtain ⟨-, rfl⟩ := checked_ok
      (show createVlanRif (w.vlans[id]?.bind VlanState.oid) device = _ from created)
    rfl

theorem setInterfaceAddress_mock (req : SetInterfaceAddressRequest) :
    Contract (fun w => w = start) (setInterfaceAddress mockBackend req)
      (fun _ after => start.admits (interfaceOf req.name) = true ∧
        ∃ dest, parseCidr req.address = .ok dest ∧
        (start.hasAddress (interfaceOf req.name) req.address = true ∧ after = start ∨
          start.hasAddress (interfaceOf req.name) req.address = false ∧
            ∃ rif device, Fronted (start.l3At (interfaceOf req.name))
                (start.creates mockBackend (interfaceOf req.name)) start.device rif device ∧
              after = (({ start with device } : World MockSai).withRoutes (installed rif dest
                (dropped (oldDests (start.l3At (interfaceOf req.name))) start.device.routes))).record
                  (interfaceOf req.name) ⟨rif, req.address⟩)) fun _ => True := by
  refine contract_setInterfaceAddress (fun _ _ => trivial) ?_ ?_
  · rintro w dest rfl ha hp has
    exact ⟨ha, dest, hp, .inl ⟨has, rfl⟩⟩
  · rintro w dest rfl ha hp has
    refine (readdress_mock _ fun _ _ _ => creates_routes).bind fun rif => contract_modify ?_
    rintro after ⟨device, fronted, rfl⟩
    exact ⟨ha, dest, hp, .inr ⟨has, rif, device, fronted, rfl⟩⟩

theorem removes_routes
    (removed : w.removes mockBackend rif iface device = .ok () device') : device'.routes = device.routes := by
  cases iface with
  | port name =>
    change (w.ports[name]?.elim (throw "") fun port => removeRouterInterface port.saiId rif) device =
      .ok () device' at removed
    cases hf : w.ports[name]? with
    | none =>
      rw [hf] at removed
      cases removed
    | some port =>
      rw [hf] at removed
      obtain ⟨-, rfl⟩ :=
        checked_ok (show removeRouterInterface port.saiId rif device = _ from removed)
      rfl
  | vlan id =>
    obtain ⟨-, rfl⟩ := checked_ok (show removeVlanRif rif device = _ from removed)
    rfl

theorem teardownL3_mock {l3 : L3State} {remove : Sai MockSai Unit} (untraversed : start.fib = {})
    (aloof : ∀ device device', remove device = .ok () device' → device'.routes = device.routes) :
    Contract (fun w => w = start) (teardownL3 mockBackend l3 remove)
      (fun _ after => after.ports = start.ports ∧ after.vlans = start.vlans ∧ after.fib = start.fib ∧
        after.device.routes = dropped (routeDests l3.address) start.device.routes) fun _ => True := by
  rintro w rfl
  have nothing : fibTeardownRif mockBackend l3.rif w = .ok () w := by
    rw [fibTeardownRif, get_bind_apply, untraversed]
    rfl
  rw [teardownL3, bind_of_ok nothing, bind_of_ok (dropRoutes_mock _)]
  cases ho : sai remove (w.withRoutes (dropped (routeDests l3.address) w.device.routes)) with
  | error => trivial
  | ok value after =>
    obtain ⟨device, ran, rfl⟩ := sai_ok ho
    exact ⟨rfl, rfl, rfl, aloof _ _ ran⟩

theorem clearInterfaceAddress_mock (name : String) (untraversed : start.fib = {}) :
    Contract (fun w => w = start) (clearInterfaceAddress mockBackend name)
      (fun _ after => Readdressed start after (interfaceOf name) none ∧
        after.device.routes = dropped (oldDests (start.l3At (interfaceOf name))) start.device.routes)
      fun _ => True := by
  refine contract_clearInterfaceAddress (fun _ _ => trivial) ?_ ?_
  · rintro w rfl idle
    exact ⟨⟨idle, fun _ _ => rfl, rfl⟩, by rw [idle]; rfl⟩
  · rintro w l3 rfl hf
    refine (teardownL3_mock untraversed fun _ _ => removes_routes).bind fun _ => contract_modify ?_
    rintro after ⟨ports, vlans, fib, routes⟩
    have readdressed := @readdressed_unrecord _ after (interfaceOf name)
    refine ⟨⟨readdressed.here, fun other ne => ?_, readdressed.fib.trans fib⟩, ?_⟩
    · rw [readdressed.elsewhere other ne]
      unfold World.l3At
      rw [ports, vlans]
    · rw [hf]
      cases interfaceOf name <;> exact routes

end

end Hemlock.Routing
