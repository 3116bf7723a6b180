import Hemlock.Routing.Addresses

/-!
# Who a connected route belongs to

Routes are kept by destination, addresses by interface.  Two interfaces may have a
destination in common, and the route goes with the first of them that gives it up.
-/

namespace Hemlock.Routing

open Contracts OrderedMap
open Machine (throughout_concat always_concat)

inductive AddressCall where
  | set (req : SetInterfaceAddressRequest)
  | clear (name : String)

namespace AddressCall

def program : AddressCall → Rpc MockSai Unit
  | .set req => setInterfaceAddress mockBackend req
  | .clear name => clearInterfaceAddress mockBackend name

def interface : AddressCall → Interface
  | .set req => interfaceOf req.name
  | .clear name => interfaceOf name

def wanted : AddressCall → List IpPrefix
  | .set req => routeDests req.address
  | .clear _ => []

end AddressCall

/-- The service when nothing but addresses is asked for. -/
def addressMachine (start : World MockSai) : Machine (World MockSai) AddressCall Empty where
  init := start
  next w call := final call.program w
  emit _ _ := []

/-- Every recorded address has its host route, and its network a connected route. -/
def Connected (w : World MockSai) : Prop :=
  ∀ (iface : Interface) (l3 : L3State) (dest : IpPrefix), w.l3At iface = some l3 →
    parseCidr l3.address = .ok dest → w.device.routes[(routesFor dest.1 dest.2).1]? = some .cpu ∧
        ∀ subnet, (routesFor dest.1 dest.2).2 = some subnet →
          ∃ rif, w.device.routes[subnet]? = some (.rif rif)

/-- What the interface gives up is not what another one has. -/
def Unshared (w : World MockSai) (call : AddressCall) : Prop :=
  ∀ dest ∈ oldDests (w.l3At call.interface), dest ∉ call.wanted →
    ∀ (other : Interface) (l3 : L3State), other ≠ call.interface → w.l3At other = some l3 →
      dest ∉ routeDests l3.address

/-- What a call that succeeded made of the addresses and of the routes. -/
structure Settles (w after : World MockSai) (call : AddressCall) : Prop where
  elsewhere : ∀ other, other ≠ call.interface → after.l3At other = w.l3At other
  fib : after.fib = w.fib
  /-- The address of the interface is routed. -/
  routed : ∀ l3 dest, after.l3At call.interface = some l3 → parseCidr l3.address = .ok dest →
    ∃ rif, Routed after.device.routes rif dest
  /-- Wanted destinations lead where those of an address do. -/
  wanted : ∀ dest ∈ call.wanted, ∃ (rif : Switching.Oid) (address : IpPrefix),
    Routed after.device.routes rif address ∧ dest ∈ destsOf address.1 address.2
  gone : ∀ dest ∈ oldDests (w.l3At call.interface), dest ∉ call.wanted →
    after.device.routes[dest]? = none
  kept : ∀ dest, dest ∉ oldDests (w.l3At call.interface) → dest ∉ call.wanted →
    after.device.routes[dest]? = w.device.routes[dest]?

section

variable {w after : World MockSai} {call : AddressCall} {value : Unit}

variable {iface : Interface} {l3 : L3State} {dest : IpPrefix}

theorem Connected.routed (connected : Connected w) (hf : w.l3At iface = some l3)
    (hp : parseCidr l3.address = .ok dest) : ∃ rif, Routed w.device.routes rif dest := by
  obtain ⟨host, network⟩ := connected iface l3 dest hf hp
  cases isSubnet : (routesFor dest.1 dest.2).2 with
  | none => exact ⟨0, host, fun subnet hs => by rw [isSubnet] at hs; cases hs⟩
  | some subnet =>
    obtain ⟨rif, leads⟩ := network subnet isSubnet
    refine ⟨rif, host, fun subnet' hs => ?_⟩
    rw [isSubnet] at hs
    cases hs
    exact leads

variable {routes : RouteTable}

theorem recorded_of_eq {device : MockSai} (ha : w.admits iface = true)
    (isAfter : after = (({ w with device } : World MockSai).withRoutes routes).record iface l3) :
    Readdressed w after iface (some l3) ∧ after.device.routes = routes := by
  have readdressed := @readdressed_record _ (({ w with device } : World MockSai).withRoutes routes)
    iface l3 (by cases iface <;> exact ha)
  subst isAfter
  refine ⟨⟨readdressed.here, fun other ne => ?_, readdressed.fib⟩, ?_⟩
  · rw [readdressed.elsewhere other ne]
    cases other <;> rfl
  · cases iface <;> rfl

theorem settles_of_set {req : SetInterfaceAddressRequest} (connected : Connected w)
    (ran : setInterfaceAddress mockBackend req w = .ok value after) : Settles w after (.set req) := by
  obtain ⟨ha, dest, hp, ⟨has, rfl⟩ | ⟨-, rif, device, -, isAfter⟩⟩ :=
    (setInterfaceAddress_mock req).ok rfl ran
  · obtain ⟨l3, hf, isAddress⟩ := Option.any_eq_true _ _ |>.mp has
    have isAddress : l3.address = req.address := by simpa using isAddress
    have hs : oldDests (after.l3At (interfaceOf req.name)) = routeDests req.address := by
      rw [hf, ← isAddress]
      rfl
    refine ⟨fun _ _ => rfl, rfl, fun l3 dest => connected.routed, fun dest hl => ?_, ?_, fun _ _ _ => rfl⟩
    · obtain ⟨rif, hr⟩ := connected.routed hf (isAddress ▸ hp)
      refine ⟨rif, _, hr, ?_⟩
      rw [← routeDests_of_parsed hp]
      exact hl
    · intro dest (old : dest ∈ oldDests (after.l3At (interfaceOf req.name))) notWanted
      rw [hs] at old
      exact absurd old notWanted
  · have wanted : routeDests req.address = destsOf dest.1 dest.2 := routeDests_of_parsed hp
    obtain ⟨readdressed, isDevice⟩ := recorded_of_eq ha isAfter
    have hr : Routed after.device.routes rif dest := by
      rw [isDevice]
      exact routed_installed
    refine ⟨readdressed.elsewhere, readdressed.fib, ?_, ?_, ?_, ?_⟩
    · intro l3 dest' (hf : after.l3At (interfaceOf req.name) = some l3) hp'
      rw [readdressed.here] at hf
      cases hf
      rw [hp] at hp'
      cases hp'
      exact ⟨rif, hr⟩
    · intro other hl
      exact ⟨rif, dest, hr, wanted ▸ hl⟩
    all_goals
      intro other hl notWanted
      rw [isDevice, getElem?_installed_of_not_mem (wanted ▸ notWanted), getElem?_dropped]
    · exact if_pos hl
    · exact if_neg hl

theorem settles_of_clear {name : String} (untraversed : w.fib = {})
    (ran : clearInterfaceAddress mockBackend name w = .ok value after) : Settles w after (.clear name) := by
  obtain ⟨readdressed, routes⟩ := (clearInterfaceAddress_mock name untraversed).ok rfl ran
  refine ⟨readdressed.elsewhere, readdressed.fib, ?_, ?_, ?_, ?_⟩
  · intro l3 dest (hf : after.l3At (interfaceOf name) = some l3)
    rw [readdressed.here] at hf
    cases hf
  · intro dest hl
    cases hl
  all_goals
    intro dest hl _
    rw [routes, getElem?_dropped]
  · exact if_pos hl
  · exact if_neg hl

theorem settles_of_ok (untraversed : w.fib = {}) (connected : Connected w)
    (ran : call.program w = .ok value after) : Settles w after call := by
  cases call with
  | set req => exact settles_of_set connected ran
  | clear name => exact settles_of_clear untraversed ran

theorem fib_of_ok (untraversed : w.fib = {}) (ran : call.program w = .ok value after) : after.fib = {} := by
  cases call with
  | set req =>
    obtain ⟨ha, dest, -, ⟨-, rfl⟩ | ⟨-, rif, device, -, isAfter⟩⟩ :=
      (setInterfaceAddress_mock req).ok rfl ran
    · exact untraversed
    · exact (recorded_of_eq ha isAfter).1.fib.trans untraversed
  | clear name =>
    obtain ⟨readdressed, -⟩ := (clearInterfaceAddress_mock name untraversed).ok rfl ran
    exact readdressed.fib.trans untraversed

variable {rif : Switching.Oid}

theorem Routed.host_of_mem {address : IpPrefix} (hr : Routed routes rif address)
    (hl : (routesFor dest.1 dest.2).1 ∈ destsOf address.1 address.2) :
    routes[(routesFor dest.1 dest.2).1]? = some .cpu := by
  rcases mem_destsOf.mp hl with hs | isSubnet
  · rw [hs]
    exact hr.host
  · exact absurd rfl (subnet_ne_host isSubnet)

theorem Routed.subnet_of_mem {address subnet : IpPrefix}
    (hr : Routed routes rif address) (isSubnet : (routesFor dest.1 dest.2).2 = some subnet)
    (hl : subnet ∈ destsOf address.1 address.2) : routes[subnet]? = some (.rif rif) := by
  rcases mem_destsOf.mp hl with hs | hs'
  · exact absurd hs (subnet_ne_host isSubnet)
  · exact hr.subnet subnet hs'

theorem Settles.connected (settles : Settles w after call) (connected : Connected w)
    (unshared : Unshared w call) : Connected after := by
  intro iface l3 dest hf hp
  by_cases here : iface = call.interface
  · subst here
    obtain ⟨rif, hr⟩ := settles.routed l3 dest hf hp
    exact ⟨hr.host, fun subnet hs => ⟨rif, hr.subnet subnet hs⟩⟩
  · rw [settles.elsewhere iface here] at hf
    obtain ⟨host, network⟩ := connected iface l3 dest hf hp
    -- What the other interface has is wanted too, or untouched.
    have kept (other : IpPrefix) (hl : other ∈ destsOf dest.1 dest.2) (notWanted : other ∉ call.wanted) :
        after.device.routes[other]? = w.device.routes[other]? := by
      refine settles.kept other (fun old => ?_) notWanted
      exact unshared other old notWanted iface l3 here hf (routeDests_of_parsed hp ▸ hl)
    constructor
    · by_cases isWanted : (routesFor dest.1 dest.2).1 ∈ call.wanted
      · obtain ⟨rif, address, hr, hl⟩ := settles.wanted _ isWanted
        exact hr.host_of_mem hl
      · rw [kept _ (mem_destsOf.mpr (.inl rfl)) isWanted]
        exact host
    · intro subnet hs
      by_cases isWanted : subnet ∈ call.wanted
      · obtain ⟨rif, address, hr, hl⟩ := settles.wanted _ isWanted
        exact ⟨rif, hr.subnet_of_mem hs hl⟩
      · rw [kept _ (mem_destsOf.mpr (.inr hs)) isWanted]
        exact network subnet hs

theorem Settles.unshared (settles : Settles w after call) (connected : Connected after) :
    Unshared w call := by
  intro dest old notWanted other l3 ne hf hl
  have gone := settles.gone dest old notWanted
  rw [← settles.elsewhere other ne] at hf
  unfold routeDests at hl
  cases hp : parseCidr l3.address with
  | error failure => simp [hp] at hl
  | ok address =>
    rw [hp] at hl
    obtain ⟨host, network⟩ := connected other l3 address hf hp
    rcases mem_destsOf.mp hl with isHost | hs
    · rw [← isHost, gone] at host
      cases host
    · obtain ⟨rif, leads⟩ := network dest hs
      rw [gone] at leads
      cases leads

end

/-- As long as all calls succeed, every address keeps its routes exactly if no interface gives
up a destination that another one has. -/
theorem connected_iff_unshared (start : World MockSai) (untraversed : start.fib = {})
    (connected : Connected start) (calls : List AddressCall)
    (accepted : (addressMachine start).Throughout (fun w call => succeeds call.program w) calls) :
    (addressMachine start).Always Connected calls ↔ (addressMachine start).Throughout Unshared calls := by
  suffices both : ((addressMachine start).run calls).fib = {} ∧
      ((addressMachine start).Always Connected calls ↔ (addressMachine start).Throughout Unshared calls) from
    both.2
  induction calls using List.reverseRecOn with
  | nil =>
    refine ⟨untraversed, iff_of_true ?_ (Machine.throughout_nil _ _)⟩
    exact ((addressMachine start).always_nil).mpr connected
  | append_singleton calls call ih =>
    obtain ⟨earlier, success⟩ := throughout_concat.mp accepted
    obtain ⟨empty, equivalent⟩ := ih earlier
    obtain ⟨value, after, ran⟩ := succeeds_iff.mp success
    have isNext : (addressMachine start).run (calls ++ [call]) = after := by
      rw [Machine.run_concat]
      exact final_of_ok ran
    refine ⟨isNext ▸ fib_of_ok empty ran, ?_⟩
    rw [always_concat, throughout_concat, ← equivalent, isNext]
    refine and_congr_right fun always => ?_
    have connected := always calls [] (List.append_nil _).symm
    have settles := settles_of_ok empty connected ran
    exact ⟨settles.unshared, settles.connected connected⟩

def bareSwitch : World MockSai where
  ports := ((∅ : NameMap PortState).insert "Ethernet1" { saiId := 1 }).insert "Ethernet2" { saiId := 2 }
  device := { ports := ((∅ : Switching.OidSet).insert 1).insert 2 }

theorem connected_bareSwitch : Connected bareSwitch := by
  rintro (name | id) l3 dest hf
  · have unset : ∀ entry ∈ bareSwitch.ports.toList, entry.2.l3 = none := by decide +kernel
    obtain ⟨port, hk, isL3⟩ := Option.bind_eq_some_iff.mp hf
    rw [unset (name, port) (mem_toList_iff_getElem?_eq_some.mpr hk)] at isL3
    cases isL3
  · simp [World.l3At, bareSwitch] at hf

/-- The new owner comes after the old one has given up the address. -/
def clearedFirst : List AddressCall :=
  [.set ⟨"Ethernet2", "10.0.0.1/24"⟩, .clear "Ethernet2", .set ⟨"Ethernet1", "10.0.0.1/24"⟩]

/-- The new owner comes first. -/
def movedFirst : List AddressCall :=
  [.set ⟨"Ethernet2", "10.0.0.1/24"⟩, .set ⟨"Ethernet1", "10.0.0.1/24"⟩, .clear "Ethernet2"]

theorem accepted_three {first second third : AddressCall} (one : succeeds first.program bareSwitch = true)
    (two : succeeds second.program ((addressMachine bareSwitch).run [first]) = true)
    (three : succeeds third.program ((addressMachine bareSwitch).run [first, second]) = true) :
    (addressMachine bareSwitch).Throughout (fun w call => succeeds call.program w)
      [first, second, third] := by
  refine (@throughout_concat _ _ _ _ _ [first, second] third).mpr ⟨?_, three⟩
  refine (@throughout_concat _ _ _ _ _ [first] second).mpr ⟨?_, two⟩
  exact (@throughout_concat _ _ _ _ _ [] first).mpr ⟨Machine.throughout_nil _ _, one⟩

theorem connected_iff_unshared_clearedFirst : (addressMachine bareSwitch).Always Connected clearedFirst ↔
      (addressMachine bareSwitch).Throughout Unshared clearedFirst :=
  connected_iff_unshared bareSwitch rfl connected_bareSwitch clearedFirst
    (accepted_three (by decide +kernel) (by decide +kernel) (by decide +kernel))

/-- When the old owner gives up the address, the new owner's routes go. -/
theorem moved_address_loses_routes :
    (addressMachine bareSwitch).Throughout (fun w call => succeeds call.program w) movedFirst ∧
      ¬ (addressMachine bareSwitch).Always Connected movedFirst := by
  refine ⟨accepted_three (by decide +kernel) (by decide +kernel) (by decide +kernel), fun always => ?_⟩
  have connected := always movedFirst [] (List.append_nil _).symm
  have recorded : (((addressMachine bareSwitch).run movedFirst).l3At (.port "Ethernet1")).map
      L3State.address = some "10.0.0.1/24" := by decide +kernel
  have isGone : ((addressMachine bareSwitch).run movedFirst).device.routes[
      ((.v4 #v[10, 0, 0, 1], 32) : IpPrefix)]? = none := by decide +kernel
  obtain ⟨l3, found, isAddress⟩ := Option.map_eq_some_iff.mp recorded
  have parsed : parseCidr l3.address = .ok (.v4 #v[10, 0, 0, 1], 24) := by
    rw [isAddress]
    decide +kernel
  have host := (connected (.port "Ethernet1") l3 _ found parsed).1
  change ((addressMachine bareSwitch).run movedFirst).device.routes[
    ((.v4 #v[10, 0, 0, 1], 32) : IpPrefix)]? = some .cpu at host
  rw [isGone] at host
  cases host

end Hemlock.Routing
