import Hemlock.Routing.Addresses

/-!
# An address request that is cut short

One call of the switch is refused while an interface takes a new address.  The request is
then made again, for the new address or for the old one, on a switch that refuses nothing.
-/

namespace Hemlock.Routing

open Net Contracts OrderedMap MockSai World
open Switching (Oid)

structure Faulty where
  mock : MockSai
  /-- So many calls are answered before one is refused; none is refused any more if there is
  no number. -/
  answered : Option Nat

def spend : Option Nat → Option Nat
  | some (n + 1) => some n
  | some 0 | none => none

def refusing {Value : Type} (call : Sai MockSai Value) : Sai Faulty Value := fun device =>
  if device.answered = some 0 then .error "refused" { device with answered := none }
  else
    match call device.mock with
    | .ok value mock => .ok value ⟨mock, spend device.answered⟩
    | .error text mock => .error text ⟨mock, spend device.answered⟩

def faultyBackend : Backend Faulty where
  createRouterInterface port := refusing (mockBackend.createRouterInterface port)
  removeRouterInterface port rif := refusing (mockBackend.removeRouterInterface port rif)
  createVlanRif vlan := refusing (mockBackend.createVlanRif vlan)
  removeVlanRif rif := refusing (mockBackend.removeVlanRif rif)
  createRoute dest target := refusing (mockBackend.createRoute dest target)
  removeRoute dest := refusing (mockBackend.removeRoute dest)
  createNeighbor rif ip mac := refusing (mockBackend.createNeighbor rif ip mac)
  removeNeighbor rif ip := refusing (mockBackend.removeNeighbor rif ip)
  createNextHop rif ip := refusing (mockBackend.createNextHop rif ip)
  removeNextHop nextHop := refusing (mockBackend.removeNextHop nextHop)
  createNextHopGroup := refusing mockBackend.createNextHopGroup
  removeNextHopGroup group := refusing (mockBackend.removeNextHopGroup group)
  addNextHopGroupMember group nextHop := refusing (mockBackend.addNextHopGroupMember group nextHop)
  removeNextHopGroupMember member := refusing (mockBackend.removeNextHopGroupMember member)

def World.faulty (w : World MockSai) (answered : Option Nat) : World Faulty where
  ports := w.ports
  vlans := w.vlans
  fib := w.fib
  device := ⟨w.device, answered⟩

def World.mended (w : World Faulty) : World MockSai where
  ports := w.ports
  vlans := w.vlans
  fib := w.fib
  device := w.device.mock

/-- A router interface of the switch that stands for an interface. -/
def World.fronts (w : World MockSai) (rif : Oid) : Interface → Prop
  | .port name => ∃ port, w.ports[name]? = some port ∧ w.device.rifs[port.saiId]? = some rif
  | .vlan id => w.device.vlanRifs[rif]? = some (w.vlans[id]?.bind VlanState.oid)

/-- The switch has one router interface for the interface, the routes of the address, and
none of the other address. -/
def Hosts (w : World MockSai) (iface : Interface) (address : String) (other : Option String) : Prop :=
  ∃ rif dest, parseCidr address = .ok dest ∧ (∀ found, w.fronts found iface ↔ found = rif) ∧
    Routed w.device.routes rif dest ∧
    ∀ gone ∈ other.elim [] routeDests, gone ∉ routeDests address → w.device.routes[gone]? = none

/-- The recorded address of an interface is in the switch. -/
def Standing (w : World MockSai) (iface : Interface) : Prop :=
  ∀ l3, w.l3At iface = some l3 →
    ∃ dest, parseCidr l3.address = .ok dest ∧ (∀ rif, w.fronts rif iface ↔ rif = l3.rif) ∧
      Routed w.device.routes l3.rif dest

/-- A request of which one call is refused. -/
def brokenOff (start : World MockSai) (req : SetInterfaceAddressRequest) (answered : Nat) : World Faulty :=
  final (setInterfaceAddress faultyBackend req) (start.faulty (some answered))

/-- Whichever address is asked for next, it succeeds only with the switch as it should be. -/
def Recovers (start : World MockSai) (req : SetInterfaceAddressRequest) (answered : Nat) : Prop :=
  let left := (brokenOff start req answered).mended
  let recorded := start.l3At (interfaceOf req.name)
  (∀ after, setInterfaceAddress mockBackend req left = .ok () after →
    Hosts after (interfaceOf req.name) req.address (recorded.map L3State.address)) ∧
  ∀ l3, recorded = some l3 → ∀ after,
    setInterfaceAddress mockBackend ⟨req.name, l3.address⟩ left = .ok () after →
      Hosts after (interfaceOf req.name) l3.address (some req.address)

/-- The refused call, by its number, does no harm to an interface that has an address already.
`old` are the destinations of that address, which are removed first; then the host of the new
address is removed and made, and so is its network. -/
def Harmless (routes : RouteTable) (supported : Bool) (old : List IpPrefix) (host : IpPrefix)
    (subnet : Option IpPrefix) (answered : Nat) : Prop :=
  if supported then
    -- a destination is not removed: it is needed anyway
    (∀ dest, old[answered]? = some dest → dest = host ∨ subnet = some dest) ∧
    -- what comes next is not removed: it is not there
    (answered = old.length → host ∈ old ∨ routes[host]? = none) ∧
    answered ≠ old.length + 1 ∧
    (answered = old.length + 2 → ∀ dest, subnet = some dest → dest ∈ old ∨ routes[dest]? = none) ∧
    -- the network is not made: the old address is the host alone
    (answered = old.length + 3 → subnet ≠ none → old = [host])
  else
    -- the new address fails by itself, and the old host was not removed
    answered = 0 ∧ (∃ dest, old = [dest] ∧ dest ≠ host) ∧
      ∀ dest, subnet = some dest → routes[dest]? = none

/-! The destinations of an address. -/

abbrev hostOf (dest : IpPrefix) : IpPrefix := (routesFor dest.1 dest.2).1
abbrev subnetOf (dest : IpPrefix) : Option IpPrefix := (routesFor dest.1 dest.2).2
abbrev allOf (dest : IpPrefix) : List IpPrefix := destsOf dest.1 dest.2

/-- The routes, and when a call is refused. -/
abbrev Cut := RouteTable × Option Nat

def Cut.drop (dest : IpPrefix) (cut : Cut) : Cut :=
  (if cut.2 = some 0 then cut.1 else cut.1.erase dest, spend cut.2)

def Cut.dropAll (dests : List IpPrefix) (cut : Cut) : Cut := dests.foldl (fun cut dest => Cut.drop dest cut) cut

/-- Whether the route was made, and what is left. -/
def Cut.make (supported : Bool) (dest : IpPrefix) (target : RouteTarget) (cut : Cut) : Bool × Cut :=
  if cut.2 = some 0 then (false, cut.1, none)
  else if supported then (cut.1[dest]?.isNone, cut.1.insert dest target, spend cut.2)
  else (false, cut.1, spend cut.2)

def Cut.renew (supported : Bool) (dest : IpPrefix) (target : RouteTarget) (cut : Cut) : Bool × Cut :=
  (cut.drop dest).make supported dest target

def Cut.install (supported : Bool) (rif : Oid) (host : IpPrefix) (subnet : Option IpPrefix) (cut : Cut) :
    Bool × Cut :=
  let (made, cut) := cut.renew supported host .cpu
  if made then subnet.elim (true, cut) fun subnet => cut.renew supported subnet (.rif rif)
  else (false, cut)

section

variable {routes : RouteTable} {dests : List IpPrefix} {dest : IpPrefix} {target : RouteTarget} {n : Nat}
  {supported : Bool}

theorem dropAll_none : Cut.dropAll dests (routes, none) = (dropped dests routes, none) := by
  induction dests generalizing routes with
  | nil => rfl
  | cons first rest ih => exact ih

theorem dropAll_before :
    Cut.dropAll dests (routes, some (dests.length + n)) = (dropped dests routes, some n) := by
  induction dests generalizing routes with
  | nil => simp [dropped, Cut.dropAll]
  | cons first rest ih =>
    rw [List.length_cons, Nat.add_right_comm]
    exact ih

theorem dropAll_at (inside : n < dests.length) :
    Cut.dropAll dests (routes, some n) = (dropped (dests.eraseIdx n) routes, none) := by
  induction dests generalizing routes n with
  | nil => cases inside
  | cons first rest ih =>
    cases n with
    | zero => exact dropAll_none
    | succ n => exact ih (Nat.lt_of_succ_lt_succ inside)

theorem renewed_of_absent (ha : routes[dest]? = none) :
    routes.insert dest target = renewed dest target routes := by
  rw [renewed, erase_of_absent ha]

theorem renew_none : Cut.renew true dest target (routes, none) = (true, renewed dest target routes, none) := by
  simp [Cut.renew, Cut.drop, Cut.make, spend, renewed]

theorem renew_later :
    Cut.renew true dest target (routes, some (n + 2)) = (true, renewed dest target routes, some n) := by
  simp [Cut.renew, Cut.drop, Cut.make, spend, renewed]

theorem renew_kept : Cut.renew true dest target (routes, some 0) =
      (routes[dest]?.isNone, routes.insert dest target, none) := by
  simp [Cut.renew, Cut.drop, Cut.make, spend]

theorem renew_unmade : Cut.renew true dest target (routes, some 1) = (false, routes.erase dest, none) := by
  simp [Cut.renew, Cut.drop, Cut.make, spend]

variable {rif : Oid} {host : IpPrefix} {subnet : Option IpPrefix}

/-- All routes of an address, as `installed` has them. -/
def installedAt (rif : Oid) (host : IpPrefix) (subnet : Option IpPrefix) (routes : RouteTable) : RouteTable :=
  subnet.elim (renewed host .cpu routes) fun subnet => renewed subnet (.rif rif) (renewed host .cpu routes)

theorem install_none :
    Cut.install true rif host subnet (routes, none) = (true, installedAt rif host subnet routes, none) := by
  cases subnet <;> simp [Cut.install, installedAt, renew_none]

theorem install_host_kept : Cut.install true rif host subnet (routes, some 0) =
      if routes[host]? = none then (true, installedAt rif host subnet routes, none)
      else (false, routes.insert host .cpu, none) := by
  cases hk : routes[host]? with
  | none =>
    cases subnet <;>
      simp [Cut.install, installedAt, renew_kept, hk, renewed_of_absent hk, renew_none]
  | some target => simp [Cut.install, renew_kept, hk]

theorem install_host_unmade :
    Cut.install true rif host subnet (routes, some 1) = (false, routes.erase host, none) := by
  simp [Cut.install, renew_unmade]

theorem install_subnet_kept (hs : subnet = some dest) : Cut.install true rif host subnet (routes, some 2) =
      if (renewed host .cpu routes)[dest]? = none then (true, installedAt rif host subnet routes, none)
      else (false, (renewed host .cpu routes).insert dest (.rif rif), none) := by
  subst hs
  cases hk : (renewed host .cpu routes)[dest]? with
  | none => simp [Cut.install, installedAt, renew_later, renew_kept, hk, renewed_of_absent hk]
  | some target => simp [Cut.install, renew_later, renew_kept, hk]

theorem install_subnet_unmade (hs : subnet = some dest) :
    Cut.install true rif host subnet (routes, some 3) =
      (false, (renewed host .cpu routes).erase dest, none) := by
  simp [hs, Cut.install, renew_later, renew_unmade]

theorem install_unrefused (late : n ≥ if subnet.isSome then 4 else 2) :
    (Cut.install true rif host subnet (routes, some n)).2.2 ≠ none := by
  cases subnet with
  | none =>
    obtain ⟨more, rfl⟩ := Nat.exists_eq_add_of_le' (show 2 ≤ n by simpa using late)
    simp [Cut.install, renew_later]
  | some dest =>
    obtain ⟨more, rfl⟩ := Nat.exists_eq_add_of_le' (show 4 ≤ n by simpa using late)
    simp [Cut.install, renew_later]

theorem renew_made {cut : Cut} (made : (cut.renew supported dest target).1 = true) :
    (cut.renew supported dest target).2.1 = renewed dest target cut.1 := by
  obtain ⟨routes, answered⟩ := cut
  rcases answered with _ | _ | _ | n <;> cases supported <;>
    simp_all [Cut.renew, Cut.drop, Cut.make, spend, renewed, erase_of_absent]

theorem install_made {cut : Cut} (made : (cut.install supported rif host subnet).1 = true) :
    (cut.install supported rif host subnet).2.1 = installedAt rif host subnet cut.1 := by
  unfold Cut.install at made ⊢
  have hosts := @renew_made host .cpu supported cut
  rcases renews : cut.renew supported host .cpu with ⟨hostMade, after⟩
  rw [renews] at made hosts
  cases hostMade with
  | false => cases made
  | true =>
    cases subnet with
    | none => exact hosts rfl
    | some dest =>
      refine (renew_made made).trans ?_
      rw [show after.1 = _ from hosts rfl]
      rfl

theorem install_unsupported (answered : Option Nat) :
    Cut.install false rif host subnet (routes, answered) =
      (false, if answered = some 0 then routes else routes.erase host, spend (spend answered)) := by
  rcases answered with _ | _ | _ | n <;> simp [Cut.install, Cut.renew, Cut.drop, Cut.make, spend]

end

/-- A program succeeds or fails, and leaves this. -/
structure Finishes {Value : Type} (program : Rpc Faulty Value) (before : World Faulty) (made : Bool) (value : Value)
    (after : World Faulty) : Prop where
  ok : made = true → program before = .ok value after
  error : made = false → ∃ failure, program before = .error failure after

section

variable {Value Result : Type} {program : Rpc Faulty Value} {next : Value → Rpc Faulty Result}
  {before middle after : World Faulty} {made : Bool} {value : Value} {result : Result}

theorem finishes_ok (ran : program before = .ok value after) : Finishes program before true value after :=
  ⟨fun _ => ran, fun never => (Bool.false_ne_true never.symm).elim⟩

theorem finishes_error {failure} (failed : program before = .error failure after) :
    Finishes program before false value after :=
  ⟨fun isMade => (Bool.false_ne_true isMade).elim, fun _ => ⟨failure, failed⟩⟩

theorem Finishes.bind (first : Finishes program before true value middle)
    (second : Finishes (next value) middle made result after) :
    Finishes (program >>= next) before made result after := by
  refine ⟨fun isMade => ?_, fun notMade => ?_⟩
  · rw [bind_of_ok (first.ok rfl)]
    exact second.ok isMade
  · rw [bind_of_ok (first.ok rfl)]
    exact second.error notMade

theorem Finishes.bind_failed (first : Finishes program before false value middle) :
    Finishes (program >>= next) before false result middle := by
  obtain ⟨failure, failed⟩ := first.error rfl
  exact finishes_error (bind_of_error failed)

theorem Finishes.returning {program : Rpc Faulty Unit} (first : Finishes program before made () after) :
    Finishes (program >>= fun _ => pure result) before made result after := by
  cases made with
  | true => exact first.bind (finishes_ok rfl)
  | false => exact first.bind_failed

end

def World.cut (w : World MockSai) (cut : Cut) : World Faulty := (w.withRoutes cut.1).faulty cut.2

def MockSai.takes (mock : MockSai) (dest : IpPrefix) (target : RouteTarget) : Bool :=
  ((mock.lacksIpv6 dest.1 :: mock.lacksTarget target).find? Prod.fst).isNone

section

variable {w : World MockSai} {dest : IpPrefix} {target : RouteTarget} {cut : Cut}

section

variable {Value : Type} {call : Sai MockSai Value} {value : Value} {mock : MockSai}

theorem refusing_answered (answered : cut.2 ≠ some 0) : refusing call (w.cut cut).device =
    match call (w.withRoutes cut.1).device with
      | .ok value mock => .ok value ⟨mock, spend cut.2⟩
      | .error text mock => .error text ⟨mock, spend cut.2⟩ := if_neg answered

theorem sai_refusing_ok (answered : cut.2 ≠ some 0)
    (ran : call (w.withRoutes cut.1).device = .ok value mock) : sai (refusing call) (w.cut cut) =
      .ok value (({ w with device := mock } : World MockSai).faulty (spend cut.2)) := by
  have called : refusing call (w.cut cut).device = .ok value ⟨mock, spend cut.2⟩ := by
    rw [refusing_answered answered, ran]
  exact Part.lift_of_ok called

theorem sai_refusing_error {text : String} (answered : cut.2 ≠ some 0)
    (failed : call (w.withRoutes cut.1).device = .error text mock) : sai (refusing call) (w.cut cut) =
      .error (Acl.saiErr text) (({ w with device := mock } : World MockSai).faulty (spend cut.2)) := by
  have called : refusing call (w.cut cut).device = .error text ⟨mock, spend cut.2⟩ := by
    rw [refusing_answered answered, failed]
  exact Part.lift_of_error called

theorem sai_refused (refused : cut.2 = some 0) :
    sai (refusing call) (w.cut cut) = .error (Acl.saiErr "refused") (w.cut (cut.1, none)) := by
  have called : refusing call (w.cut cut).device =
      .error "refused" ⟨(w.withRoutes cut.1).device, none⟩ := if_pos refused
  exact Part.lift_of_error called

end

theorem tryRemoveRoute_faulty :
    trySai (faultyBackend.removeRoute dest) (w.cut cut) = .ok () (w.cut (cut.drop dest)) := by
  have effect := @MockSai.final_removeRoute (w.withRoutes cut.1).device dest
  change attempt (sai (refusing (MockSai.removeRoute dest))) (w.cut cut) = _
  rw [attempt_apply, Cut.drop]
  by_cases refused : cut.2 = some 0
  · rw [final_of_error (sai_refused refused), refused]
    rfl
  · rw [if_neg refused]
    cases ho : MockSai.removeRoute dest (w.withRoutes cut.1).device with
    | ok value mock =>
      rw [final_of_ok ho] at effect
      rw [final_of_ok (sai_refusing_ok refused ho), effect]
      rfl
    | error failure mock =>
      rw [final_of_error ho] at effect
      rw [final_of_error (sai_refusing_error refused ho), effect]
      rfl

theorem dropRoutes_faulty (dests : List IpPrefix) :
    dropRoutes faultyBackend dests (w.cut cut) = .ok () (w.cut (cut.dropAll dests)) := by
  induction dests generalizing cut with
  | nil => rfl
  | cons first rest ih =>
    exact (bind_of_ok tryRemoveRoute_faulty).trans ih

theorem createRoute_faulty : Finishes (sai (faultyBackend.createRoute dest target)) (w.cut cut)
      (cut.make (w.device.takes dest target) dest target).1 ()
      (w.cut (cut.make (w.device.takes dest target) dest target).2) := by
  unfold Cut.make
  by_cases refused : cut.2 = some 0
  · rw [if_pos refused]
    exact finishes_error (sai_refused refused)
  rw [if_neg refused]
  have hs : (w.withRoutes cut.1).device.takes dest target = w.device.takes dest target := by
    cases target <;> rfl
  cases takes : w.device.takes dest target with
  | false =>
    rw [takes, MockSai.takes, Option.isNone_eq_false_iff, Option.isSome_iff_exists] at hs
    obtain ⟨reason, search⟩ := hs
    have failed : MockSai.createRoute dest target (w.withRoutes cut.1).device =
        .error reason.2 (w.withRoutes cut.1).device := by
      rw [MockSai.createRoute, search]
    exact finishes_error (sai_refusing_error refused failed)
  | true =>
    rw [takes, MockSai.takes, Option.isNone_iff_eq_none] at hs
    have ho : MockSai.createRoute dest target (w.withRoutes cut.1).device = if cut.1.contains dest then
          .error ("route " ++ prefixText dest ++ " exists") (w.withRoutes (cut.1.insert dest target)).device
        else .ok () (w.withRoutes (cut.1.insert dest target)).device := by
      rw [MockSai.createRoute, hs]
      rfl
    rw [← Option.not_isSome, ← contains_eq_isSome_getElem?]
    cases hk : cut.1.contains dest with
    | false =>
      rw [hk] at ho
      exact finishes_ok (sai_refusing_ok refused ho)
    | true =>
      rw [hk] at ho
      exact finishes_error (sai_refusing_error refused ho)

theorem renewRoute_faulty : Finishes (renewRoute faultyBackend dest target) (w.cut cut)
      (cut.renew (w.device.takes dest target) dest target).1 ()
      (w.cut (cut.renew (w.device.takes dest target) dest target).2) := by
  exact (finishes_ok tryRemoveRoute_faulty).bind createRoute_faulty

/-- The routes are made when the router interface is known. -/
def installRoutes (host : IpPrefix) (subnet : Option IpPrefix) (rif : Oid) : Rpc Faulty Oid := do
  renewRoute faultyBackend host .cpu
  match subnet with
  | some subnet => renewRoute faultyBackend subnet (.rif rif)
  | none => pure ()
  return rif

theorem installRoutes_faulty {host : IpPrefix} {subnet : Option IpPrefix} {rif : Oid} {supported : Bool}
    (takesHost : w.device.takes host .cpu = supported)
    (takesSubnet : ∀ dest, subnet = some dest → w.device.takes dest (.rif rif) = supported) :
    Finishes (installRoutes host subnet rif) (w.cut cut) (cut.install supported rif host subnet).1 rif
      (w.cut (cut.install supported rif host subnet).2) := by
  subst takesHost
  have hosts := @renewRoute_faulty w host .cpu cut
  unfold installRoutes Cut.install
  rcases renews : Cut.renew (w.device.takes host .cpu) host .cpu cut with ⟨made, after⟩
  rw [renews] at hosts
  cases made with
  | false => exact hosts.bind_failed
  | true =>
    refine hosts.bind ?_
    cases subnet with
    | none => exact finishes_ok rfl
    | some dest =>
      have renews := @renewRoute_faulty w dest (.rif rif) after
      rw [takesSubnet dest rfl] at renews
      exact renews.returning

end

section

variable {start w after : World MockSai} {iface : Interface} {l3 : L3State} {address : String}
  {dest : IpPrefix} {routes : RouteTable}

variable {rif : Oid}

theorem fronts_withRoutes : (w.withRoutes routes).fronts rif iface ↔ w.fronts rif iface := by
  cases iface <;> rfl

theorem device_record : (w.record iface l3).device = w.device := by
  cases iface <;> rfl

theorem fronts_record : (w.record iface l3).fronts rif iface ↔ w.fronts rif iface := by
  cases iface with
  | port name =>
    dsimp only [fronts, record]
    rw [getElem?_modify_self]
    cases w.ports[name]? <;> simp
  | vlan id =>
    dsimp only [fronts, record]
    rw [getElem?_insert_self]
    rfl

theorem rifExists_of_fronts (fronts : w.fronts rif iface) : w.device.rifExists rif = true := by
  unfold rifExists
  cases iface with
  | port name =>
    obtain ⟨port, -, hf⟩ := fronts
    rw [Bool.or_eq_true, List.contains_iff_mem, mem_values_iff]
    exact .inl ⟨port.saiId, hf⟩
  | vlan id =>
    rw [Bool.or_eq_true]
    exact .inr (mem_of_lookup fronts)

theorem takes_subnet {mock : MockSai} {subnet : IpPrefix} (hk : mock.rifExists rif = true)
    (hs : subnetOf dest = some subnet) : mock.takes subnet (.rif rif) = mock.takes (hostOf dest) .cpu := by
  simp only [hostOf, subnetOf, routesFor] at hs ⊢
  split_ifs at hs
  cases hs
  have sameFamily : (network dest.2.toNat dest.1).isIpv4 = dest.1.isIpv4 := by cases dest.1 <;> rfl
  simp only [takes, lacksTarget, lacksRif, lacksIpv6, hk, sameFamily]
  cases dest.1.isIpv4 <;> cases mock.capabilities.ipv6 <;> rfl

theorem fronts_created {device : MockSai} (ha : start.admits iface = true)
    (created : start.creates mockBackend iface start.device = .ok rif device) (hf : Oid) :
    ({ start with device } : World MockSai).fronts hf iface ↔ hf = rif := by
  cases iface with
  | port name =>
    obtain ⟨port, hk, -⟩ := Option.any_eq_true _ _ |>.mp ha
    dsimp only [creates] at created
    rw [hk] at created
    obtain ⟨rfl, rfl⟩ := checked_ok
      (show createRouterInterface port.saiId start.device = _ from created)
    dsimp only [fronts]
    simp [hk, eq_comm]
  | vlan id =>
    have called : createVlanRif (start.vlans[id]?.bind VlanState.oid) start.device = .ok rif device := created
    have free : ¬ start.device.vlanRifs.values.contains (start.vlans[id]?.bind VlanState.oid) = true := by
      intro taken
      unfold createVlanRif checked at called
      simp only [taken] at called
      split at called
      · cases called
      · rename_i search
        simp at search
    obtain ⟨rfl, rfl⟩ := checked_ok called
    dsimp only [fronts]
    rw [lookup_insert]
    split_ifs with hs
    · simpa [eq_comm] using hs
    · refine iff_of_false (fun fronts => ?_) fun isNext => hs isNext.symm
      rw [List.contains_iff_mem, mem_values_iff] at free
      exact free ⟨hf, fronts⟩

theorem hosts_of_set {name : String} (isInterface : interfaceOf name = iface)
    (standing : ∀ l3, w.l3At iface = some l3 → ∀ rif, w.fronts rif iface ↔ rif = l3.rif)
    (differs : w.hasAddress iface address = false)
    (ran : setInterfaceAddress mockBackend ⟨name, address⟩ w = .ok () after) :
    Hosts after iface address ((w.l3At iface).map L3State.address) := by
  subst isInterface
  obtain ⟨ha, dest, hp, ⟨has, -⟩ | ⟨-, rif, device, fronted, rfl⟩⟩ :=
    (setInterfaceAddress_mock ⟨name, address⟩).ok rfl ran
  · rw [differs] at has
    cases has
  refine ⟨rif, dest, hp, fun hf => ?_, ?_, ?_⟩
  · rw [fronts_record]
    cases hk : w.l3At (interfaceOf name) with
    | none =>
      rw [hk] at fronted
      exact fronts_created ha fronted hf
    | some old =>
      rw [hk] at fronted
      obtain ⟨rfl, rfl⟩ := fronted
      exact standing old hk hf
  · rw [device_record]
    exact routed_installed
  · intro gone hl notWanted
    rw [routeDests_of_parsed hp] at notWanted
    rw [device_record]
    change (installed rif dest _)[gone]? = none
    rw [getElem?_installed_of_not_mem notWanted, getElem?_dropped, if_pos]
    cases hk : w.l3At (interfaceOf name) with
    | none =>
      rw [hk] at hl
      exact absurd hl List.not_mem_nil
    | some old =>
      rw [hk] at hl
      exact hl

theorem admits_withRoutes : (w.withRoutes routes).admits iface = w.admits iface := by
  cases iface <;> rfl

variable {answered : Option Nat}

theorem admits_faulty : (w.faulty answered).admits iface = w.admits iface := by
  cases iface <;> rfl

theorem l3At_faulty : (w.faulty answered).l3At iface = w.l3At iface := by
  cases iface <;> rfl

theorem admits_record (ha : w.admits iface = true) : (w.record iface l3).admits iface = true := by
  cases iface with
  | port name =>
    obtain ⟨port, hk, free⟩ := Option.any_eq_true _ _ |>.mp ha
    dsimp only [admits, record]
    rw [getElem?_modify_self, hk]
    exact free
  | vlan id => simp [admits, record]

theorem hasAddress_of_l3At (hf : w.l3At iface = some l3) :
    w.hasAddress iface address = decide (l3.address = address) := by
  rw [hasAddress, hf]
  rfl

end

section

variable {start : World MockSai} {req : SetInterfaceAddressRequest} {l3 : L3State} {answered : Nat}
  {dest oldDest : IpPrefix} {routes : RouteTable}

/-- An interface has an address on record, and one router interface. -/
structure Held (w : World MockSai) (iface : Interface) (l3 : L3State) (dest : IpPrefix) : Prop where
  admits : w.admits iface = true
  found : w.l3At iface = some l3
  fronts : ∀ rif, w.fronts rif iface ↔ rif = l3.rif
  parsed : parseCidr l3.address = .ok dest

section

variable {w after : World MockSai} {name address : String}

theorem Held.withRoutes {iface : Interface} (held : Held w iface l3 dest) :
    Held (w.withRoutes routes) iface l3 dest where
  admits := admits_withRoutes.trans held.admits
  found := held.found ▸ by cases iface <;> rfl
  fronts rif := fronts_withRoutes.trans (held.fronts rif)
  parsed := held.parsed

theorem Held.record {iface : Interface} (ha : w.admits iface = true)
    (fronts : ∀ rif, w.fronts rif iface ↔ rif = l3.rif) (hp : parseCidr l3.address = .ok dest) :
    Held (w.record iface l3) iface l3 dest where
  admits := admits_record ha
  found := (readdressed_record ha).here
  fronts rif := fronts_record.trans (fronts rif)
  parsed := hp

/-- A request for the recorded address changes nothing. -/
theorem Held.again {other : Option String} (held : Held w (interfaceOf name) l3 dest) :
    (∀ after, setInterfaceAddress mockBackend ⟨name, l3.address⟩ w = .ok () after →
      Hosts after (interfaceOf name) l3.address other) ↔ Routed w.device.routes l3.rif dest ∧
        ∀ gone ∈ other.elim [] routeDests, gone ∉ routeDests l3.address → w.device.routes[gone]? = none := by
  have again := @setInterfaceAddress_same _ mockBackend ⟨name, l3.address⟩ w dest held.admits held.parsed
    (by rw [hasAddress_of_l3At held.found]; simp)
  constructor
  · intro hosts
    obtain ⟨rif, dest', hp', isRif, routed, ha⟩ := hosts w again
    cases held.parsed.symm.trans hp'
    obtain rfl := (isRif l3.rif).mp ((held.fronts l3.rif).mpr rfl)
    exact ⟨routed, ha⟩
  · rintro ⟨routed, ha⟩ after ran
    cases again.symm.trans ran
    exact ⟨l3.rif, dest, held.parsed, held.fronts, routed, ha⟩

theorem Held.hosts_of_set (held : Held w (interfaceOf name) l3 dest) (differs : l3.address ≠ address)
    (ran : setInterfaceAddress mockBackend ⟨name, address⟩ w = .ok () after) :
    Hosts after (interfaceOf name) address (some l3.address) := by
  have hosts := Routing.hosts_of_set rfl ?_ ?_ ran
  · rwa [held.found] at hosts
  · intro old isOld
    rw [held.found] at isOld
    cases isOld
    exact held.fronts
  · rw [hasAddress_of_l3At held.found]
    simpa using differs

end

theorem recovers_of_made (held : Held start (interfaceOf req.name) l3 oldDest)
    (hp : parseCidr req.address = .ok dest) (differs : l3.address ≠ req.address)
    (left : (brokenOff start req answered).mended =
      (start.withRoutes routes).record (interfaceOf req.name) ⟨l3.rif, req.address⟩)
    (routed : Routed routes l3.rif dest) : Recovers start req answered ↔
      ∀ gone ∈ routeDests l3.address, gone ∉ routeDests req.address → routes[gone]? = none := by
  have again := @Held.record ⟨l3.rif, req.address⟩ dest (start.withRoutes routes) (interfaceOf req.name)
    held.withRoutes.admits held.withRoutes.fronts hp
  unfold Recovers
  dsimp only
  rw [left, held.found, again.again, device_record, and_iff_left]
  · exact and_iff_right routed
  · rintro _ ⟨rfl⟩ after ran
    exact again.hosts_of_set differs.symm ran

theorem recovers_of_broken (held : Held start (interfaceOf req.name) l3 oldDest) (differs : l3.address ≠ req.address)
    (left : (brokenOff start req answered).mended = start.withRoutes routes) :
    Recovers start req answered ↔ Routed routes l3.rif oldDest ∧
      ∀ gone ∈ routeDests req.address, gone ∉ routeDests l3.address → routes[gone]? = none := by
  have again := @Held.withRoutes l3 oldDest routes start _ held
  unfold Recovers
  rw [left, held.found, and_iff_right]
  swap
  · exact fun after ran => again.hosts_of_set differs ran
  constructor
  · exact fun recovers => again.again.mp (recovers l3 rfl)
  · rintro holds _ ⟨rfl⟩
    exact again.again.mpr holds

/-- What the request leaves of the routes when the interface has an address already. -/
def cutAttempt (start : World MockSai) (l3 : L3State) (dest : IpPrefix) (answered : Nat) : Bool × Cut :=
  (Cut.dropAll (routeDests l3.address) (start.device.routes, some answered)).install
    (start.device.takes (routesFor dest.1 dest.2).1 .cpu) l3.rif (routesFor dest.1 dest.2).1
    (routesFor dest.1 dest.2).2

theorem brokenOff_finishes (held : Held start (interfaceOf req.name) l3 oldDest)
    (hp : parseCidr req.address = .ok dest) (differs : l3.address ≠ req.address) :
    (brokenOff start req answered).device.answered = (cutAttempt start l3 dest answered).2.2 ∧
      (brokenOff start req answered).mended = if (cutAttempt start l3 dest answered).1 then
        (start.withRoutes (cutAttempt start l3 dest answered).2.1).record (interfaceOf req.name)
          ⟨l3.rif, req.address⟩ else start.withRoutes (cutAttempt start l3 dest answered).2.1 := by
  have hk := rifExists_of_fronts ((held.fronts l3.rif).mpr rfl)
  rw [brokenOff]
  have readdresses : Finishes (readdress faultyBackend (some l3)
        ((start.faulty (some answered)).creates faultyBackend (interfaceOf req.name)) dest)
      (start.faulty (some answered)) (cutAttempt start l3 dest answered).1 l3.rif
      (start.cut (cutAttempt start l3 dest answered).2) := by
    have drops := @dropRoutes_faulty start (start.device.routes, some answered) (routeDests l3.address)
    exact (finishes_ok drops).bind (installRoutes_faulty rfl fun subnet hs => takes_subnet hk hs)
  have runs := @setInterfaceAddress_admitted _ faultyBackend req (start.faulty (some answered)) dest
    (admits_faulty.trans held.admits) hp
  rw [hasAddress, l3At_faulty, held.found, if_neg (by simpa using differs)] at runs
  cases made : (cutAttempt start l3 dest answered).1 with
  | true =>
    rw [bind_of_ok (readdresses.ok made)] at runs
    rw [final_of_ok runs]
    cases interfaceOf req.name <;> exact ⟨rfl, rfl⟩
  | false =>
    obtain ⟨failure, failed⟩ := readdresses.error made
    rw [bind_of_error failed] at runs
    rw [final_of_error runs]
    exact ⟨rfl, rfl⟩

end

section

variable {routes : RouteTable} {rif : Oid} {oldDest dest : IpPrefix} {n : Nat} {supported : Bool}

/-- What is left of the routes is what there should be: of the new address if it was made, of the
old one if not. -/
def Cut.Sound (rif : Oid) (oldDest dest : IpPrefix) (attempt : Bool × Cut) : Prop :=
  if attempt.1 then
    ∀ gone ∈ destsOf oldDest.1 oldDest.2, gone ∉ destsOf dest.1 dest.2 → attempt.2.1[gone]? = none
  else
    Routed attempt.2.1 rif oldDest ∧
      ∀ gone ∈ destsOf dest.1 dest.2, gone ∉ destsOf oldDest.1 oldDest.2 → attempt.2.1[gone]? = none

theorem destsOf_eq : allOf dest = (hostOf dest) :: (subnetOf dest).toList := rfl

theorem destsOf_eq_singleton {host : IpPrefix} :
    allOf oldDest = [host] ↔ hostOf oldDest = host ∧ subnetOf oldDest = none := by
  rw [destsOf_eq, List.cons_eq_cons, Option.toList_eq_nil_iff]

theorem nodup_destsOf : (allOf oldDest).Nodup := by
  rw [destsOf_eq]
  cases hs : subnetOf oldDest with
  | none => simp
  | some subnet => simpa using Ne.symm (subnet_ne_host hs)

/-- What is left of the routes when call `n` is refused. -/
abbrev attempted (routes : RouteTable) (rif : Oid) (oldDest dest : IpPrefix) (supported : Bool) (n : Nat) :
    Bool × Cut :=
  (Cut.dropAll (allOf oldDest) (routes, some n)).install supported rif (hostOf dest) (subnetOf dest)

/-- It is what there should be exactly if the refusal does no harm. -/
def Judged (routes : RouteTable) (rif : Oid) (oldDest dest : IpPrefix) (supported : Bool) (n : Nat) : Prop :=
  Cut.Sound rif oldDest dest (attempted routes rif oldDest dest supported n) ↔
    Harmless routes supported (allOf oldDest) (hostOf dest) (subnetOf dest) n

theorem not_routed_of_host_gone (gone : routes[hostOf oldDest]? = none) : ¬ Routed routes rif oldDest := by
  intro routed
  rw [routed.host] at gone
  cases gone

theorem host_mem_destsOf : hostOf oldDest ∈ allOf oldDest :=
  mem_destsOf.mpr (.inl rfl)

theorem sound_installed : Cut.Sound rif oldDest dest (true, installedAt rif (hostOf dest) (subnetOf dest)
        (dropped (allOf oldDest) routes), none) := by
  intro gone hl notWanted
  change (installed rif dest _)[gone]? = none
  rw [getElem?_installed_of_not_mem notWanted, getElem?_dropped, if_pos hl]

variable {gone : IpPrefix}

theorem dropped_eq_none :
    (dropped (allOf oldDest) routes)[gone]? = none ↔ gone ∈ allOf oldDest ∨ routes[gone]? = none := by
  rw [getElem?_dropped]
  split_ifs with hl <;> simp [hl]

theorem mem_eraseIdx_destsOf (inside : n < (allOf oldDest).length) : gone ∈ (allOf oldDest).eraseIdx n ↔
      gone ≠ (allOf oldDest)[n] ∧ gone ∈ allOf oldDest := by
  rw [← nodup_destsOf.erase_getElem n inside, nodup_destsOf.mem_erase_iff]

variable (routed : Routed routes rif oldDest)

include routed

theorem routes_of_mem (hl : gone ∈ allOf oldDest) : routes[gone]? ≠ none := by
  rcases mem_destsOf.mp hl with rfl | hs
  · rw [routed.host]
    exact Option.some_ne_none _
  · rw [routed.subnet gone hs]
    exact Option.some_ne_none _

theorem judged_at (inside : n < (allOf oldDest).length) : Judged routes rif oldDest dest true n := by
  rw [Judged, attempted, dropAll_at inside, install_none]
  have kept : (allOf oldDest)[n] ∈ allOf oldDest := List.getElem_mem inside
  have hi : Cut.Sound rif oldDest dest (true, installedAt rif (hostOf dest)
        (subnetOf dest) (dropped ((allOf oldDest).eraseIdx n) routes), none) ↔
      (allOf oldDest)[n] ∈ allOf dest := by
    constructor
    · intro holds
      by_contra notWanted
      have gone := holds _ kept notWanted
      change (installed rif dest _)[(allOf oldDest)[n]]? = none at gone
      rw [getElem?_installed_of_not_mem notWanted, getElem?_dropped, if_neg] at gone
      · exact routes_of_mem routed kept gone
      · rw [mem_eraseIdx_destsOf inside]
        exact fun left => left.1 rfl
    · intro wanted gone hl notWanted
      change (installed rif dest _)[gone]? = none
      rw [getElem?_installed_of_not_mem notWanted, getElem?_dropped, if_pos]
      rw [mem_eraseIdx_destsOf inside]
      exact ⟨fun hs => notWanted (hs ▸ wanted), hl⟩
  rw [hi, mem_destsOf]
  constructor
  · intro wanted
    refine ⟨fun gone isGone => ?_, by omega, by omega, by omega, by omega⟩
    rw [List.getElem?_eq_getElem inside] at isGone
    cases isGone
    exact wanted
  · intro harmless
    exact harmless.1 _ (List.getElem?_eq_getElem inside)

omit routed in
theorem judged_host {k : Nat} (early : k < 2) :
    Judged routes rif oldDest dest true ((allOf oldDest).length + k) := by
  rw [Judged, attempted, dropAll_before, Harmless, if_pos rfl]
  have hostGone : (dropped (allOf oldDest) routes)[hostOf oldDest]? = none :=
    dropped_eq_none.mpr (.inl host_mem_destsOf)
  rcases Nat.lt_succ_iff_lt_or_eq.mp early with isZero | rfl
  · obtain rfl := Nat.lt_one_iff.mp isZero
    rw [install_host_kept]
    split_ifs with ha
    · refine iff_of_true sound_installed ⟨by simp, fun _ => ?_, by omega, by omega, by omega⟩
      exact dropped_eq_none.mp ha
    · refine iff_of_false (fun hi => not_routed_of_host_gone ?_ hi.1) fun harmless => ha ?_
      · rw [lookup_insert, if_neg, hostGone]
        rintro hs
        exact ha (hs ▸ hostGone)
      · exact dropped_eq_none.mpr (harmless.2.1 rfl)
  · rw [install_host_unmade]
    refine iff_of_false (fun hi => not_routed_of_host_gone ?_ hi.1) fun harmless => harmless.2.2.1 rfl
    rw [lookup_erase]
    split_ifs
    · rfl
    · exact hostGone

omit routed in
theorem judged_subnet {k : Nat} {subnet : IpPrefix} (hs : subnetOf dest = some subnet)
    (early : k < 2) : Judged routes rif oldDest dest true ((allOf oldDest).length + (k + 2)) := by
  rw [Judged, attempted, dropAll_before, Harmless, if_pos rfl]
  have apart := @subnet_ne_host dest.1 oldDest.1 dest.2 oldDest.2 subnet hs
  have apart' := @subnet_ne_host dest.1 dest.1 dest.2 dest.2 subnet hs
  have subnetLeft : (renewed (hostOf dest) .cpu (dropped (allOf oldDest) routes))[subnet]? = none ↔
      subnet ∈ allOf oldDest ∨ routes[subnet]? = none := by
    rw [getElem?_renewed, if_neg apart', dropped_eq_none]
  have wanted : subnet ∈ allOf dest := mem_destsOf.mpr (.inr hs)
  rcases Nat.lt_succ_iff_lt_or_eq.mp early with isZero | rfl
  · obtain rfl := Nat.lt_one_iff.mp isZero
    rw [install_subnet_kept hs]
    split_ifs with ha
    · refine iff_of_true sound_installed ⟨by simp, by omega, by omega, fun _ other isOther => ?_, by omega⟩
      rw [hs] at isOther
      cases isOther
      exact subnetLeft.mp ha
    · refine iff_of_false (fun hi => ?_) fun harmless => ?_
      · have gone := hi.2 subnet wanted fun hl => ha (subnetLeft.mpr (.inl hl))
        rw [lookup_insert, if_pos rfl] at gone
        cases gone
      · exact ha (subnetLeft.mpr (harmless.2.2.2.1 (by omega) subnet hs))
  · rw [install_subnet_unmade hs]
    -- Nothing is left but the host of the new address.
    have left (other : IpPrefix) (old : other ∈ allOf oldDest) (notHost : other ≠ hostOf dest) :
        ((renewed (hostOf dest) .cpu (dropped (allOf oldDest) routes)).erase subnet)[other]? = none := by
      rw [lookup_erase, getElem?_renewed, getElem?_dropped]
      split_ifs <;> rfl
    constructor
    · intro hi
      have sameHost : hostOf oldDest = hostOf dest := by
        by_contra ne
        exact not_routed_of_host_gone (left _ host_mem_destsOf ne) hi.1
      have noSubnet : subnetOf oldDest = none := by
        rw [Option.eq_none_iff_forall_ne_some]
        intro other isOther
        have routedTo := hi.1.subnet other isOther
        rw [left other (mem_destsOf.mpr (.inr isOther)) (subnet_ne_host isOther)] at routedTo
        cases routedTo
      exact ⟨by simp, by omega, by omega, by omega, fun _ _ => destsOf_eq_singleton.mpr ⟨sameHost, noSubnet⟩⟩
    · intro harmless
      have alone := harmless.2.2.2.2 (by omega) (by rw [hs]; exact Option.some_ne_none _)
      obtain ⟨sameHost, noSubnet⟩ := destsOf_eq_singleton.mp alone
      refine ⟨⟨?_, fun other isOther => ?_⟩, fun gone hl (notOld : gone ∉ allOf oldDest) => ?_⟩
      · rw [lookup_erase, if_neg apart, getElem?_renewed, if_pos sameHost]
      · cases noSubnet.symm.trans isOther
      · rw [alone, List.mem_singleton] at notOld
        cases hs.symm.trans ((mem_destsOf.mp hl).resolve_left notOld)
        rw [lookup_erase, if_pos rfl]

theorem judged_unsupported (hit : (attempted routes rif oldDest dest false n).2.2 = none) :
    Judged routes rif oldDest dest false n := by
  unfold attempted at hit
  rw [Judged, attempted, Harmless, if_neg Bool.false_ne_true]
  by_cases inside : n < (allOf oldDest).length
  · rw [dropAll_at inside, install_unsupported, if_neg (Option.some_ne_none _).symm]
    have left (other : IpPrefix) :
        ((dropped ((allOf oldDest).eraseIdx n) routes).erase (hostOf dest))[other]? =
          if other = (hostOf dest) then none
          else if other ≠ (allOf oldDest)[n] ∧ other ∈ allOf oldDest then none
          else routes[other]? := by
      rw [lookup_erase, getElem?_dropped]
      simp only [mem_eraseIdx_destsOf inside, @eq_comm _ _ other]
    constructor
    · intro hi
      have hostLeft := hi.1.host
      rw [left] at hostLeft
      split_ifs at hostLeft with hs removed
      have isHost : hostOf oldDest = (allOf oldDest)[n] := by
        by_contra ne
        exact removed ⟨ne, host_mem_destsOf⟩
      have nonempty : 0 < (allOf oldDest).length := List.length_pos_of_mem host_mem_destsOf
      have isZero : n = 0 :=
        (@List.Nodup.getElem_inj_iff _ _ nodup_destsOf n inside 0 nonempty).mp isHost.symm
      subst isZero
      have noSubnet : subnetOf oldDest = none := by
        rw [Option.eq_none_iff_forall_ne_some]
        intro other isOther
        have routedTo := hi.1.subnet other isOther
        rw [left, if_neg (subnet_ne_host isOther), if_pos] at routedTo
        · cases routedTo
        · exact ⟨fun isFirst => subnet_ne_host isOther (isFirst.trans isHost.symm), mem_destsOf.mpr (.inr isOther)⟩
      refine ⟨rfl, ⟨_, destsOf_eq_singleton.mpr ⟨rfl, noSubnet⟩, hs⟩, fun subnet isSubnet => ?_⟩
      · have notOld : subnet ∉ allOf oldDest := by
          intro hl
          rcases mem_destsOf.mp hl with isOldHost | isOldSubnet
          · exact subnet_ne_host isSubnet isOldHost
          · cases noSubnet.symm.trans isOldSubnet
        have gone := hi.2 subnet (mem_destsOf.mpr (.inr isSubnet)) notOld
        rwa [left, if_neg (subnet_ne_host isSubnet), if_neg (fun both => notOld both.2)] at gone
    · rintro ⟨rfl, ⟨old, alone, ne⟩, ha⟩
      obtain ⟨rfl, noSubnet⟩ := destsOf_eq_singleton.mp alone
      refine ⟨⟨?_, fun other isOther => ?_⟩, fun gone hl notOld => ?_⟩
      · rw [left, if_neg ne, if_neg]
        · exact routed.host
        · exact fun both => both.1 rfl
      · cases noSubnet.symm.trans isOther
      · rw [left]
        split_ifs with isNewHost
        · rfl
        · rfl
        · exact ha gone ((mem_destsOf.mp hl).resolve_left isNewHost)
  · obtain ⟨k, rfl⟩ := Nat.exists_eq_add_of_le (Nat.le_of_not_lt inside)
    rw [dropAll_before, install_unsupported] at hit ⊢
    have nonempty : 0 < (allOf oldDest).length := List.length_pos_of_mem host_mem_destsOf
    refine iff_of_false (fun hi => not_routed_of_host_gone ?_ hi.1) fun harmless => by omega
    split_ifs
    · exact dropped_eq_none.mpr (.inl host_mem_destsOf)
    · rw [lookup_erase, getElem?_dropped, if_pos host_mem_destsOf]
      split_ifs <;> rfl

theorem judged_of_hit (hit : (attempted routes rif oldDest dest supported n).2.2 = none) :
    Judged routes rif oldDest dest supported n := by
  cases supported with
  | false => exact judged_unsupported routed hit
  | true =>
    by_cases inside : n < (allOf oldDest).length
    · exact judged_at routed inside
    obtain ⟨k, rfl⟩ := Nat.exists_eq_add_of_le (Nat.le_of_not_lt inside)
    by_cases early : k < 2
    · exact judged_host early
    obtain ⟨k, rfl⟩ := Nat.exists_eq_add_of_le' (Nat.le_of_not_lt early)
    rw [attempted, dropAll_before] at hit
    cases hs : subnetOf dest with
    | none =>
      refine absurd hit ?_
      rw [hs]
      exact install_unrefused (by simp)
    | some subnet =>
      by_cases isTwo : k < 2
      · exact judged_subnet hs isTwo
      · refine absurd hit (install_unrefused ?_)
        rw [hs]
        simp
        omega

end

section

variable {start : World MockSai} {req : SetInterfaceAddressRequest} {answered : Nat} {dest : IpPrefix}
variable {iface : Interface}

theorem creates_faulty {cut : Cut} (ha : start.admits iface = true) :
    (start.cut cut).creates faultyBackend iface = refusing (start.creates mockBackend iface) := by
  cases iface with
  | port name =>
    obtain ⟨port, hk, -⟩ := Option.any_eq_true _ _ |>.mp ha
    dsimp only [creates]
    change (start.ports[name]?.elim _ _) = _
    rw [hk]
    rfl
  | vlan id => rfl

/-- A request that succeeds although a call was refused has made all it needs. -/
theorem readdress_faulty_new {rif : Oid} {after : World Faulty} (ha : start.admits iface = true)
    (ran : readdress faultyBackend none
      ((start.cut (start.device.routes, some answered)).creates faultyBackend iface) dest
      (start.cut (start.device.routes, some answered)) = .ok rif after) :
    ∃ device left, start.creates mockBackend iface start.device = .ok rif device ∧
      after = (({ start with device } : World MockSai).withRoutes
        (installed rif dest start.device.routes)).faulty left := by
  rw [creates_faulty ha] at ran
  change (sai (refusing (start.creates mockBackend iface)) >>=
    installRoutes (hostOf dest) (subnetOf dest)) _ = _ at ran
  by_cases refused : (start.device.routes, some answered).2 = some 0
  · rw [bind_of_error (sai_refused refused)] at ran
    cases ran
  cases ho : start.creates mockBackend iface start.device with
  | error text device =>
    rw [bind_of_error (sai_refusing_error refused ho)] at ran
    cases ran
  | ok made device =>
    rw [bind_of_ok (sai_refusing_ok refused ho)] at ran
    have isCut : (({ start with device } : World MockSai).faulty (spend (some answered))) =
        ({ start with device } : World MockSai).cut (start.device.routes, spend (some answered)) := by
      rw [← creates_routes ho]
      rfl
    rw [isCut] at ran
    have hk : device.rifExists made = true :=
      @rifExists_of_fronts { start with device } iface made ((fronts_created ha ho made).mpr rfl)
    have installs := @installRoutes_faulty { start with device } (start.device.routes, spend (some answered))
      (hostOf dest) (subnetOf dest) made _ rfl
      fun subnet hs => takes_subnet hk hs
    cases isMade : (Cut.install (device.takes (hostOf dest) .cpu) made (hostOf dest) (subnetOf dest)
        (start.device.routes, spend (some answered))).1 with
    | false =>
      obtain ⟨failure, failed⟩ := installs.error isMade
      rw [failed] at ran
      cases ran
    | true =>
      rw [installs.ok isMade] at ran
      cases ran
      exact ⟨device, _, rfl, congrArg (fun routes => (({ start with device } : World MockSai).withRoutes
        routes).faulty _) (install_made isMade)⟩

theorem brokenOff_new (ha : start.admits (interfaceOf req.name) = true)
    (hp : parseCidr req.address = .ok dest) (hf : start.l3At (interfaceOf req.name) = none) :
    (∃ rif device, start.creates mockBackend (interfaceOf req.name) start.device = .ok rif device ∧
      (brokenOff start req answered).mended = (({ start with device } : World MockSai).withRoutes
        (installed rif dest start.device.routes)).record (interfaceOf req.name) ⟨rif, req.address⟩) ∨
      (brokenOff start req answered).mended.l3At (interfaceOf req.name) = none := by
  have runs := @setInterfaceAddress_admitted _ faultyBackend req (start.faulty (some answered)) dest
    (admits_faulty.trans ha) hp
  rw [hasAddress, l3At_faulty, hf, if_neg (by simp)] at runs
  cases ho : readdress faultyBackend none ((start.faulty (some answered)).creates faultyBackend
      (interfaceOf req.name)) dest (start.faulty (some answered)) with
  | ok rif after =>
    rw [bind_of_ok ho] at runs
    obtain ⟨device, left, created, rfl⟩ := readdress_faulty_new ha ho
    refine .inl ⟨rif, device, created, ?_⟩
    rw [brokenOff, final_of_ok runs]
    cases interfaceOf req.name <;> rfl
  | error failure after =>
    rw [bind_of_error ho] at runs
    have keeps := @readdress_keeps _ faultyBackend
      (fun w : World Faulty => w.ports = start.ports ∧ w.vlans = start.vlans)
      (fun _ _ hs => hs) none ((start.faulty (some answered)).creates faultyBackend
        (interfaceOf req.name)) dest
    have kept := keeps.error ⟨rfl, rfl⟩ ho
    refine .inr ?_
    rw [brokenOff, final_of_error runs, ← hf]
    unfold l3At mended
    rw [kept.1, kept.2]

theorem recovers_new (ha : start.admits (interfaceOf req.name) = true)
    (hp : parseCidr req.address = .ok dest)
    (hf : start.l3At (interfaceOf req.name) = none) : Recovers start req answered := by
  unfold Recovers
  rw [hf]
  refine ⟨fun after ran => ?_, fun l3 never => by cases never⟩
  rcases @brokenOff_new start req answered dest ha hp hf with ⟨rif, device, created, left⟩ | left
  · have again := @Held.record ⟨rif, req.address⟩ dest (({ start with device } : World MockSai).withRoutes
      (installed rif dest start.device.routes)) (interfaceOf req.name)
      (ha ▸ by cases interfaceOf req.name <;> rfl)
      (fun other => fronts_withRoutes.trans (fronts_created ha created other)) hp
    rw [left] at ran
    refine again.again.mpr ⟨?_, fun gone hl => absurd hl List.not_mem_nil⟩ after ran
    cases interfaceOf req.name <;> exact routed_installed
  · have hosts := hosts_of_set rfl ?_ ?_ ran
    · rwa [left] at hosts
    · intro l3 isL3
      rw [left] at isL3
      cases isL3
    · rw [hasAddress, left]
      rfl

end

/-- A request is broken off and made again.  If the interface had an address, all is well exactly
if the refused call did no harm; if it had none, all is well. -/
theorem recovers_iff_harmless (start : World MockSai) (req : SetInterfaceAddressRequest) (answered : Nat)
    (standing : Standing start (interfaceOf req.name))
    (hit : (brokenOff start req answered).device.answered = none) : Recovers start req answered ↔
      ∀ l3 dest, start.l3At (interfaceOf req.name) = some l3 → parseCidr req.address = .ok dest →
        Harmless start.device.routes (start.device.takes (routesFor dest.1 dest.2).1 .cpu)
          (routeDests l3.address) (routesFor dest.1 dest.2).1 (routesFor dest.1 dest.2).2 answered := by
  have idle (left : final (setInterfaceAddress faultyBackend req) (start.faulty (some answered)) =
      start.faulty (some answered)) : False := by
    rw [brokenOff, left] at hit
    cases hit
  have admitted : start.admits (interfaceOf req.name) = true := by
    by_contra refused
    obtain ⟨failure, failed⟩ := @setInterfaceAddress_refused _ faultyBackend req (start.faulty (some answered))
      (.inl (admits_faulty.trans (Bool.eq_false_iff.mpr refused)))
    exact idle (final_of_error failed)
  cases parsed : parseCidr req.address with
  | error text =>
    obtain ⟨failure, failed⟩ := @setInterfaceAddress_refused _ faultyBackend req (start.faulty (some answered))
      (.inr fun dest => by rw [parsed]; simp)
    exact (idle (final_of_error failed)).elim
  | ok dest =>
    cases found : start.l3At (interfaceOf req.name) with
    | none => exact iff_of_true (recovers_new admitted parsed found) fun _ _ never => by cases never
    | some l3 =>
      obtain ⟨oldDest, oldParsed, fronts, routed⟩ := standing l3 found
      have differs : l3.address ≠ req.address := by
        intro same
        have unchanged := @setInterfaceAddress_same _ faultyBackend req (start.faulty (some answered)) dest
          (admits_faulty.trans admitted) parsed ?_
        · exact idle (final_of_ok unchanged)
        · rw [World.hasAddress, l3At_faulty, found]
          simpa using same
      have held : Held start (interfaceOf req.name) l3 oldDest := ⟨admitted, found, fronts, oldParsed⟩
      obtain ⟨isHit, left⟩ := @brokenOff_finishes start req l3 answered dest oldDest held parsed differs
      rw [hit] at isHit
      have isOld : routeDests l3.address = allOf oldDest := routeDests_of_parsed oldParsed
      have isNew : routeDests req.address = allOf dest := routeDests_of_parsed parsed
      have table := @judged_of_hit start.device.routes l3.rif oldDest dest answered
        (start.device.takes (routesFor dest.1 dest.2).1 .cpu) routed
      unfold Judged attempted at table
      rw [← isOld] at table
      change (cutAttempt start l3 dest answered).2.2 = none →
        (Cut.Sound l3.rif oldDest dest (cutAttempt start l3 dest answered) ↔ _) at table
      have single {P : L3State → IpPrefix → Prop} :
          (∀ l3' dest', some l3 = some l3' → Except.ok (ε := String) dest = .ok dest' → P l3' dest') ↔
            P l3 dest := by
        constructor
        · exact fun all => all l3 dest rfl rfl
        · rintro one _ _ ⟨rfl⟩ ⟨rfl⟩
          exact one
      rw [single, ← table isHit.symm]
      cases made : (cutAttempt start l3 dest answered).1 with
      | true =>
        rw [made] at left
        have newRouted : Routed (cutAttempt start l3 dest answered).2.1 l3.rif dest := by
          rw [cutAttempt, install_made made]
          exact routed_installed
        rw [recovers_of_made held parsed differs left newRouted, Cut.Sound, made, if_pos rfl, isOld, isNew]
      | false =>
        rw [made] at left
        rw [recovers_of_broken held differs left, Cut.Sound, made, if_neg Bool.false_ne_true, isOld, isNew]

def addressedPort : World MockSai :=
  final (setInterfaceAddress mockBackend ⟨"Ethernet1", "10.0.0.1/24"⟩) onePort

theorem l3At_addressedPort : addressedPort.l3At (interfaceOf "Ethernet1") = some ⟨0, "10.0.0.1/24"⟩ := by
  decide +kernel

theorem standing_addressedPort : Standing addressedPort (interfaceOf "Ethernet1") := by
  intro l3 hf
  rw [l3At_addressedPort] at hf
  cases hf
  have hp : addressedPort.ports["Ethernet1"]? = some { saiId := 1, l3 := some ⟨0, "10.0.0.1/24"⟩ } := by
    decide +kernel
  have isRif : addressedPort.device.rifs[(1 : Switching.PortId)]? = some 0 := by decide +kernel
  have isInterface : interfaceOf "Ethernet1" = .port "Ethernet1" := by decide +kernel
  refine ⟨(.v4 #v[10, 0, 0, 1], 24), by decide +kernel, fun rif => ?_, by decide +kernel, fun subnet hs => ?_⟩
  · rw [isInterface]
    simp [fronts, hp, isRif, eq_comm]
  · have hk : (routesFor (.v4 #v[10, 0, 0, 1]) 24).2 = some (.v4 #v[10, 0, 0, 0], 24) := by decide +kernel
    cases hs
    decide +kernel

/-- The host is the same in the new address, so it does not matter that it was not removed. -/
theorem recovers_iff_harmless_addressedPort :
    (brokenOff addressedPort ⟨"Ethernet1", "10.0.0.1/16"⟩ 0).device.answered = none ∧
      (Recovers addressedPort ⟨"Ethernet1", "10.0.0.1/16"⟩ 0 ↔
        ∀ l3 dest, addressedPort.l3At (interfaceOf "Ethernet1") = some l3 →
          parseCidr "10.0.0.1/16" = .ok dest →
          Harmless addressedPort.device.routes (addressedPort.device.takes (routesFor dest.1 dest.2).1 .cpu)
            (routeDests l3.address) (routesFor dest.1 dest.2).1 (routesFor dest.1 dest.2).2 0) :=
  ⟨by decide +kernel, recovers_iff_harmless addressedPort ⟨"Ethernet1", "10.0.0.1/16"⟩ 0
    standing_addressedPort (by decide +kernel)⟩

/-- The new host route is refused.  The request for the old address then finds it recorded and
succeeds, with its routes gone. -/
theorem refused_route_loses_address :
    Standing addressedPort (interfaceOf "Ethernet1") ∧
      (brokenOff addressedPort ⟨"Ethernet1", "10.0.1.1/24"⟩ 3).device.answered = none ∧
      ¬ Recovers addressedPort ⟨"Ethernet1", "10.0.1.1/24"⟩ 3 := by
  refine ⟨standing_addressedPort, by decide +kernel, fun recovers => ?_⟩
  have hosts := recovers.2 _ l3At_addressedPort
  have admitted : (brokenOff addressedPort ⟨"Ethernet1", "10.0.1.1/24"⟩ 3).mended.admits
      (interfaceOf "Ethernet1") = true := by decide +kernel
  have has : (brokenOff addressedPort ⟨"Ethernet1", "10.0.1.1/24"⟩ 3).mended.hasAddress
      (interfaceOf "Ethernet1") "10.0.0.1/24" = true := by decide +kernel
  have gone : (brokenOff addressedPort ⟨"Ethernet1", "10.0.1.1/24"⟩ 3).mended.device.routes[
      ((.v4 #v[10, 0, 0, 1], 32) : IpPrefix)]? = none := by decide +kernel
  have isDest : parseCidr "10.0.0.1/24" = .ok (.v4 #v[10, 0, 0, 1], 24) := by decide +kernel
  generalize (brokenOff addressedPort ⟨"Ethernet1", "10.0.1.1/24"⟩ 3).mended = left at hosts admitted has gone
  obtain ⟨rif, dest, parsed, -, routed, -⟩ := hosts left
    (@setInterfaceAddress_same _ mockBackend ⟨"Ethernet1", "10.0.0.1/24"⟩ left _ admitted isDest has)
  have same : dest = (.v4 #v[10, 0, 0, 1], 24) := Except.ok.inj (parsed.symm.trans isDest)
  subst same
  exact not_routed_of_host_gone gone routed

end Hemlock.Routing
