import Hemlock.Routing.Watch

/-!
# The replacement of routes

Requests for transit routes, neighbors and interface addresses on a switch that is
watched.  As long as nothing is refused, nothing in use is removed, and the recorded
routes stay those of the switch, provided that requests for interface addresses keep out
of the destinations of transit routes.
-/

namespace Hemlock.Routing

open Net Contracts RefCount OrderedMap MockSai World
open Acl (Status)
open Switching (Oid OidMap OidSet)

section

variable {ports : NameMap PortState} {vlans : VlanMap VlanState} {Failed : World Watched → Prop}

theorem eraseRoute_seen {Before After : FibTable → MockSai → Prop} {text : String} {dest : IpPrefix}
    (erases : ∀ fib mock, Before fib mock → After { fib with routes := fib.routes.erase text }
      { mock with routes := mock.routes.erase dest }) :
    Contract (Seen ports vlans Before) (do
        modifyFib fun fib => { fib with routes := fib.routes.erase text }
        trySai (watchedBackend.removeRoute dest))
      (fun _ => Seen ports vlans After) Failed := by
  have forgets : Contract (Seen ports vlans Before)
      (modifyFib fun fib => { fib with routes := fib.routes.erase text })
      (fun _ => Seen ports vlans fun fib mock => After fib { mock with routes := mock.routes.erase dest })
      Failed := seen_modifyFib erases
  refine forgets.bind fun _ => contract_attempt (seen_removing (fun _ _ _ => rfl) fun fib mock holds => ?_)
  rw [final_removeRoute]
  exact holds

end

section

variable {δ : Type} {backend : Backend δ} {Property : NameMap FibRoute → Prop} {Failed : World δ → Prop}

theorem deviceFree_routes : DeviceFree fun w : World δ => Property w.fib.routes :=
  fun _ _ holds => holds

theorem releaseFree_routes : ReleaseFree backend fun w : World δ => Property w.fib.routes where
  nextHop _ := trySai_keeps deviceFree_routes _
  member _ := trySai_keeps deviceFree_routes _
  group _ := trySai_keeps deviceFree_routes _
  records _ _ _ holds := holds

theorem fibTeardownRoute_routes (text : String) :
    Contract (fun w : World δ => Property (w.fib.routes.erase text)) (fibTeardownRoute backend text)
      (fun _ w => Property w.fib.routes) Failed := by
  refine contract_get.bind fun start => ?_
  cases hf : start.fib.routes[text]? with
  | none =>
    refine contract_pure ?_
    rintro w ⟨rfl, holds⟩
    rwa [erase_of_absent hf] at holds
  | some route =>
    have forgets : Contract (fun w : World δ => start = w ∧ Property (w.fib.routes.erase text))
        (modifyFib fun fib => { fib with routes := fib.routes.erase text })
        (fun _ w => Property w.fib.routes) Failed := contract_modify fun _ holds => holds.2
    refine forgets.bind fun _ => ?_
    cases parseCidr text with
    | ok dest => exact (trySai_keeps deviceFree_routes _).bind fun _ => releaseFree_routes.route route
    | error _ => exact releaseFree_routes.route route

end

section

variable {ports : NameMap PortState} {vlans : VlanMap VlanState} {own : IpPrefix → Prop}
  {hops : List HopKey} {Failed : World Watched → Prop} {Left : NameMap FibRoute → Prop}

theorem fibTeardownRoute_transit (text : String) :
    Keeps (Seen ports vlans (Transit own hops [] none)) (fibTeardownRoute watchedBackend text) Failed := by
  refine seen_get.bind fun start => ?_
  cases hf : start.fib.routes[text]? with
  | none => exact contract_pure fun _ seen => seen.mono fun _ _ => And.right
  | some route =>
    dsimp only
    cases hp : parseCidr text with
    | ok dest =>
      rw [← bind_assoc]
      refine Contract.bind (eraseRoute_seen ?_) fun _ => fibReleaseRoute_transit route
      rintro fib mock ⟨rfl, ht⟩
      have erased := ht.eraseRoute hf hp
      rwa [List.append_nil] at erased
    | error failure =>
      intro w seen
      obtain ⟨sameFib, ht⟩ := seen.holds
      obtain ⟨dest, target, -, hp', -⟩ := ht.installed (sameFib ▸ hf)
      rw [hp] at hp'
      cases hp'

theorem MockSai.SameFib.final_checked {Value : Type} {mock : MockSai} {reasons : MockSai → List (Bool × String)}
    {effect : MockSai → Value × MockSai} (same : mock.SameFib (effect mock).2) :
    mock.SameFib (final (checked reasons effect) mock) := by
  unfold final checked
  cases (reasons mock).find? Prod.fst with
  | none => exact same
  | some reason => exact ⟨rfl, rfl, rfl, rfl, Nat.le_refl _⟩

/-- Nothing is on its way, and the recorded routes are as `Left` says. -/
abbrev Still (ports : NameMap PortState) (vlans : VlanMap VlanState) (own : IpPrefix → Prop) (hops : List HopKey)
    (Left : NameMap FibRoute → Prop) : World Watched → Prop :=
  Seen ports vlans fun fib mock => Transit own hops [] none fib mock ∧ Left fib.routes

theorem neighborFree_still : NeighborFree watchedBackend (Still ports vlans own hops Left) Spoiled where
  removes _ _ := contract_attempt (seen_removing (fun _ _ _ => rfl) fun fib mock holds =>
    ⟨holds.1.reframe (MockSai.SameFib.final_checked ⟨rfl, rfl, rfl, rfl, Nat.le_refl _⟩), holds.2⟩)
  creates _ _ _ := by
    refine seen_making fun fib mock value mock' holds ran => ?_
    obtain ⟨-, rfl⟩ := checked_ok ran
    exact ⟨holds.1.reframe ⟨rfl, rfl, rfl, rfl, Nat.le_refl _⟩, holds.2⟩
  records _ _ seen := ⟨seen.ports, seen.vlans, seen.sound,
    seen.holds.1.recount seen.holds.1.accounts.setNeighbors rfl (fun _ => rfl) fun _ => rfl, seen.holds.2⟩

/-- Routes that were there before and are not over a router interface. -/
def Survivors (rif : Oid) (before routes : NameMap FibRoute) : Prop :=
  ∀ (text : String) route, routes[text]? = some route →
    before[text]? = some route ∧ route.rides rif = false

theorem fibTeardownRif_transit {start : World Watched} (rif : Oid) :
    Contract (fun w => start = w ∧ Seen ports vlans (Transit own hops [] none) w)
      (fibTeardownRif watchedBackend rif)
      (fun _ => Still ports vlans own hops (Survivors rif start.fib.routes)) Failed := by
  refine contract_get.bind fun start' => ?_
  let Listed (texts : List String) (routes : NameMap FibRoute) : Prop :=
    ∀ (text : String) route, routes[text]? = some route →
      start.fib.routes[text]? = some route ∧ (route.rides rif = true → text ∈ texts)
  have tearsDown (texts : List String) : Contract
      (fun w => Seen ports vlans (Transit own hops [] none) w ∧ Listed texts w.fib.routes)
      (each (fibTeardownRoute watchedBackend) texts)
      (fun _ w => Seen ports vlans (Transit own hops [] none) w ∧ Listed [] w.fib.routes) Failed := by
    refine contract_each (fun rest w =>
      Seen ports vlans (Transit own hops [] none) w ∧ Listed rest w.fib.routes) ?_ texts
    intro first rest
    have both := (@fibTeardownRoute_transit ports vlans own hops Failed first).and
      (@fibTeardownRoute_routes _ watchedBackend (Listed rest) Failed first)
    refine (both.strengthen ?_).failing fun _ => And.left
    rintro w ⟨seen, hl⟩
    refine ⟨seen, fun text route hf => ?_⟩
    rw [lookup_erase] at hf
    split_ifs at hf with ne
    refine ⟨(hl text route hf).1, fun rides => ?_⟩
    exact List.mem_of_ne_of_mem (Ne.symm ne) ((hl text route hf).2 rides)
  refine Contract.bind (Contract.mono (tearsDown _) ?_ ?_ fun _ failed => failed)
    fun _ => contract_each_keep (@neighborFree_still _ _ _ _ (Survivors rif start.fib.routes)).teardown _
  · rintro w ⟨rfl, rfl, seen⟩
    refine ⟨seen, fun text route hf => ⟨hf, fun rides => ?_⟩⟩
    rw [List.mem_map]
    refine ⟨(text, route), ?_, rfl⟩
    rw [List.mem_filter, mem_toList_iff_getElem?_eq_some]
    exact ⟨hf, rides⟩
  · rintro _ w ⟨seen, hl⟩
    refine ⟨seen.ports, seen.vlans, seen.sound, seen.holds, fun text route hf => ?_⟩
    refine ⟨(hl text route hf).1, ?_⟩
    rw [← Bool.not_eq_true]
    exact fun rides => absurd ((hl text route hf).2 rides) List.not_mem_nil

theorem dropRoute_transit {dest : IpPrefix}
    (apart : ∀ fib : FibTable, Left fib.routes → fib.Unrecorded dest) :
    Contract (Still ports vlans own hops Left) (trySai (watchedBackend.removeRoute dest))
      (fun _ => Still ports vlans (fun other => own other ∧ other ≠ dest) hops Left) Failed := by
  refine contract_attempt (seen_removing (fun _ _ _ => rfl) fun fib mock holds => ?_)
  rw [final_removeRoute]
  exact ⟨holds.1.removePlain (apart fib holds.2), holds.2⟩

theorem dropRoutes_transit (dests : List IpPrefix)
    (apart : ∀ fib : FibTable, Left fib.routes → ∀ dest ∈ dests, fib.Unrecorded dest) :
    Contract (Still ports vlans own hops Left) (dropRoutes watchedBackend dests)
      (fun _ => Still ports vlans (fun dest => own dest ∧ dest ∉ dests) hops Left) Failed := by
  induction dests generalizing own with
  | nil => exact contract_pure fun _ seen => seen.mono fun _ _ holds =>
    ⟨holds.1.own_mono fun _ owned => ⟨owned, List.not_mem_nil⟩, holds.2⟩
  | cons dest rest ih =>
    refine (dropRoute_transit fun fib left => apart fib left dest List.mem_cons_self).bind fun _ => ?_
    refine Contract.weaken (ih fun fib left other hl =>
      apart fib left other (List.mem_cons_of_mem _ hl)) fun _ _ seen => seen.mono fun fib mock holds => ?_
    refine ⟨holds.1.own_mono fun other owned => ⟨owned.1.1, ?_⟩, holds.2⟩
    rw [List.mem_cons]
    exact not_or.mpr ⟨owned.1.2, owned.2⟩

theorem renewRoute_transit {dest : IpPrefix} {target : RouteTarget}
    (plain : target.Plain) (apart : ∀ fib : FibTable, Left fib.routes → fib.Unrecorded dest) :
    Contract (Still ports vlans own hops Left) (renewRoute watchedBackend dest target)
      (fun _ => Still ports vlans (fun other => own other ∨ other = dest) hops Left) Spoiled := by
  refine (dropRoute_transit apart).bind fun _ => seen_making ?_
  rintro fib mock value mock' ⟨ht, left⟩ ran
  obtain ⟨-, rfl⟩ := createRoute_ok ran
  refine ⟨(ht.insertPlain (apart fib left) plain).own_mono fun other owned => ?_, left⟩
  exact owned.imp And.left id

theorem installRoutes_transit {dest : IpPrefix} (rif : Oid)
    (apart : ∀ fib : FibTable, Left fib.routes → ∀ other ∈ destsOf dest.1 dest.2, fib.Unrecorded other) :
    Contract (Still ports vlans own hops Left) (do
        let (host, subnet) := routesFor dest.1 dest.2
        renewRoute watchedBackend host .cpu
        match subnet with
        | some subnet => renewRoute watchedBackend subnet (.rif rif)
        | none => pure ()
        return rif)
      (fun _ => Still ports vlans (fun other => own other ∨ other ∈ destsOf dest.1 dest.2) hops Left)
      Spoiled := by
  unfold destsOf at apart ⊢
  generalize routesFor dest.1 dest.2 = routes at apart ⊢
  obtain ⟨host, subnet⟩ := routes
  have renews := @renewRoute_transit ports vlans own hops Left host .cpu trivial
    fun fib left => apart fib left host List.mem_cons_self
  refine renews.bind fun _ => ?_
  cases subnet with
  | none =>
    refine contract_pure fun _ seen => seen.mono fun fib mock holds => ⟨holds.1.own_mono ?_, holds.2⟩
    exact fun other owned => owned.imp id fun hs => List.mem_singleton.mpr hs
  | some subnet =>
    have renews := @renewRoute_transit ports vlans (fun other => own other ∨ other = host) hops Left subnet
      (.rif rif) trivial fun fib left => apart fib left subnet (by simp)
    refine renews.bind fun _ => contract_pure fun _ seen => seen.mono fun fib mock holds => ?_
    refine ⟨holds.1.own_mono fun other owned => ?_, holds.2⟩
    simpa [or_assoc] using owned

theorem readdress_transit {existing : Option L3State} {create : Sai MockSai Oid}
    {dest : IpPrefix} (aloof : ∀ mock rif mock', create mock = .ok rif mock' → mock.SameFib mock')
    (apart : ∀ fib : FibTable, Left fib.routes →
      ∀ other ∈ (existing.elim [] fun old => routeDests old.address) ++ destsOf dest.1 dest.2,
        fib.Unrecorded other) : Contract (Still ports vlans own hops Left)
      (readdress watchedBackend existing (making create) dest)
      (fun _ => Still ports vlans (fun other => own other ∧ other ∉ (existing.elim [] fun old =>
        routeDests old.address) ∨ other ∈ destsOf dest.1 dest.2) hops Left) Spoiled := by
  have installs (own' : IpPrefix → Prop) (rif : Oid) := @installRoutes_transit ports vlans own' hops Left dest rif
    fun fib left other hl => apart fib left other (List.mem_append_right _ hl)
  cases existing with
  | none =>
    refine Contract.bind (seen_making ?_) fun rif => (installs own rif).weaken fun _ _ seen =>
      seen.mono fun fib mock holds => ⟨holds.1.own_mono fun other owned => ?_, holds.2⟩
    · rintro fib mock rif mock' ⟨ht, left⟩ ran
      exact ⟨ht.reframe (aloof mock rif mock' ran), left⟩
    · exact owned.imp (fun owned => ⟨owned, List.not_mem_nil⟩) id
  | some old =>
    have drops := @dropRoutes_transit ports vlans own hops Spoiled Left (routeDests old.address)
      fun fib left other hl => apart fib left other (List.mem_append_left _ hl)
    exact drops.bind fun _ => installs _ old.rif

end

/-- A destination of an address in a table of interfaces. -/
def Owns {κ State : Type} {cmp : κ → κ → Ordering} [Std.TransCmp cmp] (table : Std.ExtTreeMap κ State cmp)
    (l3 : State → Option L3State) (dest : IpPrefix) : Prop :=
  ∃ (key : κ) (state : State) (address : L3State), table[key]? = some state ∧ l3 state = some address ∧
    dest ∈ routeDests address.address

def Addressed (ports : NameMap PortState) (vlans : VlanMap VlanState) (dest : IpPrefix) : Prop :=
  Owns ports PortState.l3 dest ∨ Owns vlans VlanState.l3 dest

def Agrees (w : World Watched) : Prop :=
  Seen w.ports w.vlans
    (fun fib mock => ∃ hops, Transit (Addressed w.ports w.vlans) hops [] none fib mock) w

def Ends (w : World Watched) : Prop := Spoiled w ∨ Agrees w

def World.l3Of {δ : Type} (w : World δ) (name : String) : Option L3State :=
  match Switching.sviVlanId name with
  | some vlan => w.vlans[vlan]?.bind VlanState.l3
  | none => w.ports[name]?.bind PortState.l3

/-- Requests for interface addresses keep out of the destinations of transit routes. -/
def Apart {δ : Type} (w : World δ) : FibCall → Prop
  | .setInterfaceAddress req =>
    ∀ dest ∈ ((w.l3Of req.name).elim [] fun l3 => routeDests l3.address)
      ++ routeDests req.address, w.fib.Unrecorded dest
  | .clearInterfaceAddress name =>
    ∀ l3, w.l3Of name = some l3 → ∀ (text : String) route,
      w.fib.routes[text]? = some route → route.rides l3.rif = false →
        ∀ dest ∈ routeDests l3.address, parseCidr text ≠ .ok dest
  | _ => True

theorem ends_of_settled {w start : World Watched}
    (settled : Settled start.ports start.vlans (Addressed start.ports start.vlans) w) : Ends w := by
  refine settled.imp id fun seen => ?_
  refine ⟨rfl, rfl, seen.sound, ?_⟩
  rw [seen.ports, seen.vlans]
  exact seen.holds

theorem argument_eq_ok {Value : Type} {ho : Except String Value} {value : Value} :
    argument ho = .ok value ↔ ho = .ok value := by
  cases ho <;> simp [argument, Except.mapError]

theorem one_target {cpu drop : Bool} {nextHops : List NextHop}
    (one : ¬ ([cpu, drop, !nextHops.isEmpty].filter id).length ≠ 1) :
    cpu = true ∨ drop = true ↔ nextHops = [] := by
  cases nextHops <;> cases cpu <;> cases drop <;> simp at one ⊢

theorem EnsureRouteRequest.check_ok {caps : Capabilities} {req : EnsureRouteRequest}
    {dest : IpPrefix} (hc : req.check caps = .ok dest) :
    requireCanonicalPrefix req.cidr = .ok req.cidr ∧ parseCidr req.cidr = .ok dest ∧
      (req.cpu = true ∨ req.drop = true ↔ req.nextHops = []) := by
  unfold EnsureRouteRequest.check at hc
  cases canonical : argument (requireCanonicalPrefix req.cidr) with
  | error failure =>
    rw [canonical] at hc
    cases hc
  | ok text =>
    rw [canonical] at hc
    change (argument (parseCidr text) >>= _) = _ at hc
    cases hp : argument (parseCidr text) with
    | error failure =>
      rw [hp] at hc
      cases hc
    | ok dest' =>
      rw [hp] at hc
      rw [argument_eq_ok] at canonical hp
      cases (requireCanonicalPrefix_eq_ok.mp canonical).1
      simp only [bind, Except.bind, Switching.requireCapability] at hc
      split_ifs at hc with _ _ one <;> cases hc
      all_goals exact ⟨canonical, hp, one_target ‹_›⟩

section

variable {ports : NameMap PortState} {vlans : VlanMap VlanState} {own : IpPrefix → Prop}
  {hops : List HopKey} {text : String} {dest : IpPrefix} {target : RouteTarget} {route : FibRoute}
  {old : Option FibRoute} {Failed : World Watched → Prop}

/-- The references of a route that there may have been. -/
abbrev oldHops (old : Option FibRoute) : List HopKey := old.elim [] FibRoute.hopKeys
abbrev oldGroups (old : Option FibRoute) : List (List Oid) := old.elim [] fun route => route.groupKey.toList

/-- The old route is gone, and the new one can come. -/
structure Exchanged (own : IpPrefix → Prop) (old : Option FibRoute) (text : String) (route : FibRoute)
    (target : RouteTarget) (hops : List HopKey) (fib : FibTable) (mock : MockSai) : Prop where
  transit : Transit own (route.hopKeys ++ (oldHops old ++ hops)) (route.groupKey.toList ++ oldGroups old)
    none fib mock
  supports : fib.Supports route
  targets : fib.Targets route target
  absent : fib.routes[text]? = none

theorem forgetRoute_transit {start : World Watched} (hp : parseCidr text = .ok dest) : Contract
      (Seen ports vlans fun fib mock => start.fib = fib ∧ Prepared own route target hops fib mock)
      (do
        modifyFib fun fib => { fib with routes := fib.routes.erase text }
        if start.fib.routes[text]?.isSome then trySai (watchedBackend.removeRoute dest))
      (fun _ => Seen ports vlans (Exchanged own start.fib.routes[text]? text route target hops)) Failed := by
  cases hf : start.fib.routes[text]? with
  | none =>
    refine Contract.bind (seen_modifyFib ?_) fun _ => contract_done
    rintro fib mock ⟨rfl, prepared⟩
    rw [erase_of_absent hf]
    exact ⟨prepared.transit.perm (List.Perm.refl _) (.of_eq (List.append_nil _)), prepared.supports,
      prepared.targets, hf⟩
  | some old =>
    refine eraseRoute_seen ?_
    rintro fib mock ⟨rfl, prepared⟩
    refine ⟨(prepared.transit.eraseRoute hf hp).perm ?_ List.perm_append_comm, prepared.supports,
      prepared.targets.congr (fun _ _ => rfl) fun _ _ => rfl, getElem?_erase_self⟩
    exact List.perm_append_comm_assoc _ _ _

theorem releaseOld_transit (old : Option FibRoute) :
    Contract (Seen ports vlans (Transit own (oldHops old ++ hops) (oldGroups old) none)) (match old with
        | some old => fibReleaseRoute watchedBackend old
        | none => return)
      (fun _ => Seen ports vlans (Transit own hops [] none)) Failed := by
  cases old with
  | none => exact contract_done
  | some old => exact fibReleaseRoute_transit old

theorem releaseOld_spoiled (old : Option FibRoute) : Keeps Spoiled
      (match old with
        | some old => fibReleaseRoute watchedBackend old
        | none => return) Failed := by
  cases old with
  | none => exact contract_done
  | some old => exact releaseFree_spoiled.route old

theorem replaceRoute_transit (canonical : requireCanonicalPrefix text = .ok text)
    (hp : parseCidr text = .ok dest) : Contract (Seen ports vlans (Prepared own route target hops))
      (replaceRoute watchedBackend text dest target route)
      (fun _ => Seen ports vlans (Transit own hops [] none)) Spoiled := by
  refine seen_get.bind fun start => ?_
  have forgets := @forgetRoute_transit ports vlans own hops text dest target route Spoiled start hp
  generalize start.fib.routes[text]? = old at forgets ⊢
  have installs : Contract (Seen ports vlans (Exchanged own old text route target hops))
      (recover (sai (watchedBackend.createRoute dest target)) do
        fibReleaseRoute watchedBackend route
        match old with
        | some old => fibReleaseRoute watchedBackend old
        | none => return)
      (fun _ => Seen ports vlans fun fib mock => Transit own (oldHops old ++ hops) (oldGroups old) none
        { fib with routes := fib.routes.insert text route } mock) Spoiled := by
    refine Contract.recover (seen_making ?_)
      ((releaseFree_spoiled.route route).bind fun _ => releaseOld_spoiled old)
    intro fib mock value mock' exchanged ran
    obtain ⟨free, rfl⟩ := createRoute_ok ran
    exact exchanged.transit.insertRoute exchanged.absent exchanged.supports canonical hp
      exchanged.targets free
  have records : Contract
      (Seen ports vlans fun fib mock => Transit own (oldHops old ++ hops) (oldGroups old) none
        { fib with routes := fib.routes.insert text route } mock)
      (modifyFib fun fib => { fib with routes := fib.routes.insert text route })
      (fun _ => Seen ports vlans (Transit own (oldHops old ++ hops) (oldGroups old) none)) Spoiled :=
    seen_modifyFib fun _ _ ht => ht
  have whole := forgets.bind fun _ => installs.bind fun _ => records.bind fun _ => releaseOld_transit old
  cases old with
  | none | some old => exact whole

end

section

variable {caps : Capabilities} {start : World Watched}

theorem Agrees.ends (hi : Agrees start) (w : World Watched) (isStart : w = start) : Ends w :=
  .inr (isStart ▸ hi)

theorem settle_ends {Value : Type} (hi : Agrees start) (ho : Except Status Value) :
    Contract (fun w => w = start) (settle ho : Rpc Watched Value)
      (fun value w => w = start ∧ ho = .ok value) Ends :=
  contract_settle (fun _ isValue _ isStart => ⟨isStart, isValue⟩) hi.ends

/-- The tables of interfaces are the first ones, and nothing is on its way. -/
abbrev Steady (start : World Watched) (hops : List HopKey) : World Watched → Prop :=
  Seen start.ports start.vlans (Transit (Addressed start.ports start.vlans) hops [] none)

theorem Agrees.transit (hi : Agrees start) : ∃ hops, ∀ w, w = start → Steady start hops w := by
  obtain ⟨hops, ht⟩ := hi.holds
  refine ⟨hops, ?_⟩
  rintro w rfl
  exact ⟨rfl, rfl, hi.sound, ht⟩

variable {w : World Watched}

theorem ends_of_transit {hops : List HopKey} (seen : Steady start hops w) : Ends w :=
  ends_of_settled (.inr (seen.mono fun _ _ ht => ⟨hops, ht⟩))

variable {δ : Type}

theorem resolveHops_none {backend : Backend δ} (requested : List NextHop) :
    Contract (fun _ => True) (resolveHops backend requested {})
      (fun hf _ => requested = [] ↔ hf.keys = []) fun _ => True := by
  cases requested with
  | nil => exact contract_pure fun _ _ => iff_of_true rfl rfl
  | cons hop rest =>
    exact (resolveHops_keys (hop :: rest) {}).weaken fun hf _ keys =>
      iff_of_false (List.cons_ne_nil _ _) (keys.2 (List.cons_ne_nil _ _))

variable (hi : Agrees start)
include hi

theorem ensureRoute_ends (req : EnsureRouteRequest) :
    Contract (fun w => w = start) (ensureRoute watchedBackend caps req) (fun _ => Ends) Ends := by
  refine (settle_ends hi _).bind fun dest => contract_fact fun hc => ?_
  obtain ⟨canonical, hp, direct⟩ := EnsureRouteRequest.check_ok hc
  obtain ⟨hops, seen⟩ := hi.transit
  have resolves := Contract.and
    (@resolveHops_transit start.ports start.vlans (Addressed start.ports start.vlans) hops req.nextHops {})
    (resolveHops_none req.nextHops)
  refine Contract.bind (resolves.mono (fun w isStart => ⟨(seen w isStart).mono ?_, trivial⟩)
    (fun _ _ both => both) fun _ settled => ends_of_settled settled.1)
    fun resolved => contract_fact fun none => ?_
  · exact fun _ _ ht => ⟨ht, .nil⟩
  refine Contract.bind (Contract.failing (resolveTarget_transit (fun either => none.mp (direct.mp either))
    fun neither noKeys => neither (direct.mpr (none.mpr noKeys))) fun _ => .inl) ?_
  rintro ⟨target, groupKey⟩
  exact Contract.mono (replaceRoute_transit canonical hp) (fun _ prepared => prepared)
    (fun _ _ => ends_of_transit) fun _ => .inl

theorem removeRoute_ends (cidr : String) :
    Contract (fun w => w = start) (removeRoute watchedBackend cidr) (fun _ => Ends) Ends := by
  obtain ⟨hops, seen⟩ := hi.transit
  refine (settle_ends hi _).bind fun text => ?_
  refine Contract.mono (fibTeardownRoute_transit text) (fun w isStart => seen w isStart.1)
    (fun _ _ => ends_of_transit) fun _ ends => ends

/-- Nothing is on its way, and nothing is asked about the recorded routes. -/
theorem Agrees.neighbors : ∃ hops,
    (∀ w, w = start → Still start.ports start.vlans (Addressed start.ports start.vlans) hops (fun _ => True) w) ∧
      ∀ w, Still start.ports start.vlans (Addressed start.ports start.vlans) hops (fun _ => True) w → Ends w := by
  obtain ⟨hops, seen⟩ := hi.transit
  exact ⟨hops, fun w isStart => (seen w isStart).mono fun _ _ ht => ⟨ht, trivial⟩,
    fun w seen => ends_of_transit (seen.mono fun _ _ => And.left)⟩

theorem removeNeighbor_ends (iface ip : String) :
    Contract (fun w => w = start) (removeNeighbor watchedBackend iface ip) (fun _ => Ends) Ends := by
  obtain ⟨hops, seen, ends⟩ := hi.neighbors
  exact (neighborFree_still.teardown (iface, ip)).mono seen (fun _ => ends) fun _ ends => ends

theorem ensureNeighbor_ends (req : EnsureNeighborRequest) :
    Contract (fun w => w = start) (ensureNeighbor watchedBackend caps req) (fun _ => Ends) Ends := by
  obtain ⟨hops, seen, ends⟩ := hi.neighbors
  exact (neighborFree_still.ensure ends (fun _ => .inl) caps req).mono seen (fun _ => ends) fun _ ends => ends

omit hi

theorem l3Of_eq {w : World δ} {name : String} : w.l3Of name = w.l3At (interfaceOf name) := by
  unfold l3Of interfaceOf
  cases Switching.sviVlanId name <;> rfl

theorem addressed_iff {w : World δ} {dest : IpPrefix} : Addressed w.ports w.vlans dest ↔
    ∃ iface l3, w.l3At iface = some l3 ∧ dest ∈ routeDests l3.address := by
  constructor
  · rintro (⟨name, port, l3, hf, isL3, hl⟩ | ⟨id, state, l3, hf, isL3, hl⟩)
    · exact ⟨.port name, l3, by rwa [l3At, hf], hl⟩
    · exact ⟨.vlan id, l3, by rwa [l3At, hf], hl⟩
  · rintro ⟨name | id, l3, hf, hl⟩
    · obtain ⟨port, hk, isL3⟩ := Option.bind_eq_some_iff.mp hf
      exact .inl ⟨name, port, l3, hk, isL3, hl⟩
    · obtain ⟨state, hk, isL3⟩ := Option.bind_eq_some_iff.mp hf
      exact .inr ⟨id, state, l3, hk, isL3, hl⟩

variable {iface : Interface} {l3 : Option L3State}

theorem Readdressed.addressed {w w' : World δ} {dest : IpPrefix} (readdressed : Readdressed w w' iface l3)
    (owned : Addressed w.ports w.vlans dest ∧ dest ∉ oldDests (w.l3At iface) ∨ dest ∈ oldDests l3) :
    Addressed w'.ports w'.vlans dest := by
  rw [addressed_iff] at owned ⊢
  rcases owned with ⟨⟨other, l3', hf, hl⟩, notHere⟩ | hl
  · refine ⟨other, l3', ?_, hl⟩
    rw [readdressed.elsewhere, hf]
    rintro rfl
    rw [hf] at notHere
    exact notHere hl
  · cases l3 with
    | none => cases hl
    | some l3 => exact ⟨iface, l3, readdressed.here, hl⟩

/-- The other routes of the switch are those of the addresses, when one interface has another one. -/
theorem ends_of_readdressed {after after' : World Watched}
    (seen : Seen start.ports start.vlans (fun fib mock => ∃ hops,
      Transit (fun dest => Addressed start.ports start.vlans dest ∧ dest ∉ oldDests (start.l3At iface) ∨
        dest ∈ oldDests l3) hops [] none fib mock) after)
    (readdressed : Readdressed after after' iface l3) (device : after'.device = after.device) : Ends after' := by
  obtain ⟨hops, ht⟩ := seen.holds
  have same : after.l3At iface = start.l3At iface := by
    unfold l3At
    rw [seen.ports, seen.vlans]
  refine .inr ⟨rfl, rfl, by rw [device, seen.sound], hops, ?_⟩
  rw [readdressed.fib, device]
  exact ht.own_mono fun dest owned => readdressed.addressed (by rwa [seen.ports, seen.vlans, same])

theorem creates_watched (ha : w.admits iface = true) :
    ∃ create : Sai MockSai Oid, w.creates watchedBackend iface = making create ∧
      ∀ mock rif mock', create mock = .ok rif mock' → mock.SameFib mock' := by
  cases iface with
  | port name =>
    obtain ⟨port, hk, -⟩ := Option.any_eq_true _ _ |>.mp ha
    refine ⟨createRouterInterface port.saiId, by rw [creates, hk]; rfl, fun mock rif mock' ran => ?_⟩
    obtain ⟨-, rfl⟩ := checked_ok ran
    exact ⟨rfl, rfl, rfl, rfl, Nat.le_succ _⟩
  | vlan id =>
    refine ⟨createVlanRif (w.vlans[id]?.bind VlanState.oid), rfl, fun mock rif mock' ran => ?_⟩
    obtain ⟨-, rfl⟩ := checked_ok ran
    exact ⟨rfl, rfl, rfl, rfl, Nat.le_succ _⟩

theorem removes_watched {l3 : L3State} (hf : w.l3At iface = some l3) :
    ∃ call : Sai MockSai Unit, w.removes watchedBackend l3.rif iface = removing (fun _ => false) call ∧
      ∀ mock : MockSai, mock.SameFib (final call mock) := by
  have same (mock : MockSai) := @MockSai.SameFib.final_checked Unit mock
  cases iface with
  | port name =>
    obtain ⟨port, hk, -⟩ := Option.bind_eq_some_iff.mp hf
    refine ⟨removeRouterInterface port.saiId l3.rif, by rw [removes, hk]; rfl, fun mock => ?_⟩
    exact same mock ⟨rfl, rfl, rfl, rfl, Nat.le_refl _⟩
  | vlan id => exact ⟨_, rfl, fun mock => same mock ⟨rfl, rfl, rfl, rfl, Nat.le_refl _⟩⟩

theorem teardownL3_ends {call : Sai MockSai Unit} (hi : Agrees start) (l3 : L3State)
    (apart : ∀ (text : String) route, start.fib.routes[text]? = some route →
      route.rides l3.rif = false → ∀ dest ∈ routeDests l3.address, parseCidr text ≠ .ok dest)
    (aloof : ∀ mock : MockSai, mock.SameFib (final call mock)) :
    Contract (fun w => w = start) (teardownL3 watchedBackend l3 (removing (fun _ => false) call))
      (fun _ => Seen start.ports start.vlans fun fib mock => ∃ hops,
        Transit (fun dest => Addressed start.ports start.vlans dest ∧ dest ∉ routeDests l3.address)
          hops [] none fib mock) Ends := by
  obtain ⟨hops, seen⟩ := hi.transit
  have tears := @fibTeardownRif_transit start.ports start.vlans (Addressed start.ports start.vlans) hops Ends
    start l3.rif
  refine Contract.bind (tears.strengthen fun w isStart => ⟨isStart.symm, seen w isStart⟩) fun _ => ?_
  refine Contract.bind (dropRoutes_transit (routeDests l3.address) ?_) fun _ => ?_
  · intro fib survivors dest hl text route hf
    obtain ⟨hr, notRides⟩ := survivors text route hf
    exact apart text route hr notRides dest hl
  · refine Contract.failing (seen_removing (fun _ _ _ => rfl) fun fib mock holds => ?_) fun w seen => ?_
    · exact ⟨hops, holds.1.reframe (aloof mock)⟩
    · refine ends_of_settled (.inr (seen.mono ?_))
      rintro fib mock ⟨hops, ht⟩
      exact ⟨hops, ht.own_mono fun _ => And.left⟩

theorem clearInterfaceAddress_ends (hi : Agrees start) (name : String)
    (apart : Apart start (.clearInterfaceAddress name)) :
    Contract (fun w => w = start) (clearInterfaceAddress watchedBackend name) (fun _ => Ends) Ends := by
  refine contract_clearInterfaceAddress hi.ends (fun w isStart _ => hi.ends w isStart) ?_
  rintro w l3 rfl hf
  obtain ⟨call, isCall, aloof⟩ := removes_watched hf
  rw [isCall]
  refine (teardownL3_ends hi l3 (apart l3 (l3Of_eq.trans hf)) aloof).bind fun _ => contract_modify fun after seen => ?_
  refine ends_of_readdressed (seen.mono ?_) readdressed_unrecord (by cases interfaceOf name <;> rfl)
  rintro fib mock ⟨hops, ht⟩
  exact ⟨hops, ht.own_mono fun dest owned => .inl (by rwa [hf])⟩

theorem routeDests_of_parsed {address : String} {dest : IpPrefix} (hp : parseCidr address = .ok dest) :
    routeDests address = destsOf dest.1 dest.2 := by
  rw [routeDests, hp]

theorem readdress_ends {create : Sai MockSai Oid} {existing : Option L3State} {address : String} {dest : IpPrefix}
    (hi : Agrees start) (apart : ∀ dest ∈ oldDests existing ++ routeDests address, start.fib.Unrecorded dest)
    (hp : parseCidr address = .ok dest)
    (aloof : ∀ mock rif mock', create mock = .ok rif mock' → mock.SameFib mock') :
    Contract (fun w => w = start) (readdress watchedBackend existing (making create) dest)
      (fun _ => Seen start.ports start.vlans fun fib mock => ∃ hops,
        Transit (fun dest => Addressed start.ports start.vlans dest ∧ dest ∉ oldDests existing ∨
          dest ∈ routeDests address) hops [] none fib mock) Ends := by
  obtain ⟨hops, seen⟩ := hi.transit
  have readdresses := @readdress_transit start.ports start.vlans (Addressed start.ports start.vlans) hops
    (fun routes => routes = start.fib.routes) existing create dest aloof ?_
  · refine readdresses.mono (fun w isStart => ?_) (fun _ _ seen => seen.mono fun _ _ holds => ?_)
      fun _ => .inl
    · have steady := seen w isStart
      exact ⟨steady.ports, steady.vlans, steady.sound, steady.holds, isStart ▸ rfl⟩
    · rw [routeDests_of_parsed hp]
      exact ⟨hops, holds.1⟩
  · intro fib sameRoutes other hl text route hf
    rw [← routeDests_of_parsed hp] at hl
    exact apart other hl text route (sameRoutes ▸ hf)

theorem setInterfaceAddress_ends (hi : Agrees start) (req : SetInterfaceAddressRequest)
    (apart : Apart start (.setInterfaceAddress req)) :
    Contract (fun w => w = start) (setInterfaceAddress watchedBackend req) (fun _ => Ends) Ends := by
  refine contract_setInterfaceAddress hi.ends (fun w _ isStart _ _ _ => hi.ends w isStart) ?_
  rintro w dest rfl ha hp -
  obtain ⟨create, isCreate, aloof⟩ := creates_watched ha
  rw [isCreate]
  have readdresses := @readdress_ends w create (w.l3At (interfaceOf req.name)) req.address dest hi
    (by rw [← l3Of_eq]; exact apart) hp aloof
  refine readdresses.bind fun rif => contract_modify fun after seen => ?_
  refine ends_of_readdressed seen (readdressed_record ?_) (by cases interfaceOf req.name <;> rfl)
  unfold admits at ha ⊢
  rwa [seen.ports, seen.vlans]

end

/-- Nothing in use was removed; the recorded routes are in the switch, and the other routes
there are those of interface addresses. -/
structure Mirrored (w : World Watched) : Prop where
  unbroken : w.device.broken = false
  installed : ∀ (text : String) route, w.fib.routes[text]? = some route →
    ∃ (dest : IpPrefix) (target : RouteTarget), parseCidr text = .ok dest ∧
      w.device.mock.routes[dest]? = some target ∧ w.device.mock.LeadsTo route.hopKeys target
  recorded : ∀ (dest : IpPrefix) target, w.device.mock.routes[dest]? = some target →
    (∃ text : String, ∃ route, w.fib.routes[text]? = some route ∧ parseCidr text = .ok dest) ∨
      Addressed w.ports w.vlans dest ∧ target.Plain

theorem Agrees.mirrored {w : World Watched} (hi : Agrees w) : Mirrored w := by
  obtain ⟨hops, ht⟩ := hi.holds
  refine ⟨hi.sound, fun text route hf => ?_, fun dest target => ht.recorded⟩
  obtain ⟨dest, target, -, hp, hr, targets⟩ := ht.installed hf
  exact ⟨dest, target, hp, hr, ht.leadsTo targets⟩

/-- No transit route was ever there; interfaces may have addresses. -/
structure Untraversed (w : World Watched) : Prop where
  fib : w.fib = {}
  nextHops : w.device.mock.nextHops = ∅
  groups : w.device.mock.groups = ∅
  members : w.device.mock.members = ∅
  mirrored : Mirrored w

theorem Untraversed.agrees {w : World Watched} (untraversed : Untraversed w) : Agrees w := by
  refine ⟨rfl, rfl, untraversed.mirrored.unbroken, [], ?_⟩
  have hr := untraversed.mirrored.recorded
  rw [untraversed.fib] at hr ⊢
  refine ⟨accounts_empty, ⟨?_, ?_, ?_⟩, ?_, ?_, ?_, ?_, ?_, hr _ _⟩
  · rw [untraversed.nextHops]
    exact fun hk => absurd hk Std.ExtTreeMap.not_mem_empty
  · rw [untraversed.groups]
    exact fun hk => absurd hk Std.ExtTreeSet.not_mem_empty
  · rw [untraversed.members]
    exact fun hk => absurd hk Std.ExtTreeMap.not_mem_empty
  · intro hop oid ho
    cases ho
  · intro key group isGroup
    cases isGroup
  · intro key key' group group' isGroup
    cases isGroup
  · intro hm group nextHop isMember
    rw [untraversed.members] at isMember
    cases isMember
  · intro text route hf
    cases hf

/-- What a step must be: nothing that should be made is refused, and interface addresses
keep out of the destinations of transit routes. -/
def Orderly (caps : Capabilities) (w : World Watched) (call : FibCall) : Prop :=
  (final (call.program watchedBackend caps) w).device.failed = false ∧ Apart w call

theorem agrees_next {caps : Capabilities} {w : World Watched} {call : FibCall}
    (hi : Agrees w) (orderly : Orderly caps w call) :
    Agrees (final (call.program watchedBackend caps) w) := by
  have ends : Ends (final (call.program watchedBackend caps) w) := by
    cases call with
    | ensureRoute req => exact (ensureRoute_ends hi req).final rfl
    | removeRoute cidr => exact (removeRoute_ends hi cidr).final rfl
    | ensureNeighbor req => exact (ensureNeighbor_ends hi req).final rfl
    | removeNeighbor iface ip => exact (removeNeighbor_ends hi iface ip).final rfl
    | setInterfaceAddress req => exact (setInterfaceAddress_ends hi req orderly.2).final rfl
    | clearInterfaceAddress name => exact (clearInterfaceAddress_ends hi name orderly.2).final rfl
  refine ends.resolve_left fun spoiled => ?_
  rw [Spoiled, orderly.1] at spoiled
  cases spoiled

theorem mirrored_of_orderly (caps : Capabilities) (start : World Watched)
    (untraversed : Untraversed start) (calls : List FibCall)
    (orderly : (fibMachine watchedBackend caps start).Throughout (Orderly caps) calls) :
    (fibMachine watchedBackend caps start).Always Mirrored calls := by
  have agrees := Machine.always_of_throughout untraversed.agrees
    (fun w call agrees orderly => agrees_next agrees orderly) calls orderly
  exact fun before after split => (agrees before after split).mirrored

def twoPorts : World Watched where
  ports := ((∅ : NameMap PortState).insert "Ethernet1" { saiId := 1 }).insert "Ethernet2" { saiId := 2 }
  device := { mock := { ports := ((∅ : OidSet).insert 1).insert 2 } }

theorem untraversed_twoPorts : Untraversed twoPorts where
  fib := rfl
  nextHops := rfl
  groups := rfl
  members := rfl
  mirrored := by
    refine ⟨rfl, fun text route hf => ?_, fun dest target hr => ?_⟩
    · rw [show twoPorts.fib.routes = ∅ from rfl] at hf
      cases hf
    · rw [show twoPorts.device.mock.routes = ∅ from rfl] at hr
      cases hr

/-- A route over an interface address is replaced by one that drops, and all of it is taken
back. -/
def transitCalls : List FibCall :=
  [.setInterfaceAddress ⟨"Ethernet1", "10.0.0.1/24"⟩] ++
    [.ensureRoute { cidr := "10.1.0.0/16", nextHops := [⟨"Ethernet1", "10.0.0.2"⟩] }] ++
    [.ensureRoute { cidr := "10.1.0.0/16", drop := true }] ++ [.removeRoute "10.1.0.0/16"] ++
    [.clearInterfaceAddress "Ethernet1"]

theorem apart_of_isEmpty {w : World Watched} {call : FibCall} (none : w.fib.routes.isEmpty = true) :
    Apart w call := by
  rw [Std.ExtTreeMap.isEmpty_iff] at none
  cases call with
  | setInterfaceAddress req =>
    intro dest _ text route hf
    rw [none] at hf
    cases hf
  | clearInterfaceAddress name =>
    intro l3 _ text route hf
    rw [none] at hf
    cases hf
  | _ => trivial

theorem orderly_transitCalls :
    (fibMachine watchedBackend {} twoPorts).Throughout (Orderly {}) transitCalls := by
  rw [← List.nil_append transitCalls]
  simp only [transitCalls, ← List.append_assoc, Machine.throughout_concat]
  refine ⟨⟨⟨⟨⟨Machine.throughout_nil _ _, ?_, apart_of_isEmpty ?_⟩, ?_, trivial⟩, ?_, trivial⟩, ?_, trivial⟩,
    ?_, apart_of_isEmpty ?_⟩
  all_goals decide +kernel

theorem mirrored_of_orderly_twoPorts :
    (fibMachine watchedBackend {} twoPorts).Always Mirrored transitCalls :=
  mirrored_of_orderly {} twoPorts untraversed_twoPorts transitCalls orderly_transitCalls

/-- Two interfaces in one network, with nothing refused yet. -/
def overlapping : World Watched :=
  let w := (fibMachine watchedBackend {} twoPorts).run
    [.setInterfaceAddress ⟨"Ethernet1", "10.0.0.1/24"⟩, .setInterfaceAddress ⟨"Ethernet2", "10.0.0.2/24"⟩]
  { w with device := { w.device with refused := false } }

/-- The first interface takes the route of the network with it; a transit route takes the
place, and the second interface takes it away. -/
def overlapCalls : List FibCall :=
  [.clearInterfaceAddress "Ethernet1", .ensureRoute { cidr := "10.0.0.0/24", drop := true },
    .clearInterfaceAddress "Ethernet2"]

theorem overlap_drops_route :
    ((fibMachine watchedBackend {} overlapping).run overlapCalls).device.failed = false ∧
      ((fibMachine watchedBackend {} overlapping).run overlapCalls).device.refused = false ∧
      ¬ (fibMachine watchedBackend {} overlapping).Always Mirrored overlapCalls := by
  refine ⟨by decide +kernel, by decide +kernel, fun always => ?_⟩
  have mirrored := always overlapCalls [] (List.append_nil _).symm
  have isRecorded : ((fibMachine watchedBackend {} overlapping).run overlapCalls).fib.routes[
      "10.0.0.0/24"]?.isSome := by decide +kernel
  have isGone : ((fibMachine watchedBackend {} overlapping).run overlapCalls).device.mock.routes[
      ((.v4 #v[10, 0, 0, 0], 24) : IpPrefix)]? = none := by decide +kernel
  obtain ⟨route, found⟩ := Option.isSome_iff_exists.mp isRecorded
  obtain ⟨dest, target, parsed, routed, -⟩ := mirrored.installed _ _ found
  have isDest : parseCidr "10.0.0.0/24" = .ok (.v4 #v[10, 0, 0, 0], 24) := by decide +kernel
  rw [isDest] at parsed
  cases parsed
  rw [isGone] at routed
  cases routed

end Hemlock.Routing
