import Hemlock.Routing.Transit

/-!
# A switch that is watched

The switch tells whether a call that makes something is refused, and whether a call would
remove what is still in use.  Next hops and groups are taken and given back so that
nothing in use is removed, as long as nothing is refused.
-/

namespace Hemlock.Routing

open Net Contracts RefCount OrderedMap MockSai Table
open Acl (Status)
open Switching (Oid OidMap OidSet)

structure Watched where
  mock : MockSai
  /-- A call that makes something was refused. -/
  failed : Bool := false
  /-- A call that removes something was refused. -/
  refused : Bool := false
  /-- A call was to remove something in use. -/
  broken : Bool := false

def making {Value : Type} (call : Sai MockSai Value) : Sai Watched Value := fun watched =>
  match call watched.mock with
  | .ok value mock => .ok value { watched with mock }
  | .error text mock => .error text { watched with mock, failed := true }

def removing (inUse : MockSai → Bool) (call : Sai MockSai Unit) : Sai Watched Unit := fun watched =>
  let broken := watched.broken || inUse watched.mock
  match call watched.mock with
  | .ok value mock => .ok value { watched with mock, broken }
  | .error text mock => .error text { watched with mock, broken, refused := true }

namespace MockSai

def usesNextHop (nextHop : Oid) (mock : MockSai) : Bool :=
  mock.routedTo (.nextHop nextHop) || mock.members.values.any fun member => member.2 = nextHop

def usesGroup (group : Oid) (mock : MockSai) : Bool :=
  mock.routedTo (.group group) || mock.members.values.any fun member => member.1 = group

/-- A member is in use when its group is. -/
def usesMember (member : Oid) (mock : MockSai) : Bool :=
  mock.members[member]?.any fun member => mock.routedTo (.group member.1)

end MockSai

def watchedBackend : Backend Watched where
  createRouterInterface port := making (MockSai.createRouterInterface port)
  removeRouterInterface port rif := removing (fun _ => false) (MockSai.removeRouterInterface port rif)
  createVlanRif vlan := making (MockSai.createVlanRif vlan)
  removeVlanRif rif := removing (fun _ => false) (MockSai.removeVlanRif rif)
  createRoute dest target := making (MockSai.createRoute dest target)
  removeRoute dest := removing (fun _ => false) (MockSai.removeRoute dest)
  createNeighbor rif ip mac := making (MockSai.createNeighbor rif ip mac)
  removeNeighbor rif ip := removing (fun _ => false) (MockSai.removeNeighbor rif ip)
  createNextHop rif ip := making (MockSai.createNextHop rif ip)
  removeNextHop nextHop := removing (MockSai.usesNextHop nextHop) (MockSai.removeNextHop nextHop)
  createNextHopGroup := making MockSai.createNextHopGroup
  removeNextHopGroup group := removing (MockSai.usesGroup group) (MockSai.removeNextHopGroup group)
  addNextHopGroupMember group nextHop := making (MockSai.addNextHopGroupMember group nextHop)
  removeNextHopGroupMember member :=
    removing (MockSai.usesMember member) (MockSai.removeNextHopGroupMember member)

section

variable {mock mock' : MockSai}

variable {reasons : MockSai → List (Bool × String)}

theorem MockSai.checked_ok {Value : Type} {effect : MockSai → Value × MockSai} {value : Value}
    (ran : checked reasons effect mock = .ok value mock') :
    value = (effect mock).1 ∧ mock' = (effect mock).2 := by
  unfold checked at ran
  split at ran
  · cases ran
  · cases ran
    exact ⟨rfl, rfl⟩

theorem MockSai.createRoute_ok {dest : IpPrefix} {target : RouteTarget}
    (ran : createRoute dest target mock = .ok () mock') :
    mock.routes[dest]? = none ∧ mock' = { mock with routes := mock.routes.insert dest target } := by
  unfold createRoute at ran
  split at ran
  · cases ran
  · dsimp only at ran
    split_ifs at ran with exists'
    cases ran
    exact ⟨getElem?_eq_none exists', rfl⟩

theorem MockSai.final_checked {effect : MockSai → Unit × MockSai}
    (idle : ∀ reason ∈ reasons mock, reason.1 = true → (effect mock).2 = mock) :
    final (checked reasons effect) mock = (effect mock).2 := by
  cases search : (reasons mock).find? Prod.fst with
  | none => rw [final, checked, search]
  | some reason =>
    rw [final, checked, search]
    exact (idle reason (List.mem_of_find?_eq_some search) (List.find?_some search)).symm

theorem MockSai.final_removeRoute (dest : IpPrefix) :
    final (removeRoute dest) mock = { mock with routes := mock.routes.erase dest } := by
  refine final_checked fun reason hl ha => ?_
  rw [List.mem_singleton] at hl
  subst hl
  have ha : mock.routes.contains dest = false := by simpa using ha
  rw [erase_of_absent (getElem?_eq_none_of_contains_eq_false ha)]

theorem MockSai.final_removeNextHop {nextHop : Oid} (unused : mock.usesNextHop nextHop = false) :
    final (removeNextHop nextHop) mock = { mock with nextHops := mock.nextHops.erase nextHop } := by
  obtain ⟨unrouted, noMember⟩ := Bool.or_eq_false_iff.mp unused
  refine final_checked fun reason hl holds => ?_
  simp only [List.mem_cons, List.not_mem_nil, or_false] at hl
  obtain rfl | rfl | rfl := hl
  · exact absurd holds (Bool.eq_false_iff.mp unrouted)
  · exact absurd holds (Bool.eq_false_iff.mp noMember)
  · have ha : mock.nextHops.contains nextHop = false := by simpa [lacksNextHop] using holds
    rw [erase_of_absent (getElem?_eq_none_of_contains_eq_false ha)]

theorem MockSai.final_removeMember (member : Oid) :
    final (removeNextHopGroupMember member) mock = { mock with members := mock.members.erase member } := by
  refine final_checked fun reason hl ha => ?_
  rw [List.mem_singleton] at hl
  subst hl
  have ha : mock.members.contains member = false := by simpa using ha
  rw [erase_of_absent (getElem?_eq_none_of_contains_eq_false ha)]

theorem MockSai.final_removeGroup {group : Oid} (unused : mock.usesGroup group = false) :
    final (removeNextHopGroup group) mock = { mock with groups := mock.groups.erase group } := by
  obtain ⟨unrouted, noMember⟩ := Bool.or_eq_false_iff.mp unused
  refine final_checked fun reason hl holds => ?_
  simp only [List.mem_cons, List.not_mem_nil, or_false] at hl
  obtain rfl | rfl | rfl := hl
  · exact absurd holds (Bool.eq_false_iff.mp noMember)
  · exact absurd holds (Bool.eq_false_iff.mp unrouted)
  · have ha : mock.groups.contains group = false := by simpa [lacksGroup] using holds
    have hu : mock.groups.erase group = mock.groups := by
      refine Std.ExtTreeSet.ext_mem fun other => ?_
      rw [Std.ExtTreeSet.mem_erase]
      grind
    rw [hu]

end

/-- Nothing in use was removed so far, and the interfaces are as given. -/
structure Seen (ports : NameMap PortState) (vlans : VlanMap VlanState)
    (Property : FibTable → MockSai → Prop) (w : World Watched) : Prop where
  ports : w.ports = ports
  vlans : w.vlans = vlans
  sound : w.device.broken = false
  holds : Property w.fib w.device.mock

/-- A call that makes something was refused. -/
def Spoiled (w : World Watched) : Prop := w.device.failed = true

section

variable {ports : NameMap PortState} {vlans : VlanMap VlanState} {Before After : FibTable → MockSai → Prop}
  {Failed : World Watched → Prop}

theorem Seen.mono {w : World Watched} (seen : Seen ports vlans Before w)
    (implies : ∀ fib mock, Before fib mock → After fib mock) : Seen ports vlans After w :=
  ⟨seen.ports, seen.vlans, seen.sound, implies _ _ seen.holds⟩

theorem seen_get : Contract (Seen ports vlans Before) (get : Rpc Watched _)
    (fun start => Seen ports vlans fun fib mock => start.fib = fib ∧ Before fib mock) Failed :=
  fun _ seen => ⟨seen.ports, seen.vlans, seen.sound, rfl, seen.holds⟩

variable {change : FibTable → FibTable}

theorem seen_modifyFib (changes : ∀ fib mock, Before fib mock → After (change fib) mock) :
    Contract (Seen ports vlans Before) (modifyFib change) (fun _ => Seen ports vlans After) Failed :=
  contract_modify fun _ seen => ⟨seen.ports, seen.vlans, seen.sound, changes _ _ seen.holds⟩

theorem seen_making {Value : Type} {call : Sai MockSai Value} {Made : Value → FibTable → MockSai → Prop}
    (makes : ∀ fib mock value mock', Before fib mock → call mock = .ok value mock' → Made value fib mock') :
    Contract (Seen ports vlans Before) (sai (making call)) (fun value => Seen ports vlans (Made value))
      Spoiled := by
  refine contract_lift fun w seen => ?_
  unfold making devicePart
  cases ho : call w.device.mock with
  | ok value mock' => exact ⟨seen.ports, seen.vlans, seen.sound, makes _ _ _ _ seen.holds ho⟩
  | error text mock' => exact rfl

variable {inUse : MockSai → Bool} {call : Sai MockSai Unit}

theorem seen_removing (unused : ∀ fib mock, Before fib mock → inUse mock = false)
    (removes : ∀ fib mock, Before fib mock → After fib (final call mock)) :
    Contract (Seen ports vlans Before) (sai (removing inUse call)) (fun _ => Seen ports vlans After)
      (Seen ports vlans After) := by
  refine contract_lift fun w seen => ?_
  have hi : (w.device.broken || inUse w.device.mock) = false := by
    rw [seen.sound, unused _ _ seen.holds]
    rfl
  have holds := removes _ _ seen.holds
  unfold removing devicePart
  cases ho : call w.device.mock with
  | ok value mock' =>
    rw [final_of_ok ho] at holds
    exact ⟨seen.ports, seen.vlans, hi, holds⟩
  | error text mock' =>
    rw [final_of_error ho] at holds
    exact ⟨seen.ports, seen.vlans, hi, holds⟩

theorem spoiled_removing : Keeps Spoiled (trySai (removing inUse call)) Failed := by
  refine contract_attempt (contract_lift fun w spoiled => ?_)
  unfold removing devicePart
  cases call w.device.mock <;> exact spoiled

end

section

variable {mock : MockSai}

theorem MockSai.routedTo_eq_false {target : RouteTarget}
    (unrouted : ∀ dest : IpPrefix, mock.routes[dest]? ≠ some target) : mock.routedTo target = false := by
  rw [routedTo, ← Bool.not_eq_true, List.contains_iff_mem, mem_values_iff]
  rintro ⟨dest, hr⟩
  exact unrouted dest hr

theorem MockSai.unused {target : RouteTarget} {uses : Oid × Oid → Bool}
    (unrouted : ∀ dest : IpPrefix, mock.routes[dest]? ≠ some target)
    (noMember : ∀ (hm : Oid) entry, mock.members[hm]? = some entry → ¬ uses entry) :
    (mock.routedTo target || mock.members.values.any uses) = false := by
  rw [routedTo_eq_false unrouted, Bool.false_or, List.any_eq_false]
  intro entry hl
  obtain ⟨hm, hf⟩ := mem_values_iff.mp hl
  exact noMember hm entry hf

end

section

variable {ports : NameMap PortState} {vlans : VlanMap VlanState} {own : IpPrefix → Prop}
  {hops : List HopKey} {groups : List (List Oid)} {Failed : World Watched → Prop}

theorem fibReleaseHop_transit (hop : HopKey) :
    Contract (Seen ports vlans (Transit own (hop :: hops) [] none)) (fibReleaseHop watchedBackend hop)
      (fun _ => Seen ports vlans (Transit own hops [] none)) Failed := by
  refine seen_get.bind fun start => ?_
  rcases dropped : drop hop start.fib.nextHops with ⟨gone, nextHops⟩
  cases gone with
  | none =>
    refine Contract.bind (seen_modifyFib ?_) fun _ => contract_done
    rintro fib mock ⟨rfl, ht⟩
    have kept := ht.keepHop (by rw [dropped])
    rwa [dropped] at kept
  | some oid =>
    have forgets : Contract
        (Seen ports vlans fun fib mock => start.fib = fib ∧ Transit own (hop :: hops) [] none fib mock)
        (modifyFib fun fib => { fib with nextHops })
        (fun _ => Seen ports vlans fun fib mock => mock.usesNextHop oid = false ∧
          Transit own hops [] none fib { mock with nextHops := mock.nextHops.erase oid }) Failed := by
      refine seen_modifyFib ?_
      rintro fib mock ⟨rfl, ht⟩
      have gone : (drop hop start.fib.nextHops).1 = some oid := by rw [dropped]
      obtain ⟨unrouted, noMember⟩ := ht.unused_hop gone
      have removed := ht.removeHop gone
      rw [dropped] at removed
      refine ⟨unused unrouted fun hm entry hf isHop => ?_, removed⟩
      exact noMember hm entry.1 (of_decide_eq_true isHop ▸ hf)
    refine forgets.bind fun _ => contract_attempt (seen_removing (fun _ _ freed => freed.1) ?_)
    intro fib mock freed
    rw [final_removeNextHop freed.1]
    exact freed.2

theorem releaseHops_transit (keys : List HopKey) :
    Contract (Seen ports vlans (Transit own (keys ++ hops) [] none)) (each (fibReleaseHop watchedBackend) keys)
      (fun _ => Seen ports vlans (Transit own hops [] none)) Failed :=
  contract_each (fun keys => Seen ports vlans (Transit own (keys ++ hops) [] none))
    (fun key _ => fibReleaseHop_transit key) keys

theorem unwindGroup_transit (group : Oid) (members : List Oid) :
    Contract (Seen ports vlans (Dismantling own hops groups group members))
      (unwindGroup watchedBackend group members)
      (fun _ => Seen ports vlans (Transit own hops groups none)) Failed := by
  refine Contract.bind (contract_each
    (fun rest => Seen ports vlans (Dismantling own hops groups group rest)) (fun hm rest => ?_) members)
    fun _ => ?_
  · refine contract_attempt (seen_removing (fun _ mock dismantling => ?_) fun fib mock dismantling => ?_)
    · rw [usesMember]
      cases isMember : mock.members[hm]? with
      | none => rfl
      | some entry =>
        have isGroup := dismantling.only hm List.mem_cons_self entry.1 entry.2 isMember
        rw [Option.any_some, isGroup]
        exact routedTo_eq_false dismantling.unrouted
    · rw [final_removeMember]
      exact dismantling.removeMember
  · have unused (fib : FibTable) (mock : MockSai) (dismantling : Dismantling own hops groups group [] fib mock) :
        mock.usesGroup group = false := by
      refine unused dismantling.unrouted fun hm entry hf isGroup => ?_
      obtain rfl : entry.1 = group := of_decide_eq_true isGroup
      exact List.not_mem_nil (dismantling.left hf)
    refine contract_attempt (seen_removing unused fun fib mock dismantling => ?_)
    rw [final_removeGroup (unused fib mock dismantling)]
    exact dismantling.removeGroup

theorem fibReleaseGroup_transit (key : List Oid) :
    Contract (Seen ports vlans (Transit own hops (key :: groups) none)) (fibReleaseGroup watchedBackend key)
      (fun _ => Seen ports vlans (Transit own hops groups none)) Failed := by
  refine seen_get.bind fun start => ?_
  rcases dropped : drop key start.fib.groups with ⟨gone, groups'⟩
  cases gone with
  | none =>
    refine Contract.bind (seen_modifyFib ?_) fun _ => contract_done
    rintro fib mock ⟨rfl, ht⟩
    have kept := ht.keepGroup (by rw [dropped])
    rwa [dropped] at kept
  | some group =>
    refine Contract.bind (seen_modifyFib ?_) fun _ => unwindGroup_transit group.oid group.members
    rintro fib mock ⟨rfl, ht⟩
    have dismantled := ht.dismantle (by rw [dropped])
    rwa [dropped] at dismantled

theorem fibReleaseRoute_transit (route : FibRoute) :
    Contract (Seen ports vlans (Transit own (route.hopKeys ++ hops) route.groupKey.toList none))
      (fibReleaseRoute watchedBackend route) (fun _ => Seen ports vlans (Transit own hops [] none)) Failed := by
  unfold fibReleaseRoute
  cases route.groupKey with
  | none => exact (contract_pure fun _ holds => holds).bind fun _ => releaseHops_transit _
  | some key => exact (fibReleaseGroup_transit key).bind fun _ => releaseHops_transit _

theorem releaseFree_spoiled : ReleaseFree watchedBackend Spoiled where
  nextHop _ := spoiled_removing
  member _ := spoiled_removing
  group _ := spoiled_removing
  records _ _ _ spoiled := spoiled

structure Resolving (own : IpPrefix → Prop) (resolved : Resolved) (hops : List HopKey)
    (groups : List (List Oid)) (fib : FibTable) (mock : MockSai) : Prop where
  transit : Transit own (resolved.keys ++ hops) groups none fib mock
  objects : fib.Objects resolved.keys resolved.oids

/-- All is well, or something was refused that should be made. -/
def Settled (ports : NameMap PortState) (vlans : VlanMap VlanState) (own : IpPrefix → Prop)
    (w : World Watched) : Prop :=
  Spoiled w ∨ Seen ports vlans (fun fib mock => ∃ hops, Transit own hops [] none fib mock) w

variable {resolved : Resolved}

theorem Resolving.add {fib fib' : FibTable} {mock mock' : MockSai} {hop : HopKey} {oid : Oid}
    (resolving : Resolving own resolved hops groups fib mock) (ha : hop ∉ resolved.keys)
    (transit : Transit own (hop :: (resolved.keys ++ hops)) groups none fib' mock')
    (hk : object fib'.nextHops hop = some oid)
    (hs : ∀ other ∈ resolved.keys, object fib'.nextHops other = object fib.nextHops other) :
    Resolving own (resolved.add hop oid ha) hops groups fib' mock' where
  transit := by
    refine transit.perm ?_ (List.Perm.refl _)
    rw [Resolved.add, List.append_assoc]
    exact List.perm_middle
  objects := List.rel_append (resolving.objects.congr hs) (.cons hk .nil)

theorem fibAcquireHop_transit {rif : Oid} {ip : IpAddr} (ha : (rif, ip.text) ∉ resolved.keys) :
    Contract (Seen ports vlans (Resolving own resolved hops groups)) (fibAcquireHop watchedBackend rif ip)
      (fun oid => Seen ports vlans (Resolving own (resolved.add (rif, ip.text) oid ha) hops groups))
      Spoiled := by
  refine seen_get.bind fun start => ?_
  cases hf : start.fib.nextHops[((rif, ip.text) : HopKey)]? with
  | some shared =>
    refine Contract.bind (seen_modifyFib ?_) fun _ => contract_pure fun _ holds => holds
    rintro fib mock ⟨rfl, resolving⟩
    refine resolving.add ha (resolving.transit.retainHop (mem_of_lookup hf)) ?_ fun _ _ => object_retain
    exact object_retain.trans (congrArg (Option.map Shared.object) hf)
  | none =>
    have creates : Contract
        (Seen ports vlans fun fib mock => start.fib = fib ∧ Resolving own resolved hops groups fib mock)
        (sai (watchedBackend.createNextHop rif ip))
        (fun oid => Seen ports vlans fun fib mock =>
          Resolving own (resolved.add (rif, ip.text) oid ha) hops groups
            { fib with nextHops := publish (rif, ip.text) oid fib.nextHops } mock) Spoiled := by
      refine seen_making ?_
      rintro fib mock oid mock' ⟨rfl, resolving⟩ ran
      obtain ⟨rfl, rfl⟩ := checked_ok ran
      refine resolving.add ha (resolving.transit.publishHop hf) (object_publish.trans (if_pos rfl)) ?_
      intro other hl
      have ne : (rif, ip.text) ≠ other := fun hs => ha (hs ▸ hl)
      exact object_publish.trans (if_neg ne)
    refine creates.bind fun oid => ?_
    refine Contract.bind (seen_modifyFib ?_) fun _ => contract_pure fun _ holds => holds
    exact fun _ _ resolving => resolving

theorem settled_of_release (resolved : Resolved) :
    Contract (Seen ports vlans (Resolving own resolved hops [])) (each (fibReleaseHop watchedBackend) resolved.keys)
      (fun _ => Settled ports vlans own) Failed :=
  ((releaseHops_transit resolved.keys).strengthen fun _ seen => seen.mono fun _ _ => Resolving.transit).weaken
    fun _ _ seen => .inr (seen.mono fun _ _ ht => ⟨hops, ht⟩)

theorem resolveHops_transit (requested : List NextHop) (resolved : Resolved) :
    Contract (Seen ports vlans (Resolving own resolved hops [])) (resolveHops watchedBackend requested resolved)
      (fun resolved => Seen ports vlans (Resolving own resolved hops [])) (Settled ports vlans own) := by
  induction requested generalizing resolved with
  | nil => exact contract_pure fun _ holds => holds
  | cons hop rest ih =>
    rw [resolveHops]
    cases parseIpAddr hop.ip.toList with
    | none =>
      exact contract_throw fun _ seen => .inr (seen.mono fun _ _ resolving => ⟨_, resolving.transit⟩)
    | some ip =>
      refine contract_read fun start => ?_
      cases start.rifOf hop.interface with
      | error status =>
        exact (settled_of_release resolved).bind fun _ => contract_fail
      | ok rif =>
        dsimp only
        split_ifs with hl
        · exact ih resolved
        · refine Contract.bind (Contract.failing ?_ fun _ spoiled => .inl spoiled) fun oid => ih _
          exact (fibAcquireHop_transit hl).recover (contract_each_keep releaseFree_spoiled.hop resolved.keys)

theorem addGroupMembers_transit {Extra : FibTable → Prop} {done : List Oid} (group : Oid)
    (nextHops members : List Oid) : Contract
      (Seen ports vlans fun fib mock => Building own hops groups ⟨group, members⟩ done fib mock ∧ Extra fib)
      (addGroupMembers watchedBackend group nextHops members)
      (fun members => Seen ports vlans fun fib mock =>
        Building own hops groups ⟨group, members⟩ (done ++ nextHops) fib mock ∧ Extra fib) Spoiled := by
  induction nextHops generalizing done members with
  | nil =>
    rw [List.append_nil]
    exact contract_pure fun _ holds => holds
  | cons nextHop rest ih =>
    rw [List.append_cons]
    refine Contract.bind (Contract.recover (seen_making ?_) (releaseFree_spoiled.unwind group members))
      fun hm => ih (members ++ [hm])
    rintro fib mock hm mock' ⟨building, extra⟩ ran
    obtain ⟨rfl, rfl⟩ := checked_ok ran
    exact ⟨building.addMember, extra⟩

theorem fibAcquireGroup_transit (key : List Oid) :
    Contract (Seen ports vlans (Resolving own resolved hops groups)) (fibAcquireGroup watchedBackend key)
      (fun oid => Seen ports vlans fun fib mock => Resolving own resolved hops (key :: groups) fib mock ∧
        ∃ group : FibGroup, object fib.groups key = some group ∧ group.oid = oid) Spoiled := by
  refine seen_get.bind fun start => ?_
  cases hf : start.fib.groups[key]? with
  | some shared =>
    refine Contract.bind (seen_modifyFib ?_) fun _ => contract_pure fun _ holds => holds
    rintro fib mock ⟨rfl, resolving⟩
    refine ⟨⟨resolving.transit.retainGroup (mem_of_lookup hf),
      resolving.objects⟩, shared.object, ?_, rfl⟩
    exact object_retain.trans (congrArg (Option.map Shared.object) hf)
  | none =>
    have creates : Contract
        (Seen ports vlans fun fib mock => start.fib = fib ∧ Resolving own resolved hops groups fib mock)
        (sai watchedBackend.createNextHopGroup)
        (fun group => Seen ports vlans fun fib mock =>
          Building own (resolved.keys ++ hops) groups ⟨group, []⟩ [] fib mock ∧
            fib.groups[key]? = none ∧ fib.Objects resolved.keys resolved.oids) Spoiled := by
      refine seen_making ?_
      rintro fib mock group mock' ⟨rfl, resolving⟩ ran
      obtain ⟨rfl, rfl⟩ := checked_ok ran
      exact ⟨resolving.transit.createGroup, hf, resolving.objects⟩
    refine creates.bind fun group => (addGroupMembers_transit group key []).bind fun members => ?_
    refine Contract.bind (seen_modifyFib ?_) fun _ => contract_pure fun _ holds => holds
    rintro fib mock ⟨building, ha, objects⟩
    exact ⟨⟨building.publish ha, objects⟩, ⟨group, members⟩, object_publish.trans (if_pos rfl), rfl⟩

structure Prepared (own : IpPrefix → Prop) (route : FibRoute) (target : RouteTarget) (hops : List HopKey)
    (fib : FibTable) (mock : MockSai) : Prop where
  transit : Transit own (route.hopKeys ++ hops) route.groupKey.toList none fib mock
  supports : fib.Supports route
  targets : fib.Targets route target

theorem resolveTarget_transit {req : EnsureRouteRequest}
    (direct : req.cpu = true ∨ req.drop = true → resolved.keys = [])
    (forwards : ¬ (req.cpu = true ∨ req.drop = true) → resolved.keys ≠ []) :
    Contract (Seen ports vlans (Resolving own resolved hops [])) (resolveTarget watchedBackend req resolved)
      (fun target => Seen ports vlans
        (Prepared own ⟨resolved.keys, resolved.distinct, target.2⟩ target.1 hops)) Spoiled := by
  unfold resolveTarget
  have ungrouped (key : List Oid) (isKey : none = some key) : ∀ oid ∈ key, oid ∈ resolved.oids :=
    absurd isKey.symm (Option.some_ne_none key)
  split_ifs with cpu drop
  · exact contract_pure fun _ seen => seen.mono fun _ _ resolving =>
      ⟨resolving.transit, resolving.objects.supports ungrouped, .cpu (direct (.inl cpu))⟩
  · exact contract_pure fun _ seen => seen.mono fun _ _ resolving =>
      ⟨resolving.transit, resolving.objects.supports ungrouped, .drop (direct (.inr drop))⟩
  split
  · rename_i oid single
    refine contract_pure fun _ seen => seen.mono fun fib mock resolving =>
      ⟨resolving.transit, resolving.objects.supports ungrouped, ?_⟩
    obtain ⟨hop, isHop, ho⟩ := (single ▸ resolving.objects).single
    exact .nextHop isHop ho
  · rename_i notSingle
    refine Contract.bind
      ((fibAcquireGroup_transit _).recover (contract_each_keep releaseFree_spoiled.hop resolved.keys)) fun group =>
      contract_pure fun _ seen => seen.mono ?_
    rintro fib mock ⟨resolving, hr, isGroup, rfl⟩
    have perm := List.perm_insertionSort (· ≤ ·) resolved.oids
    refine ⟨resolving.transit, resolving.objects.supports ?_, .group ?_ resolving.objects perm rfl isGroup⟩
    · rintro key isKey oid hl
      cases isKey
      exact perm.mem_iff.mp hl
    · change 2 ≤ resolved.keys.length
      have some := List.length_pos_iff.mpr (forwards fun either => either.elim cpu drop)
      have sameLength := resolving.objects.length_eq
      by_contra few
      have one : resolved.oids.length = 1 := by omega
      obtain ⟨oid, single⟩ := List.length_eq_one_iff.mp one
      exact notSingle oid single

end

end Hemlock.Routing
