import Hemlock.Routing.References

/-!
# Recorded routes and the routes of the switch

Each recorded route is a route of the switch and leads to what its next hops stand for:
to nothing but the processor or the void without any, to the one next hop, or to the group
of several.  The other routes of the switch are those of interface addresses.
-/

namespace Hemlock.Routing

open Net Contracts RefCount OrderedMap Table
open Switching (Oid OidMap OidSet)

/-- What the routes of an interface address lead to. -/
def RouteTarget.Plain : RouteTarget → Prop
  | .cpu => True
  | .rif _ => True
  | _ => False

/-- What a recorded route stands for. -/
inductive FibTable.Targets (fib : FibTable) (route : FibRoute) : RouteTarget → Prop
  | cpu : route.hopKeys = [] → fib.Targets route .cpu
  | drop : route.hopKeys = [] → fib.Targets route .drop
  | nextHop {hop : HopKey} {oid : Oid} : route.hopKeys = [hop] →
      Table.object fib.nextHops hop = some oid → fib.Targets route (.nextHop oid)
  | group {oids key : List Oid} {group : FibGroup} : 2 ≤ route.hopKeys.length →
      fib.Objects route.hopKeys oids → key.Perm oids → route.groupKey = some key →
      Table.object fib.groups key = some group → fib.Targets route (.group group.oid)

/-- Objects are numbered as they are made. -/
structure MockSai.Numbered (mock : MockSai) : Prop where
  nextHops : ∀ {oid : Oid}, oid ∈ mock.nextHops → oid < mock.next
  groups : ∀ {oid : Oid}, oid ∈ mock.groups → oid < mock.next
  members : ∀ {oid : Oid}, oid ∈ mock.members → oid < mock.next

structure MockSai.SameFib (mock mock' : MockSai) : Prop where
  routes : mock'.routes = mock.routes
  nextHops : mock'.nextHops = mock.nextHops
  groups : mock'.groups = mock.groups
  members : mock'.members = mock.members
  next : mock.next ≤ mock'.next

/-- A group with one member for each of some next hops. -/
structure Built (known : OidSet) (members : OidMap (Oid × Oid)) (group : FibGroup) (nextHops : List Oid) :
    Prop where
  known : group.oid ∈ known
  length : group.members.length = nextHops.length
  members : ∀ member nextHop, members[member]? = some (group.oid, nextHop) ↔
    (member, nextHop) ∈ group.members.zip nextHops

/-- The tables and the switch agree, up to references that a request holds and a group
that it makes or takes apart.  Routes of the switch that are not recorded are owned by
interface addresses. -/
structure Transit (own : IpPrefix → Prop) (hops : List HopKey) (groups : List (List Oid))
    (stray : Option Oid) (fib : FibTable) (mock : MockSai) : Prop where
  accounts : fib.Accounts hops groups
  numbered : mock.Numbered
  nextHops : ∀ {hop : HopKey} {oid : Oid}, Table.object fib.nextHops hop = some oid →
    ∃ ip : IpAddr, mock.nextHops[oid]? = some (hop.1, ip) ∧ ip.text = hop.2
  built : ∀ {key : List Oid} {group : FibGroup}, Table.object fib.groups key = some group →
    Built mock.groups mock.members group key ∧ stray ≠ some group.oid
  unique : ∀ {key key' : List Oid} {group group' : FibGroup}, Table.object fib.groups key = some group →
    Table.object fib.groups key' = some group' → group.oid = group'.oid → key = key'
  members : ∀ {member group nextHop : Oid}, mock.members[member]? = some (group, nextHop) →
    (∃ (key : List Oid) (recorded : FibGroup), Table.object fib.groups key = some recorded ∧
      recorded.oid = group) ∨ stray = some group
  installed : ∀ {text : String} {route : FibRoute}, fib.routes[text]? = some route →
    ∃ (dest : IpPrefix) (target : RouteTarget), requireCanonicalPrefix text = .ok text ∧
      parseCidr text = .ok dest ∧ mock.routes[dest]? = some target ∧ fib.Targets route target
  recorded : ∀ {dest : IpPrefix} {target : RouteTarget}, mock.routes[dest]? = some target →
    (∃ text : String, ∃ route, fib.routes[text]? = some route ∧ parseCidr text = .ok dest) ∨
      own dest ∧ target.Plain

section

variable {own : IpPrefix → Prop} {hops hops' : List HopKey} {groups groups' : List (List Oid)}
  {stray : Option Oid} {fib fib' : FibTable} {mock : MockSai} {route : FibRoute} {target : RouteTarget}
  {hop : HopKey} {key : List Oid} {oid : Oid} {text : String} {dest : IpPrefix}

theorem lt_succ_of_insert {Value : Type} {table : OidMap Value} {next : Oid} {value : Value}
    (numbered : ∀ {oid : Oid}, oid ∈ table → oid < next) (hk : oid ∈ table.insert next value) :
    oid < next + 1 := by
  rw [member_insert] at hk
  obtain rfl | hk := hk
  · exact Nat.lt_succ_self _
  · exact Nat.lt_succ_of_lt (numbered hk)

theorem MockSai.Numbered.member_next (numbered : mock.Numbered) : mock.members[mock.next]? = none :=
  getElem?_eq_none fun hk => Nat.lt_irrefl _ (numbered.members hk)

theorem FibTable.Targets.congr (targets : fib.Targets route target)
    (sameHops : ∀ hop ∈ route.hopKeys, object fib'.nextHops hop = object fib.nextHops hop)
    (sameGroups : ∀ key, route.groupKey = some key →
      object fib'.groups key = object fib.groups key) : fib'.Targets route target := by
  cases targets with
  | cpu none => exact .cpu none
  | drop none => exact .drop none
  | nextHop one ho => exact .nextHop one ((sameHops _ (one ▸ List.mem_singleton_self _)).trans ho)
  | group several objects perm isKey isGroup =>
    exact .group several (objects.congr sameHops) perm isKey ((sameGroups _ isKey).trans isGroup)

theorem FibTable.Targets.group_inv (targets : fib.Targets route (.group oid)) :
    ∃ (key : List Oid) (group : FibGroup), route.groupKey = some key ∧
      object fib.groups key = some group ∧ group.oid = oid := by
  cases targets with
  | group several objects perm isKey isGroup => exact ⟨_, _, isKey, isGroup, rfl⟩

variable (ht : Transit own hops groups stray fib mock)
include ht

theorem Transit.hop_unique {hop' : HopKey} (ho : object fib.nextHops hop = some oid)
    (ho' : object fib.nextHops hop' = some oid) : hop = hop' := by
  obtain ⟨ip, hf, isText⟩ := ht.nextHops ho
  obtain ⟨ip', hf', isText'⟩ := ht.nextHops ho'
  rw [hf, Option.some.injEq, Prod.mk.injEq] at hf'
  obtain ⟨sameRif, rfl⟩ := hf'
  exact Prod.ext sameRif (isText.symm.trans isText')

theorem Transit.of_routed (routed : mock.routes[dest]? = some target) :
    (∃ (text : String) (route : FibRoute), fib.routes[text]? = some route ∧ fib.Targets route target) ∨
      target.Plain := by
  obtain ⟨text, route, hf, hp⟩ | ⟨-, plain⟩ := ht.recorded routed
  · obtain ⟨dest', target', -, hp', hr', targets⟩ := ht.installed hf
    cases hp.symm.trans hp'
    cases routed.symm.trans hr'
    exact .inl ⟨text, route, hf, targets⟩
  · exact .inr plain

theorem Transit.recount (accounts : fib'.Accounts hops' groups') (sameRoutes : fib'.routes = fib.routes)
    (sameHops : ∀ hop, object fib'.nextHops hop = object fib.nextHops hop)
    (sameGroups : ∀ key, object fib'.groups key = object fib.groups key) :
    Transit own hops' groups' stray fib' mock where
  __ := ht
  accounts := accounts
  nextHops isObject := ht.nextHops (sameHops _ ▸ isObject)
  built isGroup := ht.built (sameGroups _ ▸ isGroup)
  unique isGroup isGroup' := ht.unique (sameGroups _ ▸ isGroup) (sameGroups _ ▸ isGroup')
  members found := by
    simp only [sameGroups]
    exact ht.members found
  installed found := by
    rw [sameRoutes] at found
    obtain ⟨dest, target, canonical, hp, hr, targets⟩ := ht.installed found
    exact ⟨dest, target, canonical, hp, hr,
      targets.congr (fun _ _ => sameHops _) fun _ _ => sameGroups _⟩
  recorded found := by
    rw [sameRoutes]
    exact ht.recorded found

theorem Transit.perm (hopsPerm : hops'.Perm hops)
    (groupsPerm : groups'.Perm groups) : Transit own hops' groups' stray fib mock :=
  ht.recount (ht.accounts.perm hopsPerm groupsPerm) rfl (fun _ => rfl) fun _ => rfl

theorem Transit.retainHop (hk : hop ∈ fib.nextHops) :
    Transit own (hop :: hops) groups stray { fib with nextHops := retain hop fib.nextHops } mock :=
  ht.recount (ht.accounts.retainHop hk) rfl (fun _ => object_retain) fun _ => rfl

theorem Transit.retainGroup (hk : key ∈ fib.groups) :
    Transit own hops (key :: groups) stray { fib with groups := retain key fib.groups } mock :=
  ht.recount (ht.accounts.retainGroup hk) rfl (fun _ => rfl) fun _ => object_retain

omit ht

theorem Transit.keepHop (ht : Transit own (hop :: hops) groups stray fib mock)
    (kept : (drop hop fib.nextHops).1 = none) :
    Transit own hops groups stray { fib with nextHops := (drop hop fib.nextHops).2 } mock :=
  ht.recount ht.accounts.dropHop rfl (fun _ => object_drop_of_kept kept) fun _ => rfl

theorem Transit.keepGroup (ht : Transit own hops (key :: groups) stray fib mock)
    (kept : (drop key fib.groups).1 = none) :
    Transit own hops groups stray { fib with groups := (drop key fib.groups).2 } mock :=
  ht.recount ht.accounts.dropGroup rfl (fun _ => rfl) fun _ => object_drop_of_kept kept

theorem Transit.publishHop {ip : IpAddr} {rif : Oid} (ht : Transit own hops groups stray fib mock)
    (ha : fib.nextHops[((rif, ip.text) : HopKey)]? = none) :
    Transit own ((rif, ip.text) :: hops) groups stray
      { fib with nextHops := publish (rif, ip.text) mock.next fib.nextHops }
      { mock with next := mock.next + 1, nextHops := mock.nextHops.insert mock.next (rif, ip) } where
  __ := ht
  accounts := ht.accounts.publishHop ha
  numbered := ⟨lt_succ_of_insert ht.numbered.nextHops, fun hk =>
    Nat.lt_succ_of_lt (ht.numbered.groups hk), fun hk =>
    Nat.lt_succ_of_lt (ht.numbered.members hk)⟩
  nextHops := by
    intro hop oid ho
    rw [object_publish] at ho
    split_ifs at ho with hs
    · cases ho
      exact ⟨ip, by rw [getElem?_insert_self, ← hs], by rw [← hs]⟩
    · obtain ⟨ip', hf, isText⟩ := ht.nextHops ho
      have older := ht.numbered.nextHops (mem_of_lookup hf)
      refine ⟨ip', ?_, isText⟩
      rw [lookup_insert, if_neg, hf]
      exact older.ne'
  installed := by
    intro text route hf
    obtain ⟨dest, target, canonical, hp, hr, targets⟩ := ht.installed hf
    refine ⟨dest, target, canonical, hp, hr, targets.congr (fun hop uses => ?_) fun _ _ => rfl⟩
    rw [object_publish, if_neg]
    exact (ht.accounts.ne_of_absent hf uses ha).symm

theorem Transit.unused_hop (ht : Transit own (hop :: hops) [] none fib mock)
    (gone : (drop hop fib.nextHops).1 = some oid) :
    (∀ dest : IpPrefix, mock.routes[dest]? ≠ some (.nextHop oid)) ∧
      ∀ hm group : Oid, mock.members[hm]? ≠ some (group, oid) := by
  have hi := ht.accounts.hops
  rw [← more_count] at hi
  obtain ⟨ho, unused⟩ := hi.drop_eq_some gone
  have notUsed {text : String} {route : FibRoute} (hf : fib.routes[text]? = some route) {hop' : HopKey}
      (uses : hop' ∈ route.hopKeys) : object fib.nextHops hop' ≠ some oid := by
    intro ho'
    cases ht.hop_unique ho ho'
    exact absurd (hopUsers_pos.mpr ⟨text, route, hf, uses⟩) (by omega)
  constructor
  · intro dest routed
    obtain ⟨text, route, hf, targets⟩ | plain := ht.of_routed routed
    · cases targets with
      | nextHop one ho' => exact notUsed hf (one ▸ List.mem_singleton_self _) ho'
    · exact plain
  · intro hm group isMember
    obtain ⟨key, hr, isGroup, rfl⟩ | isStray := ht.members isMember
    · have hl := ((ht.built isGroup).1.members hm oid).mp isMember
      obtain ⟨shared, hf, -⟩ := Option.map_eq_some_iff.mp isGroup
      obtain ⟨text, route, hr, isKey⟩ := groupUsers_pos.mp (ht.accounts.groups.pos hf)
      obtain ⟨hop', uses, ho'⟩ := ht.accounts.supported hr key isKey oid (List.of_mem_zip hl).2
      exact notUsed hr uses ho'
    · cases isStray

theorem Transit.removeHop (ht : Transit own (hop :: hops) groups stray fib mock)
    (gone : (drop hop fib.nextHops).1 = some oid) :
    Transit own hops groups stray { fib with nextHops := (drop hop fib.nextHops).2 }
      { mock with nextHops := mock.nextHops.erase oid } where
  __ := ht
  accounts := ht.accounts.dropHop
  numbered :=
    ⟨fun hk => ht.numbered.nextHops (Std.ExtTreeMap.mem_of_mem_erase hk),
      ht.numbered.groups, ht.numbered.members⟩
  nextHops := by
    intro hop' oid' ho'
    rw [object_drop_of_gone gone] at ho'
    split_ifs at ho' with ne
    obtain ⟨ip, hf, isText⟩ := ht.nextHops ho'
    refine ⟨ip, ?_, isText⟩
    rw [lookup_erase, if_neg, hf]
    rintro rfl
    have hi := ht.accounts.hops
    rw [← more_count] at hi
    exact ne (ht.hop_unique (hi.drop_eq_some gone).1 ho')
  installed := by
    intro text route hf
    obtain ⟨dest, target, canonical, hp, hr, targets⟩ := ht.installed hf
    refine ⟨dest, target, canonical, hp, hr, targets.congr (fun hop' uses => ?_) fun _ _ => rfl⟩
    have hi := ht.accounts.hops
    rw [← more_count] at hi
    refine hi.object_drop ?_
    have users : 0 < fib.hopUsers hop' := hopUsers_pos.mpr ⟨text, route, hf, uses⟩
    omega

/-- A group that is made, with members for some next hops so far. -/
structure Building (own : IpPrefix → Prop) (hops : List HopKey) (groups : List (List Oid)) (group : FibGroup)
    (nextHops : List Oid) (fib : FibTable) (mock : MockSai) : Prop where
  transit : Transit own hops groups (some group.oid) fib mock
  built : Built mock.groups mock.members group nextHops

/-- A group that is taken apart, with the members that are left. -/
structure Dismantling (own : IpPrefix → Prop) (hops : List HopKey) (groups : List (List Oid)) (group : Oid)
    (rest : List Oid) (fib : FibTable) (mock : MockSai) : Prop where
  transit : Transit own hops groups (some group) fib mock
  unrouted : ∀ dest : IpPrefix, mock.routes[dest]? ≠ some (.group group)
  left : ∀ {member nextHop : Oid}, mock.members[member]? = some (group, nextHop) → member ∈ rest
  only : ∀ member ∈ rest, ∀ other nextHop : Oid, mock.members[member]? = some (other, nextHop) → other = group

variable {nextHop group : Oid}

theorem Transit.group_lt (ht : Transit own hops groups none fib mock) {hm : Oid}
    (isMember : mock.members[hm]? = some (group, nextHop)) : group < mock.next := by
  obtain ⟨key, hr, isGroup, rfl⟩ | isStray := ht.members isMember
  · exact ht.numbered.groups (ht.built isGroup).1.known
  · cases isStray

theorem Transit.createGroup (transit : Transit own hops groups none fib mock) :
    Building own hops groups ⟨mock.next, []⟩ [] fib
      { mock with next := mock.next + 1, groups := mock.groups.insert mock.next } where
  transit :=
    { transit with
      numbered := by
        refine ⟨fun hk => ?_, fun {oid} hk => ?_, fun hk => ?_⟩
        · exact Nat.lt_succ_of_lt (transit.numbered.nextHops hk)
        · rw [Std.ExtTreeSet.mem_insert, Std.LawfulEqCmp.compare_eq_iff_eq] at hk
          obtain rfl | hk := hk
          · exact Nat.lt_succ_self _
          · exact Nat.lt_succ_of_lt (transit.numbered.groups hk)
        · exact Nat.lt_succ_of_lt (transit.numbered.members hk)
      built := by
        intro key group isGroup
        have built := (transit.built isGroup).1
        refine ⟨⟨Std.ExtTreeSet.mem_insert.mpr (.inr built.known), built.length, built.members⟩, ?_⟩
        intro hs
        have older := transit.numbered.groups built.known
        exact absurd (Option.some.inj hs) older.ne'
      members := fun isMember => (transit.members isMember).imp id nofun }
  built := by
    refine ⟨Std.ExtTreeSet.mem_insert_self, rfl, fun hm nextHop => ⟨fun isMember => ?_, nofun⟩⟩
    exact absurd (transit.group_lt isMember) (Nat.lt_irrefl _)

theorem Building.addMember {group : FibGroup} {nextHops : List Oid}
    (building : Building own hops groups group nextHops fib mock) :
    Building own hops groups ⟨group.oid, group.members ++ [mock.next]⟩ (nextHops ++ [nextHop]) fib
      { mock with next := mock.next + 1, members := mock.members.insert mock.next (group.oid, nextHop) } where
  transit :=
    { building.transit with
      numbered := ⟨fun hk => Nat.lt_succ_of_lt (building.transit.numbered.nextHops hk), fun hk =>
        Nat.lt_succ_of_lt (building.transit.numbered.groups hk),
        lt_succ_of_insert building.transit.numbered.members⟩
      built := by
        intro key other isGroup
        obtain ⟨built, ne⟩ := building.transit.built isGroup
        refine ⟨⟨built.known, built.length, fun hm nextHop' => ?_⟩, ne⟩
        rw [← built.members, lookup_insert]
        split_ifs with same
        · subst same
          refine iff_of_false (fun isMember => ?_) fun isMember => ?_
          · exact ne (congrArg some (Prod.mk.inj (Option.some.inj isMember)).1)
          · rw [building.transit.numbered.member_next] at isMember
            cases isMember
        · rfl
      members := by
        intro hm group' nextHop' isMember
        rw [lookup_insert] at isMember
        split_ifs at isMember
        · cases isMember
          exact .inr rfl
        · exact building.transit.members isMember }
  built := by
    refine ⟨building.built.known, ?_, fun hm nextHop' => ?_⟩
    · rw [List.length_append, List.length_append, building.built.length]
      rfl
    · rw [List.zip_append building.built.length, List.mem_append, ← building.built.members,
        lookup_insert]
      split_ifs with same
      · subst same
        simp [building.transit.numbered.member_next, eq_comm]
      · simp [Ne.symm same]

theorem Building.publish {group : FibGroup} (building : Building own hops groups group key fib mock)
    (ha : fib.groups[key]? = none) :
    Transit own hops (key :: groups) none { fib with groups := publish key group fib.groups } mock where
  __ := building.transit
  accounts := building.transit.accounts.publishGroup ha
  built := by
    intro key' group' isGroup
    rw [object_publish] at isGroup
    split_ifs at isGroup with hs
    · cases isGroup
      exact ⟨hs ▸ building.built, (Option.some_ne_none _).symm⟩
    · exact ⟨(building.transit.built isGroup).1, (Option.some_ne_none _).symm⟩
  unique := by
    intro key₁ key₂ group₁ group₂ isGroup₁ isGroup₂ sameOid
    rw [object_publish] at isGroup₁ isGroup₂
    split_ifs at isGroup₁ isGroup₂ with hs₁ hs₂ hs₂
    · exact hs₁.symm.trans hs₂
    · cases isGroup₁
      exact absurd (congrArg some sameOid) (building.transit.built isGroup₂).2
    · cases isGroup₂
      exact absurd (congrArg some sameOid.symm) (building.transit.built isGroup₁).2
    · exact building.transit.unique isGroup₁ isGroup₂ sameOid
  members := by
    intro hm group' nextHop isMember
    left
    obtain ⟨key', hr, isGroup, isOid⟩ | isStray := building.transit.members isMember
    · refine ⟨key', hr, ?_, isOid⟩
      rw [object_publish, if_neg, isGroup]
      rintro rfl
      rw [object, ha] at isGroup
      cases isGroup
    · exact ⟨key, group, object_publish.trans (if_pos rfl), Option.some.inj isStray⟩
  installed := by
    intro text route hf
    obtain ⟨dest, target, canonical, hp, routed, targets⟩ := building.transit.installed hf
    refine ⟨dest, target, canonical, hp, routed, targets.congr (fun _ _ => rfl) fun key' isKey => ?_⟩
    rw [object_publish, if_neg]
    rintro rfl
    have users : 0 < fib.groupUsers key := groupUsers_pos.mpr ⟨text, route, hf, isKey⟩
    have none := building.transit.accounts.groups.eq_zero ha
    omega

theorem Transit.dismantle {group : FibGroup} (ht : Transit own hops (key :: groups) none fib mock)
    (gone : (drop key fib.groups).1 = some group) :
    Dismantling own hops groups group.oid group.members
      { fib with groups := (drop key fib.groups).2 } mock := by
  have hi := ht.accounts.groups
  rw [← more_count] at hi
  obtain ⟨isGroup, unused⟩ := hi.drop_eq_some gone
  have other {key' : List Oid} {group' : FibGroup}
      (isGroup' : object (drop key fib.groups).2 key' = some group') :
      object fib.groups key' = some group' ∧ group.oid ≠ group'.oid := by
    rw [object_drop_of_gone gone] at isGroup'
    split_ifs at isGroup' with ne
    exact ⟨isGroup', fun hs => ne (ht.unique isGroup isGroup' hs)⟩
  refine ⟨⟨ht.accounts.dropGroup, ht.numbered, ht.nextHops, ?_, ?_, ?_, ?_, ht.recorded⟩, ?_, ?_, ?_⟩
  · intro key' group' isGroup'
    refine ⟨(ht.built (other isGroup').1).1, fun hs => (other isGroup').2 (Option.some.inj hs)⟩
  · intro key₁ key₂ group₁ group₂ isGroup₁ isGroup₂
    exact ht.unique (other isGroup₁).1 (other isGroup₂).1
  · intro hm group' nextHop isMember
    obtain ⟨key', hr, isGroup', isOid⟩ | isStray := ht.members isMember
    · by_cases hs : key = key'
      · subst hs
        rw [isGroup] at isGroup'
        cases isGroup'
        exact .inr (congrArg some isOid)
      · exact .inl ⟨key', hr, by rw [object_drop_of_gone gone, if_neg hs, isGroup'], isOid⟩
    · cases isStray
  · intro text route hf
    obtain ⟨dest, target, canonical, hp, routed, targets⟩ := ht.installed hf
    refine ⟨dest, target, canonical, hp, routed, targets.congr (fun _ _ => rfl) fun key' isKey => ?_⟩
    refine hi.object_drop ?_
    have users : 0 < fib.groupUsers key' := groupUsers_pos.mpr ⟨text, route, hf, isKey⟩
    omega
  · intro dest routed
    obtain ⟨text, route, hf, targets⟩ | plain := ht.of_routed routed
    · obtain ⟨key', group', isKey, isGroup', sameOid⟩ := targets.group_inv
      cases ht.unique isGroup isGroup' sameOid.symm
      exact absurd (groupUsers_pos.mpr ⟨text, route, hf, isKey⟩) (by omega)
    · exact plain
  · intro hm nextHop isMember
    exact (List.of_mem_zip (((ht.built isGroup).1.members hm nextHop).mp isMember)).1
  · intro hm hl group' nextHop isMember
    have built := (ht.built isGroup).1
    obtain ⟨i, bound, rfl⟩ := List.getElem_of_mem hl
    have within : i < key.length := built.length ▸ bound
    have both : i < (group.members.zip key).length := by
      rw [List.length_zip]
      omega
    have paired : (group.members[i], key[i]) ∈ group.members.zip key := by
      rw [← List.getElem_zip (h := both)]
      exact List.getElem_mem both
    rw [(built.members _ _).mpr paired] at isMember
    exact (Prod.mk.inj (Option.some.inj isMember)).1.symm

theorem Dismantling.removeMember {member : Oid} {rest : List Oid}
    (dismantling : Dismantling own hops groups group (member :: rest) fib mock) :
    Dismantling own hops groups group rest fib { mock with members := mock.members.erase member } := by
  have ht := dismantling.transit
  have was {hm' : Oid} {value : Oid × Oid} (hm : (mock.members.erase member)[hm']? = some value) :
      member ≠ hm' ∧ mock.members[hm']? = some value := by
    rw [lookup_erase] at hm
    split_ifs at hm with ne
    exact ⟨ne, hm⟩
  refine ⟨⟨ht.accounts, ⟨ht.numbered.nextHops, ht.numbered.groups, fun hk =>
    ht.numbered.members (Std.ExtTreeMap.mem_of_mem_erase hk)⟩, ht.nextHops, ?_, ht.unique,
    fun hm => ht.members (was hm).2, ht.installed, ht.recorded⟩,
    dismantling.unrouted, ?_, ?_⟩
  · intro key other isGroup
    obtain ⟨built, ne⟩ := ht.built isGroup
    refine ⟨⟨built.known, built.length, fun hm' nextHop => ?_⟩, ne⟩
    rw [← built.members]
    refine ⟨fun hm => (was hm).2, fun hm => ?_⟩
    rw [lookup_erase, if_neg, hm]
    rintro rfl
    exact ne (congrArg some (dismantling.only member List.mem_cons_self _ _ hm).symm)
  · intro hm' nextHop hm
    obtain ⟨ne, hm⟩ := was hm
    exact List.mem_of_ne_of_mem (Ne.symm ne) (dismantling.left hm)
  · intro hm' hl other nextHop hm
    exact dismantling.only hm' (List.mem_cons_of_mem _ hl) other nextHop (was hm).2

theorem Dismantling.removeGroup (dismantling : Dismantling own hops groups group [] fib mock) :
    Transit own hops groups none fib { mock with groups := mock.groups.erase group } := by
  have ht := dismantling.transit
  refine ⟨ht.accounts, ⟨ht.numbered.nextHops, fun hk =>
    ht.numbered.groups (Std.ExtTreeSet.mem_of_mem_erase hk), ht.numbered.members⟩,
    ht.nextHops, ?_, ht.unique, ?_, ht.installed, ht.recorded⟩
  · intro key other isGroup
    obtain ⟨built, ne⟩ := ht.built isGroup
    refine ⟨⟨Std.ExtTreeSet.mem_erase.mpr ⟨?_, built.known⟩, built.length, built.members⟩, nofun⟩
    rw [ne_eq, Std.LawfulEqCmp.compare_eq_iff_eq]
    exact fun hs => ne (congrArg some hs)
  · intro hm other nextHop isMember
    obtain hr | isStray := ht.members isMember
    · exact .inl hr
    · cases isStray
      exact absurd (dismantling.left isMember) List.not_mem_nil

theorem Transit.eraseRoute (ht : Transit own hops groups stray fib mock)
    (hf : fib.routes[text]? = some route) (hp : parseCidr text = .ok dest) :
    Transit own (route.hopKeys ++ hops) (route.groupKey.toList ++ groups) stray
      { fib with routes := fib.routes.erase text } { mock with routes := mock.routes.erase dest } where
  __ := ht
  accounts := ht.accounts.eraseRoute hf
  numbered := { ht.numbered with }
  installed := by
    intro text' route' hf'
    rw [lookup_erase] at hf'
    split_ifs at hf' with ne
    obtain ⟨dest', target', canonical', hp', hr', targets'⟩ := ht.installed hf'
    refine ⟨dest', target', canonical', hp', ?_, targets'.congr (fun _ _ => rfl) fun _ _ => rfl⟩
    rw [lookup_erase, if_neg, hr']
    rintro rfl
    obtain ⟨dest, target, canonical, -, -, -⟩ := ht.installed hf
    exact ne (canonical_unique canonical canonical' hp hp')
  recorded := by
    intro dest' target' hr'
    rw [lookup_erase] at hr'
    split_ifs at hr' with ne
    obtain ⟨text', route', hf', hp'⟩ | owned := ht.recorded hr'
    · refine .inl ⟨text', route', ?_, hp'⟩
      rw [lookup_erase, if_neg, hf']
      rintro rfl
      rw [hp] at hp'
      exact ne (Except.ok.inj hp')
    · exact .inr owned

theorem Transit.insertRoute
    (ht : Transit own (route.hopKeys ++ hops) (route.groupKey.toList ++ groups) stray fib mock)
    (ha : fib.routes[text]? = none) (supports : fib.Supports route)
    (canonical : requireCanonicalPrefix text = .ok text) (hp : parseCidr text = .ok dest)
    (targets : fib.Targets route target) (free : mock.routes[dest]? = none) :
    Transit own hops groups stray { fib with routes := fib.routes.insert text route }
      { mock with routes := mock.routes.insert dest target } where
  __ := ht
  accounts := ht.accounts.insertRoute ha supports
  numbered := { ht.numbered with }
  installed := by
    intro text' route' hf'
    rw [lookup_insert] at hf'
    split_ifs at hf' with hs
    · cases hf'
      subst hs
      exact ⟨dest, target, canonical, hp, getElem?_insert_self,
        targets.congr (fun _ _ => rfl) fun _ _ => rfl⟩
    · obtain ⟨dest', target', canonical', hp', hr', targets'⟩ := ht.installed hf'
      refine ⟨dest', target', canonical', hp', ?_, targets'.congr (fun _ _ => rfl) fun _ _ => rfl⟩
      rw [lookup_insert, if_neg, hr']
      rintro rfl
      rw [free] at hr'
      cases hr'
  recorded := by
    intro dest' target' hr'
    rw [lookup_insert] at hr'
    split_ifs at hr' with hs
    · subst hs
      exact .inl ⟨text, route, getElem?_insert_self, hp⟩
    · obtain ⟨text', route', hf', hp'⟩ | owned := ht.recorded hr'
      · refine .inl ⟨text', route', ?_, hp'⟩
        rw [lookup_insert, if_neg, hf']
        rintro rfl
        rw [ha] at hf'
        cases hf'
      · exact .inr owned

def FibTable.Unrecorded (fib : FibTable) (dest : IpPrefix) : Prop :=
  ∀ (text : String) route, fib.routes[text]? = some route → parseCidr text ≠ .ok dest

variable (ht : Transit own hops groups stray fib mock)
include ht

theorem Transit.removePlain (unrecorded : fib.Unrecorded dest) :
    Transit (fun other => own other ∧ other ≠ dest) hops groups stray fib
      { mock with routes := mock.routes.erase dest } where
  __ := ht
  numbered := { ht.numbered with }
  installed := by
    intro text route hf
    obtain ⟨dest', target, canonical, hp, hr, targets⟩ := ht.installed hf
    refine ⟨dest', target, canonical, hp, ?_, targets⟩
    rw [lookup_erase, if_neg, hr]
    rintro rfl
    exact unrecorded text route hf hp
  recorded := by
    intro dest' target hr
    rw [lookup_erase] at hr
    split_ifs at hr with ne
    exact (ht.recorded hr).imp id fun owned => ⟨⟨owned.1, Ne.symm ne⟩, owned.2⟩

theorem Transit.insertPlain (unrecorded : fib.Unrecorded dest) (plain : target.Plain) :
    Transit (fun other => own other ∨ other = dest) hops groups stray fib
      { mock with routes := mock.routes.insert dest target } where
  __ := ht
  numbered := { ht.numbered with }
  installed := by
    intro text route hf
    obtain ⟨dest', target', canonical, hp, hr, targets⟩ := ht.installed hf
    refine ⟨dest', target', canonical, hp, ?_, targets⟩
    rw [lookup_insert, if_neg, hr]
    rintro rfl
    exact unrecorded text route hf hp
  recorded := by
    intro dest' target' hr
    rw [lookup_insert] at hr
    split_ifs at hr with hs
    · cases hr
      exact .inr ⟨.inr hs.symm, plain⟩
    · exact (ht.recorded hr).imp id fun owned => ⟨.inl owned.1, owned.2⟩

theorem Transit.own_mono {own' : IpPrefix → Prop}
    (owns : ∀ dest, own dest → own' dest) : Transit own' hops groups stray fib mock :=
  { ht with
    recorded := fun hr => (ht.recorded hr).imp id fun owned => ⟨owns _ owned.1, owned.2⟩ }

theorem Transit.reframe {mock' : MockSai}
    (hs : mock.SameFib mock') : Transit own hops groups stray fib mock' where
  __ := ht
  numbered := by
    refine ⟨fun hk => ?_, fun hk => ?_, fun hk => ?_⟩
    · exact (ht.numbered.nextHops (hs.nextHops ▸ hk)).trans_le hs.next
    · exact (ht.numbered.groups (hs.groups ▸ hk)).trans_le hs.next
    · exact (ht.numbered.members (hs.members ▸ hk)).trans_le hs.next
  nextHops := by
    rw [hs.nextHops]
    exact ht.nextHops
  built := by
    rw [hs.groups, hs.members]
    exact ht.built
  members := by
    rw [hs.members]
    exact ht.members
  installed := by
    rw [hs.routes]
    exact ht.installed
  recorded := by
    rw [hs.routes]
    exact ht.recorded

omit ht

end

/-- A next hop of the switch is the one that a key names. -/
def MockSai.Names (mock : MockSai) (hop : HopKey) (oid : Oid) : Prop :=
  ∃ ip : IpAddr, mock.nextHops[oid]? = some (hop.1, ip) ∧ ip.text = hop.2

/-- A route leads to what is built from its next hops. -/
inductive MockSai.LeadsTo (mock : MockSai) : List HopKey → RouteTarget → Prop
  | cpu : mock.LeadsTo [] .cpu
  | drop : mock.LeadsTo [] .drop
  | nextHop {hop : HopKey} {oid : Oid} : mock.Names hop oid → mock.LeadsTo [hop] (.nextHop oid)
  | group {hops : List HopKey} {oids key members : List Oid} {group : Oid} : 2 ≤ hops.length →
      List.Forall₂ mock.Names hops oids → key.Perm oids →
      Built mock.groups mock.members ⟨group, members⟩ key → mock.LeadsTo hops (.group group)

theorem Transit.leadsTo {own : IpPrefix → Prop} {hops : List HopKey} {groups : List (List Oid)}
    {stray : Option Oid} {fib : FibTable} {mock : MockSai} {route : FibRoute} {target : RouteTarget}
    (ht : Transit own hops groups stray fib mock) (targets : fib.Targets route target) :
    mock.LeadsTo route.hopKeys target := by
  cases targets with
  | cpu none =>
    rw [none]
    exact .cpu
  | drop none =>
    rw [none]
    exact .drop
  | nextHop one ho =>
    rw [one]
    exact .nextHop (ht.nextHops ho)
  | group several objects perm isKey isGroup =>
    exact .group several (objects.imp fun _ _ => ht.nextHops) perm (ht.built isGroup).1

end Hemlock.Routing
