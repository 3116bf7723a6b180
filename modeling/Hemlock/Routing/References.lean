import Hemlock.Library.Machine
import Hemlock.Routing.Interfaces
import Hemlock.Routing.Mock

/-!
# The references of transit routes

Each next hop and each group is counted once for every route that uses it.  While a
request is at work it holds references that no recorded route accounts for, and gives
them back when it fails, except where a next hop of the request is no address: then what
it held stays counted.
-/

namespace Hemlock.Routing

open Net Contracts RefCount OrderedMap Contract Table FibTable
open Acl (Status)
open Switching (Oid)

def FibTable.hopUsers (fib : FibTable) (key : HopKey) : Nat :=
  fib.routes.values.countP fun route => key ∈ route.hopKeys

def FibTable.groupUsers (fib : FibTable) (key : List Oid) : Nat :=
  fib.routes.values.countP fun route => route.groupKey = some key

/-- The next hops of a route's group are those that the route uses. -/
def FibTable.Supports (fib : FibTable) (route : FibRoute) : Prop :=
  ∀ key : List Oid, route.groupKey = some key → ∀ oid ∈ key,
    ∃ hop ∈ route.hopKeys, Table.object fib.nextHops hop = some oid

def FibTable.Objects (fib : FibTable) : List HopKey → List Oid → Prop :=
  List.Forall₂ fun hop oid => Table.object fib.nextHops hop = some oid

/-- The references are those of the recorded routes and the ones listed. -/
structure FibTable.Accounts (fib : FibTable) (hops : List HopKey) (groups : List (List Oid)) : Prop where
  hops : Balanced fib.nextHops fun key => fib.hopUsers key + hops.count key
  groups : Balanced fib.groups fun key => fib.groupUsers key + groups.count key
  supported : ∀ {text : String} {route : FibRoute}, fib.routes[text]? = some route → fib.Supports route

section

variable {fib : FibTable} {hops hops' : List HopKey} {groups groups' : List (List Oid)} {text : String}
  {route : FibRoute} {key : HopKey} {oid : Oid}

theorem FibTable.Accounts.perm (hi : fib.Accounts hops groups) (hopsPerm : hops'.Perm hops)
    (groupsPerm : groups'.Perm groups) : fib.Accounts hops' groups' where
  __ := hi
  hops := hi.hops.congr fun key => by rw [hopsPerm.count_eq]
  groups := hi.groups.congr fun key => by rw [groupsPerm.count_eq]

theorem more_count {κ : Type} [DecidableEq κ] [BEq κ] [LawfulBEq κ] (users : κ → Nat) (key : κ) (keys : List κ) :
    more key (fun key => users key + keys.count key) = fun other => users other + (key :: keys).count other := by
  funext other
  rw [more]
  split_ifs with hs
  · rw [hs, List.count_cons_self, Nat.add_assoc]
  · rw [List.count_cons_of_ne (Ne.symm hs)]

theorem countP_routes_pos {uses : FibRoute → Bool} : 0 < fib.routes.values.countP uses ↔
    ∃ text : String, ∃ route, fib.routes[text]? = some route ∧ uses route = true := by
  simp only [List.countP_pos_iff, mem_values_iff]
  constructor
  · rintro ⟨route, ⟨text, hf⟩, hl⟩
    exact ⟨text, route, hf, hl⟩
  · rintro ⟨text, route, hf, hl⟩
    exact ⟨route, ⟨text, hf⟩, hl⟩

theorem hopUsers_pos : 0 < fib.hopUsers key ↔
    ∃ text : String, ∃ route, fib.routes[text]? = some route ∧ key ∈ route.hopKeys := by
  simp only [hopUsers, countP_routes_pos, decide_eq_true_eq]

theorem groupUsers_pos {key : List Oid} : 0 < fib.groupUsers key ↔
    ∃ text : String, ∃ route, fib.routes[text]? = some route ∧ route.groupKey = some key := by
  simp only [groupUsers, countP_routes_pos, decide_eq_true_eq]

variable {keys : List HopKey} {fib' : FibTable}

theorem FibTable.Objects.congr {oids : List Oid} (objects : fib.Objects keys oids)
    (hs : ∀ hop ∈ keys, object fib'.nextHops hop = object fib.nextHops hop) :
    fib'.Objects keys oids := by
  have objects := List.forall₂_iff_zip.mp objects
  refine List.forall₂_iff_zip.mpr ⟨objects.1, fun {hop oid} hl => ?_⟩
  rw [hs hop (List.of_mem_zip hl).1]
  exact objects.2 hl

theorem FibTable.Objects.single (objects : fib.Objects keys [oid]) :
    ∃ hop : HopKey, keys = [hop] ∧ object fib.nextHops hop = some oid := by
  cases objects with
  | cons ho others =>
    cases others
    exact ⟨_, rfl, ho⟩

theorem FibTable.Supports.of_object (supports : fib.Supports route)
    (hs : ∀ hop ∈ route.hopKeys, object fib'.nextHops hop = object fib.nextHops hop) :
    fib'.Supports route := by
  intro key isKey oid hl
  obtain ⟨hop, uses, ho⟩ := supports key isKey oid hl
  exact ⟨hop, uses, (hs hop uses).trans ho⟩

theorem accounts_empty : FibTable.Accounts {} [] [] where
  hops := balanced_empty
  groups := balanced_empty
  supported := by
    intro text route hf
    cases hf

theorem FibTable.Accounts.retainHop (hi : fib.Accounts hops groups) (hk : key ∈ fib.nextHops) :
    ({ fib with nextHops := retain key fib.nextHops } : FibTable).Accounts (key :: hops) groups where
  __ := hi
  hops := by
    have balanced := hi.hops.retain hk
    rwa [more_count] at balanced
  supported := fun hf => (hi.supported hf).of_object fun _ _ => object_retain

theorem FibTable.Accounts.ne_of_absent (hi : fib.Accounts hops groups) {hop : HopKey}
    (hf : fib.routes[text]? = some route) (uses : hop ∈ route.hopKeys)
    (ha : fib.nextHops[key]? = none) : hop ≠ key := by
  rintro rfl
  have users : 0 < fib.hopUsers hop := hopUsers_pos.mpr ⟨text, route, hf, uses⟩
  have none := hi.hops.eq_zero ha
  omega

theorem FibTable.Accounts.publishHop (hi : fib.Accounts hops groups)
    (ha : fib.nextHops[key]? = none) :
    ({ fib with nextHops := publish key oid fib.nextHops } : FibTable).Accounts (key :: hops)
      groups where
  __ := hi
  hops := by
    have balanced := @Balanced.publish _ _ _ _ _ _ _ oid _ _ hi.hops ha
    rwa [more_count] at balanced
  supported := by
    intro text route hf
    refine (hi.supported hf).of_object fun hop uses => ?_
    rw [object_publish, if_neg (hi.ne_of_absent hf uses ha).symm]

theorem FibTable.Accounts.dropHop (hi : fib.Accounts (key :: hops) groups) :
    ({ fib with nextHops := (drop key fib.nextHops).2 } : FibTable).Accounts hops groups := by
  have balanced := hi.hops
  rw [← more_count] at balanced
  refine ⟨balanced.drop, hi.groups, fun {text route} hf => ?_⟩
  refine (hi.supported hf).of_object fun hop uses => balanced.object_drop ?_
  have users : 0 < fib.hopUsers hop := hopUsers_pos.mpr ⟨text, route, hf, uses⟩
  omega

theorem FibTable.Accounts.retainGroup {key : List Oid} (hi : fib.Accounts hops groups)
    (hk : key ∈ fib.groups) :
    ({ fib with groups := retain key fib.groups } : FibTable).Accounts hops (key :: groups) where
  __ := hi
  groups := by
    have balanced := hi.groups.retain hk
    rwa [more_count] at balanced

theorem FibTable.Accounts.publishGroup {key : List Oid} {group : FibGroup}
    (hi : fib.Accounts hops groups) (ha : fib.groups[key]? = none) :
    ({ fib with groups := publish key group fib.groups } : FibTable).Accounts hops
      (key :: groups) where
  __ := hi
  groups := by
    have balanced := @Balanced.publish _ _ _ _ _ _ _ group _ _ hi.groups ha
    rwa [more_count] at balanced

theorem FibTable.Accounts.dropGroup {key : List Oid} (hi : fib.Accounts hops (key :: groups)) :
    ({ fib with groups := (drop key fib.groups).2 } : FibTable).Accounts hops groups := by
  have balanced := hi.groups
  rw [← more_count] at balanced
  exact ⟨hi.hops, balanced.drop, hi.supported⟩

theorem count_hopKeys (route : FibRoute) (key : HopKey) :
    route.hopKeys.count key = if decide (key ∈ route.hopKeys) = true then 1 else 0 := by
  rw [route.distinct.count]
  simp only [decide_eq_true_eq]

theorem count_groupKey (route : FibRoute) (key : List Oid) :
    route.groupKey.toList.count key = if decide (route.groupKey = some key) = true then 1 else 0 := by
  cases route.groupKey with
  | none => rfl
  | some other => by_cases hs : other = key <;> simp [hs]

/-- What one more route adds. -/
theorem users_of_perm {fib' : FibTable} (perm : fib'.routes.values.Perm (route :: fib.routes.values)) :
    (∀ key, fib'.hopUsers key + hops.count key = fib.hopUsers key + (route.hopKeys ++ hops).count key) ∧
      ∀ key, fib'.groupUsers key + groups.count key =
        fib.groupUsers key + (route.groupKey.toList ++ groups).count key := by
  constructor
  · intro key
    rw [hopUsers, perm.countP_eq, List.countP_cons, ← count_hopKeys, List.count_append, Nat.add_assoc]
    rfl
  · intro key
    rw [groupUsers, perm.countP_eq, List.countP_cons, ← count_groupKey, List.count_append, Nat.add_assoc]
    rfl

theorem FibTable.Accounts.eraseRoute (hi : fib.Accounts hops groups)
    (hf : fib.routes[text]? = some route) :
    ({ fib with routes := fib.routes.erase text } : FibTable).Accounts (route.hopKeys ++ hops)
      (route.groupKey.toList ++ groups) := by
  have users := @users_of_perm { fib with routes := fib.routes.erase text } hops groups route fib
    (Std.ExtTreeMap.values_perm_erase hf)
  refine ⟨hi.hops.congr fun key => (users.1 key).symm, hi.groups.congr fun key => (users.2 key).symm, ?_⟩
  intro other route' hf'
  rw [getElem?_erase] at hf'
  split_ifs at hf'
  exact hi.supported hf'

theorem FibTable.Accounts.insertRoute
    (hi : fib.Accounts (route.hopKeys ++ hops) (route.groupKey.toList ++ groups))
    (ha : fib.routes[text]? = none) (supports : fib.Supports route) :
    ({ fib with routes := fib.routes.insert text route } : FibTable).Accounts hops groups := by
  have users := @users_of_perm fib hops groups route { fib with routes := fib.routes.insert text route }
    (Std.ExtTreeMap.values_perm_insert ha)
  refine ⟨hi.hops.congr users.1, hi.groups.congr users.2, ?_⟩
  intro other route' hf
  rw [getElem?_insert] at hf
  split_ifs at hf
  · cases hf
    exact supports
  · exact hi.supported hf

theorem FibTable.Accounts.setNeighbors
    {neighbors : Std.ExtTreeMap (String × String) (Oid × String) comparePair}
    (hi : fib.Accounts hops groups) :
    ({ fib with neighbors := neighbors } : FibTable).Accounts hops groups :=
  ⟨hi.hops, hi.groups, hi.supported⟩

end

section

variable {δ : Type} {backend : Backend δ} {hops : List HopKey} {groups : List (List Oid)}
  {Failed : World δ → Prop}

/-- The world's references, with those of the request at work. -/
abbrev Accounted (hops : List HopKey) (groups : List (List Oid)) (w : World δ) : Prop :=
  w.fib.Accounts hops groups

def DeviceFree (Property : World δ → Prop) : Prop :=
  ∀ w device, Property w → Property { w with device := device }

theorem deviceFree_accounted : DeviceFree (Accounted hops groups : World δ → Prop) := fun _ _ hi => hi

section

variable {Property : World δ → Prop} (deviceFree : DeviceFree Property)
include deviceFree

theorem sai_keeps {Value : Type} (call : Sai δ Value) : Keeps Property (sai call) Property := by
  apply contract_lift
  intro w holds
  cases call (devicePart.read w) <;> exact deviceFree w _ holds

theorem trySai_keeps (call : Sai δ Unit) : Keeps Property (trySai call) Failed :=
  contract_attempt (sai_keeps deviceFree call)

theorem unwindGroup_keeps (group : Oid) (members : List Oid) :
    Keeps Property (unwindGroup backend group members) Failed :=
  (contract_each_keep (fun _ => trySai_keeps deviceFree _) members).bind fun _ =>
    trySai_keeps deviceFree _

theorem addGroupMembers_keeps (group : Oid) (nextHops members : List Oid) :
    Keeps Property (addGroupMembers backend group nextHops members) Property := by
  induction nextHops generalizing members with
  | nil => exact contract_done
  | cons nextHop rest ih =>
    exact bind ((sai_keeps deviceFree _).recover (unwindGroup_keeps deviceFree group members))
      fun hm => ih (members ++ [hm])

theorem dropRoutes_keeps (dests : List IpPrefix) : Keeps Property (dropRoutes backend dests) Failed :=
  contract_each_keep (fun _ => trySai_keeps deviceFree _) dests

theorem renewRoute_keeps (dest : IpPrefix) (target : RouteTarget) :
    Keeps Property (renewRoute backend dest target) Property :=
  (trySai_keeps deviceFree _).bind fun _ => sai_keeps deviceFree _

theorem readdress_keeps (existing : Option L3State) (create : Sai δ Oid) (dest : IpPrefix) :
    Keeps Property (readdress backend existing create dest) Property := by
  cases existing
  case' none => refine (sai_keeps deviceFree create).bind fun rif => ?_
  case' some old => refine (dropRoutes_keeps deviceFree _).bind fun _ => ?_
  all_goals
    obtain ⟨host, subnet⟩ := routesFor dest.1 dest.2
    refine (renewRoute_keeps deviceFree host .cpu).bind fun _ => ?_
    cases subnet with
    | none => exact contract_done
    | some subnet => exact (renewRoute_keeps deviceFree subnet _).bind fun _ => contract_done

end

/-- Giving back next hops and groups leaves it alone. -/
structure ReleaseFree (backend : Backend δ) (Kept : World δ → Prop) : Prop where
  nextHop : ∀ {Failed : World δ → Prop} oid, Keeps Kept (trySai (backend.removeNextHop oid)) Failed
  member : ∀ {Failed : World δ → Prop} oid, Keeps Kept (trySai (backend.removeNextHopGroupMember oid)) Failed
  group : ∀ {Failed : World δ → Prop} oid, Keeps Kept (trySai (backend.removeNextHopGroup oid)) Failed
  records : ∀ w nextHops groups, Kept w → Kept { w with fib := { w.fib with nextHops, groups } }

/-- So do calls about neighbors. -/
structure NeighborFree (backend : Backend δ) (Kept Broken : World δ → Prop) : Prop where
  removes : ∀ {Failed : World δ → Prop} rif ip, Keeps Kept (trySai (backend.removeNeighbor rif ip)) Failed
  creates : ∀ rif ip mac, Keeps Kept (sai (backend.createNeighbor rif ip mac)) Broken
  records : ∀ w neighbors, Kept w → Kept { w with fib := { w.fib with neighbors } }

section

variable {Kept Broken : World δ → Prop}

theorem ReleaseFree.hop (free : ReleaseFree backend Kept) (key : HopKey) :
    Keeps Kept (fibReleaseHop backend key) Failed := by
  refine contract_get_modify Kept (fun w => free.records w _ w.fib.groups) fun start => ?_
  split
  · exact free.nextHop _
  · exact contract_done

theorem ReleaseFree.unwind (free : ReleaseFree backend Kept) (group : Oid) (members : List Oid) :
    Keeps Kept (unwindGroup backend group members) Failed :=
  (contract_each_keep free.member members).bind fun _ => free.group _

theorem ReleaseFree.route (free : ReleaseFree backend Kept) (route : FibRoute) :
    Keeps Kept (fibReleaseRoute backend route) Failed := by
  unfold fibReleaseRoute
  have releases := contract_each_keep (@ReleaseFree.hop _ _ Failed _ free) route.hopKeys
  cases route.groupKey with
  | none => exact releases
  | some key =>
    refine bind (contract_get_modify Kept (fun w => free.records w w.fib.nextHops _) fun start => ?_)
      fun _ => releases
    split
    · exact free.unwind _ _
    · exact contract_done

theorem NeighborFree.teardown (free : NeighborFree backend Kept Broken) (key : String × String) :
    Keeps Kept (fibTeardownNeighbor backend key) Failed := by
  refine contract_read fun start => ?_
  cases start.fib.neighbors[key]? with
  | none => exact contract_done
  | some neighbor =>
    have forgets : Keeps Kept (modifyFib fun fib => { fib with neighbors := fib.neighbors.erase key }) Failed :=
      contract_modify fun w => free.records w _
    refine forgets.bind fun _ => ?_
    split
    · exact free.removes _ _
    · exact contract_done

theorem NeighborFree.ensure (free : NeighborFree backend Kept Broken) (fails : ∀ w, Kept w → Failed w)
    (breaks : ∀ w, Broken w → Failed w) (caps : Capabilities) (req : EnsureNeighborRequest) :
    Keeps Kept (ensureNeighbor backend caps req) Failed := by
  have hc {Value : Type} (ho : Except Status Value) : Keeps Kept (settle ho : Rpc δ Value) Failed :=
    contract_settle (fun _ _ _ => id) fails
  unfold ensureNeighbor
  cases parseIpAddr req.ip.toList with
  | none => exact contract_throw fails
  | some ip =>
    have installs (rif : Oid) (mac : String) : Keeps Kept (do
          sai (backend.createNeighbor rif ip mac)
          modifyFib fun fib =>
            { fib with neighbors := fib.neighbors.insert (req.interface, req.ip) (rif, mac) }) Failed :=
      ((free.creates rif ip mac).failing breaks).bind fun _ => contract_modify fun w => free.records w _
    dsimp -zeta only
    extract_lets run
    have runs (hc' : Unit) : Keeps Kept (run hc') Failed := by
      refine (hc _).bind fun mac => contract_read fun start => (hc _).bind fun rif => ?_
      cases start.fib.neighbors[(req.interface, req.ip)]? with
      | none => exact installs rif mac
      | some neighbor =>
        dsimp only
        split_ifs
        · exact (free.removes _ _).bind fun _ => installs rif mac
        · exact installs rif mac
    split_ifs
    · exact (hc _).bind runs
    · exact runs ()

end

theorem neighborFree_accounted :
    NeighborFree backend (Accounted hops groups) (Accounted hops groups : World δ → Prop) where
  removes _ _ := trySai_keeps deviceFree_accounted _
  creates _ _ _ := sai_keeps deviceFree_accounted _
  records _ _ hi := hi.setNeighbors

theorem fibReleaseHop_accounts (key : HopKey) :
    Contract (Accounted (key :: hops) groups) (fibReleaseHop backend key)
      (fun _ => Accounted hops groups) Failed := by
  refine contract_get_modify (Accounted hops groups) (fun _ hi => hi.dropHop) fun start => ?_
  split
  · exact trySai_keeps deviceFree_accounted _
  · exact contract_done

theorem releaseHops_accounts (keys : List HopKey) :
    Contract (Accounted (keys ++ hops) groups) (each (fibReleaseHop backend) keys)
      (fun _ => Accounted hops groups) Failed :=
  contract_each (fun keys => Accounted (keys ++ hops) groups)
    (fun key _ => fibReleaseHop_accounts key) keys

theorem fibReleaseGroup_accounts (key : List Oid) :
    Contract (Accounted hops (key :: groups)) (fibReleaseGroup backend key)
      (fun _ => Accounted hops groups) Failed := by
  refine contract_get_modify (Accounted hops groups) (fun _ hi => hi.dropGroup) fun start => ?_
  split
  · exact unwindGroup_keeps deviceFree_accounted _ _
  · exact contract_done

theorem fibReleaseRoute_accounts (route : FibRoute) :
    Contract (Accounted (route.hopKeys ++ hops) (route.groupKey.toList ++ groups))
      (fibReleaseRoute backend route) (fun _ => Accounted hops groups) Failed := by
  unfold fibReleaseRoute
  cases route.groupKey with
  | none => exact (contract_pure fun _ holds => holds).bind fun _ => releaseHops_accounts _
  | some key => exact (fibReleaseGroup_accounts key).bind fun _ => releaseHops_accounts _

theorem fibTeardownRoute_accounts (text : String) :
    Keeps (Accounted hops groups) (fibTeardownRoute backend text) Failed := by
  refine contract_get_bind fun start hi => ?_
  cases hf : start.fib.routes[text]? with
  | none => exact contract_pure fun _ isStart => isStart ▸ hi
  | some route =>
    have forgets : Contract (fun w : World δ => w = start)
        (modifyFib fun fib => { fib with routes := fib.routes.erase text })
        (fun _ => Accounted (route.hopKeys ++ hops) (route.groupKey.toList ++ groups)) Failed := by
      refine contract_modify ?_
      rintro _ rfl
      exact hi.eraseRoute hf
    refine forgets.bind fun _ => ?_
    cases parseCidr text with
    | ok dest => exact (trySai_keeps deviceFree_accounted _).bind fun _ => fibReleaseRoute_accounts route
    | error _ => exact fibReleaseRoute_accounts route

theorem fibTeardownRif_accounts (rif : Oid) :
    Keeps (Accounted hops groups) (fibTeardownRif backend rif) Failed := by
  refine contract_read fun start => ?_
  exact (contract_each_keep fibTeardownRoute_accounts _).bind fun _ =>
    contract_each_keep neighborFree_accounted.teardown _

/-- What a request holds so far is counted, and its objects are those on record. -/
structure Holds (resolved : Resolved) (hops : List HopKey) (groups : List (List Oid)) (w : World δ) :
    Prop where
  accounts : Accounted (resolved.keys ++ hops) groups w
  objects : w.fib.Objects resolved.keys resolved.oids

theorem Holds.empty {w : World δ} (hi : Accounted hops groups w) :
    Holds {} hops groups w := ⟨hi, .nil⟩

variable {resolved : Resolved}

theorem Holds.congr {w w' : World δ} (holds : Holds resolved hops groups w)
    (same : w'.fib = w.fib) : Holds resolved hops groups w' := by
  obtain ⟨accounts, objects⟩ := holds
  rw [← same] at objects
  exact ⟨by rwa [Accounted, same], objects⟩

/-- Calls of the switch do not touch the tables. -/
theorem deviceFree_fib {start : World δ} : DeviceFree fun w : World δ => w.fib = start.fib := fun _ _ => id

theorem Holds.add {w w' : World δ} {key : HopKey} {oid : Oid}
    (holds : Holds resolved hops groups w) (ha : key ∉ resolved.keys)
    (accounts : Accounted (key :: (resolved.keys ++ hops)) groups w')
    (hk : object w'.fib.nextHops key = some oid) (hs : ∀ other ∈ resolved.keys,
      object w'.fib.nextHops other = object w.fib.nextHops other) :
    Holds (resolved.add key oid ha) hops groups w' where
  accounts := by
    refine accounts.perm ?_ (List.Perm.refl _)
    rw [Resolved.add, List.append_assoc]
    exact List.perm_middle
  objects := List.rel_append (holds.objects.congr hs) (.cons hk .nil)

theorem fibAcquireHop_holds {rif : Oid} {ip : IpAddr} (ha : (rif, ip.text) ∉ resolved.keys) :
    Contract (Holds resolved hops groups) (fibAcquireHop backend rif ip)
      (fun oid => Holds (resolved.add (rif, ip.text) oid ha) hops groups)
      (Holds resolved hops groups) := by
  refine contract_get_bind fun start holds => ?_
  cases hf : start.fib.nextHops[(rif, ip.text)]? with
  | some shared =>
    refine bind (contract_modify ?_) fun _ => contract_pure fun _ holds => holds
    rintro _ rfl
    refine holds.add ha (holds.accounts.retainHop (mem_of_lookup hf)) ?_ fun _ _ => object_retain
    exact object_retain.trans (congrArg (Option.map Shared.object) hf)
  | none =>
    refine bind ((sai_keeps deviceFree_fib _).mono (fun _ isStart => isStart ▸ rfl)
      (fun _ _ => id) fun _ => holds.congr) fun oid => ?_
    refine bind (contract_modify fun w same => ?_) fun _ => contract_pure fun _ holds => holds
    have holds := holds.congr same
    rw [← same] at hf
    refine holds.add ha (holds.accounts.publishHop hf) (object_publish.trans (if_pos rfl)) ?_
    intro other hl
    have ne : (rif, ip.text) ≠ other := fun hs => ha (hs ▸ hl)
    exact object_publish.trans (if_neg ne)

theorem releaseHeld_accounts (resolved : Resolved) :
    Contract (Holds resolved hops groups) (each (fibReleaseHop backend) resolved.keys)
      (fun _ => Accounted hops groups) Failed :=
  (releaseHops_accounts resolved.keys).strengthen fun _ => Holds.accounts

theorem resolveHops_append (earlier later : List NextHop) (resolved : Resolved) :
    resolveHops backend (earlier ++ later) resolved =
      (resolveHops backend earlier resolved >>= resolveHops backend later) := by
  induction earlier generalizing resolved with
  | nil => rfl
  | cons hop rest ih =>
    simp only [List.cons_append, resolveHops]
    cases parseIpAddr hop.ip.toList with
    | none => rfl
    | some ip =>
      rw [bind_assoc]
      refine bind_congr fun start => ?_
      cases start.rifOf hop.interface with
      | error status =>
        rw [bind_assoc]
        rfl
      | ok rif =>
        dsimp only
        split_ifs
        · exact ih resolved
        · rw [bind_assoc]
          simp only [ih]

theorem resolveHops_holds (requested : List NextHop) (resolved : Resolved) :
    Contract (Holds resolved hops groups) (resolveHops backend requested resolved)
      (fun resolved => Holds resolved hops groups)
      fun w => (∀ hop ∈ requested, (parseIpAddr hop.ip.toList).isSome) → Accounted hops groups w := by
  induction requested generalizing resolved with
  | nil => exact contract_pure fun _ holds => holds
  | cons hop rest ih =>
    simp only [List.forall_mem_cons]
    have resolvesRest := fun resolved => (ih resolved).failing fun (w : World δ) hi
        (addresses : (parseIpAddr hop.ip.toList).isSome = true ∧ _) => hi addresses.2
    rw [resolveHops]
    cases isAddress : parseIpAddr hop.ip.toList with
    | none => exact contract_throw fun _ _ addresses => absurd addresses.1 (by simp)
    | some ip =>
      rw [isAddress] at resolvesRest
      refine contract_read fun start => ?_
      cases start.rifOf hop.interface with
      | error status =>
        exact (releaseHeld_accounts resolved).bind fun _ =>
          contract_throw fun _ hi _ => hi
      | ok rif =>
        dsimp only
        split_ifs with hl
        · exact resolvesRest resolved
        · refine bind (failing ?_ fun _ hi _ => hi) fun oid => resolvesRest _
          exact (fibAcquireHop_holds hl).recover (releaseHeld_accounts resolved)

theorem resolveHops_keys (requested : List NextHop) (resolved : Resolved) :
    Contract (fun _ => True) (resolveHops backend requested resolved)
      (fun hf _ => resolved.keys ⊆ hf.keys ∧ (requested ≠ [] → hf.keys ≠ [])) fun _ => True := by
  induction requested generalizing resolved with
  | nil => exact contract_pure fun _ _ => ⟨List.Subset.refl _, fun some => absurd rfl some⟩
  | cons hop rest ih =>
    rw [resolveHops]
    cases parseIpAddr hop.ip.toList with
    | none => exact contract_throw fun _ _ => trivial
    | some ip =>
      refine contract_read fun start => ?_
      cases start.rifOf hop.interface with
      | error status => exact contract_true.bind fun _ => contract_throw fun _ _ => trivial
      | ok rif =>
        dsimp only
        split_ifs with hl
        · refine (ih resolved).weaken fun hf _ keys => ⟨keys.1, fun _ => ?_⟩
          exact List.ne_nil_of_mem (keys.1 hl)
        · refine contract_true.bind fun oid => (ih _).weaken fun hf _ keys => ?_
          have subset : resolved.keys ++ [(rif, ip.text)] ⊆ hf.keys := keys.1
          rw [List.append_subset] at subset
          exact ⟨subset.1, fun _ => List.ne_nil_of_mem (subset.2 (List.mem_singleton_self _))⟩

theorem fibAcquireGroup_holds (members : List Oid) :
    Contract (Holds resolved hops groups) (fibAcquireGroup backend members)
      (fun _ => Holds resolved hops (members :: groups)) (Holds resolved hops groups) := by
  refine contract_get_bind fun start holds => ?_
  cases hf : start.fib.groups[members]? with
  | some shared =>
    refine bind (contract_modify ?_) fun _ => contract_done
    rintro _ rfl
    exact ⟨holds.accounts.retainGroup (mem_of_lookup hf), holds.objects⟩
  | none =>
    refine bind ((sai_keeps deviceFree_fib _).mono (fun _ isStart => isStart ▸ rfl)
      (fun _ _ => id) fun _ => holds.congr) fun group => ?_
    refine bind ((addGroupMembers_keeps deviceFree_fib group members []).failing fun _ => holds.congr)
      fun added => bind (contract_modify fun w same => ?_) fun _ => contract_done
    have holds := holds.congr same
    rw [← same] at hf
    exact ⟨holds.accounts.publishGroup hf, holds.objects⟩

theorem FibTable.Objects.supports {fib : FibTable}
    (objects : fib.Objects resolved.keys resolved.oids) {groupKey : Option (List Oid)}
    (isGroup : ∀ key, groupKey = some key → ∀ oid ∈ key, oid ∈ resolved.oids) :
    fib.Supports ⟨resolved.keys, resolved.distinct, groupKey⟩ := by
  intro key isKey oid hl
  obtain ⟨i, bound, rfl⟩ := List.getElem_of_mem (isGroup key isKey oid hl)
  have sameLength := objects.length_eq
  exact ⟨_, List.getElem_mem (sameLength ▸ bound), objects.get (sameLength ▸ bound) bound⟩

structure Ready (route : FibRoute) (hops : List HopKey) (groups : List (List Oid)) (w : World δ) :
    Prop where
  accounts : Accounted (route.hopKeys ++ hops) (route.groupKey.toList ++ groups) w
  supports : w.fib.Supports route

variable {route : FibRoute}

theorem deviceFree_ready : DeviceFree (Ready route hops groups : World δ → Prop) :=
  fun _ _ ready => ⟨ready.accounts, ready.supports⟩

theorem resolveTarget_ready (req : EnsureRouteRequest) (resolved : Resolved) :
    Contract (Holds resolved hops groups) (resolveTarget backend req resolved)
      (fun target => Ready ⟨resolved.keys, resolved.distinct, target.2⟩ hops groups)
      (Accounted hops groups) := by
  have alone (target : RouteTarget) : Contract (Holds resolved hops groups)
      (pure (target, none) : Rpc δ _) (fun target => Ready ⟨resolved.keys, resolved.distinct, target.2⟩ hops groups)
      (Accounted hops groups) :=
    contract_pure fun _ holds => ⟨holds.accounts, holds.objects.supports nofun⟩
  unfold resolveTarget
  split_ifs
  · exact alone .cpu
  · exact alone .drop
  split
  · exact alone _
  · refine ((fibAcquireGroup_holds _).recover (releaseHeld_accounts resolved)).bind fun group =>
      contract_pure fun w holds => ⟨holds.accounts, holds.objects.supports ?_⟩
    rintro key isKey oid hl
    cases isKey
    exact (List.perm_insertionSort _ _).mem_iff.mp hl

theorem releaseOld_accounts (old : Option FibRoute) :
    Contract (Accounted (old.elim [] FibRoute.hopKeys ++ hops)
        (old.elim [] (fun route => route.groupKey.toList) ++ groups))
      (match old with
        | some old => fibReleaseRoute backend old
        | none => return)
      (fun _ => Accounted hops groups) Failed := by
  cases old with
  | none => exact contract_done
  | some old => exact fibReleaseRoute_accounts old

/-- The old route is forgotten, and its references are held with those of the new one. -/
structure Exchanging (old : Option FibRoute) (text : String) (route : FibRoute) (hops : List HopKey)
    (groups : List (List Oid)) (w : World δ) : Prop where
  ready : Ready route (old.elim [] FibRoute.hopKeys ++ hops)
    (old.elim [] (fun route => route.groupKey.toList) ++ groups) w
  absent : w.fib.routes[text]? = none

theorem deviceFree_exchanging {old : Option FibRoute} {text : String} :
    DeviceFree (Exchanging old text route hops groups : World δ → Prop) :=
  fun _ _ exchanging => ⟨deviceFree_ready _ _ exchanging.ready, exchanging.absent⟩

theorem Ready.forget {text : String} {w : World δ} (ready : Ready route hops groups w) :
    Exchanging w.fib.routes[text]? text route hops groups
      { w with fib := { w.fib with routes := w.fib.routes.erase text } } := by
  refine ⟨⟨?_, ready.supports⟩, getElem?_erase_self⟩
  cases hf : w.fib.routes[text]? with
  | none =>
    rw [erase_of_absent hf]
    exact ready.accounts
  | some old =>
    refine (ready.accounts.eraseRoute hf).perm ?_ ?_
    all_goals exact List.perm_append_comm_assoc _ _ _

theorem replaceRoute_accounts (text : String) (dest : IpPrefix) (target : RouteTarget) (route : FibRoute) :
    Contract (Ready route hops groups) (replaceRoute backend text dest target route)
      (fun _ => Accounted hops groups) (Accounted hops groups) := by
  refine contract_get.bind fun start => ?_
  have forgets : Contract (fun w => start = w ∧ Ready route hops groups w)
      (modifyFib fun fib => { fib with routes := fib.routes.erase text })
      (fun _ => Exchanging start.fib.routes[text]? text route hops groups) (Accounted hops groups) := by
    refine contract_modify ?_
    rintro w ⟨rfl, ready⟩
    exact ready.forget
  refine forgets.bind fun _ => ?_
  generalize start.fib.routes[text]? = old
  have installs : Keeps (Exchanging old text route hops groups)
      (recover (sai (backend.createRoute dest target)) do
        fibReleaseRoute backend route
        match old with
        | some old => fibReleaseRoute backend old
        | none => return) (Accounted hops groups) := by
    refine (sai_keeps deviceFree_exchanging _).recover ?_
    refine (fibReleaseRoute_accounts route).strengthen (fun _ exchanging => exchanging.ready.accounts)
      |>.bind fun _ => releaseOld_accounts old
  have records : Contract (Exchanging old text route hops groups : World δ → Prop)
      (modifyFib fun fib => { fib with routes := fib.routes.insert text route })
      (fun _ => Accounted (old.elim [] FibRoute.hopKeys ++ hops)
        (old.elim [] (fun route => route.groupKey.toList) ++ groups)) (Accounted hops groups) :=
    contract_modify fun _ exchanging =>
      exchanging.ready.accounts.insertRoute exchanging.absent exchanging.ready.supports
  have finishes := installs.bind fun _ => records.bind fun _ => @releaseOld_accounts _ backend _ _ _ old
  split_ifs
  · exact (trySai_keeps deviceFree_exchanging _).bind fun _ => finishes
  · exact finishes

theorem ensureRoute_accounts (caps : Capabilities) (req : EnsureRouteRequest)
    (addresses : ∀ hop ∈ req.nextHops, (parseIpAddr hop.ip.toList).isSome) :
    Keeps (Accounted hops groups) (ensureRoute backend caps req) (Accounted hops groups) := by
  refine bind settle_keeps fun dest => ?_
  refine bind (mono (resolveHops_holds req.nextHops {})
    (fun _ => Holds.empty) (fun _ _ holds => holds) fun _ hi => hi addresses) fun resolved => ?_
  refine (resolveTarget_ready req resolved).bind ?_
  rintro ⟨target, groupKey⟩
  exact replaceRoute_accounts _ _ _ _

theorem removeRoute_accounts (cidr : String) :
    Keeps (Accounted hops groups) (removeRoute backend cidr) (Accounted hops groups) :=
  settle_keeps.bind fun text =>
    fibTeardownRoute_accounts text

theorem setInterfaceAddress_accounts (req : SetInterfaceAddressRequest) :
    Keeps (Accounted hops groups) (setInterfaceAddress backend req) (Accounted hops groups) := by
  refine contract_setInterfaceAddress (fun _ => id) (fun _ _ hi _ _ _ => hi) fun w dest hi _ _ _ => ?_
  refine ((readdress_keeps deviceFree_accounted _ _ dest).strengthen fun _ isStart => isStart ▸ hi).bind
    fun rif => contract_modify fun after hi => ?_
  cases interfaceOf req.name <;> exact hi

theorem teardownL3_accounts (l3 : L3State) (remove : Sai δ Unit) :
    Keeps (Accounted hops groups) (teardownL3 backend l3 remove) (Accounted hops groups) :=
  (fibTeardownRif_accounts l3.rif).bind fun _ =>
    (dropRoutes_keeps deviceFree_accounted _).bind fun _ => sai_keeps deviceFree_accounted remove

theorem clearInterfaceAddress_accounts (name : String) :
    Keeps (Accounted hops groups) (clearInterfaceAddress backend name) (Accounted hops groups) := by
  refine contract_clearInterfaceAddress (fun _ => id) (fun _ hi _ => hi) fun w l3 hi _ => ?_
  refine ((teardownL3_accounts l3 _).strengthen fun _ isStart => isStart ▸ hi).bind
    fun _ => contract_modify fun after hi => ?_
  cases interfaceOf name <;> exact hi

end

/-- The counts are those of the recorded routes; nothing is kept that nobody uses, and
groups only lead to next hops that are there. -/
structure FibTable.Counted (fib : FibTable) : Prop where
  hops : ∀ {key : HopKey} {shared : Shared Oid}, fib.nextHops[key]? = some shared →
    shared.refs = fib.hopUsers key ∧ shared.refs ≠ 0
  groups : ∀ {key : List Oid} {shared : Shared FibGroup}, fib.groups[key]? = some shared →
    shared.refs = fib.groupUsers key ∧ shared.refs ≠ 0
  members : ∀ {key : List Oid}, key ∈ fib.groups → ∀ oid ∈ key,
    ∃ hop : HopKey, Table.object fib.nextHops hop = some oid

theorem FibTable.Accounts.counted {fib : FibTable} (hi : fib.Accounts [] []) : fib.Counted where
  hops hf := by
    have refs := hi.hops.refs hf
    exact ⟨refs, refs ▸ (hi.hops.pos hf).ne'⟩
  groups hf := by
    have refs := hi.groups.refs hf
    exact ⟨refs, refs ▸ (hi.groups.pos hf).ne'⟩
  members := by
    intro key hk oid hl
    obtain ⟨text, route, hf, isKey⟩ := groupUsers_pos.mp (hi.groups.present.mp hk)
    obtain ⟨hop, -, ho⟩ := hi.supported hf key isKey oid hl
    exact ⟨hop, ho⟩

theorem FibTable.Accounts.not_counted {fib : FibTable} {hops : List HopKey} {groups : List (List Oid)}
    (hi : fib.Accounts hops groups) (held : hops ≠ []) : ¬ fib.Counted := by
  intro counted
  obtain ⟨key, hl⟩ := List.exists_mem_of_ne_nil hops held
  have positive : 0 < hops.count key := List.count_pos_iff.mpr hl
  obtain ⟨shared, hf⟩ := hi.hops.exists_of_pos (Nat.add_pos_right (fib.hopUsers key) positive)
  have refs := hi.hops.refs hf
  have users := (counted.hops hf).1
  omega

section

variable {δ : Type} (backend : Backend δ) (caps : Capabilities)

inductive FibCall where
  | ensureRoute (req : EnsureRouteRequest)
  | removeRoute (cidr : String)
  | ensureNeighbor (req : EnsureNeighborRequest)
  | removeNeighbor (iface ip : String)
  | setInterfaceAddress (req : SetInterfaceAddressRequest)
  | clearInterfaceAddress (name : String)

def FibCall.program : FibCall → Rpc δ Unit
  | .ensureRoute req => Routing.ensureRoute backend caps req
  | .removeRoute cidr => Routing.removeRoute backend cidr
  | .ensureNeighbor req => Routing.ensureNeighbor backend caps req
  | .removeNeighbor iface ip => Routing.removeNeighbor backend iface ip
  | .setInterfaceAddress req => Routing.setInterfaceAddress backend req
  | .clearInterfaceAddress name => Routing.clearInterfaceAddress backend name

/-- The service, one call at a time. -/
def fibMachine (start : World δ) : Machine (World δ) FibCall Empty where
  init := start
  next := fun w call => final (call.program backend caps) w
  emit := fun _ _ => []

/-- A request that names next hops, and after some that are found one that is no address. -/
def Leaks (w : World δ) : FibCall → Prop
  | .ensureRoute req =>
    (∃ dest, req.check caps = .ok dest) ∧
      ∃ (earlier : List NextHop) (bad : NextHop) (later : List NextHop),
        req.nextHops = earlier ++ bad :: later ∧ earlier ≠ [] ∧
          parseIpAddr bad.ip.toList = none ∧ succeeds (resolveHops backend earlier {}) w
  | _ => False

end

section

variable {δ : Type} {backend : Backend δ} {caps : Capabilities}
variable {req : EnsureRouteRequest}

theorem ensureRoute_unparsable {dest : IpPrefix} {w : World δ}
    {earlier later : List NextHop} {bad : NextHop} (hc : req.check caps = .ok dest)
    (split : req.nextHops = earlier ++ bad :: later) (unparsable : parseIpAddr bad.ip.toList = none) :
    final (ensureRoute backend caps req) w = final (resolveHops backend earlier {}) w := by
  have resolves : final (resolveHops backend req.nextHops {}) w =
      final (resolveHops backend earlier {}) w ∧
      ∃ failure after, resolveHops backend req.nextHops {} w = .error failure after := by
    rw [split, resolveHops_append]
    cases ho : resolveHops backend earlier {} w with
    | ok resolved after =>
      have stops : resolveHops backend (bad :: later) resolved after =
          .error ⟨.invalidArgument, "bad next-hop address " ++ Acl.quoted bad.ip⟩ after := by
        rw [resolveHops, unparsable]
        rfl
      have failed := (bind_of_ok ho).trans stops
      exact ⟨(final_of_error failed).trans (final_of_ok ho).symm, _, _, failed⟩
    | error failure after =>
      have failed := @bind_of_error _ _ _ _ _ (resolveHops backend (bad :: later)) _ _ _ ho
      exact ⟨(final_of_error failed).trans (final_of_error ho).symm, _, _, failed⟩
  obtain ⟨sameFinal, failure, after, failed⟩ := resolves
  rw [← sameFinal, final_of_error failed, ensureRoute, hc]
  exact final_of_error ((bind_of_ok rfl).trans (bind_of_error failed))

theorem split_unparsable (requested : List NextHop) :
    (∀ hop ∈ requested, (parseIpAddr hop.ip.toList).isSome) ∨
      ∃ (earlier : List NextHop) (bad : NextHop) (later : List NextHop),
        requested = earlier ++ bad :: later ∧ parseIpAddr bad.ip.toList = none ∧
          ∀ hop ∈ earlier, (parseIpAddr hop.ip.toList).isSome := by
  cases search : requested.find? fun hop => (parseIpAddr hop.ip.toList).isNone with
  | none =>
    rw [List.find?_eq_none] at search
    exact .inl fun hop hl => Option.isSome_iff_ne_none.mpr (by simpa using search hop hl)
  | some bad =>
    obtain ⟨isNone, earlier, later, split, before⟩ := List.find?_eq_some_iff_append.mp search
    exact .inr ⟨earlier, bad, later, split, Option.isNone_iff_eq_none.mp isNone,
      fun hop hl => by simpa using before hop hl⟩

theorem accounted_ensureRoute {w : World δ}
    (hi : Accounted [] [] w) (tight : ¬ Leaks backend caps w (.ensureRoute req)) :
    Accounted [] [] (final (ensureRoute backend caps req) w) := by
  obtain addresses | ⟨earlier, bad, later, split, unparsable, addresses⟩ := split_unparsable req.nextHops
  · exact (ensureRoute_accounts caps req addresses).final hi
  cases hc : req.check caps with
  | error failure =>
    have failed : ensureRoute backend caps req w = .error failure w := by
      rw [ensureRoute, hc]
      rfl
    rwa [final_of_error failed]
  | ok dest =>
    rw [ensureRoute_unparsable hc split unparsable]
    cases ho : resolveHops backend earlier {} w with
    | error failure after =>
      rw [final_of_error ho]
      exact (resolveHops_holds earlier {}).error (.empty hi) ho addresses
    | ok resolved after =>
      have nothing : earlier = [] := by
        by_contra some
        exact tight ⟨⟨dest, hc⟩, earlier, bad, later, split, some, unparsable,
          succeeds_iff.mpr ⟨_, _, ho⟩⟩
      subst nothing
      rwa [final_of_ok (show resolveHops backend [] {} w = .ok {} w from rfl)]

theorem accounted_next {w : World δ} {call : FibCall} (hi : Accounted [] [] w)
    (tight : ¬ Leaks backend caps w call) : Accounted [] [] (final (call.program backend caps) w) := by
  cases call with
  | ensureRoute req => exact accounted_ensureRoute hi tight
  | removeRoute cidr => exact (removeRoute_accounts cidr).final hi
  | ensureNeighbor req => exact (neighborFree_accounted.ensure (fun _ => id) (fun _ => id) caps req).final hi
  | removeNeighbor iface ip => exact (neighborFree_accounted.teardown (iface, ip)).final hi
  | setInterfaceAddress req => exact (setInterfaceAddress_accounts req).final hi
  | clearInterfaceAddress name => exact (clearInterfaceAddress_accounts name).final hi

theorem not_counted_of_leaks {w : World δ} {call : FibCall} (hi : Accounted [] [] w)
    (leaks : Leaks backend caps w call) : ¬ (final (call.program backend caps) w).fib.Counted := by
  cases call with
  | ensureRoute req =>
    obtain ⟨⟨dest, hc⟩, earlier, bad, later, split, some, unparsable, success⟩ := leaks
    change ¬ (final (ensureRoute backend caps req) w).fib.Counted
    rw [ensureRoute_unparsable hc split unparsable]
    obtain ⟨resolved, after, ho⟩ := succeeds_iff.mp success
    rw [final_of_ok ho]
    have holds : Holds resolved [] [] after := (resolveHops_holds earlier {}).ok (.empty hi) ho
    have taken := ((resolveHops_keys earlier {}).ok trivial ho).2 some
    exact holds.accounts.not_counted (by rwa [List.append_nil])
  | _ => exact leaks.elim

end

/-- The counts stay right as long as no request leaks. -/
theorem counted_iff_tight {δ : Type} (backend : Backend δ) (caps : Capabilities)
    (ports : NameMap PortState) (vlans : VlanMap VlanState) (device : δ) (calls : List FibCall) :
    (fibMachine backend caps { ports, vlans, device }).Always (fun w => w.fib.Counted) calls ↔
      (fibMachine backend caps { ports, vlans, device }).Throughout
        (fun w call => ¬ Leaks backend caps w call) calls := by
  refine @Machine.always_iff_throughout_of_invariant _ _ _ _ (Accounted [] []) _ _ accounts_empty ?_ ?_ ?_ calls
  · exact fun w accounts => accounts.counted
  · exact fun w call accounts tight => accounted_next accounts tight
  · exact fun w call accounts counted leaks => not_counted_of_leaks accounts leaks counted

/-- The next hops of the request are addresses, the first one perhaps not. -/
def FibCall.Parsable : FibCall → Prop
  | .ensureRoute req => ∀ hop ∈ req.nextHops.tail, (parseIpAddr hop.ip.toList).isSome
  | _ => True

theorem not_leaks_of_parsable {δ : Type} {backend : Backend δ} {caps : Capabilities} {w : World δ}
    {call : FibCall} (parsable : call.Parsable) : ¬ Leaks backend caps w call := by
  cases call with
  | ensureRoute req =>
    rintro ⟨-, earlier, bad, later, split, some, unparsable, -⟩
    have behind : bad ∈ req.nextHops.tail := by
      rw [split, List.tail_append_of_ne_nil some]
      simp
    have parsed := parsable bad behind
    rw [unparsable] at parsed
    cases parsed
  | _ => exact id

/-- What the requests say is enough: of each, no next hop behind the first is ill-formed. -/
theorem counted_of_parsable {δ : Type} (backend : Backend δ) (caps : Capabilities)
    (ports : NameMap PortState) (vlans : VlanMap VlanState) (device : δ) {calls : List FibCall}
    (parsable : ∀ call ∈ calls, call.Parsable) :
    (fibMachine backend caps { ports, vlans, device }).Always (fun w => w.fib.Counted) calls := by
  have tight : (fibMachine backend caps { ports, vlans, device }).Throughout
      (fun w call => ¬ Leaks backend caps w call) calls := by
    rintro before call after rfl
    exact not_leaks_of_parsable (parsable call (by simp))
  have accounted : (fibMachine backend caps { ports, vlans, device }).Always (Accounted [] []) calls :=
    Machine.always_of_throughout accounts_empty (fun w call => accounted_next) calls tight
  exact fun before after split => (accounted before after split).counted

def onePort : World MockSai where
  ports := (∅ : NameMap PortState).insert "Ethernet1" { saiId := 1 }
  device := { ports := (∅ : Switching.OidSet).insert 1 }

/-- The second next hop is no address; the first one stays counted. -/
def leakCalls : List FibCall :=
  [.setInterfaceAddress ⟨"Ethernet1", "10.0.0.1/24"⟩,
    .ensureRoute { cidr := "10.1.0.0/16", nextHops := [⟨"Ethernet1", "10.0.0.2"⟩, ⟨"Ethernet1", "10.0.0"⟩] }]

theorem bad_next_hop_leaks :
    ¬ (fibMachine mockBackend {} onePort).Always (fun w => w.fib.Counted) leakCalls := by
  intro always
  have counted := always leakCalls [] (List.append_nil _).symm
  have counts : ((fibMachine mockBackend {} onePort).run leakCalls).fib.nextHops[((0, "10.0.0.2") : HopKey)]?.map
      Shared.refs = some 1 := by decide +kernel
  have users : ((fibMachine mockBackend {} onePort).run leakCalls).fib.hopUsers (0, "10.0.0.2") = 0 := by
    decide +kernel
  obtain ⟨shared, found, refs⟩ := Option.map_eq_some_iff.mp counts
  have equal := (counted.hops found).1
  rw [refs, users] at equal
  exact absurd equal (by decide)

end Hemlock.Routing
