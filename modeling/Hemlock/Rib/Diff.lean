import Hemlock.Library.Reconcile
import Hemlock.Names

/-!
# Converging the FIB

The FIB program that syncd should hold, and the pushes that turn the one it holds
into the wanted one.  Neighbors land before the routes that resolve through them,
and stale routes go before the neighbors they referenced.
-/

namespace Hemlock.Rib

open Reconcile OrderedMap

/-- A next hop: interface and address. -/
abbrev Hop := String × String

abbrev HopMap (Value : Type) := Std.ExtTreeMap Hop Value lexOrd.compare

structure WantedRoute where
  /-- Punt while no next hop has a resolved neighbor. -/
  cpu : Bool
  /-- Null route. -/
  drop : Bool
  /-- Resolved next hops. -/
  hops : List Hop
  deriving DecidableEq, Repr

/-- What syncd's FIB should hold: a program for each canonical prefix, and the MAC
address of each neighbor. -/
structure Program where
  routes : NameMap WantedRoute := ∅
  neighbors : HopMap String := ∅

/-- One syncd push. -/
inductive FibOp where
  | ensureNeighbor (interface ip mac : String)
  | ensureRoute (cidr : String) (route : WantedRoute)
  | removeRoute (cidr : String)
  | removeNeighbor (interface ip : String)
  deriving DecidableEq, Repr

def ensureNeighbor (entry : Hop × String) : FibOp := .ensureNeighbor entry.1.1 entry.1.2 entry.2

def ensureRoute (entry : String × WantedRoute) : FibOp := .ensureRoute entry.1 entry.2

def removeNeighbor (hop : Hop) : FibOp := .removeNeighbor hop.1 hop.2

/-- The pushes that converge `current` onto `wanted`. -/
def diffProgram (current wanted : Program) : List FibOp :=
  (writes current.neighbors wanted.neighbors).map ensureNeighbor ++
    (writes current.routes wanted.routes).map ensureRoute ++
    (stale current.routes wanted.routes).map FibOp.removeRoute ++
    (stale current.neighbors wanted.neighbors).map removeNeighbor

/-- What a push that succeeded makes of the mirror. -/
def Program.apply (program : Program) : FibOp → Program
  | .ensureNeighbor interface ip mac =>
    { program with neighbors := program.neighbors.insert (interface, ip) mac }
  | .ensureRoute cidr route => { program with routes := program.routes.insert cidr route }
  | .removeRoute cidr => { program with routes := program.routes.erase cidr }
  | .removeNeighbor interface ip =>
    { program with neighbors := program.neighbors.erase (interface, ip) }

theorem foldl_ensureNeighbor (entries : List (Hop × String)) (program : Program) :
    (entries.map ensureNeighbor).foldl Program.apply program =
      { program with neighbors := program.neighbors.insertMany entries } := by
  rw [List.foldl_map, Std.ExtTreeMap.insertMany_list_eq_foldl]
  refine List.foldl_hom (fun neighbors => { program with neighbors := neighbors }) ?_
  intro _ _
  rfl

theorem foldl_ensureRoute (entries : List (String × WantedRoute)) (program : Program) :
    (entries.map ensureRoute).foldl Program.apply program =
      { program with routes := program.routes.insertMany entries } := by
  rw [List.foldl_map, Std.ExtTreeMap.insertMany_list_eq_foldl]
  refine List.foldl_hom (fun routes => { program with routes := routes }) ?_
  intro _ _
  rfl

theorem foldl_removeRoute (keys : List String) (program : Program) :
    (keys.map FibOp.removeRoute).foldl Program.apply program =
      { program with routes := keys.foldl Std.ExtTreeMap.erase program.routes } := by
  rw [List.foldl_map]
  refine List.foldl_hom (fun routes => { program with routes := routes }) ?_
  intro _ _
  rfl

theorem foldl_removeNeighbor (hops : List Hop) (program : Program) :
    (hops.map removeNeighbor).foldl Program.apply program =
      { program with neighbors := hops.foldl Std.ExtTreeMap.erase program.neighbors } := by
  rw [List.foldl_map]
  refine List.foldl_hom (fun neighbors => { program with neighbors := neighbors }) ?_
  intro _ _
  rfl

/-- `mirror` is enough to converge `device` onto `wanted`: it knows all entries of the
device, and a wanted entry that it has the device has. -/
structure Program.Anchors (mirror device wanted : Program) : Prop where
  routes : Trusted mirror.routes device.routes wanted.routes
  knownRoutes : ∀ cidr ∈ device.routes, cidr ∈ mirror.routes
  neighbors : Trusted mirror.neighbors device.neighbors wanted.neighbors
  knownNeighbors : ∀ hop ∈ device.neighbors, hop ∈ mirror.neighbors

theorem Program.anchors_self (current wanted : Program) : current.Anchors current wanted where
  routes := trusted_self _ _
  knownRoutes := fun _ hl => hl
  neighbors := trusted_self _ _
  knownNeighbors := fun _ hl => hl

theorem Program.Anchors.foldl_diffProgram {mirror device wanted : Program}
    (anchors : mirror.Anchors device wanted) :
    (diffProgram mirror wanted).foldl Program.apply device = wanted := by
  rw [diffProgram, List.foldl_append, List.foldl_append, List.foldl_append, foldl_ensureNeighbor,
    foldl_ensureRoute, foldl_removeRoute, foldl_removeNeighbor]
  simp only [reconciled_of_trusted anchors.routes anchors.knownRoutes,
    reconciled_of_trusted anchors.neighbors anchors.knownNeighbors]

/-- Every next hop of every route has its neighbor entry. -/
def Program.Backed (program : Program) : Prop :=
  ∀ (cidr : String) route, program.routes[cidr]? = some route →
    ∀ hop ∈ route.hops, hop ∈ program.neighbors

def Program.Covers (program wanted : Program) : Prop :=
  ∀ hop ∈ wanted.neighbors, hop ∈ program.neighbors

section MakeBeforeBreak

variable {program wanted : Program}
variable (backed : program.Backed)
include backed

theorem Program.Backed.ensureNeighbor (entry : Hop × String) :
    (program.apply (ensureNeighbor entry)).Backed := by
  intro cidr route installed hop used
  exact member_insert.mpr (.inr (backed cidr route installed hop used))

theorem Program.Backed.ensureRoute {entry : String × WantedRoute}
    (resolved : ∀ hop ∈ entry.2.hops, hop ∈ program.neighbors) :
    (program.apply (ensureRoute entry)).Backed := by
  intro cidr route installed hop used
  change (program.routes.insert entry.1 entry.2)[cidr]? = some route at installed
  rw [lookup_insert] at installed
  split_ifs at installed
  · cases installed
    exact resolved hop used
  · exact backed cidr route installed hop used

theorem Program.Backed.removeRoute (key : String) : (program.apply (.removeRoute key)).Backed := by
  intro cidr route installed hop used
  change (program.routes.erase key)[cidr]? = some route at installed
  rw [lookup_erase] at installed
  split_ifs at installed
  exact backed cidr route installed hop used

theorem Program.Backed.removeNeighbor {gone : Hop}
    (unused : ∀ (cidr : String) route, program.routes[cidr]? = some route → gone ∉ route.hops) :
    (program.apply (removeNeighbor gone)).Backed := by
  intro cidr route installed hop used
  refine member_erase.mpr ⟨?_, backed cidr route installed hop used⟩
  intro hs
  subst hs
  exact unused cidr route installed used

end MakeBeforeBreak

theorem Program.Anchors.covers {mirror device wanted : Program}
    (anchors : mirror.Anchors device wanted) :
    Program.Covers { device with
        neighbors := device.neighbors.insertMany (writes mirror.neighbors wanted.neighbors) }
      wanted := by
  intro hop needed
  rw [mem_iff_isSome_getElem?, getElem?_written anchors.neighbors, Option.isSome_or,
    mem_iff_isSome_getElem?.mp needed, Bool.true_or]

variable {program : Program}

theorem throughout_ensureNeighbor (backed : program.Backed) (entries : List (Hop × String)) :
    Throughout Program.apply Program.Backed program (entries.map ensureNeighbor) := by
  refine throughout_of_invariant backed ?_ fun _ backed => backed
  intro op hl program backed
  obtain ⟨entry, -, rfl⟩ := List.mem_map.mp hl
  exact backed.ensureNeighbor entry

theorem throughout_ensureRoute {wanted : Program} (wantedBacked : wanted.Backed)
    (covers : program.Covers wanted) (backed : program.Backed) (current : Program) :
    Throughout Program.apply Program.Backed program
      ((writes current.routes wanted.routes).map ensureRoute) := by
  refine @throughout_of_invariant _ _ _ _ (fun program => program.Backed ∧ program.Covers wanted)
    _ _ ⟨backed, covers⟩ ?_ fun _ held => held.1
  intro op hl program held
  obtain ⟨entry, written, rfl⟩ := List.mem_map.mp hl
  refine ⟨held.1.ensureRoute ?_, held.2⟩
  intro hop used
  exact held.2 hop (wantedBacked entry.1 entry.2 (mem_writes.mp written).1 hop used)

theorem throughout_removeRoute (backed : program.Backed) (keys : List String) :
    Throughout Program.apply Program.Backed program (keys.map FibOp.removeRoute) := by
  refine throughout_of_invariant backed ?_ fun _ backed => backed
  intro op hl program backed
  obtain ⟨key, -, rfl⟩ := List.mem_map.mp hl
  exact backed.removeRoute key

theorem throughout_removeNeighbor {wanted : Program} (wantedBacked : wanted.Backed)
    (routes : program.routes = wanted.routes) (backed : program.Backed) (current : Program) :
    Throughout Program.apply Program.Backed program
      ((stale current.neighbors wanted.neighbors).map removeNeighbor) := by
  refine @throughout_of_invariant _ _ _ _
    (fun program => program.Backed ∧ program.routes = wanted.routes)
    _ _ ⟨backed, routes⟩ ?_ fun _ held => held.1
  intro op hl program held
  obtain ⟨gone, isStale, rfl⟩ := List.mem_map.mp hl
  refine ⟨held.1.removeNeighbor ?_, held.2⟩
  intro cidr route installed used
  rw [held.2] at installed
  exact (mem_stale.mp isStale).2 (wantedBacked cidr route installed gone used)

theorem Program.Anchors.throughout {mirror device wanted : Program}
    (anchors : mirror.Anchors device wanted) (deviceBacked : device.Backed)
    (wantedBacked : wanted.Backed) :
    Throughout Program.apply Program.Backed device (diffProgram mirror wanted) := by
  have neighborsIn := throughout_ensureNeighbor deviceBacked (writes mirror.neighbors wanted.neighbors)
  have routesIn : Throughout Program.apply Program.Backed device
      ((writes mirror.neighbors wanted.neighbors).map ensureNeighbor ++
        (writes mirror.routes wanted.routes).map ensureRoute) := by
    apply neighborsIn.append
    apply throughout_ensureRoute wantedBacked _ (neighborsIn _ List.prefix_rfl)
    rw [foldl_ensureNeighbor]
    exact anchors.covers
  have routesOut := routesIn.append
    (throughout_removeRoute (routesIn _ List.prefix_rfl) (stale mirror.routes wanted.routes))
  apply routesOut.append
  apply throughout_removeNeighbor wantedBacked _ (routesOut _ List.prefix_rfl)
  rw [List.foldl_append, List.foldl_append, foldl_ensureNeighbor, foldl_ensureRoute, foldl_removeRoute]
  exact reconciled_of_trusted anchors.routes anchors.knownRoutes

/-- The pushes make the wanted program of the current one, and if both programs have
a neighbor entry for each next hop then so has every program on the way. -/
theorem diffProgram_correct (current wanted : Program) :
    (diffProgram current wanted).foldl Program.apply current = wanted ∧
      (current.Backed → wanted.Backed → ∀ done, done <+: diffProgram current wanted →
          (done.foldl Program.apply current).Backed) := by
  have anchors := current.anchors_self wanted
  exact ⟨anchors.foldl_diffProgram, anchors.throughout⟩

def oneRoute (hop : Hop) (mac : String) : Program where
  routes := (∅ : NameMap WantedRoute).insert "10.0.0.0/8"
    { cpu := false, drop := false, hops := [hop] }
  neighbors := (∅ : HopMap String).insert hop mac

theorem oneRoute_backed (hop : Hop) (mac : String) : (oneRoute hop mac).Backed := by
  intro cidr route installed used hl
  have only : route = { cpu := false, drop := false, hops := [hop] } := by
    simp only [oneRoute, lookup_insert] at installed
    split_ifs at installed
    · exact (Option.some.inj installed).symm
    · simp at installed
  rw [only, List.mem_singleton] at hl
  rw [hl]
  exact mem_insert_self

theorem diffProgram_correct_moved :
    ∀ done, done <+: diffProgram (oneRoute ("Ethernet1", "192.0.2.1") "02:00:00:00:00:01")
        (oneRoute ("Ethernet2", "198.51.100.1") "02:00:00:00:00:02") →
      (done.foldl Program.apply
        (oneRoute ("Ethernet1", "192.0.2.1") "02:00:00:00:00:01")).Backed :=
  (diffProgram_correct _ _).2 (oneRoute_backed _ _) (oneRoute_backed _ _)

end Hemlock.Rib
