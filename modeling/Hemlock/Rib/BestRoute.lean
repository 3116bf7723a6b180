import Hemlock.Rib.Derive
import Mathlib.Data.List.MinMax

/-!
# Which route of a prefix wins

The translation inserts the routes into a map one after the other and does not look
at metrics, so of the routes of one prefix that reach the FIB the last one wins.
That is the best one, whatever the order, exactly when there is nothing to choose.
-/

namespace Hemlock.Rib

open OrderedMap

/-- A route of the prefix with the lowest metric. -/
def Lowest (routes : List KernelRoute) (cidr : String) (best : KernelRoute) : Prop :=
  best ∈ routes ∧ best.cidr = cidr ∧
    ∀ other ∈ routes, other.cidr = cidr → best.metric ≤ other.metric

/-- The prefix gets what a route of lowest metric asks for, and nothing if it has no
route. -/
def BestWins (routes : List KernelRoute) (neighbors : List KernelNeighbor) (l3 : NameSet)
    (cidr : String) : Prop :=
  let program := deriveProgram routes neighbors l3
  if ∃ route ∈ routes, route.cidr = cidr then
    ∃ best, Lowest routes cidr best ∧ program.routes[cidr]? = best.wanted l3 program.neighbors
  else program.routes[cidr]? = none

/-- Of the routes of one prefix those that reach the FIB ask for the same, and if
there are any then one of lowest metric is among them. -/
def Unambiguous (routes : List KernelRoute) (neighbors : List KernelNeighbor) (l3 : NameSet) : Prop :=
  ∀ route ∈ routes, route.programs l3 = true →
    (∀ other ∈ routes, other.cidr = route.cidr → other.programs l3 = true →
      other.blackhole = route.blackhole ∧
        (route.blackhole = false → other.liveHops l3 neighbors = route.liveHops l3 neighbors)) ∧
    ∃ best, Lowest routes route.cidr best ∧ best.programs l3 = true

section

variable {routes : List KernelRoute} {neighbors : List KernelNeighbor} {l3 : NameSet}

variable {route : KernelRoute}

theorem program_eq_iff {other : KernelRoute} :
    other.program l3 neighbors = route.program l3 neighbors ↔ other.blackhole = route.blackhole ∧
        (route.blackhole = false → other.liveHops l3 neighbors = route.liveHops l3 neighbors) := by
  unfold KernelRoute.program
  cases route.blackhole <;> cases other.blackhole <;> simp
  intro hs
  rw [hs]

theorem routes_of_agreed (hl : route ∈ routes) (reaches : route.programs l3 = true)
    (agreed : ∀ other ∈ routes, other.cidr = route.cidr → other.programs l3 = true →
      other.program l3 neighbors = route.program l3 neighbors) :
    (deriveProgram routes neighbors l3).routes[route.cidr]? = some (route.program l3 neighbors) := by
  rw [deriveProgram_routes]
  apply getElem?_insertMany_of_agreed (mem_entries.mpr ⟨route, hl, rfl, reaches, rfl⟩)
  intro wanted entered
  obtain ⟨other, isRoute, named, otherReaches, rfl⟩ := mem_entries.mp entered
  exact agreed other isRoute named otherReaches

theorem routes_of_unreached {cidr : String}
    (unreached : ¬ ∃ route ∈ routes, route.cidr = cidr ∧ route.programs l3 = true) :
    (deriveProgram routes neighbors l3).routes[cidr]? = none := by
  rw [deriveProgram_routes, Std.ExtTreeMap.getElem?_insertMany_of_unwritten, getElem?_empty]
  intro wanted entered
  obtain ⟨route, hl, named, reaches, -⟩ := mem_entries.mp entered
  exact unreached ⟨route, hl, named, reaches⟩

theorem routes_concat (reaches : route.programs l3 = true) :
    (deriveProgram (routes ++ [route]) neighbors l3).routes[route.cidr]? =
      some (route.program l3 neighbors) := by
  have last : entries (routes ++ [route]) neighbors l3 =
      entries routes neighbors l3 ++ [(route.cidr, route.program l3 neighbors)] := by
    simp [entries, reaches]
  rw [deriveProgram_routes, last, Std.ExtTreeMap.insertMany_concat, getElem?_insert_self]

theorem routes_of_unordered (unordered : ∀ permuted, permuted.Perm routes →
      deriveProgram permuted neighbors l3 = deriveProgram routes neighbors l3)
    (hl : route ∈ routes) (reaches : route.programs l3 = true) :
    (deriveProgram routes neighbors l3).routes[route.cidr]? = some (route.program l3 neighbors) := by
  obtain ⟨before, after, rfl⟩ := List.append_of_mem hl
  have moved : ((before ++ after) ++ [route]).Perm (before ++ route :: after) := by
    rw [List.append_assoc]
    exact (List.perm_append_singleton route after).append_left before
  rw [← unordered _ moved]
  exact routes_concat reaches

theorem exists_lowest {cidr : String} (hr : ∃ route ∈ routes, route.cidr = cidr) :
    ∃ best, Lowest routes cidr best := by
  cases least : (routes.filter fun route => route.cidr = cidr).argmin
      fun route => route.metric.toNat with
  | none =>
    obtain ⟨route, hl, named⟩ := hr
    have empty := List.argmin_eq_none.mp least
    simp only [List.filter_eq_nil_iff, decide_eq_true_eq] at empty
    exact absurd named (empty route hl)
  | some best =>
    have isBest := List.argmin_mem least
    rw [List.mem_filter, decide_eq_true_eq] at isBest
    refine ⟨best, isBest.1, isBest.2, ?_⟩
    intro other hl named
    have candidate : other ∈ routes.filter fun route => route.cidr = cidr := by
      rw [List.mem_filter, decide_eq_true_eq]
      exact ⟨hl, named⟩
    have metrics := List.le_of_mem_argmin candidate least
    exact UInt32.le_iff_toNat_le.mpr metrics

theorem Unambiguous.agreed (unambiguous : Unambiguous routes neighbors l3) (hl : route ∈ routes)
    (reaches : route.programs l3 = true) :
    ∀ other ∈ routes, other.cidr = route.cidr → other.programs l3 = true →
      other.program l3 neighbors = route.program l3 neighbors := by
  intro other isRoute named otherReaches
  exact program_eq_iff.mpr ((unambiguous route hl reaches).1 other isRoute named otherReaches)

theorem Unambiguous.unordered (unambiguous : Unambiguous routes neighbors l3)
    {permuted : List KernelRoute} (reordered : permuted.Perm routes) :
    deriveProgram permuted neighbors l3 = deriveProgram routes neighbors l3 := by
  have sameRoutes : (deriveProgram permuted neighbors l3).routes =
      (deriveProgram routes neighbors l3).routes := by
    apply ext_getElem?
    intro cidr
    by_cases reached : ∃ route ∈ routes, route.cidr = cidr ∧ route.programs l3 = true
    · obtain ⟨route, hl, rfl, reaches⟩ := reached
      have agreed := unambiguous.agreed hl reaches
      rw [routes_of_agreed hl reaches agreed]
      apply routes_of_agreed (reordered.mem_iff.mpr hl) reaches
      intro other isRoute
      exact agreed other (reordered.mem_iff.mp isRoute)
    · rw [routes_of_unreached reached]
      apply routes_of_unreached
      intro ⟨route, hl, reaches⟩
      exact reached ⟨route, reordered.mem_iff.mp hl, reaches⟩
  rw [Program.mk.injEq]
  exact ⟨sameRoutes, rfl⟩

end

/-- Every prefix gets what its best route asks for, in whatever order the routes
come, exactly when the routes of no prefix compete. -/
theorem bestWins_iff_unambiguous (routes : List KernelRoute) (neighbors : List KernelNeighbor)
    (l3 : NameSet) : ((∀ cidr, BestWins routes neighbors l3 cidr) ∧ ∀ permuted, permuted.Perm routes →
        deriveProgram permuted neighbors l3 = deriveProgram routes neighbors l3) ↔
      Unambiguous routes neighbors l3 := by
  have wanted (route : KernelRoute) : route.wanted l3 (deriveProgram routes neighbors l3).neighbors =
        if route.programs l3 then some (route.program l3 neighbors) else none :=
    route.wanted_eq l3 neighbors
  constructor
  · intro ⟨bestWins, unordered⟩ route listed reaches
    have given := routes_of_unordered unordered listed reaches
    constructor
    · intro other isRoute named otherReaches
      have given' := routes_of_unordered unordered isRoute otherReaches
      rw [named, given, Option.some.injEq] at given'
      exact program_eq_iff.mp given'.symm
    · have wins := bestWins route.cidr
      unfold BestWins at wins
      rw [if_pos ⟨route, listed, rfl⟩] at wins
      obtain ⟨best, lowest, gets⟩ := wins
      refine ⟨best, lowest, ?_⟩
      by_contra unreached
      rw [given, wanted, if_neg unreached] at gets
      simp at gets
  · intro unambiguous
    refine ⟨?_, fun permuted reordered => unambiguous.unordered reordered⟩
    intro cidr
    unfold BestWins
    split_ifs with routed
    · by_cases reached : ∃ route ∈ routes, route.cidr = cidr ∧ route.programs l3 = true
      · obtain ⟨route, listed, rfl, reaches⟩ := reached
        obtain ⟨-, best, lowest, bestReaches⟩ := unambiguous route listed reaches
        refine ⟨best, lowest, ?_⟩
        have agreed := unambiguous.agreed listed reaches
        rw [routes_of_agreed listed reaches agreed, wanted, if_pos bestReaches,
          agreed best lowest.1 lowest.2.1 bestReaches]
      · obtain ⟨best, lowest⟩ := exists_lowest routed
        refine ⟨best, lowest, ?_⟩
        rw [routes_of_unreached reached, wanted, if_neg]
        intro bestReaches
        exact reached ⟨best, lowest.1, lowest.2.1, bestReaches⟩
    · apply routes_of_unreached
      intro ⟨route, listed, named, _⟩
      exact routed ⟨route, listed, named⟩

/-- Two gateways for one prefix, listed best first as the kernel does. -/
def twoGateways : List KernelRoute :=
  [{ cidr := "10.0.0.0/8", metric := 20, blackhole := false,
     hops := [⟨some "192.0.2.1", some "Ethernet1"⟩] },
    { cidr := "10.0.0.0/8", metric := 200, blackhole := false,
      hops := [⟨some "198.51.100.1", some "Ethernet2"⟩] }]

def bothResolved : List KernelNeighbor :=
  [{ ip := "192.0.2.1", dev := "Ethernet1", mac := some "02:00:00:00:00:01",
     permanent := false, reachable := true },
    { ip := "198.51.100.1", dev := "Ethernet2", mac := some "02:00:00:00:00:02",
      permanent := false, reachable := true }]

def bothPorts : NameSet := (∅ : NameSet).insertMany ["Ethernet1", "Ethernet2"]

/-- The backup route wins over the route with the lower metric, and the other way
round when they are listed the other way round. -/
theorem backup_wins :
    (deriveProgram twoGateways bothResolved bothPorts).routes["10.0.0.0/8"]? =
        some { cpu := false, drop := false, hops := [("Ethernet2", "198.51.100.1")] } ∧
      (deriveProgram twoGateways.reverse bothResolved bothPorts).routes["10.0.0.0/8"]? =
        some { cpu := false, drop := false, hops := [("Ethernet1", "192.0.2.1")] } ∧
      ¬ BestWins twoGateways bothResolved bothPorts "10.0.0.0/8" := by
  refine ⟨by decide +kernel, by decide +kernel, ?_⟩
  intro wins
  obtain ⟨best, ⟨listed, -, least⟩, gets⟩ := wins
  simp only [twoGateways, List.mem_cons, List.not_mem_nil, or_false] at listed
  rcases listed with rfl | rfl
  · revert gets
    decide +kernel
  · exact absurd (least _ List.mem_cons_self rfl) (by decide)

end Hemlock.Rib
