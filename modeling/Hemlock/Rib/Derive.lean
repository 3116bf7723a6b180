import Hemlock.Library.IpAddr
import Hemlock.Rib.Diff
import Mathlib.Data.List.Nodup

/-!
# Deriving the FIB program from the kernel's routes

Full kernel snapshots come in, a wanted program goes out: connected and
management-only routes stay in the kernel, and a route without a resolved next hop
is punted.
-/

namespace Hemlock.Rib

open Net OrderedMap

/-- One kernel next hop; a hop without `via` is directly connected. -/
structure KernelHop where
  via : Option String
  dev : Option String

structure KernelRoute where
  /-- Canonical CIDR prefix. -/
  cidr : String
  /-- The tag iproute2 gives: `kernel`, `boot`, `static`, `ospf` and so on. -/
  protocol : String := ""
  metric : UInt32
  blackhole : Bool
  hops : List KernelHop

structure KernelNeighbor where
  ip : String
  dev : String
  /-- None while unresolved. -/
  mac : Option String
  permanent : Bool
  reachable : Bool

/-- Interface names. -/
abbrev NameSet := Std.ExtTreeSet String compare

/-- Link-local and multicast destinations never reach the ASIC FIB. -/
def skipPrefix (cidr : String) : Bool :=
  if cidr.toList.contains '/' then
    match parseIpAddr (cidr.toList.takeWhile (· ≠ '/')) with
    | some addr => addr.isMulticast || addr.isLinkLocal
    | none => true
  else true

def addNeighbor (l3 : NameSet) (out : HopMap String) (neighbor : KernelNeighbor) : HopMap String :=
  match neighbor.mac with
  | some mac =>
    if l3.contains neighbor.dev && (neighbor.reachable || neighbor.permanent) then
      out.insert (neighbor.dev, neighbor.ip) mac
    else out
  | none => out

/-- The hops of a route that have a gateway and a device, in the order of a
neighbor's key.  Others are connected; the RIF path owns those. -/
def KernelRoute.gatewayHops (route : KernelRoute) : List Hop :=
  route.hops.filterMap fun hop =>
    match hop.via, hop.dev with
    | some via, some dev => some (dev, via)
    | _, _ => none

/-- What a route programs, if anything. -/
def KernelRoute.wanted (route : KernelRoute) (l3 : NameSet) (neighbors : HopMap String) :
    Option WantedRoute :=
  if skipPrefix route.cidr then none
  else if route.blackhole then some { cpu := false, drop := true, hops := [] }
  else
    let gatewayHops := route.gatewayHops
    if gatewayHops.isEmpty then none
    else
      let asicHops := gatewayHops.filter fun (dev, _) => l3.contains dev
      if asicHops.isEmpty then none
      else
        let resolved := asicHops.filter fun hop => neighbors.contains hop
        some { cpu := resolved.isEmpty, drop := false, hops := resolved }

def addRoute (l3 : NameSet) (neighbors : HopMap String) (out : NameMap WantedRoute)
    (route : KernelRoute) : NameMap WantedRoute :=
  match route.wanted l3 neighbors with
  | some wanted => out.insert route.cidr wanted
  | none => out

/-- The pure translation from a kernel snapshot to the wanted FIB program. -/
def deriveProgram (routes : List KernelRoute) (neighbors : List KernelNeighbor) (l3 : NameSet) : Program :=
  let resolved := neighbors.foldl (addNeighbor l3) ∅
  { routes := routes.foldl (addRoute l3 resolved) ∅
    neighbors := resolved }

def KernelNeighbor.resolves (neighbor : KernelNeighbor) (hop : Hop) : Bool :=
  neighbor.mac.isSome && (neighbor.reachable || neighbor.permanent) &&
    (neighbor.dev, neighbor.ip) = hop

/-- The route reaches the FIB: it is a null route, or has a gateway out an ASIC
interface. -/
def KernelRoute.programs (route : KernelRoute) (l3 : NameSet) : Bool :=
  !skipPrefix route.cidr && (route.blackhole || route.gatewayHops.any fun hop => l3.contains hop.1)

/-- The next hops out ASIC interfaces that a neighbor resolves. -/
def KernelRoute.liveHops (route : KernelRoute) (l3 : NameSet) (neighbors : List KernelNeighbor) :
    List Hop :=
  route.gatewayHops.filter fun hop =>
    l3.contains hop.1 && neighbors.any fun neighbor => neighbor.resolves hop

def KernelRoute.program (route : KernelRoute) (l3 : NameSet) (neighbors : List KernelNeighbor) :
    WantedRoute :=
  if route.blackhole then { cpu := false, drop := true, hops := [] }
  else
    { cpu := (route.liveHops l3 neighbors).isEmpty
      drop := false
      hops := route.liveHops l3 neighbors }

theorem contains_addNeighbor (l3 : NameSet) (neighbor : KernelNeighbor) (out : HopMap String)
    (hop : Hop) : (addNeighbor l3 out neighbor).contains hop =
      (out.contains hop || l3.contains hop.1 && neighbor.resolves hop) := by
  unfold addNeighbor KernelNeighbor.resolves
  cases neighbor.mac with
  | none => simp
  | some mac =>
    by_cases hs : (neighbor.dev, neighbor.ip) = hop
    · subst hs
      by_cases usable : (l3.contains neighbor.dev && (neighbor.reachable || neighbor.permanent)) = true
      · simp only [if_pos usable]
        simp [usable]
      · simp only [if_neg usable]
        simp [usable]
    · have other : lexOrd.compare (neighbor.dev, neighbor.ip) hop ≠ .eq := by
        rwa [ne_eq, Std.LawfulEqCmp.compare_eq_iff_eq]
      split_ifs
      · simp [hs]
      · simp [hs]

/-- A hop has a neighbor entry exactly when it leaves an ASIC interface and some
neighbor resolves it. -/
theorem contains_foldl_addNeighbor (l3 : NameSet) (neighbors : List KernelNeighbor)
    (out : HopMap String) (hop : Hop) :
    (neighbors.foldl (addNeighbor l3) out).contains hop = (out.contains hop ||
        l3.contains hop.1 && neighbors.any fun neighbor => neighbor.resolves hop) := by
  induction neighbors generalizing out with
  | nil => simp
  | cons neighbor neighbors ih =>
    rw [List.foldl_cons, ih, contains_addNeighbor, List.any_cons,
      Bool.and_or_distrib_left, Bool.or_assoc]

theorem KernelRoute.wanted_eq (route : KernelRoute) (l3 : NameSet) (neighbors : List KernelNeighbor) :
    route.wanted l3 (neighbors.foldl (addNeighbor l3) ∅) =
      if route.programs l3 then some (route.program l3 neighbors) else none := by
  have live : (route.gatewayHops.filter fun hop => l3.contains hop.1).filter
      (fun hop => (neighbors.foldl (addNeighbor l3) ∅).contains hop) =
      route.liveHops l3 neighbors := by
    rw [List.filter_filter]
    apply List.filter_congr
    intro hop _
    rw [contains_foldl_addNeighbor]
    cases l3.contains hop.1 <;> simp
  unfold KernelRoute.wanted KernelRoute.programs KernelRoute.program
  by_cases skipped : skipPrefix route.cidr = true
  · simp [skipped]
  by_cases null : route.blackhole = true
  · simp [skipped, null]
  have empty : (route.gatewayHops.filter fun hop => l3.contains hop.1).isEmpty =
      !route.gatewayHops.any fun hop => l3.contains hop.1 := by
    rw [Bool.eq_iff_iff]
    simp
  dsimp only
  rw [live, empty, if_neg null, if_neg null]
  by_cases leaves : (route.gatewayHops.any fun hop => l3.contains hop.1) = true
  · have some : route.gatewayHops.isEmpty = false := by
      obtain ⟨hop, hl, -⟩ := List.any_eq_true.mp leaves
      exact List.isEmpty_eq_false_iff.mpr (List.ne_nil_of_mem hl)
    simp [skipped, leaves, some]
  · simp [leaves, null]

def entries (routes : List KernelRoute) (neighbors : List KernelNeighbor) (l3 : NameSet) :
    List (String × WantedRoute) :=
  routes.filterMap fun route =>
    if route.programs l3 then some (route.cidr, route.program l3 neighbors) else none

theorem deriveProgram_routes (routes : List KernelRoute) (neighbors : List KernelNeighbor)
    (l3 : NameSet) : (deriveProgram routes neighbors l3).routes =
      (∅ : NameMap WantedRoute).insertMany (entries routes neighbors l3) := by
  have fold (out : NameMap WantedRoute) :
      routes.foldl (addRoute l3 (neighbors.foldl (addNeighbor l3) ∅)) out =
        out.insertMany (entries routes neighbors l3) := by
    induction routes generalizing out with
    | nil => rw [entries, List.filterMap_nil, Std.ExtTreeMap.insertMany_nil, List.foldl_nil]
    | cons route routes ih =>
      rw [List.foldl_cons, ih, addRoute, KernelRoute.wanted_eq, entries, entries, List.filterMap_cons]
      by_cases reaches : route.programs l3 = true
      · simp only [if_pos reaches, insertMany_cons]
      · simp only [if_neg reaches]
  exact fold ∅

variable {routes : List KernelRoute} {neighbors : List KernelNeighbor} {l3 : NameSet}
  {cidr : String} {wanted : WantedRoute}

theorem mem_entries : (cidr, wanted) ∈ entries routes neighbors l3 ↔
      ∃ route ∈ routes, route.cidr = cidr ∧ route.programs l3 = true ∧
        route.program l3 neighbors = wanted := by
  simp only [entries, List.mem_filterMap]
  constructor
  · intro ⟨route, hl, makes⟩
    split_ifs at makes with reaches
    cases makes
    exact ⟨route, hl, rfl, reaches, rfl⟩
  · intro ⟨route, hl, named, reaches, programs⟩
    exact ⟨route, hl, by rw [if_pos reaches, named, programs]⟩

theorem entered_of_deriveProgram (hf : (deriveProgram routes neighbors l3).routes[cidr]? = some wanted) :
    ∃ route ∈ routes, route.cidr = cidr ∧ route.programs l3 = true ∧
      route.program l3 neighbors = wanted := by
  rw [deriveProgram_routes] at hf
  rcases Std.ExtTreeMap.written_of_getElem?_insertMany hf with entered | before
  · exact mem_entries.mp entered
  · simp at before

theorem deriveProgram_backed (routes : List KernelRoute) (neighbors : List KernelNeighbor)
    (l3 : NameSet) : (deriveProgram routes neighbors l3).Backed := by
  intro cidr wanted hf hop used
  obtain ⟨route, -, -, -, rfl⟩ := entered_of_deriveProgram hf
  unfold KernelRoute.program at used
  split_ifs at used
  · simp at used
  · have live := (List.mem_filter.mp used).2
    rw [deriveProgram, ← contains_iff_mem, contains_foldl_addNeighbor, live, Bool.or_true]

variable {hop : Hop}

theorem mac_of_foldl_addNeighbor (l3 : NameSet) (neighbors : List KernelNeighbor)
    {mac : String} (hf : (neighbors.foldl (addNeighbor l3) ∅)[hop]? = some mac) :
    ∃ neighbor ∈ neighbors, neighbor.mac = some mac := by
  revert hop mac
  refine @List.foldlRecOn _ _ (fun out : HopMap String => ∀ {hop mac}, out[hop]? = some mac →
      ∃ neighbor ∈ neighbors, neighbor.mac = some mac)
    neighbors (addNeighbor l3) ∅ ?_ ?_
  · intro hop mac hf
    simp at hf
  · intro out held neighbor hl hop mac hf
    unfold addNeighbor at hf
    split at hf
    next hk isMac =>
      split_ifs at hf
      · rw [lookup_insert] at hf
        split_ifs at hf
        · cases hf
          exact ⟨neighbor, hl, isMac⟩
        · exact held hf
      · exact held hf
    next => exact held hf

/-- A gateway hop of the route that leaves an L3 interface on which some neighbor
that `counts` has the gateway's address. -/
def KernelRoute.Reaches (route : KernelRoute) (l3 : NameSet) (neighbors : List KernelNeighbor)
    (counts : KernelNeighbor → Prop) (hop : Hop) : Prop :=
  (∃ out ∈ route.hops, out.dev = some hop.1 ∧ out.via = some hop.2) ∧ hop.1 ∈ l3 ∧
    ∃ neighbor ∈ neighbors, counts neighbor ∧ neighbor.dev = hop.1 ∧ neighbor.ip = hop.2

/-- The kernel's entry is of the REACHABLE or of the PERMANENT class. -/
def KernelNeighbor.Confirmed (neighbor : KernelNeighbor) : Prop :=
  neighbor.reachable = true ∨ neighbor.permanent = true

variable {route : KernelRoute}

theorem KernelRoute.mem_gatewayHops :
    hop ∈ route.gatewayHops ↔ ∃ out ∈ route.hops, out.dev = some hop.1 ∧ out.via = some hop.2 := by
  simp only [KernelRoute.gatewayHops, List.mem_filterMap]
  apply exists_congr
  intro out
  apply and_congr_right
  intro _
  split
  next via dev hasVia hasDev => simp [hasVia, hasDev, Prod.ext_iff]
  next missing =>
    simp only [reduceCtorEq, false_iff]
    rintro ⟨hasDev, hasVia⟩
    exact missing _ _ hasVia hasDev

theorem KernelRoute.mem_liveHops : hop ∈ route.liveHops l3 neighbors ↔ route.Reaches l3 neighbors
        (fun neighbor => neighbor.mac.isSome = true ∧ neighbor.Confirmed) hop := by
  simp [KernelRoute.liveHops, KernelRoute.Reaches, KernelRoute.mem_gatewayHops,
    KernelNeighbor.resolves, KernelNeighbor.Confirmed, Prod.ext_iff]

/-- A derived route goes back to the one kernel route of its prefix.  Its next hops
are the hops that leave an L3 interface towards a confirmed neighbor whose address
is known, and none for a null route; it is punted when it is no null route and has
no such hop. -/
theorem deriveProgram_closed (routes : List KernelRoute) (neighbors : List KernelNeighbor)
    (l3 : NameSet) (distinct : (routes.map (·.cidr)).Nodup) (cidr : String) (wanted : WantedRoute)
    (found : (deriveProgram routes neighbors l3).routes[cidr]? = some wanted) :
    (∃ route ∈ routes, route.cidr = cidr) ∧ ∀ route ∈ routes, route.cidr = cidr →
      (∀ hop, hop ∈ wanted.hops ↔ route.blackhole = false ∧ route.Reaches l3 neighbors
        (fun neighbor => neighbor.mac.isSome = true ∧ neighbor.Confirmed) hop) ∧
      (wanted.cpu = true ↔ route.blackhole = false ∧ wanted.hops = []) ∧
      ∀ hop ∈ wanted.hops, hop ∈ (deriveProgram routes neighbors l3).neighbors := by
  obtain ⟨source, listed, rfl, -, rfl⟩ := entered_of_deriveProgram found
  refine ⟨⟨source, listed, rfl⟩, ?_⟩
  intro route listed' same
  cases List.inj_on_of_nodup_map distinct listed' listed same
  refine ⟨?_, ?_, deriveProgram_backed routes neighbors l3 _ _ found⟩
  · intro hop
    rw [← KernelRoute.mem_liveHops, KernelRoute.program]
    cases null : source.blackhole <;> simp
  · rw [KernelRoute.program]
    cases null : source.blackhole <;> simp

/-- A route over two gateways, one of which is resolved. -/
def halfResolved : KernelRoute :=
  { cidr := "10.0.0.0/8", metric := 0, blackhole := false
    hops := [⟨some "192.0.2.1", some "Ethernet1"⟩, ⟨some "192.0.2.2", some "Ethernet1"⟩] }

def firstResolved : KernelNeighbor := ⟨"192.0.2.1", "Ethernet1", some "02:00:00:00:00:01", false, true⟩

theorem deriveProgram_closed_halfResolved :
    ("Ethernet1", "192.0.2.1") ∈
      (deriveProgram [halfResolved] [firstResolved] {"Ethernet1"}).neighbors := by
  have closed := deriveProgram_closed [halfResolved] [firstResolved] {"Ethernet1"} (by decide)
    "10.0.0.0/8" ⟨false, false, [("Ethernet1", "192.0.2.1")]⟩ (by decide +kernel)
  exact (closed.2 halfResolved (by simp) rfl).2.2 _ (by simp)

/-- A permanent neighbor without an address leaves its route without a next hop, and
a null route has none whatever the kernel lists. -/
theorem confirmed_hops_dropped :
    let noAddress : KernelNeighbor := ⟨"192.0.2.1", "Ethernet1", none, true, false⟩
    let nullRoute := { halfResolved with blackhole := true }
    (deriveProgram [halfResolved] [noAddress] {"Ethernet1"}).routes["10.0.0.0/8"]? =
        some ⟨true, false, []⟩ ∧
      halfResolved.Reaches {"Ethernet1"} [noAddress] KernelNeighbor.Confirmed
        ("Ethernet1", "192.0.2.1") ∧
      (deriveProgram [nullRoute] [firstResolved] {"Ethernet1"}).routes["10.0.0.0/8"]? =
        some ⟨false, true, []⟩ ∧
      nullRoute.Reaches {"Ethernet1"} [firstResolved] KernelNeighbor.Confirmed
        ("Ethernet1", "192.0.2.1") := by
  refine ⟨by decide +kernel, ⟨⟨_, List.mem_cons_self, rfl, rfl⟩, by simp, _, List.mem_cons_self,
    .inr rfl, rfl, rfl⟩, by decide +kernel, ⟨⟨_, List.mem_cons_self, rfl, rfl⟩, by simp, _,
    List.mem_cons_self, .inl rfl, rfl, rfl⟩⟩

end Hemlock.Rib
