import Hemlock.Library.Paging
import Hemlock.Rib.Derive
import Mathlib.Data.List.Sort

/-!
# Reading the RIB page by page

The RIB engine keeps the last kernel snapshot and shows it sorted by prefix.
`GetRib` hands the view out in pages; the token of the next page is a prefix, and a
prefix may have several routes.
-/

namespace Hemlock.Rib

open Net Paging

inductive Protocol where
  | connected
  | static
  | kernel
  | ospf
  | bgp
  deriving DecidableEq, Repr

def Protocol.text : Protocol → String
  | .connected => "connected"
  | .static => "static"
  | .kernel => "kernel"
  | .ospf => "ospf"
  | .bgp => "bgp"

inductive FibState where
  | programmed
  | punt
  | drop
  | connected
  | kernel
  deriving DecidableEq, Repr

def FibState.text : FibState → String
  | .programmed => "programmed"
  | .punt => "punt"
  | .drop => "drop"
  | .connected => "connected"
  | .kernel => "kernel"

structure HopView where
  via : String
  interface : String
  resolved : Bool
  deriving DecidableEq, Repr

structure RouteView where
  cidr : String
  protocol : Protocol
  distance : UInt32
  metric : UInt32
  uptimeSecs : Nat
  hops : List HopView
  fib : FibState
  /-- The egress interface of a connected route. -/
  interface : Option String
  deriving DecidableEq, Repr

structure Inner where
  routes : List KernelRoute := []
  neighbors : List KernelNeighbor := []
  l3Interfaces : NameSet := ∅
  /-- First-seen instants for route uptimes, keyed by prefix. -/
  firstSeen : NameMap Nat := ∅

/-- Replace the kernel snapshot; prefixes that stay keep their age. -/
def Inner.ingestKernel (inner : Inner) (routes : List KernelRoute)
    (neighbors : List KernelNeighbor) (now : Nat) : Inner :=
  let live := routes.map KernelRoute.cidr
  let kept := inner.firstSeen.filter fun cidr _ => live.contains cidr
  { inner with
    routes := routes
    neighbors := neighbors
    firstSeen := live.foldl (fun seen cidr => seen.insertIfNew cidr now) kept }

def Inner.setL3Interfaces (inner : Inner) (interfaces : NameSet) : Inner :=
  { inner with l3Interfaces := interfaces }

def KernelRoute.connected (route : KernelRoute) : Bool :=
  !route.blackhole && route.hops.all fun hop => hop.via.isNone

/-- Protocol, distance and metric as shown.  The configured distance of a static
route rides the kernel metric, which is 0 or, for IPv6, 1024 when there is none. -/
def KernelRoute.origin (route : KernelRoute) : Protocol × UInt32 × UInt32 :=
  if route.connected then (.connected, 0, 0)
  else if route.protocol = "static" || route.protocol = "boot" then
    let distance :=
      if route.metric = 0 then 1
      else if route.metric = 1024 && route.cidr.toList.contains ':' then 1
      else route.metric
    (.static, distance, 0)
  else if route.protocol = "ospf" then (.ospf, 110, route.metric)
  else if route.protocol = "bgp" then (.bgp, 200, route.metric)
  else (.kernel, 0, route.metric)

def KernelRoute.egress (route : KernelRoute) : Option String :=
  if route.connected then route.hops.head?.bind KernelHop.dev else none

/-- Connected routes on devices that syncd does not know belong to the kernel. -/
def KernelRoute.fibState (route : KernelRoute) (wanted : Program) (l3 : NameSet) : FibState :=
  if route.connected && route.egress.any fun interface => !l3.contains interface then .kernel
  else if route.blackhole then .drop
  else if route.connected then .connected
  else
    match wanted.routes[route.cidr]? with
    | some program => if program.cpu then .punt else .programmed
    | none => .kernel

def KernelHop.view (hop : KernelHop) (wanted : Program) : Option HopView :=
  hop.via.map fun via =>
    let dev := hop.dev.getD ""
    { via := via, interface := dev, resolved := wanted.neighbors.contains (dev, via) }

def routeView (route : KernelRoute) (wanted : Program) (l3 : NameSet) (firstSeen : NameMap Nat)
    (now : Nat) : Option RouteView :=
  if skipPrefix route.cidr then none
  else
    let (protocol, distance, metric) := route.origin
    some
      { cidr := route.cidr
        protocol := protocol
        distance := distance
        metric := metric
        uptimeSecs := (firstSeen[route.cidr]?.map fun seen => (now - seen) / secs 1).getD 0
        hops := route.hops.filterMap fun hop => hop.view wanted
        fib := route.fibState wanted l3
        interface := route.egress }

def splitOnce (separator : Char) (text : List Char) : Option (List Char × List Char) :=
  match text.dropWhile (· ≠ separator) with
  | _ :: rest => some (text.takeWhile (· ≠ separator), rest)
  | [] => none

def prefixKey (cidr : String) : Option IpAddr × UInt8 :=
  match splitOnce '/' cidr.toList with
  | some (addr, length) =>
    (parseIpAddr addr, UInt8.ofNat ((parseUnsigned 10 256 length).getD 255))
  | none => (none, 255)

def Inner.snapshot (inner : Inner) (v6 : Bool) (now : Nat) : List RouteView :=
  let wanted := deriveProgram inner.routes inner.neighbors inner.l3Interfaces
  let views := (inner.routes.filter fun route => route.cidr.toList.contains ':' = v6).filterMap
    fun route => routeView route wanted inner.l3Interfaces inner.firstSeen now
  views.insertionSort fun first second =>
    (lexOrd.compare (prefixKey first.cidr) (prefixKey second.cidr)).isLE

structure RibRoute where
  cidr : String
  protocol : String
  distance : UInt32
  metric : UInt32
  uptimeSecs : Nat
  nextHops : List HopView
  fib : String
  interface : String
  deriving DecidableEq, Repr

def RouteView.toRibRoute (view : RouteView) : RibRoute where
  cidr := view.cidr
  protocol := view.protocol.text
  distance := view.distance
  metric := view.metric
  uptimeSecs := view.uptimeSecs
  nextHops := view.hops
  fib := view.fib.text
  interface := view.interface.getD ""

structure GetRibRequest where
  ipv6 : Bool
  pageSize : UInt32
  pageToken : String

structure GetRibResponse where
  routes : List RibRoute
  nextPageToken : String
  deriving DecidableEq, Repr

def Inner.getRib (inner : Inner) (request : GetRibRequest) (now : Nat) : GetRibResponse :=
  let (views, nextPageToken) := Paging.page RouteView.cidr "" request.pageSize.toNat
    request.pageToken (inner.snapshot request.ipv6 now)
  { routes := views.map RouteView.toRibRoute, nextPageToken := nextPageToken }

/-- A client that follows the tokens until there is none, in at most so many calls. -/
def Inner.readPages (inner : Inner) (ipv6 : Bool) (pageSize : UInt32) (now : Nat) :
    Nat → String → Option (List RibRoute)
  | 0, _ => none
  | calls + 1, token =>
    let response := inner.getRib ⟨ipv6, pageSize, token⟩ now
    if response.nextPageToken = "" then some response.routes
    else
      (inner.readPages ipv6 pageSize now calls response.nextPageToken).map fun behind =>
        response.routes ++ behind

/-- The client ends, with the unpaged answer. -/
def Inner.PagesComplete (inner : Inner) (ipv6 : Bool) (pageSize : UInt32) (now : Nat) : Prop :=
  ∃ calls, inner.readPages ipv6 pageSize now calls "" =
    some (inner.getRib ⟨ipv6, 0, ""⟩ now).routes

def Inner.rows (inner : Inner) (ipv6 : Bool) (now : Nat) : List RibRoute :=
  (inner.snapshot ipv6 now).map RouteView.toRibRoute

theorem Inner.getRib_eq_page (inner : Inner) (ipv6 : Bool) (pageSize : UInt32) (token : String)
    (now : Nat) :
    inner.getRib ⟨ipv6, pageSize, token⟩ now =
      { routes := (page RibRoute.cidr "" pageSize.toNat token (inner.rows ipv6 now)).1
        nextPageToken :=
          (page RibRoute.cidr "" pageSize.toNat token (inner.rows ipv6 now)).2 } := by
  rw [Inner.rows, page_map]
  rfl

theorem Inner.readPages_eq_walk (inner : Inner) (ipv6 : Bool) (pageSize : UInt32) (now calls : Nat)
    (token : String) :
    inner.readPages ipv6 pageSize now calls token =
      walk RibRoute.cidr "" pageSize.toNat (inner.rows ipv6 now) calls token := by
  induction calls generalizing token with
  | zero => rfl
  | succ calls ih =>
    simp only [Inner.readPages, walk, Inner.getRib_eq_page, ih]

theorem Inner.getRib_unpaged (inner : Inner) (ipv6 : Bool) (now : Nat) :
    (inner.getRib ⟨ipv6, 0, ""⟩ now).routes = inner.rows ipv6 now := by
  simp [Inner.getRib_eq_page, page, resume_blank]

theorem Inner.cidr_ne_empty {inner : Inner} {ipv6 : Bool} {now : Nat} :
    ∀ row ∈ inner.rows ipv6 now, row.cidr ≠ "" := by
  intro row hl
  simp only [Inner.rows, Inner.snapshot, List.mem_map, List.mem_insertionSort, List.mem_filterMap] at hl
  obtain ⟨view, ⟨route, -, isView⟩, rfl⟩ := hl
  unfold routeView at isView
  split_ifs at isView with skipped
  cases isView
  intro empty
  apply skipped
  change route.cidr = "" at empty
  rw [empty]
  rfl

/-- Paging gives the whole answer exactly when no page ends with a route whose
prefix an earlier route has. -/
theorem pagesComplete_iff_resumable (inner : Inner) (ipv6 : Bool) (pageSize : UInt32) (now : Nat)
    (positive : 0 < pageSize) : inner.PagesComplete ipv6 pageSize now ↔
      Paging.Resumable RouteView.cidr pageSize.toNat (inner.snapshot ipv6 now) := by
  have rows : Paging.Resumable RibRoute.cidr pageSize.toNat (inner.rows ipv6 now) ↔
      Paging.Resumable RouteView.cidr pageSize.toNat (inner.snapshot ipv6 now) :=
    Paging.resumable_map_iff RouteView.toRibRoute (inner.snapshot ipv6 now)
  rw [← rows, ← Paging.walk_complete_iff Inner.cidr_ne_empty (UInt32.lt_iff_toNat_lt.mp positive)]
  simp only [Inner.PagesComplete, Inner.readPages_eq_walk, Inner.getRib_unpaged]

/-- Two routes for one prefix and one for another. -/
def sharedPrefix : List KernelRoute :=
  [{ cidr := "10.0.0.0/8", protocol := "static", metric := 20, blackhole := false,
     hops := [⟨some "192.0.2.1", some "Ethernet1"⟩] },
    { cidr := "10.0.0.0/8", protocol := "static", metric := 200, blackhole := false,
      hops := [⟨some "198.51.100.1", some "Ethernet2"⟩] },
    { cidr := "172.16.0.0/12", protocol := "static", metric := 0, blackhole := false,
      hops := [⟨some "192.0.2.1", some "Ethernet1"⟩] }]

theorem pagesComplete_iff_resumable_single :
    (({} : Inner).ingestKernel sharedPrefix.tail [] 0).PagesComplete false 1 0 := by
  apply (pagesComplete_iff_resumable _ false 1 0 (by decide)).mpr
  have length : ((({} : Inner).ingestKernel sharedPrefix.tail [] 0).snapshot false 0).length = 2 := by
    decide +kernel
  intro pages last some inside found
  have first : pages = 1 := by
    rw [UInt32.toNat_one] at inside
    omega
  subst first
  simp

/-- With pages of two routes the second route is handed out twice. -/
theorem shared_prefix_repeats :
    ¬ (({} : Inner).ingestKernel sharedPrefix [] 0).PagesComplete false 2 0 := by
  rintro ⟨calls, read⟩
  have first : ((({} : Inner).ingestKernel sharedPrefix [] 0).getRib ⟨false, 2, ""⟩ 0).nextPageToken =
      "10.0.0.0/8" := by decide +kernel
  have second : ((({} : Inner).ingestKernel sharedPrefix [] 0).getRib
      ⟨false, 2, "10.0.0.0/8"⟩ 0).nextPageToken = "" := by decide +kernel
  have differ :
      ((({} : Inner).ingestKernel sharedPrefix [] 0).getRib ⟨false, 2, ""⟩ 0).routes ++
          ((({} : Inner).ingestKernel sharedPrefix [] 0).getRib ⟨false, 2, "10.0.0.0/8"⟩ 0).routes ≠
        ((({} : Inner).ingestKernel sharedPrefix [] 0).getRib ⟨false, 0, ""⟩ 0).routes := by
    decide +kernel
  match calls with
  | 0 => simp [Inner.readPages] at read
  | 1 => simp [Inner.readPages, first] at read
  | _ + 2 => exact differ (by simpa [Inner.readPages, first, second] using read)

end Hemlock.Rib
