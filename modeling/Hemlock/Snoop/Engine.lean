import Hemlock.Library.Machine
import Hemlock.Library.Reconcile
import Hemlock.Snoop.Message

/-!
# The IGMP/MLD snooping engine

Group membership and multicast routers are soft state: each VLAN remembers when it
last heard of them.  A pass drops what is too old and tells syncd what changed
since the last pass; `pushedGroups` and `pushedMrouters` remember what it was told.
-/

namespace Hemlock.Snoop

open Machine Net Reconcile

/-- A map from group addresses, in their order. -/
abbrev AddrMap (Value : Type) := Std.ExtTreeMap IpAddr Value compare

structure VlanConfig where
  disabled : Bool := false
  fastLeave : Bool := false
  querier : Bool := false
  querierAddress : Option IpAddr := none
  staticMrouters : List String := []

structure Config where
  disabled : Bool := false
  robustness : UInt8 := 2
  vlans : VlanMap VlanConfig := ∅
  queryInterval : Nat := secs 125
  /-- Grace after a leave before the member is dropped. -/
  lastMemberInterval : Nat := secs 2

/-- The wanted output ports of a group; `remove` when the group aged out. -/
structure GroupUpdate where
  vlan : UInt16
  group : IpAddr
  ports : List String
  remove : Bool
  deriving DecidableEq

/-- The scope of a VLAN's unknown multicast: `ports`, or everywhere. -/
structure MrouterUpdate where
  vlan : UInt16
  restrict : Bool
  ports : List String
  deriving DecidableEq

structure Member where
  lastReport : Nat
  version : UInt8
  /-- A leave was heard; the member drops when this expires. -/
  pendingLeave : Option Nat
  deriving DecidableEq, Repr

structure VlanState where
  groups : AddrMap (NameMap Member) := ∅
  /-- Ports where queries were heard. -/
  dynMrouters : NameMap Nat := ∅
  /-- Another querier with a lower address is active. -/
  otherQuerier : Option (IpAddr × Nat) := none
  lastQueryTx : Option Nat := none
  pushedGroups : AddrMap (List String) := ∅
  pushedMrouters : Option (Bool × List String) := none

structure Inner where
  family : Family
  config : Config
  vlanPorts : VlanMap (List String)
  vlans : VlanMap VlanState
  systemMac : Mac

def Inner.initial (family : Family) (systemMac : Mac) : Inner where
  family := family
  config := {}
  vlanPorts := ∅
  vlans := ∅
  systemMac := systemMac

/-- How long group membership lasts without a refresh. -/
def Config.membershipHold (config : Config) : Nat :=
  config.queryInterval * config.robustness.toNat + secs 10

/-- How long a dynamic multicast router or a foreign querier stays valid. -/
def Config.querierHold (config : Config) : Nat := config.queryInterval * 2 + secs 10

def Config.vlanEnabled (config : Config) (vlan : UInt16) : Bool :=
  !config.disabled && !(config.vlans[vlan]?.map VlanConfig.disabled).getD false

def Config.ofVlan (config : Config) (vlan : UInt16) : VlanConfig := config.vlans[vlan]?.getD {}

def Inner.querierSource (inner : Inner) (vlan : UInt16) : IpAddr :=
  match inner.family, (inner.config.ofVlan vlan).querierAddress with
  | _, some address => address
  | .igmp, none => .v4 (Bytes.four 0 0 0 0)
  | .mld, none => .v6 #v[0, 0, 0, 0, 0, 0, 0, 0]

/-- What is known about a VLAN; nothing at first. -/
def Inner.state (inner : Inner) (vlan : UInt16) : VlanState := inner.vlans[vlan]?.getD {}

def sortDedup (names : List String) : List String :=
  (Std.ExtTreeSet.ofList names compare).toList

/-- The multicast routers of a VLAN: the configured ones and those heard of lately. -/
def Inner.mrouters (inner : Inner) (vlan : UInt16) (now : Nat) : List String :=
  let dynamic := (inner.state vlan).dynMrouters.filter fun _ heard =>
    now - heard < inner.config.querierHold
  sortDedup ((inner.config.ofVlan vlan).staticMrouters ++ dynamic.keys)

def VlanState.hear (state : VlanState) (fastLeave : Bool) (ourSource : IpAddr) (port : String)
    (now : Nat) : Message → VlanState
  | .report group version =>
    let members := state.groups[group]?.getD ∅
    { state with groups := state.groups.insert group (members.insert port ⟨now, version, none⟩) }
  | .leave group =>
    match state.groups[group]? with
    | none => state
    | some members =>
      if fastLeave then
        { state with groups := state.groups.insert group (members.erase port) }
      else
        match members[port]? with
        | none => state
        | some member =>
          let members := members.insert port { member with pendingLeave := some now }
          { state with groups := state.groups.insert group members }
  | .query source =>
    -- the lower source address stays querier
    { state with
      dynMrouters := state.dynMrouters.insert port now
      otherQuerier :=
        if (compare source ourSource).isLT then some (source, now) else state.otherQuerier }

def Inner.applyMessage (port : String) (vlan : UInt16) (now : Nat) (inner : Inner)
    (message : Message) : Inner :=
  let state := (inner.state vlan).hear (inner.config.ofVlan vlan).fastLeave
    (inner.querierSource vlan) port now message
  { inner with vlans := inner.vlans.insert vlan state }

def Inner.frameIn (inner : Inner) (port : String) (vlan : UInt16) (frame : List UInt8)
    (now : Nat) : Inner :=
  if inner.config.vlanEnabled vlan then
    (parse inner.family frame).foldl (Inner.applyMessage port vlan now) inner
  else inner

def Member.live (config : Config) (now : Nat) (member : Member) : Bool :=
  let leaveExpired := member.pendingLeave.any fun heard =>
    config.lastMemberInterval ≤ now - heard
  let aged := config.membershipHold ≤ now - member.lastReport
  !(leaveExpired || aged)

/-- Drop what is too old.  A disabled VLAN sheds all its learned state. -/
def VlanState.expire (state : VlanState) (config : Config) (enabled : Bool) (now : Nat) : VlanState :=
  let state :=
    if enabled then state else { state with groups := ∅, dynMrouters := ∅, otherQuerier := none }
  let groups := state.groups.map fun _ members => members.filter fun _ => Member.live config now
  { state with
    groups := groups.filter fun _ members => !members.isEmpty
    dynMrouters := state.dynMrouters.filter fun _ heard => now - heard < config.querierHold
    otherQuerier := state.otherQuerier.filter fun (_, heard) => now - heard < config.querierHold }

inductive Output where
  | group (update : GroupUpdate)
  | mrouters (update : MrouterUpdate)
  | query (port : String) (frame : List UInt8)
  deriving DecidableEq

def groupUpdate (vlan : UInt16) : IpAddr × Option (List String) → Output
  | (group, some ports) => .group ⟨vlan, group, ports, false⟩
  | (group, none) => .group ⟨vlan, group, [], true⟩

/-- The output ports of every group: its members and the multicast routers. -/
def VlanState.wanted (state : VlanState) (mrouterSet : List String) : AddrMap (List String) :=
  state.groups.map fun _ members => sortDedup (members.keys ++ mrouterSet)

/-- Unknown multicast is restricted only when there is a router to restrict it to, or
the local querier runs. -/
def Config.scope (config : Config) (vlan : UInt16) (mrouterSet : List String) : Bool × List String :=
  let restrict := config.vlanEnabled vlan && (!mrouterSet.isEmpty || (config.ofVlan vlan).querier)
  (restrict, if restrict then mrouterSet else [])

def VlanState.queryDue (state : VlanState) (config : Config) (vlan : UInt16) (now : Nat) : Bool :=
  config.vlanEnabled vlan && (config.ofVlan vlan).querier && state.otherQuerier.isNone &&
    state.lastQueryTx.all fun sent => config.queryInterval ≤ now - sent

def Inner.evaluate (inner : Inner) (vlan : UInt16) (now : Nat) : VlanState × List Output :=
  let mrouterSet := inner.mrouters vlan now
  let state := (inner.state vlan).expire inner.config (inner.config.vlanEnabled vlan) now
  let wanted := state.wanted mrouterSet
  let push := inner.config.scope vlan mrouterSet
  let due := state.queryDue inner.config vlan now
  let frame := encodeGeneralQuery inner.family inner.systemMac (inner.querierSource vlan)
  let written := state.pushedGroups.insertMany (writes state.pushedGroups wanted)
  ({ state with
      pushedGroups := (stale state.pushedGroups wanted).foldl Std.ExtTreeMap.erase written
      pushedMrouters := some push
      lastQueryTx := if due then some now else state.lastQueryTx },
    (changes state.pushedGroups wanted).map (groupUpdate vlan) ++
      (if state.pushedMrouters = some push then [] else [.mrouters ⟨vlan, push.1, push.2⟩]) ++
      if due then (inner.vlanPorts[vlan]?.getD []).map fun port => .query port frame else [])

def Inner.visit (now : Nat) (pass : Inner × List Output) (vlan : UInt16) : Inner × List Output :=
  let (state, outputs) := pass.1.evaluate vlan now
  ({ pass.1 with vlans := pass.1.vlans.insert vlan state }, pass.2 ++ outputs)

/-- One evaluation pass: timers, pushes and due queries, VLAN by VLAN.  A VLAN with
both state and configuration is visited twice. -/
def Inner.step (inner : Inner) (now : Nat) : Inner × List Output :=
  (inner.vlans.keys ++ inner.config.vlans.keys).foldl (Inner.visit now) (inner, [])

inductive Event where
  | setConfig (config : Config)
  | setVlanPorts (ports : VlanMap (List String))
  | frame (port : String) (vlan : UInt16) (bytes : List UInt8)
  | step

abbrev Input := Timed Event

def Config.normalise (config : Config) : Config :=
  if config.robustness = 0 then { config with robustness := 2 } else config

def Inner.next (inner : Inner) (input : Input) : Inner :=
  match input.event with
  | .setConfig config => { inner with config := config.normalise }
  | .setVlanPorts ports => { inner with vlanPorts := ports }
  | .frame port vlan bytes => inner.frameIn port vlan bytes input.time
  | .step => (inner.step input.time).1

def Inner.emit (inner : Inner) (input : Input) : List Output :=
  match input.event with
  | .step => (inner.step input.time).2
  | _ => []

def engine (family : Family) (systemMac : Mac) : Machine Inner Input Output where
  init := .initial family systemMac
  next := Inner.next
  emit := Inner.emit

end Hemlock.Snoop
