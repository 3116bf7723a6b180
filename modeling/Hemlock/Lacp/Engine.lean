import Hemlock.Lacp.Pdu
import Hemlock.Library.Machine
import Mathlib.Data.List.MinMax
import Mathlib.Data.Prod.Lex

/-!
# The LACP engine

Actor and partner state per member, static aggregation, fallback and min-links
gating.  As with spanning tree, a run is a list of configuration pushes, link
events, received frames and evaluation passes, each under the engine's lock.
-/

namespace Hemlock.Lacp

open State

/-- A map from group numbers. -/
abbrev GroupMap (Value : Type) := Std.ExtTreeMap UInt16 Value compare

inductive Mode where
  | active
  | passive
  /-- Static aggregation, no LACP. -/
  | on
  deriving DecidableEq, Repr

inductive Fallback where
  | static
  | individual
  deriving DecidableEq, Repr

structure MemberConfig where
  mode : Mode
  rateFast : Bool
  portPriority : UInt16 := 32768

structure LagConfig where
  group : UInt16
  minLinks : UInt8
  fallback : Option Fallback
  fallbackTimeout : Nat
  members : NameMap MemberConfig

structure LinkEvent where
  port : String
  up : Bool

/-- The full wanted membership of one LAG: each port with its collect and
distribute gate, sorted by port name. -/
structure GateUpdate where
  group : UInt16
  members : List (String × Bool)
  deriving DecidableEq, Repr

structure Member where
  config : MemberConfig
  portNumber : UInt16
  linkUp : Bool
  partner : Option Partner
  lastRx : Option Nat
  lastTx : Option Nat
  /-- Gate currently wanted (collecting and distributing). -/
  bundled : Bool
  /-- Forwarding as an individual port under fallback. -/
  individual : Bool
  pdusRx : Nat
  pdusTx : Nat
  churn : Nat

def Member.new (config : MemberConfig) (portNumber : UInt16) : Member where
  config := config
  portNumber := portNumber
  linkUp := false
  partner := none
  lastRx := none
  lastTx := none
  bundled := false
  individual := false
  pdusRx := 0
  pdusTx := 0
  churn := 0

/-- How long partner information counts: three times our requested interval. -/
def Member.timeout (member : Member) : Nat := secs (if member.config.rateFast then 3 else 90)

def Member.partnerCurrent (member : Member) (now : Nat) : Bool :=
  match member.lastRx with
  | some heard => now - heard < member.timeout
  | none => false

structure Lag where
  config : LagConfig
  members : NameMap Member
  /-- When this LAG last heard any partner, or the time it was configured. -/
  partnerlessSince : Nat
  fallbackActive : Bool
  lastGates : Option (List (String × Bool))

structure Inner where
  systemPriority : UInt16
  systemMac : Mac
  lags : GroupMap Lag
  /-- The group that owns a port. -/
  portToLag : NameMap UInt16
  /-- Link states remembered across reconfigurations. -/
  linkStates : NameMap Bool

def Inner.initial (systemMac : Mac) : Inner where
  systemPriority := 32768
  systemMac := systemMac
  lags := ∅
  portToLag := ∅
  linkStates := ∅

/-- The members a configuration asks for: those that stay keep their runtime
state, the others start with the remembered link state. -/
def LagConfig.membersFrom (config : LagConfig) (members : NameMap Member)
    (linkStates : NameMap Bool) : NameMap Member :=
  config.members.map fun name memberConfig =>
    match members[name]? with
    | some member => { member with config := memberConfig }
    | none =>
      { Member.new memberConfig (portNumberOf name) with
        linkUp := linkStates[name]?.getD false }

def applyConfig (linkStates : NameMap Bool) (now : Nat) (lags : GroupMap Lag)
    (config : LagConfig) : GroupMap Lag :=
  match lags[config.group]? with
  | some lag =>
    lags.insert config.group
      { lag with
        members := config.membersFrom lag.members linkStates
        config := config }
  | none =>
    lags.insert config.group
      { config := config
        members := config.membersFrom ∅ linkStates
        partnerlessSince := now
        fallbackActive := false
        lastGates := none }

/-- The pairs `port_to_lag` is collected from; later ones win. -/
def ownership (lags : GroupMap Lag) : List (String × UInt16) :=
  lags.toList.flatMap fun (group, lag) => lag.members.keys.map fun name => (name, group)

/-- Replace the full desired state; groups absent from `configs` are torn down. -/
def Inner.setConfigs (inner : Inner) (systemPriority : UInt16) (configs : List LagConfig)
    (now : Nat) : Inner :=
  let kept := inner.lags.filter fun group _ => (configs.map LagConfig.group).contains group
  let lags := configs.foldl (applyConfig inner.linkStates now) kept
  { inner with
    systemPriority := systemPriority
    lags := lags
    portToLag := (∅ : NameMap UInt16).insertMany (ownership lags) }

def Inner.modifyMember (inner : Inner) (port : String) (change : Member → Member) : Inner :=
  match inner.portToLag[port]? with
  | none => inner
  | some group =>
    match inner.lags[group]? with
    | none => inner
    | some lag =>
      match lag.members[port]? with
      | none => inner
      | some member =>
        { inner with
          lags := inner.lags.insert group
            { lag with members := lag.members.insert port (change member) } }

def Member.setLink (member : Member) (up : Bool) : Member :=
  if up then { member with linkUp := up }
  else { member with linkUp := up, partner := none, lastRx := none }

def Inner.linkEvent (inner : Inner) (event : LinkEvent) : Inner :=
  let inner := { inner with linkStates := inner.linkStates.insert event.port event.up }
  inner.modifyMember event.port fun member => member.setLink event.up

def Member.receive (member : Member) (partner : Partner) (now : Nat) : Member :=
  { member with
    partner := some partner
    lastRx := some now
    pdusRx := member.pdusRx + 1 }

def Inner.frameIn (inner : Inner) (port : String) (frame : List UInt8) (now : Nat) : Inner :=
  match decodePdu frame with
  | some partner => inner.modifyMember port fun member => member.receive partner now
  | none => inner

/-- The first member's mode decides for the whole LAG. -/
def LagConfig.lacp (config : LagConfig) : Bool :=
  match config.members.toList.head? with
  | some (_, member) => member.mode ≠ .on
  | none => true

section

variable (member : Member) (lag : Lag) (now : Nat)

def Lag.anyPartner : Bool :=
  lag.members.toList.any fun (_, member) => member.partnerCurrent now

/-- The clock restarts whenever any partner is heard. -/
def Lag.listen : Lag :=
  if lag.anyPartner now then { lag with partnerlessSince := now } else lag

def Lag.fallbackArmed : Bool :=
  lag.config.lacp && lag.config.fallback.isSome && !lag.anyPartner now &&
    lag.config.fallbackTimeout ≤ now - lag.partnerlessSince

def Member.rank : ℕ ×ₗ ℕ :=
  toLex (member.config.portPriority.toNat, member.portNumber.toNat)

/-- The lowest (port-priority, port-number) live member. -/
def Lag.chosen : Option String :=
  ((lag.members.toList.filter fun (_, member) => member.linkUp).argmin
    fun (_, member) => member.rank).map Prod.fst

/-- Link, current partner information and the partner's SYNC bit. -/
def Member.ready : Bool :=
  member.linkUp && member.partnerCurrent now && match member.partner with
    | some partner => partner.inSync
    | none => false

/-- Which members want their gate open, and which of them as individual ports. -/
def Lag.selection : NameMap (Bool × Bool) :=
  if !lag.config.lacp then lag.members.map fun _ member => (member.linkUp, false)
  else if lag.fallbackArmed now then
    match lag.config.fallback with
    | some .static => lag.members.map fun _ member => (member.linkUp, false)
    | some .individual =>
      lag.members.map fun name _ => (some name = lag.chosen, some name = lag.chosen)
    | none => ∅
  else lag.members.map fun _ member => (member.ready now, false)

def bundledCount (wanted : NameMap (Bool × Bool)) : Nat :=
  wanted.toList.countP fun (_, gate, individual) => gate && !individual

/-- min-links applies to the aggregate; an individual port is exempt. -/
def LagConfig.gate (config : LagConfig) (wanted : NameMap (Bool × Bool)) : NameMap (Bool × Bool) :=
  if 0 < config.minLinks && bundledCount wanted < config.minLinks.toNat then
    wanted.map fun _ (gate, individual) => (gate && individual, individual)
  else wanted

def Member.apply (gate individual : Bool) : Member :=
  let member :=
    if member.bundled ≠ gate then { member with bundled := gate, churn := member.churn + 1 }
    else member
  { member with individual := individual }

def Lag.select : Lag :=
  let lag := lag.listen now
  let wanted := lag.config.gate (lag.selection now)
  { lag with
    fallbackActive := lag.fallbackArmed now
    members := lag.members.map fun name member =>
      let (gate, individual) := wanted[name]?.getD (false, false)
      member.apply gate individual }

def Lag.gateList : List (String × Bool) :=
  lag.members.toList.map fun (name, member) => (name, member.bundled)

/-- Gates out (full declarative membership), on change only. -/
def Lag.gateUpdate? : Option GateUpdate :=
  if lag.lastGates ≠ some lag.gateList then some ⟨lag.config.group, lag.gateList⟩ else none

def Lag.publish : Lag := { lag with lastGates := some lag.gateList }

def actorStateBits (current : Bool) : UInt8 :=
  let bits := State.aggregation
  let bits := if member.config.mode = .active then bits ||| State.activity else bits
  let bits := if member.config.rateFast then bits ||| State.timeout else bits
  let bits :=
    if member.linkUp && (current || member.config.mode = .on) then bits ||| State.sync else bits
  let bits :=
    if member.bundled then bits ||| State.collecting ||| State.distributing else bits
  if current then bits
  else
    let bits := bits ||| State.defaulted
    if member.partner.isSome then bits ||| State.expired else bits

/-- Is a transmission due?  We transmit at the rate the partner asks for; defaulted
members use their own. -/
def Member.transmits : Bool :=
  let current := member.partnerCurrent now
  let fast :=
    match member.partner, current with
    | some partner, true => partner.state &&& State.timeout != 0
    | _, _ => member.config.rateFast
  member.linkUp && (member.config.mode = .active || current) && match member.lastTx with
    | some sent => secs (if fast then 1 else 30) ≤ now - sent
    | none => true

def Member.transmit : Member :=
  if member.transmits now then
    { member with lastTx := some now, pdusTx := member.pdusTx + 1 }
  else member

def Member.pdu (systemPriority : UInt16) (systemMac : Mac) (group : UInt16) (now : Nat) : List UInt8 :=
  let current := member.partnerCurrent now
  encodePdu systemMac
    { systemPriority := systemPriority
      system := systemMac
      key := group
      portPriority := member.config.portPriority
      port := member.portNumber
      state := actorStateBits member current }
    (if current then member.partner else none)

def Lag.transmit : Lag :=
  if lag.config.lacp then { lag with members := lag.members.map fun _ member => member.transmit now }
  else lag

def Lag.pdusOut (systemPriority : UInt16) (systemMac : Mac) (now : Nat) : List (String × List UInt8) :=
  if lag.config.lacp then
    lag.members.toList.filterMap fun (name, member) =>
      if member.transmits now then
        some (name, member.pdu systemPriority systemMac lag.config.group now)
      else none
  else []

def Lag.step : Lag := ((lag.select now).publish).transmit now

end

/-- One evaluation pass: selection, gates and due transmissions. -/
def Inner.step (inner : Inner) (now : Nat) : Inner :=
  { inner with lags := inner.lags.map fun _ lag => lag.step now }

inductive Event where
  | setConfigs (systemPriority : UInt16) (configs : List LagConfig)
  | link (event : LinkEvent)
  | frame (port : String) (bytes : List UInt8)
  | step

inductive Output where
  | gates (update : GateUpdate)
  | pdu (port : String) (frame : List UInt8)
  deriving DecidableEq

abbrev Input := Machine.Timed Event

def Inner.next (inner : Inner) (input : Input) : Inner :=
  match input.event with
  | .setConfigs systemPriority configs => inner.setConfigs systemPriority configs input.time
  | .link event => inner.linkEvent event
  | .frame port bytes => inner.frameIn port bytes input.time
  | .step => inner.step input.time

def Lag.emit (lag : Lag) (systemPriority : UInt16) (systemMac : Mac) (now : Nat) : List Output :=
  let lag := lag.select now
  lag.gateUpdate?.toList.map .gates ++
    (lag.pdusOut systemPriority systemMac now).map fun (port, frame) => .pdu port frame

def Inner.emit (inner : Inner) (input : Input) : List Output :=
  match input.event with
  | .setConfigs _ _ => []
  | .link _ => []
  | .frame _ _ => []
  | .step =>
    inner.lags.toList.flatMap fun (_, lag) =>
      lag.emit inner.systemPriority inner.systemMac input.time

def engine (systemMac : Mac) : Machine Inner Input Output where
  init := .initial systemMac
  next := Inner.next
  emit := Inner.emit

end Hemlock.Lacp
