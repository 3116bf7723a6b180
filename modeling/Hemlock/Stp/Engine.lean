import Hemlock.Library.Machine
import Hemlock.Stp.Bpdu
import Mathlib.Data.List.MinMax

/-!
# The spanning-tree engine

One port-role and port-state machine.  Configuration pushes, link events,
received frames and evaluation passes (`step`) each hold the engine's lock, so a
run is a list of them; `run` of the source follows every event by a pass, and a
push may come in between.  Times are those read under the lock.
-/

namespace Hemlock.Stp

inductive Mode where
  | mstp
  | rstp
  | none
  deriving DecidableEq, Repr

structure PortConfig where
  portfast : Bool := false
  bpduguard : Bool := false
  /-- Derived from the link speed when absent. -/
  cost : Option UInt32 := .none
  priority : UInt8 := 0

structure Config where
  mode : Mode := .mstp
  priority : UInt16 := 0
  helloTime : UInt8 := 0
  maxAge : UInt8 := 0
  forwardTime : UInt8 := 0
  ports : NameMap PortConfig := ∅

structure LinkEvent where
  port : String
  up : Bool
  /-- Current speed; 0 is unknown. -/
  speedMbps : UInt32

inductive Role where
  | designated
  | root
  | alternate
  | disabled
  deriving DecidableEq, Repr

inductive PortState where
  | discarding
  | learning
  | forwarding
  deriving DecidableEq, Repr

structure StateUpdate where
  port : String
  state : PortState
  deriving DecidableEq, Repr

structure ErrdisableEvent where
  port : String
  reason : String
  deriving DecidableEq, Repr

structure Port where
  config : PortConfig
  portNumber : UInt16
  linkUp : Bool
  speedMbps : UInt32
  /-- Best received info on this port, when current. -/
  received : Option PriorityVector
  lastRx : Option Nat
  role : Role
  state : PortState
  stateSince : Nat
  bpdusRx : Nat
  bpdusTx : Nat
  lastTx : Option Nat
  errdisabled : Bool

/-- The 802.1D-2004 long path cost, unless one is configured. -/
def Port.pathCost (port : Port) : UInt32 :=
  match port.config.cost with
  | some cost => cost
  | .none =>
    if port.speedMbps = 0 then 20000000
    else UInt32.ofNat (max (20000000000 / (port.speedMbps.toNat * 1000)) 1)

structure Inner where
  config : Config
  bridgeMac : Mac
  ports : NameMap Port
  topologyChanges : UInt32
  lastTc : Option (Nat × String)
  lastStates : NameMap PortState

def Inner.bridgeId (inner : Inner) : BridgeId := ⟨inner.config.priority, inner.bridgeMac⟩

def Inner.initial (bridgeMac : Mac) : Inner where
  config := { priority := 32768, helloTime := 2, maxAge := 20, forwardTime := 15 }
  bridgeMac := bridgeMac
  ports := ∅
  topologyChanges := 0
  lastTc := .none
  lastStates := ∅

def PortConfig.withDefaults (config : PortConfig) : PortConfig :=
  if config.priority = 0 then { config with priority := 128 } else config

def Config.withDefaults (config : Config) : Config where
  mode := config.mode
  priority := if config.priority = 0 then 32768 else config.priority
  helloTime := if config.helloTime = 0 then 2 else config.helloTime
  maxAge := if config.maxAge = 0 then 20 else config.maxAge
  forwardTime := if config.forwardTime = 0 then 15 else config.forwardTime
  ports := config.ports

/-- The configuration of a port; ports without an entry run defaults. -/
def Config.portConfig (config : Config) (name : String) : PortConfig :=
  (config.ports[name]?.getD {}).withDefaults

/-- A config change lifts BPDU-guard errdisable only when the guard is gone. -/
def Port.reconfigure (port : Port) (config : PortConfig) : Port :=
  { port with
    config := config
    errdisabled := port.errdisabled && config.bpduguard }

section

variable (inner : Inner)

/-- Replace the configuration (declarative). -/
def Inner.setConfig (config : Config) : Inner :=
  { inner with
    ports := inner.ports.map fun name port => port.reconfigure (config.portConfig name)
    config := config.withDefaults }

/-- A port the engine hears of for the first time. -/
def Port.new (name : String) (config : PortConfig) (now : Nat) : Port where
  config := config
  portNumber := portNumberOf name
  linkUp := false
  speedMbps := 0
  received := .none
  lastRx := .none
  role := .disabled
  state := .discarding
  stateSince := now
  bpdusRx := 0
  bpdusTx := 0
  lastTx := .none
  errdisabled := false

def Port.setLink (port : Port) (event : LinkEvent) (now : Nat) : Port :=
  let port := { port with config := port.config.withDefaults }
  let port := if 0 < event.speedMbps then { port with speedMbps := event.speedMbps } else port
  if port.linkUp ≠ event.up then
    { port with
      linkUp := event.up
      received := .none
      lastRx := .none
      state := .discarding
      stateSince := now }
  else port

def Inner.linkEvent (event : LinkEvent) (now : Nat) : Inner :=
  let config := inner.config.ports[event.port]?.getD {}
  let port := inner.ports[event.port]?.getD (.new event.port config now)
  { inner with ports := inner.ports.insert event.port (port.setLink event now) }

/-- The guard trips on the first BPDU a guarded port hears. -/
def Port.trips (port : Port) : Bool := port.config.bpduguard && !port.errdisabled

def Port.receive (port : Port) (info : PriorityVector) (now : Nat) : Port :=
  let port := { port with bpdusRx := port.bpdusRx + 1 }
  if port.trips then { port with errdisabled := true, state := .discarding }
  else if !port.errdisabled then { port with received := some info, lastRx := some now }
  else port

def Inner.frameIn (name : String) (frame : List UInt8) (now : Nat) : Inner :=
  match decodeBpdu frame, inner.ports[name]? with
  | some info, some port => { inner with ports := inner.ports.insert name (port.receive info now) }
  | _, _ => inner

def Inner.guardTrip (name : String) (frame : List UInt8) : Option ErrdisableEvent :=
  match decodeBpdu frame, inner.ports[name]? with
  | some _, some port => if port.trips then some ⟨name, "bpduguard"⟩ else .none
  | _, _ => .none

/-- Was the port's information received within the last `maxAge` seconds? -/
def Port.fresh (port : Port) (maxAge : UInt8) (now : Nat) : Bool :=
  match port.lastRx with
  | some heard => now - heard < secs maxAge.toNat
  | .none => false

structure Candidate where
  info : PriorityVector
  cost : UInt32
  port : String

/-- What candidates are compared by: the received vector with our cost to the root
in place of the sender's. -/
def Candidate.vector (candidate : Candidate) : PriorityVector :=
  { candidate.info with cost := candidate.cost }

def saturatingAdd (first second : UInt32) : UInt32 :=
  UInt32.ofNat (min (first.toNat + second.toNat) (2 ^ 32 - 1))

def Port.candidate? (port : Port) (name : String) (bridge : BridgeId) (maxAge : UInt8)
    (now : Nat) : Option Candidate :=
  if !port.linkUp || port.errdisabled then .none
  else
    match port.received with
    | .none => .none
    | some info =>
      if !port.fresh maxAge now then .none
      else if bridge ≤ info.root then .none
      else some ⟨info, saturatingAdd info.cost port.pathCost, name⟩

def Inner.candidates (now : Nat) : List Candidate :=
  inner.ports.toList.filterMap fun (name, port) =>
    port.candidate? name inner.bridgeId inner.config.maxAge now

/-- The root bridge, our cost to it and the root port, as of `now`. -/
structure Election where
  root : BridgeId
  rootCost : UInt32
  rootPort : Option String
  deriving DecidableEq

def Inner.computeRoot (now : Nat) : Election :=
  match (inner.candidates now).argmin Candidate.vector with
  | some best => ⟨best.info.root, best.cost, some best.port⟩
  | .none => ⟨inner.bridgeId, 0, .none⟩

structure Pass where
  now : Nat
  config : Config
  bridgeMac : Mac
  bridge : BridgeId
  election : Election

def Inner.pass (now : Nat) : Pass where
  now := now
  config := inner.config
  bridgeMac := inner.bridgeMac
  bridge := inner.bridgeId
  election := inner.computeRoot now

end

def Port.portId (port : Port) : UInt16 := (port.config.priority.toUInt16 <<< 8) ||| port.portNumber

section

variable (pass : Pass) (name : String) (port : Port)

def Pass.ours : PriorityVector where
  root := pass.election.root
  cost := pass.election.rootCost
  bridge := pass.bridge
  portId := port.portId

def Port.age (maxAge : UInt8) (now : Nat) : Port :=
  match port.lastRx with
  | some heard =>
    if secs maxAge.toNat ≤ now - heard then { port with received := .none, lastRx := .none }
    else port
  | .none => port

def Pass.role : Role :=
  if some name = pass.election.rootPort then .root
  else
    match port.received with
    | some theirs => if theirs.claim < (pass.ours port).claim then .alternate else .designated
    | .none => .designated

def Port.assume (role : Role) (now : Nat) : Port :=
  if port.role ≠ role then { port with role := role, state := .discarding, stateSince := now }
  else port

def Pass.nextState : PortState :=
  match port.role with
  | .alternate => .discarding
  | .disabled => .discarding
  | .root | .designated =>
    if port.config.portfast then .forwarding
    else
      let due := secs pass.config.forwardTime.toNat ≤ pass.now - port.stateSince
      match port.state with
      | .discarding => if due then .learning else .discarding
      | .learning => if due then .forwarding else .learning
      | .forwarding => .forwarding

def Pass.advance : Port :=
  if pass.nextState port ≠ port.state then
    { port with state := pass.nextState port, stateSince := pass.now }
  else port

/-- A topology change: a non-edge port reached forwarding. -/
def Pass.changesTopology : Bool :=
  pass.nextState port ≠ port.state && pass.nextState port = .forwarding && !port.config.portfast

/-- Designated ports send BPDUs, one per hello time. -/
def Pass.sendsBpdu : Bool :=
  port.role = .designated && match port.lastTx with
    | some sent => secs pass.config.helloTime.toNat ≤ pass.now - sent
    | .none => true

def Pass.transmit : Port :=
  if pass.sendsBpdu port then
    { port with lastTx := some pass.now, bpdusTx := port.bpdusTx + 1 }
  else port

/-- The port with its information aged and its role assigned. -/
def Pass.settle : Port :=
  let port := port.age pass.config.maxAge pass.now
  port.assume (pass.role name port) pass.now

/-- The loop body of a pass, for the port itself. -/
def Pass.visit : Port :=
  if !port.linkUp || port.errdisabled then { port with role := .disabled, state := .discarding }
  else pass.transmit (pass.advance (pass.settle name port))

def Pass.visitChangesTopology : Bool :=
  port.linkUp && !port.errdisabled && pass.changesTopology (pass.settle name port)

def Pass.visitFrame : Option (List UInt8) :=
  if !port.linkUp || port.errdisabled then .none
  else
    let port := pass.advance (pass.settle name port)
    if pass.sendsBpdu port then
      some (encodeBpdu pass.bridgeMac true pass.election.root pass.election.rootCost pass.bridge
        port.portId pass.config.helloTime pass.config.maxAge pass.config.forwardTime)
    else .none

end

/-- Spanning tree off: everything with link forwards. -/
def Port.switchOff (port : Port) : Port :=
  { port with
    role := .designated
    state := if port.linkUp && !port.errdisabled then .forwarding else .discarding }

def Inner.evaluate (inner : Inner) (now : Nat) : Inner :=
  if inner.config.mode = .none then
    { inner with ports := inner.ports.map fun _ port => port.switchOff }
  else
    let pass := inner.pass now
    let changed := inner.ports.toList.filter fun (name, port) => pass.visitChangesTopology name port
    let inner := { inner with ports := inner.ports.map pass.visit }
    match changed.getLast? with
    | some (name, _) =>
      { inner with
        topologyChanges := inner.topologyChanges + 1
        lastTc := some (now, name) }
    | .none => inner

def Inner.bpdusOut (inner : Inner) (now : Nat) : List (String × List UInt8) :=
  if inner.config.mode = .none then []
  else
    inner.ports.toList.filterMap fun (name, port) =>
      ((inner.pass now).visitFrame name port).map (name, ·)

def Port.shown (port : Port) : PortState :=
  if port.linkUp || port.errdisabled then port.state else .discarding

def Inner.stateUpdates (inner : Inner) : List (String × PortState) :=
  inner.ports.toList.filterMap fun (name, port) =>
    if inner.lastStates[name]? ≠ some port.shown then some (name, port.shown) else .none

def Inner.push (inner : Inner) : Inner :=
  { inner with lastStates := inner.lastStates.insertMany inner.stateUpdates }

/-- One evaluation pass: roles, state progression, due BPDUs, state pushes. -/
def Inner.step (inner : Inner) (now : Nat) : Inner := (inner.evaluate now).push

inductive Event where
  | setConfig (config : Config)
  | link (event : LinkEvent)
  | frame (port : String) (bytes : List UInt8)
  | step

inductive Output where
  | bpdu (port : String) (frame : List UInt8)
  | state (update : StateUpdate)
  | errdisable (event : ErrdisableEvent)
  deriving DecidableEq

abbrev Input := Machine.Timed Event

def Inner.next (inner : Inner) (input : Input) : Inner :=
  match input.event with
  | .setConfig config => inner.setConfig config
  | .link event => inner.linkEvent event input.time
  | .frame port bytes => inner.frameIn port bytes input.time
  | .step => inner.step input.time

def Inner.emit (inner : Inner) (input : Input) : List Output :=
  match input.event with
  | .setConfig _ => []
  | .link _ => []
  | .frame port bytes => (inner.guardTrip port bytes).toList.map .errdisable
  | .step =>
    (inner.bpdusOut input.time).map (fun (port, frame) => .bpdu port frame) ++
      (inner.evaluate input.time).stateUpdates.map (fun (port, state) => .state ⟨port, state⟩)

def engine (bridgeMac : Mac) : Machine Inner Input Output where
  init := .initial bridgeMac
  next := Inner.next
  emit := Inner.emit

end Hemlock.Stp
