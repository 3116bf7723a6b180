import Hemlock.Acl.Service
import Hemlock.Library.Machine
import Hemlock.Library.Mailbox
import Hemlock.SnoopSec.Packet

/-!
# Port security

The switch reports what it learns; the event pump keeps a mirror of the forwarding table
and passes the reports on.  The port-security engine reads them from a mailbox of its own
and keeps, for each secured port, the addresses that count against the limit of the port.
Requests secure a port, stop that, or start over.
-/

namespace Hemlock.PortSecurity

open Acl (Status saiErr quoted)
open Machine Mailbox Net

inductive FdbEventKind where
  | learned
  | moved
  | aged
  | flushed
  deriving DecidableEq

/-- What the switch reports, in its own identifiers. -/
structure FdbEvent where
  kind : FdbEventKind
  bvId : Nat
  mac : Mac
  port : Option Nat

structure FdbNotify where
  kind : FdbEventKind
  vlan : UInt16
  mac : String
  port : Option String
  deriving DecidableEq

structure ViolationNotify where
  port : String
  mac : String
  deriving DecidableEq

structure FdbDynamicEntry where
  port : String
  moves : UInt32
  lastMove : Option Nat
  deriving DecidableEq

abbrev FdbMap := Std.ExtTreeMap (UInt16 × String) FdbDynamicEntry comparePair

structure PortSecurityState where
  max : UInt32
  /-- A violation takes the port down; otherwise only its learning stops. -/
  shutdown : Bool
  learned : NameMap Nat
  violations : UInt32
  lastViolation : Option (String × Nat)
  deriving DecidableEq

structure PortState where
  saiId : Nat
  adminUp : Bool := true
  errdisableReason : Option String := none
  deriving DecidableEq

/-- What does not change: the VLANs with their identifiers, and what the platform can do. -/
structure Board where
  defaultVlanOid : Nat
  vlans : VlanMap (Option Nat) := ∅
  fdbFlush : Bool := true

structure World where
  ports : NameMap PortState
  dynamics : FdbMap := ∅
  portSecurity : NameMap PortSecurityState := ∅
  /-- What the engine has not read yet. -/
  fdbEvents : List FdbNotify := []
  violations : List ViolationNotify := []

/-- How the switch answers a call. -/
inductive Answer where
  | done
  | unsupported
  | failed
  deriving DecidableEq

structure Backend where
  learnLimit : Answer := .done
  portLearning : String → Bool := fun _ => true
  adminState : String → Bool := fun _ => true
  removeFdbEntry : Bool := true
  failure : String := ""

def formatMac (mac : Mac) : String := SnoopSec.macText mac.toList

def nameFor (ports : NameMap PortState) (id : Nat) : Option String :=
  (ports.toList.find? fun entry => entry.2.saiId = id).map Prod.fst

section

variable (board : Board)

def vlanFor (bvId : Nat) : Option UInt16 :=
  if bvId = board.defaultVlanOid then some 1
  else (board.vlans.toList.find? fun entry => entry.2 = some bvId).map Prod.fst

/-- The report in names; those for an unknown VLAN are dropped. -/
def notifyFor (ports : NameMap PortState) (event : FdbEvent) : Option FdbNotify :=
  (vlanFor board event.bvId).map fun vlan =>
    ⟨event.kind, vlan, formatMac event.mac, event.port.bind (nameFor ports)⟩

def FdbDynamicEntry.heard (port : String) (now : Nat) : Option FdbDynamicEntry → FdbDynamicEntry
  | some entry => if entry.port ≠ port then ⟨port, entry.moves + 1, some now⟩ else entry
  | none => ⟨port, 1, some now⟩

def mirror (dynamics : FdbMap) (note : FdbNotify) (now : Nat) : FdbMap :=
  let key := (note.vlan, note.mac)
  match note.kind with
  | .learned | .moved =>
    match note.port with
    | some port => dynamics.insert key (.heard port now dynamics[key]?)
    | none => dynamics
  | .aged | .flushed => dynamics.erase key

def pumpFdb (event : FdbEvent) (now : Nat) (w : World) : World :=
  match notifyFor board w.ports event with
  | some note =>
    { w with
      dynamics := mirror w.dynamics note now
      fdbEvents := post 1024 w.fdbEvents note }
  | none => w

def pumpViolation (port : Nat) (mac : Mac) (w : World) : World :=
  match nameFor w.ports port with
  | some name => { w with violations := post 256 w.violations ⟨name, formatMac mac⟩ }
  | none => w

/-- The bytes of an address; what follows the sixth is not looked at. -/
def macBytes (mac : String) : Option (List Nat) :=
  let parts := (mac.toList.splitOn ':').take 6
  if parts.length = 6 then parts.mapM (parseUnsigned 16 256) else none

/-- The object of the VLAN is known; VLAN 1 needs none. -/
def hasVlanRef (vlan : UInt16) : Bool := vlan = 1 || board.vlans[vlan]?.any Option.isSome

variable (backend : Backend)

/-- Drops the address that broke the limit. -/
def unlearn (vlan : UInt16) (mac : String) (w : World) : World :=
  if (macBytes mac).isSome && hasVlanRef board vlan && backend.removeFdbEntry then
    { w with dynamics := w.dynamics.erase (vlan, mac) }
  else w

/-- Counts a violation and acts on it.  The VLAN is given when the address has been learned. -/
def applyViolation (port : String) (vlan : Option UInt16) (mac : String) (now : Nat) (w : World) : World :=
  match w.portSecurity[port]? with
  | none => w
  | some state =>
    let counted : World :=
      { w with
        portSecurity := w.portSecurity.insert port
          { state with violations := state.violations + 1, lastViolation := some (mac, now) } }
    match w.ports[port]? with
    | none => counted
    | some known =>
      if state.shutdown then
        if backend.adminState port then
          { counted with
            ports := w.ports.insert port
              { known with adminUp := false, errdisableReason := some "port-security" } }
        else counted
      else
        -- Learning is switched off first, whether or not that succeeds.
        match vlan with
        | some vlan => unlearn board backend vlan mac counted
        | none => counted

def setLearned (port : String) (state : PortSecurityState) (learned : NameMap Nat) (w : World) : World :=
  { w with portSecurity := w.portSecurity.insert port { state with learned } }

def heard (port : String) (note : FdbNotify) (now : Nat) (w : World) : World :=
  match w.portSecurity[port]? with
  | none => w
  | some state =>
    if state.learned.contains note.mac then w
    else if UInt32.ofNat state.learned.size < state.max then
      setLearned port state (state.learned.insert note.mac now) w
    else applyViolation board backend port (some note.vlan) note.mac now w

def gone (port : String) (note : FdbNotify) (w : World) : World :=
  match w.portSecurity[port]? with
  | none => w
  | some state => setLearned port state (state.learned.erase note.mac) w

def readFdb (note : FdbNotify) (now : Nat) (w : World) : World :=
  match note.port with
  | none => w
  | some port =>
    match note.kind with
    | .learned | .moved => heard board backend port note now w
    | .aged | .flushed => gone port note w

def takeFdb (now : Nat) (w : World) : World :=
  match w.fdbEvents with
  | [] => w
  | note :: rest => readFdb board backend note now { w with fdbEvents := rest }

def takeViolation (now : Nat) (w : World) : World :=
  match w.violations with
  | [] => w
  | note :: rest =>
    applyViolation board backend note.port none note.mac now { w with violations := rest }

end

abbrev Rpc (Value : Type) := EStateM Status World Value

structure SetPortSecurityRequest where
  port : String
  maximum : UInt32
  shutdown : Bool

section

variable (backend : Backend)

section

variable (port : String)

def portSaiId : Rpc Nat := do
  let w ← get
  match w.ports[port]? with
  | some known => return known.saiId
  | none => throw ⟨.notFound, "no port " ++ quoted port⟩

/-- Platforms without a limit of their own leave it to the engine. -/
def setPortLearnLimit : Rpc Unit :=
  match backend.learnLimit with
  | .failed => throw (saiErr backend.failure)
  | .done | .unsupported => pure ()

def require (succeeds : Bool) : Rpc Unit :=
  if succeeds then pure () else throw (saiErr backend.failure)

def setPortLearning : Rpc Unit := require backend (backend.portLearning port)

def setAdminState : Rpc Unit := require backend (backend.adminState port)

def seed (dynamics : FdbMap) (port : String) : List String :=
  (dynamics.toList.filter fun entry => entry.2.port = port).map fun entry => entry.1.2

/-- The port becomes secured, or keeps its addresses with another limit. -/
def secure (req : SetPortSecurityRequest) (now : Nat) (w : World) : World :=
  let state := w.portSecurity[req.port]?.getD
    ⟨req.maximum, req.shutdown, ∅, 0, none⟩
  { w with
    portSecurity := w.portSecurity.insert req.port
      { state with
        max := req.maximum
        shutdown := req.shutdown
        learned := (seed w.dynamics req.port).foldl
          (fun learned mac => learned.insertIfNew mac now) state.learned } }

def setPortSecurityImpl (req : SetPortSecurityRequest) (now : Nat) : Rpc Unit := do
  if req.maximum < 1 ∨ 1024 < req.maximum then
    throw ⟨.invalidArgument, "bad maximum " ++ toString req.maximum.toNat ++ " (1..1024)"⟩
  let _ ← portSaiId req.port
  setPortLearnLimit backend
  modify (secure req now)

def enable (w : World) : World :=
  match w.ports[port]? with
  | some known =>
    { w with
      ports := w.ports.insert port { known with adminUp := true, errdisableReason := none } }
  | none => w

def reenableIfPsecErrdisabled : Rpc Unit := do
  let w ← get
  if w.ports[port]?.any fun known => known.errdisableReason = some "port-security" then
    let _ ← portSaiId port
    setAdminState backend port
    modify (enable port)

def clearPortSecurityImpl : Rpc Unit := do
  let w ← get
  set { w with portSecurity := w.portSecurity.erase port }
  if w.portSecurity.contains port then
    let _ ← portSaiId port
    setPortLearnLimit backend
    setPortLearning backend port
    reenableIfPsecErrdisabled backend port

def forgetLearned (w : World) : World :=
  match w.portSecurity[port]? with
  | some state =>
    { w with
      portSecurity := w.portSecurity.insert port
        { state with learned := ∅, violations := 0, lastViolation := none } }
  | none => w

/-- The entries of a port go whether or not the switch has flushed them. -/
def flushPort (w : World) : World :=
  { w with dynamics := w.dynamics.filter fun _ entry => entry.port ≠ port }

end

variable (board : Board)

def resetPort (port : String) : Rpc Unit := do
  modify (forgetLearned port)
  let _ ← portSaiId port
  setPortLearning backend port
  if board.fdbFlush then modify (flushPort port)
  reenableIfPsecErrdisabled backend port

def resetPorts : List String → Rpc Unit
  | [] => pure ()
  | port :: rest => do
      resetPort backend board port
      resetPorts rest

/-- The secured ports that a filter names; the empty one names all. -/
def selected (filter : String) (w : World) : List String :=
  w.portSecurity.keys.filter fun port => filter = "" || port = filter

def resetPortSecurityImpl (filter : String) : Rpc UInt32 := do
  let w ← get
  let ports := selected filter w
  if filter ≠ "" ∧ ports = [] then
    throw ⟨.notFound, "port-security is not enabled on " ++ filter⟩
  resetPorts backend board ports
  return UInt32.ofNat ports.length

end

inductive Input where
  | fdb (event : FdbEvent)
  | violation (port : Nat) (mac : Mac)
  | takeFdb (backend : Backend)
  | takeViolation (backend : Backend)
  | setPortSecurity (req : SetPortSecurityRequest) (backend : Backend)
  | clearPortSecurity (port : String) (backend : Backend)
  | resetPortSecurity (filter : String) (backend : Backend)

/-- The world that a request leaves, also when it fails. -/
def Rpc.after {Value : Type} (rpc : Rpc Value) (w : World) : World :=
  match rpc w with
  | .ok _ after => after
  | .error _ after => after

def next (board : Board) (w : World) (input : Timed Input) : World :=
  match input.event with
  | .fdb event => pumpFdb board event input.time w
  | .violation port mac => pumpViolation port mac w
  | .takeFdb backend => takeFdb board backend input.time w
  | .takeViolation backend => takeViolation board backend input.time w
  | .setPortSecurity req backend =>
    (setPortSecurityImpl backend req input.time).after w
  | .clearPortSecurity port backend => (clearPortSecurityImpl backend port).after w
  | .resetPortSecurity filter backend => (resetPortSecurityImpl backend board filter).after w

/-- Reports and requests in any order, from a switch that knows its ports and nothing else. -/
def system (board : Board) (ports : NameMap PortState) : Machine World (Timed Input) Empty where
  init := { ports }
  next := next board
  emit _ _ := []

end Hemlock.PortSecurity
