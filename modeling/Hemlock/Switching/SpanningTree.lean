import Hemlock.Switching.Service

/-!
# Spanning-tree requests

Instances, the VLANs they list and the states of ports.  A VLAN that an instance lists
need not be defined: its mapping is left for later.
-/

namespace Hemlock.Switching

open OrderedMap
open Acl (Status)
open Contracts

def stpInstance (raw : UInt32) : Except Status UInt8 :=
  if 1 ≤ raw ∧ raw ≤ 15 then .ok raw.toUInt8
  else .error ⟨.invalidArgument, "bad instance " ++ toString raw.toNat⟩

/-- What the switch knows a VLAN by; the default one needs no object. -/
def World.fdbVlanRef (w : World) (vlan : UInt16) : Except Status (Option Oid) :=
  if vlan = 1 then .ok none
  else
    match w.vlanObject vlan with
    | some oid => .ok (some oid)
    | none =>
      .error ⟨.failedPrecondition,
        "VLAN " ++ toString vlan.toNat ++ " is not defined (set vlans vlan " ++ toString vlan.toNat
          ++ ")"⟩

def createStpInstance (caps : Capabilities) (raw : UInt32) : Rpc Unit := do
  settle (requireCapability caps.stp "spanning-tree")
  let number ← settle (stpInstance raw)
  let w ← get
  if number ∈ w.stps then return
  else
    let oid ← sai Hardware.createStpInstance
    modify fun w => { w with stps := w.stps.insert number ⟨oid, []⟩ }

def moveVlans (refs : List (Option Oid)) (stp : Option Oid) : Rpc Unit :=
  each (fun ref => sai (Hardware.setVlanStpInstance ref stp)) refs

/-- A VLAN that is not defined counts as the default one here. -/
def World.refOrDefault (w : World) (vlan : UInt16) : Option Oid :=
  (w.fdbVlanRef vlan).toOption.join

def removeStpInstance (raw : UInt32) : Rpc Unit := do
  let number ← settle (stpInstance raw)
  let w ← get
  match w.stps[number]? with
  | none => return
  | some state =>
    moveVlans (state.vlans.map w.refOrDefault) none
    sai (Hardware.removeStpInstance state.oid)
    modify fun w => { w with stps := w.stps.erase number }

structure SetStpInstanceVlansRequest where
  number : UInt32
  vlans : List UInt32

/-- The VLANs that are defined, as the switch knows them. -/
def World.refs (w : World) (vlans : List UInt16) : List (Option Oid) :=
  vlans.filterMap fun vlan => (w.fdbVlanRef vlan).toOption

def setStpInstanceVlans (req : SetStpInstanceVlansRequest) : Rpc Unit := do
  let number ← settle (stpInstance req.number)
  let listed ← settle (req.vlans.mapM vlanId)
  let wanted := sortDedup listed
  let w ← get
  match w.stps[number]? with
  | none =>
    throw ⟨.failedPrecondition, "stp instance " ++ toString number.toNat ++ " not created"⟩
  | some state =>
    moveVlans (w.refs (state.vlans.filter fun vlan => vlan ∉ wanted)) none
    moveVlans (w.refs wanted) (some state.oid)
    modify fun w =>
      { w with stps := w.stps.modify number fun state => { state with vlans := wanted } }

inductive StpState where
  | unspecified
  | blocking
  | learning
  | forwarding
  deriving DecidableEq

def StpState.portState : StpState → Except Status StpPortState
  | .blocking => .ok .blocking
  | .learning => .ok .learning
  | .forwarding => .ok .forwarding
  | .unspecified => .error ⟨.invalidArgument, "unspecified stp state"⟩

structure SetPortStpStateRequest where
  name : String
  number : UInt32
  state : StpState

/-- The instances that a request is about: zero stands for all of them. -/
def World.stpTargets (w : World) (raw : UInt32) : Except Status (List (Option Oid)) :=
  if raw = 0 then .ok (none :: w.stps.values.map fun state => some state.oid)
  else do
    let number ← stpInstance raw
    match w.stps[number]? with
    | some state => return [some state.oid]
    | none =>
      throw ⟨.failedPrecondition, "stp instance " ++ toString number.toNat ++ " not created"⟩

def setPortStpState (caps : Capabilities) (req : SetPortStpStateRequest) : Rpc Unit := do
  settle (requireCapability caps.stp "spanning-tree")
  let state ← settle req.state.portState
  let w ← get
  let port ← settle (w.portLikeSaiId req.name)
  let targets ← settle (w.stpTargets req.number)
  each (fun stp => sai (Hardware.setStpPortState stp port state)) targets

structure World.StpObjects (w : World) : Prop where
  created : ∀ {number : UInt8} {state : StpInstanceState}, w.stps[number]? = some state →
    w.hardware.stpInstances.contains state.oid = true
  numbered : ∀ {number : UInt8} {state : StpInstanceState}, w.stps[number]? = some state →
    state.oid < w.hardware.next
  distinct : ∀ {number other : UInt8} {state state' : StpInstanceState},
    w.stps[number]? = some state → w.stps[other]? = some state' →
    state.oid = state'.oid → number = other

def World.addInstance (number : UInt8) (w : World) : World :=
  { w with
    stps := w.stps.insert number ⟨w.hardware.next, []⟩
    hardware.next := w.hardware.next + 1
    hardware.stpInstances := w.hardware.stpInstances.insert w.hardware.next }

def World.dropInstance (number : UInt8) (oid : Oid) (w : World) : World :=
  { w with
    stps := w.stps.erase number
    hardware.stpInstances := w.hardware.stpInstances.erase oid
    hardware.stpPortStates :=
      w.hardware.stpPortStates.filter fun key _ => key.1 ≠ some oid }

/-- The call adds an instance. -/
def World.Adds (w : World) (caps : Capabilities) (raw : UInt32) : Prop :=
  caps.stp = true ∧ ∃ number, stpInstance raw = .ok number ∧ number ∉ w.stps

section

variable {w : World} {number other : UInt8} {state : StpInstanceState} {oid : Oid}

theorem lookup_addInstance : (w.addInstance number).stps[other]? =
      if number = other then some ⟨w.hardware.next, []⟩ else w.stps[other]? := by
  simp [World.addInstance, getElem?_insert]

theorem World.StpObjects.addInstance (objects : w.StpObjects) : (w.addInstance number).StpObjects where
  created := by
    intro other state hf
    rw [lookup_addInstance] at hf
    split_ifs at hf with hs
    · cases hf
      simp [World.addInstance]
    · simp [World.addInstance, objects.created hf]
  numbered := by
    intro other state hf
    rw [lookup_addInstance] at hf
    split_ifs at hf with hs
    · cases hf
      exact Nat.lt_succ_self _
    · exact Nat.lt_succ_of_lt (objects.numbered hf)
  distinct := by
    intro first second state state' hf hf' hs
    rw [lookup_addInstance] at hf hf'
    split_ifs at hf hf' with isNew isNew' isNew'
    · exact isNew.symm.trans isNew'
    · cases hf
      exact absurd hs (Nat.ne_of_gt (objects.numbered hf'))
    · cases hf'
      exact absurd hs (Nat.ne_of_lt (objects.numbered hf))
    · exact objects.distinct hf hf' hs

theorem lookup_dropInstance : (w.dropInstance number oid).stps[other]? = some state ↔
      number ≠ other ∧ w.stps[other]? = some state := by
  simp [World.dropInstance, getElem?_erase]

theorem World.StpObjects.dropInstance (objects : w.StpObjects)
    (held : w.stps[number]? = some state) : (w.dropInstance number state.oid).StpObjects where
  created := by
    intro other state' hf
    obtain ⟨ne, hf⟩ := lookup_dropInstance.mp hf
    have distinct : state.oid ≠ state'.oid := fun hs => ne (objects.distinct held hf hs)
    simp [World.dropInstance, distinct, objects.created hf]
  numbered := fun hf => objects.numbered (lookup_dropInstance.mp hf).2
  distinct := fun hf hf' => objects.distinct (lookup_dropInstance.mp hf).2 (lookup_dropInstance.mp hf').2

theorem World.StpObjects.of_sub {after : World} (objects : w.StpObjects)
    (sub : ∀ {number : UInt8} {state : StpInstanceState}, after.stps[number]? = some state →
      ∃ earlier, w.stps[number]? = some earlier ∧ state.oid = earlier.oid)
    (stpInstances : after.hardware.stpInstances = w.hardware.stpInstances)
    (next : w.hardware.next ≤ after.hardware.next) : after.StpObjects where
  created := by
    intro number state hf
    obtain ⟨earlier, held, hs⟩ := sub hf
    rw [hs, stpInstances]
    exact objects.created held
  numbered := by
    intro number state hf
    obtain ⟨earlier, held, hs⟩ := sub hf
    rw [hs]
    exact Nat.lt_of_lt_of_le (objects.numbered held) next
  distinct := by
    intro number other state state' hf hf' hs
    obtain ⟨earlier, held, isEarlier⟩ := sub hf
    obtain ⟨earlier', held', isEarlier'⟩ := sub hf'
    exact objects.distinct held held' (isEarlier ▸ isEarlier' ▸ hs)

theorem createStpInstance_cases (w : World) (caps : Capabilities) (raw : UInt32) :
    (¬ w.Adds caps raw ∧ final (createStpInstance caps raw) w = w) ∨
      w.Adds caps raw ∧ ∃ number, number ∉ w.stps ∧
        final (createStpInstance caps raw) w = w.addInstance number := by
  unfold final World.Adds
  rw [createStpInstance, requireCapability]
  cases caps.stp with
  | false => exact .inl ⟨by simp, by simp⟩
  | true =>
    cases stpInstance raw with
    | error failure => exact .inl ⟨by simp, by simp⟩
    | ok number =>
      by_cases hp : number ∈ w.stps
      · exact .inl ⟨by simpa using hp, by simp [hp]⟩
      · have created : sai Hardware.createStpInstance w = _ := sai_checked rfl
        refine .inr ⟨by simpa using hp, number, hp, ?_⟩
        simp [hp, bind_of_ok created, World.addInstance]

end

end Hemlock.Switching
