import Hemlock.Library.Machine
import Hemlock.Switching.SpanningTree

/-!
# The state of a port in every instance

A port has one spanning-tree state, whichever instance a VLAN is in.  Setting it reaches
the instances that exist; an instance that is created later is told nothing.
-/

namespace Hemlock.Switching

open OrderedMap World Board Hardware
open Acl (lagGroupOf)
open Contracts

/-- The calls of the protocol engine. -/
inductive StateCall where
  | setState (name : String) (state : StpState)
  | create (raw : UInt32)
  | remove (raw : UInt32)

def StateCall.rpc (caps : Capabilities) : StateCall → Rpc Unit
  | .setState name state => setPortStpState caps ⟨name, 0, state⟩
  | .create raw => createStpInstance caps raw
  | .remove raw => removeStpInstance raw

/-- The state that a call sets, and the port it sets it for. -/
def StateCall.command (w : World) : StateCall → Option (PortId × StpPortState)
  | .setState name state => do
      let port ← (w.portLikeSaiId name).toOption
      let state ← state.portState.toOption
      return (port, state)
  | .create _ | .remove _ => none

/-- The switch, and the state that was last set for each port. -/
structure Commanded where
  world : World
  last : OidMap StpPortState := ∅

def Commanded.next (caps : Capabilities) (commanded : Commanded) (call : StateCall) : Commanded :=
  match call.rpc caps commanded.world with
  | .ok _ w =>
    ⟨w, (call.command commanded.world).elim commanded.last fun (port, state) =>
      commanded.last.insert port state⟩
  | .error _ w => { commanded with world := w }

def stateMachine (caps : Capabilities) (board : Board) : Machine Commanded StateCall Empty where
  init := ⟨board.boot, ∅⟩
  next := Commanded.next caps
  emit := fun _ _ => []

/-- The default instance always exists. -/
def World.HasInstance (w : World) (stp : Option Oid) : Prop :=
  stp = none ∨ ∃ number : UInt8, ∃ state,
    w.stps[number]? = some state ∧ stp = some state.oid

/-- Every instance has the state that was last set for a port. -/
def Commanded.OneState (commanded : Commanded) : Prop :=
  ∀ stp, commanded.world.HasInstance stp → ∀ port : PortId,
    commanded.world.hardware.stpPortStates[(stp, port)]? = commanded.last[port]?

/-- An instance is added only before the first state is set. -/
def Commanded.Timely (caps : Capabilities) (commanded : Commanded) : StateCall → Prop
  | .create raw => commanded.world.Adds caps raw → commanded.last = ∅
  | .setState .. | .remove _ => True

structure World.Instances (w : World) : Prop extends w.StpObjects where
  portLike : ∀ {name : String} {port : PortId}, w.portLikeSaiId name = .ok port →
    w.hardware.isPortLike port = true
  unlisted : ∀ {number : UInt8} {state : StpInstanceState}, w.stps[number]? = some state →
    state.vlans = []
  unmapped : w.hardware.vlanStp = ∅
  known : ∀ {stp : Oid} {port : PortId}, w.hardware.next ≤ stp →
    w.hardware.stpPortStates[(some stp, port)]? = none

def World.setStates (targets : List (Option Oid)) (port : PortId) (state : StpPortState)
    (w : World) : World :=
  { w with
    hardware.stpPortStates :=
      w.hardware.stpPortStates.insertMany ((targets.map (·, port)).map (·, state)) }

section

variable {w : World} {caps : Capabilities} {raw : UInt32} {name : String}

variable {targets : List (Option Oid)} {port : PortId} {state : StpPortState}

theorem setStates_ok (portLike : w.hardware.isPortLike port = true)
    (created : ∀ stp, some stp ∈ targets → w.hardware.stpInstances.contains stp = true) :
    each (fun stp => sai (setStpPortState stp port state)) targets w =
      .ok () (w.setStates targets port state) := by
  induction targets generalizing w with
  | nil => simp [each, setStates]
  | cons stp rest ih =>
    have granted : sai (setStpPortState stp port state) w =
        .ok () (w.setStates [stp] port state) := by
      rw [setStpPortState, sai_checked]
      · simp [setStates]
      · cases stp with
        | none => simp [portLike]
        | some oid => simpa [portLike] using created oid (by simp)
    have kept : (w.setStates [stp] port state).hardware.isPortLike port = true := portLike
    rw [each, bind_of_ok granted]
    refine (ih kept ?_).trans ?_
    · intro stp hm
      exact created stp (List.mem_cons_of_mem _ hm)
    · simp [setStates, insertMany_cons]

variable {stp : Option Oid}

theorem getElem?_setStates {other : PortId} :
    (w.setStates targets port state).hardware.stpPortStates[(stp, other)]? =
      if stp ∈ targets ∧ other = port then some state else w.hardware.stpPortStates[(stp, other)]? := by
  rw [setStates, getElem?_insertMany_const]
  simp [eq_comm]

def World.instances (w : World) : List (Option Oid) :=
  none :: w.stps.values.map fun state => some state.oid

theorem mem_instances : stp ∈ w.instances ↔ w.HasInstance stp := by
  rw [instances, List.mem_cons, List.mem_map]
  refine or_congr_right ?_
  constructor
  · rintro ⟨state, hl, rfl⟩
    obtain ⟨number, hf⟩ := mem_values_iff.mp hl
    exact ⟨number, state, hf, rfl⟩
  · rintro ⟨number, state, hf, rfl⟩
    exact ⟨state, mem_values_iff.mpr ⟨number, hf⟩, rfl⟩

variable {commanded : Commanded}

theorem next_setState {state : StpState} (instances : commanded.world.Instances) :
    commanded.next caps (.setState name state) = commanded ∨
      ∃ port state', commanded.next caps (.setState name state) =
        ⟨commanded.world.setStates commanded.world.instances port state',
          commanded.last.insert port state'⟩ := by
  unfold Commanded.next
  rw [StateCall.rpc, setPortStpState]
  cases requireCapability caps.stp "spanning-tree" with
  | error failure => exact .inl rfl
  | ok _ =>
    cases told : state.portState with
    | error failure => exact .inl rfl
    | ok state' =>
      cases hk : commanded.world.portLikeSaiId name with
      | error failure =>
        refine .inl ?_
        simp [hk]
      | ok port =>
        refine .inr ⟨port, state', ?_⟩
        have reaches := @setStates_ok commanded.world commanded.world.instances port state'
          (instances.portLike hk) (by
            intro stp hl
            rcases mem_instances.mp hl with ha | ⟨number, held, hf, hs⟩
            · cases ha
            · cases hs
              exact instances.created hf)
        rw [World.instances] at reaches ⊢
        simp [hk, told, World.stpTargets, StateCall.command, reaches]
        rfl

theorem next_of_silent {call : StateCall} (silent : call.command commanded.world = none) :
    commanded.next caps call = { commanded with world := final (call.rpc caps) commanded.world } := by
  unfold Commanded.next final
  cases call.rpc caps commanded.world <;> simp [silent]

theorem next_create : (¬ commanded.world.Adds caps raw ∧ commanded.next caps (.create raw) = commanded) ∨
      commanded.world.Adds caps raw ∧ ∃ number, commanded.next caps (.create raw) =
          { commanded with world := commanded.world.addInstance number } := by
  rw [next_of_silent rfl, StateCall.rpc]
  rcases createStpInstance_cases commanded.world caps raw with
    ⟨ha, hs⟩ | ⟨adds, number, -, after⟩
  · exact .inl ⟨ha, by rw [hs]⟩
  · exact .inr ⟨adds, number, by rw [after]⟩

theorem next_remove (instances : commanded.world.Instances) :
    commanded.next caps (.remove raw) = commanded ∨
      ∃ number state, commanded.world.stps[number]? = some state ∧ commanded.next caps (.remove raw) =
          { commanded with world := commanded.world.dropInstance number state.oid } := by
  rw [next_of_silent rfl, StateCall.rpc, removeStpInstance]
  unfold final
  cases stpInstance raw with
  | error failure => exact .inl rfl
  | ok number =>
    cases hf : commanded.world.stps[number]? with
    | none =>
      refine .inl ?_
      simp [hf]
    | some state =>
      refine .inr ⟨number, state, hf, ?_⟩
      have removed : sai (Hardware.removeStpInstance state.oid) commanded.world = _ :=
        sai_checked (by
          simp [instances.unmapped, instances.created hf, mem_values_iff])
      simp [hf, instances.unlisted hf, moveVlans, each, bind_of_ok removed, dropInstance]

theorem World.Instances.setStates (instances : w.Instances)
    (targeted : ∀ stp ∈ targets, w.HasInstance stp) : (w.setStates targets port state).Instances where
  __ := instances
  known := by
    intro stp other new
    rw [getElem?_setStates, if_neg]
    · exact instances.known new
    · rintro ⟨hl, -⟩
      rcases targeted _ hl with ha | ⟨number, held, hf, hs⟩
      · cases ha
      · have older := instances.numbered hf
        cases hs
        exact absurd new (Nat.not_le_of_lt older)

variable {number : UInt8}

theorem World.Instances.addInstance (instances : w.Instances) : (w.addInstance number).Instances where
  __ := instances
  toStpObjects := instances.toStpObjects.addInstance
  unlisted := by
    intro other state hf
    rw [lookup_addInstance] at hf
    split_ifs at hf with hs
    · cases hf
      rfl
    · exact instances.unlisted hf
  known := fun new => instances.known (Nat.le_of_succ_le new)

theorem getElem?_dropInstance {oid : Oid} :
    (w.dropInstance number oid).hardware.stpPortStates[(stp, port)]? =
      if stp = some oid then none else w.hardware.stpPortStates[(stp, port)]? := by
  rw [dropInstance, getElem?_filter']
  by_cases hs : stp = some oid
  · simp [hs]
  · cases hk : w.hardware.stpPortStates[(stp, port)]? <;> simp [hs]

theorem World.Instances.dropInstance {state : StpInstanceState} (instances : w.Instances)
    (held : w.stps[number]? = some state) : (w.dropInstance number state.oid).Instances where
  __ := instances
  toStpObjects := instances.toStpObjects.dropInstance held
  unlisted := fun hf => instances.unlisted (lookup_dropInstance.mp hf).2
  known := by
    intro stp port new
    rw [getElem?_dropInstance]
    split_ifs
    · rfl
    · exact instances.known new

theorem World.Instances.next (instances : commanded.world.Instances) (call : StateCall) :
    (commanded.next caps call).world.Instances := by
  cases call with
  | setState name state =>
    rcases @next_setState caps name commanded state instances with hs | ⟨port, state', after⟩
    · rwa [hs]
    · rw [after]
      exact instances.setStates fun stp hl => mem_instances.mp hl
  | create raw =>
    rcases @next_create caps raw commanded with ⟨-, hs⟩ | ⟨-, number, after⟩
    · rwa [hs]
    · rw [after]
      exact instances.addInstance
  | remove raw =>
    rcases @next_remove caps raw commanded instances with hs | ⟨number, state, held, after⟩
    · rwa [hs]
    · rw [after]
      exact instances.dropInstance held

theorem Commanded.OneState.setStates (one : commanded.OneState) :
    Commanded.OneState ⟨commanded.world.setStates commanded.world.instances port state,
      commanded.last.insert port state⟩ := by
  intro stp held other
  have held : commanded.world.HasInstance stp := held
  rw [getElem?_setStates, lookup_insert, one stp held other]
  simp only [mem_instances, held, true_and, @eq_comm _ port other]

variable (instances : commanded.world.Instances)
include instances

theorem oneState_addInstance (one : commanded.OneState) :
    Commanded.OneState { commanded with world := commanded.world.addInstance number } ↔
      commanded.last = ∅ := by
  constructor
  · intro one'
    apply ext_getElem?
    intro port
    have held : (commanded.world.addInstance number).HasInstance (some commanded.world.hardware.next) :=
      .inr ⟨number, _, by rw [lookup_addInstance, if_pos rfl], rfl⟩
    rw [← one' _ held port]
    exact instances.known (Nat.le_refl _)
  · intro nothing stp held port
    rcases held with rfl | ⟨other, state, hf, rfl⟩
    · exact one none (.inl rfl) port
    · dsimp only at hf
      rw [lookup_addInstance] at hf
      split_ifs at hf with hs
      · cases hf
        rw [nothing]
        exact instances.known (Nat.le_refl _)
      · exact one _ (.inr ⟨other, state, hf, rfl⟩) port

theorem Commanded.OneState.dropInstance {state : StpInstanceState}
    (held : commanded.world.stps[number]? = some state) (one : commanded.OneState) :
    Commanded.OneState { commanded with world := commanded.world.dropInstance number state.oid } := by
  intro stp remains port
  rw [getElem?_dropInstance]
  rcases remains with rfl | ⟨other, state', hf, rfl⟩
  · exact one none (.inl rfl) port
  · obtain ⟨ne, hf⟩ := lookup_dropInstance.mp hf
    rw [if_neg]
    · exact one _ (.inr ⟨other, state', hf, rfl⟩) port
    · intro hs
      exact ne (instances.distinct held hf (Option.some.inj hs).symm)

theorem oneState_next (one : commanded.OneState)
    (call : StateCall) : (commanded.next caps call).OneState ↔ commanded.Timely caps call := by
  cases call with
  | setState name state =>
    refine iff_of_true ?_ trivial
    rcases @next_setState caps name commanded state instances with hs | ⟨port, state', after⟩
    · rwa [hs]
    · rw [after]
      exact one.setStates
  | create raw =>
    rcases @next_create caps raw commanded with ⟨ha, hs⟩ | ⟨adds, number, after⟩
    · rw [hs]
      exact iff_of_true one fun adds => absurd adds ha
    · rw [after, oneState_addInstance instances one]
      exact ⟨fun nothing _ => nothing, fun timely => timely adds⟩
  | remove raw =>
    refine iff_of_true ?_ trivial
    rcases @next_remove caps raw commanded instances with hs | ⟨number, state, held, after⟩
    · rwa [hs]
    · rw [after]
      exact one.dropInstance instances held

omit instances

end

theorem boot_portLike {board : Board} {name : String} {port : PortId}
    (hk : board.boot.portLikeSaiId name = .ok port) : board.boot.hardware.isPortLike port = true := by
  have hf : board.ports[name]? = some port := by
    unfold portLikeSaiId portSaiId at hk
    cases group : lagGroupOf name with
    | some number => simp [group, boot] at hk
    | none =>
      cases hf : board.ports[name]? with
      | none => simp [group, boot, hf] at hk
      | some saiId => simpa [group, boot, hf] using hk
  have hl : port ∈ board.ports.values := mem_values_iff.mpr ⟨name, hf⟩
  simp [isPortLike, boot, identifiers, hl]

theorem boot_instances (board : Board) : board.boot.Instances where
  portLike := boot_portLike
  created := by simp [boot]
  numbered := by simp [boot]
  distinct := by simp [boot]
  unlisted := by simp [boot]
  unmapped := rfl
  known := by simp [boot]

theorem run_instances (caps : Capabilities) (board : Board) (calls : List StateCall) :
    ((stateMachine caps board).run calls).world.Instances :=
  @Machine.run_invariant _ _ _ (stateMachine caps board)
    (fun commanded => commanded.world.Instances) (boot_instances board)
    (fun _ call instances => instances.next call) calls

theorem boot_oneState (board : Board) : Commanded.OneState ⟨board.boot, ∅⟩ := by
  intro stp held port
  simp [boot]

/-- Every instance has the last state of every port after each call, exactly when the
instances are added before the first state is set. -/
theorem oneState_iff_timely (caps : Capabilities) (board : Board) (calls : List StateCall) :
    (stateMachine caps board).Always Commanded.OneState calls ↔
      (stateMachine caps board).Throughout (Commanded.Timely caps) calls :=
  Machine.always_iff_throughout (boot_oneState board)
    (fun earlier call one => oneState_next (run_instances caps board earlier) one call) calls

/-- A port blocks, and the instance that is created then knows nothing of it. -/
theorem late_instance_unprogrammed : ¬ (stateMachine {} smallBoard).Always Commanded.OneState
      [.setState "Ethernet1" .blocking, .create 1] := by
  intro always
  have told := always [.setState "Ethernet1" .blocking, .create 1] [] rfl (some 1)
    (.inr ⟨1, ⟨1, []⟩, by decide +kernel, rfl⟩) 0
  revert told
  decide +kernel

end Hemlock.Switching
