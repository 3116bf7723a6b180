import Hemlock.Stp.Visit
import Hemlock.Library.OrderedMap

/-!
# Runs of the engine, port by port

`PortChange` lists what one input can make of a port.  Invariants of single ports
are proved by its cases, and hold in every run by induction over the inputs.
-/

namespace Hemlock.Stp

open Machine OrderedMap Stp.Inner

variable (inner : Inner)

theorem Inner.evaluate_rest (now : Nat) : (inner.evaluate now).config = inner.config ∧
    (inner.evaluate now).bridgeMac = inner.bridgeMac ∧
      (inner.evaluate now).lastStates = inner.lastStates := by
  unfold evaluate
  split_ifs
  · exact ⟨rfl, rfl, rfl⟩
  · dsimp only
    split <;> exact ⟨rfl, rfl, rfl⟩

theorem Inner.evaluate_ports_off {inner : Inner} (off : inner.config.mode = .none) (now : Nat) :
    (inner.evaluate now).ports = inner.ports.map fun _ port => port.switchOff := by
  rw [evaluate, if_pos off]

theorem Inner.evaluate_ports {inner : Inner} (on : inner.config.mode ≠ .none) (now : Nat) :
    (inner.evaluate now).ports = inner.ports.map (inner.pass now).visit := by
  rw [evaluate, if_neg on]
  dsimp only
  split <;> rfl

@[simp]
theorem Inner.step_config (now : Nat) :
    (inner.step now).config = inner.config := (inner.evaluate_rest now).1

@[simp]
theorem Inner.step_bridgeId (now : Nat) : (inner.step now).bridgeId = inner.bridgeId := by
  simp [bridgeId, step, push, evaluate_rest]

theorem Inner.step_ports {inner : Inner} (on : inner.config.mode ≠ .none) (now : Nat) :
    (inner.step now).ports = inner.ports.map (inner.pass now).visit := inner.evaluate_ports on now

variable {name : String}

theorem Inner.exists_of_step_ports {inner : Inner} (on : inner.config.mode ≠ .none) {now : Nat}
    {port : Port} (hf : (inner.step now).ports[name]? = some port) :
    ∃ before, inner.ports[name]? = some before ∧ port = (inner.pass now).visit name before := by
  rw [step_ports on, getElem?_map, Option.map_eq_some_iff] at hf
  obtain ⟨before, hp, rfl⟩ := hf
  exact ⟨before, hp, rfl⟩

theorem Inner.step_ports_of_some {inner : Inner} (on : inner.config.mode ≠ .none) (now : Nat)
    {before : Port} (hp : inner.ports[name]? = some before) :
    (inner.step now).ports[name]? = some ((inner.pass now).visit name before) := by
  rw [step_ports on, getElem?_map, hp, Option.map_some]

/-- What one input can make of the port called `name`. -/
inductive PortChange (inner : Inner) (input : Input) (name : String) : Port → Prop where
  | kept {port} : (∀ config, input.event ≠ .setConfig config) → input.event ≠ .step →
      inner.ports[name]? = some port → PortChange inner input name port
  | created {event config} : input.event = .link event → inner.ports[name]? = none →
      PortChange inner input name ((Port.new name config input.time).setLink event input.time)
  | link {event port} : input.event = .link event → inner.ports[name]? = some port →
      PortChange inner input name (port.setLink event input.time)
  | received {bytes info port} : input.event = .frame name bytes → inner.ports[name]? = some port →
      PortChange inner input name (port.receive info input.time)
  | reconfigured {config port} : input.event = .setConfig config → inner.ports[name]? = some port →
      PortChange inner input name (port.reconfigure (config.portConfig name))
  | switchedOff {port} : input.event = .step → inner.config.mode = .none →
      inner.ports[name]? = some port → PortChange inner input name port.switchOff
  | visited {port} : input.event = .step → inner.config.mode ≠ .none →
      inner.ports[name]? = some port →
      PortChange inner input name ((inner.pass input.time).visit name port)

theorem Inner.linkEvent_ports (event : LinkEvent) (now : Nat) (name : String) :
    (inner.linkEvent event now).ports[name]? = if event.port = name then
        some ((inner.ports[event.port]?.getD
          (.new event.port (inner.config.ports[event.port]?.getD {}) now)).setLink event now)
      else inner.ports[name]? := by
  simp [linkEvent, lookup_insert]

theorem Inner.frameIn_ports {inner : Inner} {source name : String} {bytes : List UInt8}
    {now : Nat} {port : Port} (hf : (inner.frameIn source bytes now).ports[name]? = some port) :
    inner.ports[name]? = some port ∨ ∃ before info, source = name ∧ inner.ports[name]? = some before ∧
        port = before.receive info now := by
  unfold frameIn at hf
  split at hf
  next info before _ hp =>
    simp only [lookup_insert] at hf
    split_ifs at hf with hs
    · subst hs
      right
      exact ⟨before, info, rfl, hp, (Option.some.inj hf).symm⟩
    · exact .inl hf
  next => exact .inl hf

theorem Inner.portChange_of_next {inner : Inner} {input : Input} {port : Port}
    (hf : (inner.next input).ports[name]? = some port) : PortChange inner input name port := by
  unfold next at hf
  split at hf
  next config event =>
    simp only [setConfig, getElem?_map, Option.map_eq_some_iff] at hf
    obtain ⟨before, hp, rfl⟩ := hf
    exact .reconfigured event hp
  next linkEvent event =>
    rw [linkEvent_ports] at hf
    split_ifs at hf with hs
    · subst hs
      cases hf
      cases hp : inner.ports[linkEvent.port]? with
      | none => exact .created event hp
      | some before => exact .link event hp
    · exact .kept (by simp [event]) (by simp [event]) hf
  next source bytes event =>
    rcases frameIn_ports hf with kept | ⟨before, info, rfl, hp, rfl⟩
    · exact .kept (by simp [event]) (by simp [event]) kept
    · exact .received event hp
  next event =>
    by_cases off : inner.config.mode = .none
    · change (inner.evaluate input.time).ports[name]? = some port at hf
      rw [evaluate_ports_off off, getElem?_map, Option.map_eq_some_iff] at hf
      obtain ⟨before, hp, rfl⟩ := hf
      exact .switchedOff event off hp
    · obtain ⟨before, hp, rfl⟩ := exists_of_step_ports off hf
      exact .visited event off hp

theorem Inner.next_config {inner : Inner} {input : Input}
    (notConfig : ∀ config, input.event ≠ .setConfig config) : (inner.next input).config = inner.config := by
  unfold next
  split
  next config event => exact absurd event (notConfig config)
  next => rfl
  next =>
    unfold frameIn
    split <;> rfl
  next => exact inner.step_config input.time

/-- A property of single ports that every change keeps holds of every port in
every run; it may speak about the run so far. -/
theorem ports_induction (bridgeMac : Mac) {Allowed : List Input → Prop}
    {Invariant : List Input → String → Port → Prop}
    (shorten : ∀ inputs input, Allowed (inputs ++ [input]) → Allowed inputs)
    (change : ∀ inputs input name port, Allowed (inputs ++ [input]) →
      PortChange ((engine bridgeMac).run inputs) input name port →
      (∀ before, ((engine bridgeMac).run inputs).ports[name]? = some before →
        Invariant inputs name before) → Invariant (inputs ++ [input]) name port)
    (inputs : List Input) (allowed : Allowed inputs) {name : String} {port : Port}
    (hf : ((engine bridgeMac).run inputs).ports[name]? = some port) : Invariant inputs name port := by
  refine @Machine.run_induction _ _ _ (engine bridgeMac) Allowed (fun inputs inner =>
      ∀ (name : String) port, inner.ports[name]? = some port → Invariant inputs name port)
    ?_ shorten ?_ inputs allowed name port hf
  · simp [engine, initial]
  · intro inputs input allowed held name port hf
    exact change inputs input name port allowed (portChange_of_next hf) (held name)

theorem ports_invariant (bridgeMac : Mac) {Invariant : Port → Prop}
    (change : ∀ inner input name port, PortChange inner input name port →
      (∀ before, inner.ports[name]? = some before → Invariant before) → Invariant port)
    (inputs : List Input) {name : String} {port : Port}
    (hf : ((engine bridgeMac).run inputs).ports[name]? = some port) : Invariant port := by
  refine @ports_induction bridgeMac (fun _ => True) (fun _ _ => Invariant) ?_ ?_ inputs trivial
    name port hf
  · intros
    trivial
  · intro inputs input name port _
    exact change _ input name port

/-- Information and the time of its reception come and go together. -/
def Port.Stamped (port : Port) : Prop := port.received.isSome = port.lastRx.isSome

theorem Port.Stamped.age {port : Port} (stamped : port.Stamped) (maxAge : UInt8) (now : Nat) :
    (port.age maxAge now).Stamped := by
  unfold Port.age
  split
  · split_ifs
    · rfl
    · exact stamped
  · exact stamped

theorem Port.Stamped.setLink {port : Port} (stamped : port.Stamped) (event : LinkEvent)
    (now : Nat) : (port.setLink event now).Stamped := by
  unfold Port.setLink
  dsimp only
  split_ifs <;> first | rfl | exact stamped

theorem Port.Stamped.receive {port : Port} (stamped : port.Stamped) (info : PriorityVector)
    (now : Nat) : (port.receive info now).Stamped := by
  unfold Port.receive
  dsimp only
  split_ifs <;> first | rfl | exact stamped

theorem Port.Stamped.visit {port : Port} (stamped : port.Stamped) (pass : Pass) (name : String) :
    (pass.visit name port).Stamped := by
  by_cases live : port.Live
  · rw [pass.visit_of_live name live]
    exact stamped.age pass.config.maxAge pass.now
  · rw [pass.visit_of_not_live name live]
    exact stamped

theorem stamped_of_run (bridgeMac : Mac) (inputs : List Input) {port : Port}
    (hf : ((engine bridgeMac).run inputs).ports[name]? = some port) : port.Stamped := by
  refine @ports_invariant bridgeMac Port.Stamped ?_ inputs name port hf
  intro inner input name port change before
  cases change with
  | kept _ _ hp => exact before _ hp
  | created _ _ => exact Port.Stamped.setLink (show (Port.new _ _ _).Stamped from rfl) _ _
  | link _ hp => exact (before _ hp).setLink _ _
  | received _ hp => exact (before _ hp).receive _ _
  | @reconfigured _ port _ hp | @switchedOff port _ _ hp => exact before port hp
  | visited _ _ hp => exact (before _ hp).visit _ _

end Hemlock.Stp
