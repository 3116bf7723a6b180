import Hemlock.Stp.Runs
import Mathlib.Order.Bounds.Basic

/-!
# Root election and its consequences for roles and pushed states

The elected root is the least bridge identifier among the bridge's own and those
it currently hears, a pass makes the port it came from the only root port, and
the state updates sent so far tell a receiver every port's state.
-/

namespace Hemlock.Stp

open Machine OrderedMap Stp.Inner Port Pass

/-- The port called `name` is live and has current information. -/
def Inner.Hears (inner : Inner) (now : Nat) (name : String) (port : Port) (info : PriorityVector) : Prop :=
  inner.ports[name]? = some port ∧ port.Live ∧ port.received = some info ∧
    port.fresh inner.config.maxAge now = true

/-- The bridge's own identifier and the roots it currently hears of. -/
def Inner.rootClaims (inner : Inner) (now : Nat) : Set BridgeId :=
  { id | id = inner.bridgeId ∨ ∃ name port info, inner.Hears now name port info ∧ info.root = id }

variable {port : Port} {name : String} {now : Nat} {candidate : Candidate}

theorem Port.candidate?_eq_some_iff {bridge : BridgeId} {maxAge : UInt8} :
    port.candidate? name bridge maxAge now = some candidate ↔
      ∃ info, port.Live ∧ port.received = some info ∧ port.fresh maxAge now = true ∧ info.root < bridge ∧
        candidate = ⟨info, saturatingAdd info.cost port.pathCost, name⟩ := by
  unfold candidate?
  by_cases live : port.Live
  · rw [if_neg (port.live_iff.mp live)]
    cases received : port.received with
    | none => simp
    | some info =>
      by_cases fresh : port.fresh maxAge now = true
      · by_cases worse : bridge ≤ info.root
        · simp [not_lt.mpr worse]
        · simp [live, fresh, eq_comm]
      · simp [fresh]
  · rw [if_pos (not_not.mp (fun up => live (port.live_iff.mpr up)))]
    simp [live]

variable {inner : Inner}

theorem Inner.mem_candidates : candidate ∈ inner.candidates now ↔
      ∃ name port info, inner.Hears now name port info ∧ info.root < inner.bridgeId ∧
        candidate = ⟨info, saturatingAdd info.cost port.pathCost, name⟩ := by
  simp only [candidates, List.mem_filterMap, Prod.exists,
    mem_toList_iff_getElem?_eq_some, candidate?_eq_some_iff]
  constructor
  · rintro ⟨name, port, hp, info, live, received, fresh, better, rfl⟩
    exact ⟨name, port, info, ⟨hp, live, received, fresh⟩, better, rfl⟩
  · rintro ⟨name, port, info, ⟨hp, live, received, fresh⟩, better, rfl⟩
    exact ⟨name, port, hp, info, live, received, fresh, better, rfl⟩

/-- The two outcomes of an election: nobody better is heard, or the best candidate
wins. -/
theorem Inner.computeRoot_cases (inner : Inner) (now : Nat) :
    ((∀ candidate, candidate ∉ inner.candidates now) ∧
      inner.computeRoot now = ⟨inner.bridgeId, 0, none⟩) ∨ ∃ best ∈ inner.candidates now,
      (∀ candidate ∈ inner.candidates now, best.vector ≤ candidate.vector) ∧
      inner.computeRoot now = ⟨best.info.root, best.cost, some best.port⟩ := by
  unfold computeRoot
  split
  next best chosen =>
    right
    refine ⟨best, List.argmin_mem chosen, ?_, rfl⟩
    intro candidate hm
    exact List.le_of_mem_argmin hm chosen
  next nobody =>
    left
    rw [List.argmin_eq_none] at nobody
    simp [nobody]

theorem Inner.computeRoot_isLeast (inner : Inner) (now : Nat) :
    IsLeast (inner.rootClaims now) (inner.computeRoot now).root := by
  rcases inner.computeRoot_cases now with ⟨nobody, elected⟩ | ⟨best, hm, least, elected⟩
  · rw [elected]
    refine ⟨.inl rfl, ?_⟩
    rintro id (rfl | ⟨name, port, info, hears, rfl⟩)
    · exact le_rfl
    · by_contra worse
      exact nobody _ (mem_candidates.mpr ⟨name, port, info, hears, not_le.mp worse, rfl⟩)
  · rw [elected]
    obtain ⟨name, port, info, hears, better, rfl⟩ := mem_candidates.mp hm
    refine ⟨.inr ⟨name, port, info, hears, rfl⟩, ?_⟩
    rintro id (rfl | ⟨name', port', info', hears', rfl⟩)
    · exact better.le
    · by_cases better' : info'.root < inner.bridgeId
      · have roots := PriorityVector.root_le_of_le
          (least _ (mem_candidates.mpr ⟨name', port', info', hears', better', rfl⟩))
        exact roots
      · exact better.le.trans (not_lt.mp better')

theorem Inner.computeRoot_rootPort (inner : Inner) (now : Nat) :
    ((inner.computeRoot now).root = inner.bridgeId ∧ (inner.computeRoot now).rootPort = none) ∨
    ((inner.computeRoot now).root ≠ inner.bridgeId ∧
      ∃ name port, (inner.computeRoot now).rootPort = some name ∧
        inner.ports[name]? = some port ∧ port.Live) := by
  rcases inner.computeRoot_cases now with ⟨_, elected⟩ | ⟨best, hm, _, elected⟩
  · left
    rw [elected]
    exact ⟨rfl, rfl⟩
  · right
    rw [elected]
    obtain ⟨name, port, info, ⟨hp, live, -, -⟩, better, rfl⟩ := mem_candidates.mp hm
    exact ⟨better.ne, name, port, rfl, hp, live⟩

theorem Pass.candidate?_visit (pass : Pass) (name : String) (port : Port) (bridge : BridgeId) :
    (pass.visit name port).candidate? name bridge pass.config.maxAge pass.now =
      port.candidate? name bridge pass.config.maxAge pass.now := by
  apply Option.ext
  intro candidate
  simp only [candidate?_eq_some_iff, visit_live_iff]
  apply exists_congr
  intro info
  apply and_congr_right
  intro live
  rw [pass.visit_of_live name live]
  -- aging takes away only information that is not fresh, here as before
  simp only [fresh, age, pathCost]
  cases heard : port.lastRx with
  | none => simp [heard]
  | some time =>
    by_cases stale : secs pass.config.maxAge.toNat ≤ pass.now - time
    · have notFresh : ¬ pass.now - time < secs pass.config.maxAge.toNat := by omega
      simp [stale]
    · simp [heard, stale]

theorem Inner.computeRoot_step (on : inner.config.mode ≠ .none) (now : Nat) :
    (inner.step now).computeRoot now = inner.computeRoot now := by
  have hs : (inner.step now).candidates now = inner.candidates now := by
    simp only [candidates, step_ports on, toList_map,
      List.filterMap_map, step_bridgeId, step_config]
    congr 1
    funext ⟨name, port⟩
    exact (inner.pass now).candidate?_visit name port inner.bridgeId
  simp only [computeRoot, hs, step_bridgeId]

theorem Pass.role_eq_root_iff {pass : Pass} :
    pass.role name port = .root ↔ pass.election.rootPort = some name := by
  unfold role
  by_cases root : some name = pass.election.rootPort
  · simp [root]
  · rw [if_neg root]
    constructor
    · intro isRoot
      split at isRoot
      · split_ifs at isRoot
      · cases isRoot
    · intro isRoot
      exact absurd isRoot.symm root

theorem Inner.step_role_eq_root_iff (on : inner.config.mode ≠ .none)
    (hf : (inner.step now).ports[name]? = some port) :
    port.role = .root ↔ (inner.computeRoot now).rootPort = some name := by
  obtain ⟨before, hp, rfl⟩ := exists_of_step_ports on hf
  by_cases live : before.Live
  · rw [visit_role _ name live, elected, role_eq_root_iff]
    rfl
  · rw [visit_of_not_live _ name live]
    simp only [reduceCtorEq, false_iff]
    intro rootPort
    rcases inner.computeRoot_rootPort now with ⟨-, nobody⟩ | ⟨-, other, port, named, isPort, up⟩
    · simp [nobody] at rootPort
    · rw [rootPort, Option.some.injEq] at named
      rw [← named, hp, Option.some.injEq] at isPort
      exact live (isPort ▸ up)

theorem Inner.step_discards (on : inner.config.mode ≠ .none)
    (hf : (inner.step now).ports[name]? = some port)
    (off : ¬ port.Live ∨ port.role ≠ .root ∧ port.role ≠ .designated) : port.state = .discarding := by
  obtain ⟨before, hp, rfl⟩ := exists_of_step_ports on hf
  rw [visit_live_iff] at off
  exact visit_discards _ name off

/-- The state updates among some outputs, replayed: the last one per port wins. -/
def replay (outputs : List Output) : NameMap PortState :=
  (∅ : NameMap PortState).insertMany <| outputs.filterMap fun
    | .state update => some (update.port, update.state)
    | _ => none

theorem replay_append_other {outputs more : List Output}
    (other : ∀ output ∈ more, ∀ update, output ≠ .state update) :
    replay (outputs ++ more) = replay outputs := by
  have nothing : more.filterMap (fun
      | .state update => some (update.port, update.state)
      | _ => none) = [] := by
    rw [List.filterMap_eq_nil_iff]
    intro output hm
    cases output with
    | state update => exact absurd rfl (other _ hm update)
    | _ => rfl
  simp [replay, nothing]

theorem replay_append_states (outputs : List Output) (updates : List (String × PortState)) :
    replay (outputs ++ updates.map fun (port, state) => .state ⟨port, state⟩) =
      (replay outputs).insertMany updates := by
  have all : (updates.map fun (port, state) => Output.state ⟨port, state⟩).filterMap (fun
      | .state update => some (update.port, update.state)
      | _ => none) = updates := by
    simp
  rw [replay, List.filterMap_append, all, Std.ExtTreeMap.insertMany_append]
  rfl

theorem replay_sent (bridgeMac : Mac) (inputs : List Input) :
    replay ((engine bridgeMac).sent inputs) = ((engine bridgeMac).run inputs).lastStates := by
  induction inputs using List.reverseRecOn with
  | nil => rfl
  | append_singleton inputs input ih =>
    rw [sent_concat, run_concat]
    change replay (_ ++ Inner.emit _ input) = (Inner.next _ input).lastStates
    generalize (engine bridgeMac).run inputs = inner at *
    unfold Inner.emit Inner.next
    split
    next => simpa [Inner.setConfig] using ih
    next => simpa [Inner.linkEvent] using ih
    next source bytes _ =>
      rw [replay_append_other (by simp), ih]
      unfold Inner.frameIn
      split <;> rfl
    next =>
      have bpdusOnly (output : Output)
          (hm : output ∈ (inner.bpdusOut input.time).map fun sent => .bpdu sent.1 sent.2)
          (update : StateUpdate) : output ≠ .state update := by
        obtain ⟨sent, -, rfl⟩ := List.mem_map.mp hm
        simp
      rw [← List.append_assoc, replay_append_states, replay_append_other bpdusOnly, ih]
      simp [Inner.step, Inner.push, Inner.evaluate_rest]

/-- States have been pushed for known ports only. -/
def Inner.PushesKnown (inner : Inner) : Prop :=
  ∀ name : String, inner.ports[name]? = none → inner.lastStates[name]? = none

theorem Inner.mem_stateUpdates {state : PortState} : (name, state) ∈ inner.stateUpdates ↔
      ∃ port, inner.ports[name]? = some port ∧ state = port.shown ∧
        inner.lastStates[name]? ≠ some port.shown := by
  simp only [stateUpdates, List.mem_filterMap, Prod.exists, mem_toList_iff_getElem?_eq_some]
  constructor
  · rintro ⟨other, port, hp, update⟩
    split_ifs at update with changed
    obtain ⟨rfl, rfl⟩ := update
    exact ⟨port, hp, rfl, changed⟩
  · rintro ⟨port, hp, rfl, changed⟩
    exact ⟨name, port, hp, by simp [changed]⟩

theorem Inner.push_lastStates (hk : inner.PushesKnown) (name : String) :
    inner.push.lastStates[name]? = inner.ports[name]?.map shown := by
  have hu (ha : ∀ state, (name, state) ∉ inner.stateUpdates) :
      inner.push.lastStates[name]? = inner.lastStates[name]? := by
    apply Std.ExtTreeMap.getElem?_insertMany_list_of_contains_eq_false
    simpa using ha
  cases hp : inner.ports[name]? with
  | none =>
    rw [hu, hk name hp, Option.map_none]
    intro state update
    obtain ⟨port, hf, -, -⟩ := mem_stateUpdates.mp update
    simp [hp] at hf
  | some port =>
    rw [Option.map_some]
    by_cases pushed : inner.lastStates[name]? = some port.shown
    · rw [hu, pushed]
      intro state update
      obtain ⟨other, hf, -, changed⟩ := mem_stateUpdates.mp update
      rw [hp, Option.some.injEq] at hf
      exact changed (hf ▸ pushed)
    · apply getElem?_insertMany_of_agreed (mem_stateUpdates.mpr ⟨port, hp, rfl, pushed⟩)
      intro state update
      obtain ⟨other, hf, rfl, -⟩ := mem_stateUpdates.mp update
      rw [hp, Option.some.injEq] at hf
      rw [hf]

/-- Ports are never forgotten. -/
theorem Inner.unknown_of_next {inner : Inner} {input : Input} {name : String}
    (hu : (inner.next input).ports[name]? = none) : inner.ports[name]? = none := by
  unfold next at hu
  split at hu
  next => simpa [setConfig] using hu
  next =>
    rw [linkEvent_ports] at hu
    split_ifs at hu
    exact hu
  next =>
    unfold frameIn at hu
    split at hu
    · rw [getElem?_insert] at hu
      split_ifs at hu
      exact hu
    · exact hu
  next =>
    change (inner.evaluate input.time).ports[name]? = none at hu
    by_cases off : inner.config.mode = .none
    · simpa [evaluate_ports_off off] using hu
    · simpa [evaluate_ports off] using hu

theorem Inner.PushesKnown.evaluate (hk : inner.PushesKnown) (now : Nat) :
    (inner.evaluate now).PushesKnown := by
  intro name hu
  rw [(inner.evaluate_rest now).2.2]
  exact hk name (@unknown_of_next inner ⟨now, .step⟩ name hu)

theorem pushesKnown_of_run (bridgeMac : Mac) (inputs : List Input) :
    ((engine bridgeMac).run inputs).PushesKnown := by
  apply (engine bridgeMac).run_invariant
  · simp [engine, Inner.initial, Inner.PushesKnown]
  · intro inner input hk name hu
    have before := hk name (Inner.unknown_of_next hu)
    change (inner.next input).lastStates[name]? = none
    change (inner.next input).ports[name]? = none at hu
    unfold Inner.next at hu ⊢
    split at hu
    next => exact before
    next => exact before
    next =>
      unfold Inner.frameIn
      split <;> exact before
    next =>
      rw [Inner.step, Inner.push_lastStates (hk.evaluate input.time)]
      exact (congrArg (Option.map shown) hu).trans rfl

/-- The pushed state of a port: its own, or discarding without link. -/
def Port.pushed (port : Port) : PortState := if port.linkUp then port.state else .discarding

theorem Port.shown_eq_pushed (discards : ¬ port.Live → port.state = .discarding) :
    port.shown = port.pushed := by
  unfold shown pushed
  by_cases up : port.linkUp = true
  · simp [up]
  · simp [discards fun live => up live.1]

theorem replay_of_pass (bridgeMac : Mac) (inputs : List Input) (now : Nat) (name : String) :
    (replay ((engine bridgeMac).sent (inputs ++ [⟨now, .step⟩])))[name]? =
      ((engine bridgeMac).run (inputs ++ [⟨now, .step⟩])).ports[name]?.map shown := by
  have hk := (pushesKnown_of_run bridgeMac inputs).evaluate now
  rw [replay_sent, run_concat]
  exact push_lastStates hk name

/-- After every pass with spanning tree on: the root is the least claimed
identifier; there is one root port, or none when the bridge is the root; blocked
ports discard; and a receiver of all state updates knows every port's state. -/
theorem root_election_consistent (bridgeMac : Mac) (inputs : List Input) (now : Nat)
    (on : ((engine bridgeMac).run inputs).config.mode ≠ .none) :
    let inner := (engine bridgeMac).run (inputs ++ [⟨now, .step⟩])
    let sent := (engine bridgeMac).sent (inputs ++ [⟨now, .step⟩])
    let election := inner.computeRoot now
    IsLeast (inner.rootClaims now) election.root ∧ (election.root ≠ inner.bridgeId →
        ∃! name : String, ∃ port, inner.ports[name]? = some port ∧ port.role = .root) ∧
      (election.root = inner.bridgeId →
        ∀ (name : String) port, inner.ports[name]? = some port → port.role ≠ .root) ∧
      (∀ (name : String) port, inner.ports[name]? = some port →
        port.role = .alternate ∨ port.errdisabled = true ∨ port.linkUp = false →
        port.state = .discarding) ∧
      ∀ name : String, (replay sent)[name]? = inner.ports[name]?.map Port.pushed := by
  intro inner sent election
  have stepped : inner = ((engine bridgeMac).run inputs).step now := run_concat _ _ _
  have elected : election = ((engine bridgeMac).run inputs).computeRoot now := by
    rw [← Inner.computeRoot_step on now, ← stepped]
  have discards (name : String) (port : Port) (found : inner.ports[name]? = some port)
      (off : ¬ port.Live ∨ port.role ≠ .root ∧ port.role ≠ .designated) :
      port.state = .discarding := by
    rw [stepped] at found
    exact Inner.step_discards on found off
  have rootPort (name : String) (port : Port) (found : inner.ports[name]? = some port) :
      port.role = .root ↔ election.rootPort = some name := by
    rw [stepped] at found
    rw [Inner.step_role_eq_root_iff on found, elected]
  refine ⟨inner.computeRoot_isLeast now, ?_, ?_, ?_, ?_⟩
  · intro other
    rcases inner.computeRoot_rootPort now with ⟨own, -⟩ | ⟨-, name, port, named, found, -⟩
    · exact absurd own other
    · refine ⟨name, ⟨port, found, (rootPort name port found).mpr named⟩, ?_⟩
      rintro name' ⟨port', found', isRoot⟩
      have named' := (rootPort name' port' found').mp isRoot
      exact Option.some.inj (named'.symm.trans named)
  · intro own name port found isRoot
    rcases inner.computeRoot_rootPort now with ⟨-, nobody⟩ | ⟨other, -⟩
    · have named := (rootPort name port found).mp isRoot
      exact Option.some_ne_none name (named.symm.trans nobody)
    · exact other own
  · intro name port found off
    apply discards name port found
    rcases off with alternate | errdisabled | down
    · simp [alternate]
    · simp [Port.Live, errdisabled]
    · simp [Port.Live, down]
  · intro name
    rw [replay_of_pass bridgeMac inputs now name]
    apply Option.map_congr
    intro port found
    exact Port.shown_eq_pushed fun down => discards name port found (.inl down)

def loopMac : Mac := #v[2, 0, 0, 0, 0, 1]

def rootMac : Mac := #v[2, 0, 0, 0, 0, 9]

/-- A bridge with one uplink, over which it hears a bridge of better priority. -/
def uplinkRun : List Input :=
  [⟨0, .link ⟨"Ethernet1", true, 1000⟩⟩, ⟨0, .step⟩,
    ⟨secs 1, .frame "Ethernet1" (encodeBpdu rootMac true ⟨4096, rootMac⟩ 0 ⟨4096, rootMac⟩ 0x8001 2 20 15)⟩]

theorem root_election_consistent_uplink : ∃! name : String, ∃ port,
      ((engine #v[2, 0, 0, 0, 0, 1]).run (uplinkRun ++ [⟨secs 1, .step⟩])).ports[name]? = some port ∧
        port.role = .root :=
  (root_election_consistent #v[2, 0, 0, 0, 0, 1] uplinkRun (secs 1) (by decide +kernel)).2.1
    (by decide +kernel)

end Hemlock.Stp
