import Hemlock.Stp.Blocking

/-!
# A bridge that hears itself

Nothing in the engine looks at who sent a BPDU.  What comes back over a loop does no harm
while the bridge names itself as the root, since the election passes over roots that are
no better.  As long as a port hears a better root, what comes back is worse; once the root
port is lost, the bridge's own words are the best ones left, and it elects a root port
towards itself.
-/

namespace Hemlock.Stp

open Machine Stp.Inner Port

/-- The elected root port was not elected for something this bridge said itself. -/
def Inner.RootFromOthers (inner : Inner) : Prop :=
  ∀ now name port info, (inner.computeRoot now).rootPort = some name →
    inner.ports[name]? = some port → port.received = some info → info.bridge ≠ inner.bridgeId

/-- What was said under this identifier names no better root. -/
def PriorityVector.Tame (own : BridgeId) (info : PriorityVector) : Prop :=
  info.bridge = own → own ≤ info.root

/-- Nothing that any port has heard is the bridge's own and names a better root. -/
def Inner.Tamed (inner : Inner) (own : BridgeId) : Prop :=
  ∀ (name : String) port info, inner.ports[name]? = some port → port.received = some info → info.Tame own

/-- No BPDU of the bridge arrives that names a better root, and the bridge takes no
identifier under which such a BPDU was heard. -/
def Inner.Unmisled (inner : Inner) (input : Input) : Prop :=
  match input.event with
  | .frame _ bytes => ∀ info ∈ decodeBpdu bytes, info.Tame inner.bridgeId
  | .setConfig config => inner.Tamed ⟨config.withDefaults.priority, inner.bridgeMac⟩
  | _ => True

variable {inner : Inner} {input : Input} {name : String} {port : Port} {info : PriorityVector}
variable {now : Nat}

theorem Port.received_of_setLink {event : LinkEvent}
    (heard : (port.setLink event now).received = some info) : port.received = some info := by
  unfold setLink at heard
  dsimp only at heard
  split_ifs at heard <;> exact heard

theorem Port.received_of_receive {told : PriorityVector}
    (heard : (port.receive told now).received = some info) : port.received = some info ∨ told = info := by
  unfold receive at heard
  dsimp only at heard
  split_ifs at heard
  · exact .inl heard
  · exact .inr (Option.some.inj heard)
  · exact .inl heard

theorem Pass.received_of_visit {pass : Pass}
    (heard : (pass.visit name port).received = some info) : port.received = some info := by
  by_cases live : port.Live
  · rw [pass.visit_of_live name live] at heard
    change (port.age _ _).received = some info at heard
    unfold age at heard
    split at heard
    · split_ifs at heard
      exact heard
    · exact heard
  · rwa [pass.visit_of_not_live name live] at heard

theorem Inner.received_of_frameIn {source : String} {bytes : List UInt8}
    (hf : (inner.frameIn source bytes now).ports[name]? = some port) (heard : port.received = some info) :
    (∃ before, inner.ports[name]? = some before ∧ before.received = some info) ∨
      decodeBpdu bytes = some info := by
  unfold frameIn at hf
  split at hf
  next told before decoded hp =>
    rw [OrderedMap.lookup_insert] at hf
    split_ifs at hf with hs
    · cases hs
      cases hf
      rcases received_of_receive heard with kept | rfl
      · exact .inl ⟨before, hp, kept⟩
      · exact .inr decoded
    · exact .inl ⟨port, hf, heard⟩
  next => exact .inl ⟨port, hf, heard⟩

/-- What a port has heard it had heard before, or this input told it. -/
theorem Inner.received_of_next (hf : (inner.next input).ports[name]? = some port)
    (heard : port.received = some info) :
    (∃ before, inner.ports[name]? = some before ∧ before.received = some info) ∨
      ∃ source bytes, input.event = .frame source bytes ∧ decodeBpdu bytes = some info := by
  by_cases isFrame : ∃ source bytes, input.event = .frame source bytes
  · obtain ⟨source, bytes, event⟩ := isFrame
    simp only [next, event] at hf
    exact (received_of_frameIn hf heard).imp_right fun decoded =>
      ⟨source, bytes, event, decoded⟩
  · left
    cases portChange_of_next hf with
    | kept _ _ hp | reconfigured _ hp | switchedOff _ _ hp => exact ⟨_, hp, heard⟩
    | created _ _ => exact absurd (received_of_setLink heard) (by simp [new])
    | link _ hp => exact ⟨_, hp, received_of_setLink heard⟩
    | received event _ => exact absurd ⟨_, _, event⟩ isFrame
    | visited _ _ hp => exact ⟨_, hp, Pass.received_of_visit heard⟩

theorem Inner.next_bridgeId (keeps : ∀ config, input.event ≠ .setConfig config) :
    (inner.next input).bridgeId = inner.bridgeId := by
  unfold next
  split
  · exact absurd ‹_› (keeps _)
  · rfl
  · unfold frameIn
    split <;> rfl
  · exact inner.step_bridgeId input.time

theorem Inner.Tamed.next (tamed : inner.Tamed inner.bridgeId) (unmisled : inner.Unmisled input) :
    (inner.next input).Tamed (inner.next input).bridgeId := by
  intro name port info hf heard
  by_cases reconfigured : ∃ config, input.event = .setConfig config
  · obtain ⟨config, event⟩ := reconfigured
    have isNext : inner.next input = inner.setConfig config := by simp only [Inner.next, event]
    rcases received_of_next hf heard with ⟨before, hp, hs⟩ | ⟨_, _, isFrame, -⟩
    · simp only [Unmisled, event] at unmisled
      rw [isNext]
      exact unmisled name before info hp hs
    · cases event.symm.trans isFrame
  · rw [next_bridgeId fun config event => reconfigured ⟨config, event⟩]
    rcases received_of_next hf heard with ⟨before, hp, hs⟩ | ⟨_, _, event, decoded⟩
    · exact tamed name before info hp hs
    · simp only [Unmisled, event] at unmisled
      exact unmisled info decoded

/-- Whoever is elected was heard of a better root, so it is not the bridge itself. -/
theorem Inner.Tamed.rootFromOthers (tamed : inner.Tamed inner.bridgeId) : inner.RootFromOthers := by
  intro now name port info isRoot hf heard own
  rcases inner.computeRoot_cases now with ⟨-, elected⟩ | ⟨best, hm, -, elected⟩
  · cases (congrArg Election.rootPort elected).symm.trans isRoot
  · obtain ⟨name', port', info', ⟨hp, -, hs, -⟩, better, rfl⟩ := mem_candidates.mp hm
    cases (congrArg Election.rootPort elected).symm.trans isRoot
    cases hp.symm.trans hf
    cases hs.symm.trans heard
    exact absurd better (not_lt.mpr (tamed _ _ _ hf heard own))

/-- In a run in which no BPDU of the bridge comes back that names a better root, no root port
is ever elected for what the bridge said itself. -/
theorem rootFromOthers_of_unmisled (bridgeMac : Mac) (inputs : List Input)
    (unmisled : (engine bridgeMac).Throughout Inner.Unmisled inputs) :
    (engine bridgeMac).Always Inner.RootFromOthers inputs := by
  have start : (engine bridgeMac).init.Tamed (engine bridgeMac).init.bridgeId := by
    intro name port info found
    simp [engine, Inner.initial] at found
  intro before after split
  have tamed := always_of_throughout start
    (fun inner input (tamed : inner.Tamed inner.bridgeId) => tamed.next) inputs unmisled
  exact (tamed before after split).rootFromOthers

/-- The bridge hears itself while it is the root, and a better root afterwards. -/
theorem rootFromOthers_of_unmisled_loop :
    let heard : List Input := [⟨0, .link ⟨"Ethernet1", true, 1000⟩⟩]
    let looped : Input := ⟨secs 1, .frame "Ethernet1"
      (encodeBpdu loopMac true ⟨32768, loopMac⟩ 0 ⟨32768, loopMac⟩ 0x8002 2 20 15)⟩
    let uplink : Input := ⟨secs 2, .frame "Ethernet1"
      (encodeBpdu rootMac true ⟨4096, rootMac⟩ 0 ⟨4096, rootMac⟩ 0x8001 2 20 15)⟩
    (engine loopMac).Always Inner.RootFromOthers (heard ++ [looped] ++ [uplink]) := by
  intro heard looped uplink
  have opened : (engine loopMac).Throughout Inner.Unmisled heard :=
    (@throughout_concat _ _ _ _ _ [] _).mpr ⟨throughout_nil _ _, trivial⟩
  refine rootFromOthers_of_unmisled loopMac _ (throughout_concat.mpr ⟨throughout_concat.mpr ⟨opened, ?_⟩, ?_⟩)
  · unfold Inner.Unmisled PriorityVector.Tame
    decide +kernel
  · unfold Inner.Unmisled PriorityVector.Tame
    decide +kernel

/-- What the bridge sends on its second port while the first is its root port. -/
def ownBpdu : List UInt8 :=
  encodeBpdu loopMac true ⟨4096, rootMac⟩ 20000 ⟨32768, loopMac⟩ 0x8002 2 20 15

/-- The second and third port are cabled to each other, and the first leads to the
root. -/
def cabledRun : List Input :=
  uplinkRun ++
    [⟨secs 1, .step⟩, ⟨secs 1, .link ⟨"Ethernet2", true, 1000⟩⟩, ⟨secs 1, .step⟩,
      ⟨secs 1, .link ⟨"Ethernet3", true, 1000⟩⟩, ⟨secs 1, .step⟩]

/-- What the second port sent arrives at the third, and then the uplink fails. -/
def uplinkLostRun : List Input :=
  cabledRun ++
    [⟨secs 2, .frame "Ethernet3" ownBpdu⟩, ⟨secs 2, .step⟩,
      ⟨secs 3, .link ⟨"Ethernet1", false, 0⟩⟩, ⟨secs 3, .step⟩]

/-- The third port becomes the root port, for what the bridge sent itself. -/
theorem reflected_root_port :
    .bpdu "Ethernet2" ownBpdu ∈ (engine loopMac).sent cabledRun ∧
      ¬ ((engine loopMac).run uplinkLostRun).RootFromOthers ∧
      ∃ port ∈ ((engine loopMac).run uplinkLostRun).ports["Ethernet3"]?, port.role = .root := by
  have elected : (((engine loopMac).run uplinkLostRun).computeRoot (secs 3)).rootPort =
        some "Ethernet3" ∧
      ∃ port ∈ ((engine loopMac).run uplinkLostRun).ports["Ethernet3"]?,
        ∃ info ∈ port.received,
          info.bridge = ((engine loopMac).run uplinkLostRun).bridgeId ∧ port.role = .root := by
    decide +kernel
  obtain ⟨isRoot, port, found, info, heard, own, role⟩ := elected
  refine ⟨by decide +kernel, ?_, port, found, role⟩
  intro others
  exact others (secs 3) "Ethernet3" port info isRoot found heard own

end Hemlock.Stp
