import Hemlock.Stp.Election

/-!
# Which inferior ports are blocked

A non-root port that hears a better vector than its own should be an alternate
port.  The pass compares root, cost and bridge only, so a port that hears an
equal claim with a smaller port id stays designated: the far end of a cable
between two ports of one bridge.
-/

namespace Hemlock.Stp

open Machine Stp.Inner Pass

/-- Every live port but the root port that hears something better than it would
send itself is an alternate port and discards. -/
def Inner.Blocking (inner : Inner) (now : Nat) : Prop :=
  ∀ name port info, inner.Hears now name port info → port.role ≠ .root →
    info < (inner.pass now).ours port → port.role = .alternate ∧ port.state = .discarding

/-- No live port but the root port hears its own claim with a smaller port id. -/
def Inner.NoTie (inner : Inner) (now : Nat) : Prop :=
  ∀ name port info, inner.Hears now name port info → (inner.computeRoot now).rootPort ≠ some name →
    info.claim = ((inner.pass now).ours port).claim →
    ¬ info.portId.toNat < port.portId.toNat

variable {inner : Inner} {now : Nat} {name : String} {port : Port} {info : PriorityVector}

theorem Inner.step_hears_iff (on : inner.config.mode ≠ .none)
    (stamped : ∀ (name : String) port, inner.ports[name]? = some port → port.Stamped) :
    (inner.step now).Hears now name port info ↔
      ∃ before, inner.Hears now name before info ∧ port = (inner.pass now).visit name before := by
  constructor
  · rintro ⟨hf, live, received, -⟩
    obtain ⟨before, hp, rfl⟩ := exists_of_step_ports on hf
    rw [visit_live_iff] at live
    rw [visit_received _ name live,
      Port.age_received_eq_some_iff _ _ _ (stamped name before hp)] at received
    exact ⟨before, ⟨hp, live, received.1, received.2⟩, rfl⟩
  · rintro ⟨before, ⟨hp, live, received, fresh⟩, rfl⟩
    refine ⟨step_ports_of_some on now hp, (visit_live_iff _ name).mpr live, ?_, ?_⟩
    · rw [visit_received _ name live, Port.age_received_eq_some_iff _ _ _ (stamped name before hp)]
      exact ⟨received, fresh⟩
    · have kept : before.age (inner.pass now).config.maxAge (inner.pass now).now = before :=
        before.age_of_fresh _ _ fresh
      rw [step_config, visit_of_live _ name live, kept]
      exact fresh

theorem Inner.ours_step (on : inner.config.mode ≠ .none) (now : Nat) (name : String) (port : Port) :
    ((inner.step now).pass now).ours ((inner.pass now).visit name port) = (inner.pass now).ours port := by
  have portId : ((inner.pass now).visit name port).portId = port.portId :=
    visit_portId (inner.pass now) name
  rw [ours, ours, portId]
  simp only [pass, computeRoot_step on, step_bridgeId]

theorem Inner.visit_role_of_hears (hears : inner.Hears now name port info) (stamped : port.Stamped)
    (notRoot : (inner.computeRoot now).rootPort ≠ some name) : ((inner.pass now).visit name port).role =
      if info.claim < ((inner.pass now).ours port).claim then .alternate else .designated := by
  obtain ⟨-, live, received, fresh⟩ := hears
  have aged : (port.age inner.config.maxAge now).received = some info :=
    (Port.age_received_eq_some_iff _ _ _ stamped).mpr ⟨received, fresh⟩
  have notElected : ¬ some name = (inner.pass now).election.rootPort := Ne.symm notRoot
  rw [visit_role _ name live, elected, role, if_neg notElected]
  have hs : (inner.pass now).ours (port.age inner.config.maxAge now) = (inner.pass now).ours port := by
    rw [ours, Port.age_portId, ours]
  split
  next theirs heard =>
    have theirsIs : some theirs = some info := heard.symm.trans aged
    rw [Option.some.inj theirsIs]
    rfl
  next unheard => exact absurd (unheard.symm.trans aged) (by simp)

theorem Inner.step_blocking_iff (on : inner.config.mode ≠ .none)
    (stamped : ∀ (name : String) port, inner.ports[name]? = some port → port.Stamped) (now : Nat) :
    (inner.step now).Blocking now ↔ inner.NoTie now := by
  constructor
  · intro blocking name port info hears notRoot sameClaim smaller
    have role := visit_role_of_hears hears (stamped name port hears.1) notRoot
    rw [sameClaim] at role
    have hears' := (step_hears_iff on stamped).mpr ⟨port, hears, rfl⟩
    have inferior : info < (inner.pass now).ours port :=
      (PriorityVector.lt_iff _ _).mpr (.inr ⟨sameClaim, smaller⟩)
    have blocked := blocking name _ info hears' (by simp [role])
      (by rw [ours_step on]; exact inferior)
    rw [role] at blocked
    exact absurd blocked.1 (by simp)
  · intro noTie name port info hears notRoot inferior
    obtain ⟨before, hearsBefore, rfl⟩ := (step_hears_iff on stamped).mp hears
    have notElected : (inner.computeRoot now).rootPort ≠ some name := by
      intro elected
      exact notRoot ((step_role_eq_root_iff on hears.1).mpr elected)
    rw [ours_step on, PriorityVector.lt_iff] at inferior
    have better : info.claim < ((inner.pass now).ours before).claim := by
      rcases inferior with better | ⟨sameClaim, smaller⟩
      · exact better
      · exact absurd smaller (noTie name before info hearsBefore notElected sameClaim)
    have role := visit_role_of_hears hearsBefore (stamped name before hearsBefore.1) notElected
    rw [if_pos better] at role
    refine ⟨role, step_discards on hears.1 (.inr ?_)⟩
    simp [role]

/-- In a run, all inferior ports are blocked after every pass exactly when before
every pass no live non-root port hears its own claim with a smaller port id. -/
theorem blocking_iff_noTie (bridgeMac : Mac) (inputs : List Input) :
    (∀ before now after, inputs = before ++ ⟨now, .step⟩ :: after →
        ((engine bridgeMac).run before).config.mode ≠ .none →
        ((engine bridgeMac).run (before ++ [⟨now, .step⟩])).Blocking now) ↔
      ∀ before now after, inputs = before ++ ⟨now, .step⟩ :: after →
        ((engine bridgeMac).run before).config.mode ≠ .none →
        ((engine bridgeMac).run before).NoTie now := by
  apply forall₃_congr
  intro before now after
  apply forall₂_congr
  intro _ on
  rw [run_concat]
  apply Inner.step_blocking_iff on
  intro name port found
  exact stamped_of_run bridgeMac before found

/-- The BPDU a default bridge sends as root on its first port. -/
def loopBpdu : List UInt8 :=
  encodeBpdu loopMac true ⟨32768, loopMac⟩ 0 ⟨32768, loopMac⟩ 0x8001 2 20 15

def loopStart : List Input :=
  [⟨0, .link ⟨"Ethernet1", true, 1000⟩⟩, ⟨0, .step⟩, ⟨0, .link ⟨"Ethernet2", true, 1000⟩⟩,
    ⟨0, .step⟩, ⟨secs 2, .step⟩]

/-- The ports are cabled to each other: what the first one sends arrives at the
second one. -/
def loopRun : List Input :=
  loopStart ++ [⟨secs 2, .frame "Ethernet2" loopBpdu⟩, ⟨secs 2, .step⟩]

/-- The second port hears the better vector of the first and stays designated. -/
theorem cabled_ports_not_blocking :
    .bpdu "Ethernet1" loopBpdu ∈ (engine loopMac).sent loopStart ∧
      ((engine loopMac).run loopRun).config.mode ≠ .none ∧
      ¬ ((engine loopMac).run loopRun).Blocking (secs 2) := by
  have second : ∃ port ∈ ((engine loopMac).run loopRun).ports["Ethernet2"]?,
      port.Live ∧ port.received = some ⟨⟨32768, loopMac⟩, 0, ⟨32768, loopMac⟩, 0x8001⟩ ∧
        port.fresh ((engine loopMac).run loopRun).config.maxAge (secs 2) = true ∧
        port.role = .designated ∧
        ⟨⟨32768, loopMac⟩, 0, ⟨32768, loopMac⟩, 0x8001⟩ <
          (((engine loopMac).run loopRun).pass (secs 2)).ours port := by
    decide +kernel
  refine ⟨by decide +kernel, by decide +kernel, ?_⟩
  intro blocking
  obtain ⟨port, found, live, received, fresh, designated, inferior⟩ := second
  have blocked := blocking "Ethernet2" port _ ⟨found, live, received, fresh⟩
    (by simp [designated]) inferior
  simp [designated] at blocked

end Hemlock.Stp
