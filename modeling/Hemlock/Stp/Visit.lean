import Hemlock.Stp.Engine

/-!
# What a pass does to one port

A visit ages the port's information, assigns its role, advances its state and
sends a BPDU when one is due.  The lemmas say which of its fields each part
leaves alone and what the others become.
-/

namespace Hemlock.Stp

open Port Pass

/-- The ports a pass takes part with. -/
def Port.Live (port : Port) : Prop := port.linkUp = true ∧ port.errdisabled = false

instance (port : Port) : Decidable port.Live :=
  inferInstanceAs (Decidable (port.linkUp = true ∧ port.errdisabled = false))

theorem Port.live_iff (port : Port) : port.Live ↔ ¬ (!port.linkUp || port.errdisabled) = true := by
  simp [Port.Live]

section Age

variable (port : Port) (maxAge : UInt8) (now : Nat)

theorem Port.age_eq : port.age maxAge now =
    { port with
      received := (port.age maxAge now).received
      lastRx := (port.age maxAge now).lastRx } := by
  unfold age
  split
  · split_ifs <;> rfl
  · rfl

@[simp]
theorem Port.age_role : (port.age maxAge now).role = port.role := by
  rw [age_eq]

@[simp]
theorem Port.age_state : (port.age maxAge now).state = port.state := by
  rw [age_eq]

@[simp]
theorem Port.age_stateSince : (port.age maxAge now).stateSince = port.stateSince := by
  rw [age_eq]

@[simp]
theorem Port.age_config : (port.age maxAge now).config = port.config := by
  rw [age_eq]

@[simp]
theorem Port.age_portId : (port.age maxAge now).portId = port.portId := by
  rw [age_eq]
  rfl

theorem Port.age_of_fresh (fresh : port.fresh maxAge now = true) : port.age maxAge now = port := by
  unfold Port.fresh at fresh
  unfold Port.age
  split at fresh
  next heard =>
    rw [if_neg]
    simpa using fresh
  next => simp at fresh

theorem Port.age_received_eq_some_iff {info : PriorityVector}
    (timed : port.received.isSome = port.lastRx.isSome) : (port.age maxAge now).received = some info ↔
      port.received = some info ∧ port.fresh maxAge now = true := by
  unfold age fresh
  split
  next heard =>
    split_ifs with stale
    · simp only [decide_eq_true_eq, false_iff, not_and, not_lt]
      intro _
      exact stale
    · simp only [decide_eq_true_eq, iff_self_and]
      intro _
      omega
  next unheard =>
    rw [unheard] at timed
    simp at timed
    simp [timed]

end Age

section Visit

variable (pass : Pass) (name : String) (port : Port)

/-- The role a visit gives to a live port. -/
def Pass.elected : Role := pass.role name (port.age pass.config.maxAge pass.now)

theorem Pass.settle_of_kept (kept : port.role = pass.elected name port) :
    pass.settle name port = port.age pass.config.maxAge pass.now := by
  simp only [elected] at kept
  simp [settle, Port.assume, kept]

theorem Pass.settle_of_changed (changed : port.role ≠ pass.elected name port) :
    pass.settle name port = { port.age pass.config.maxAge pass.now with
        role := pass.elected name port
        state := .discarding
        stateSince := pass.now } := by
  simp only [elected] at changed
  simp [settle, Port.assume, changed, elected]

@[simp]
theorem Pass.settle_role : (pass.settle name port).role = pass.elected name port := by
  by_cases kept : port.role = pass.elected name port
  · simp [pass.settle_of_kept name port kept, kept]
  · simp [pass.settle_of_changed name port kept]

@[simp]
theorem Pass.settle_config : (pass.settle name port).config = port.config := by
  by_cases kept : port.role = pass.elected name port
  · simp [pass.settle_of_kept name port kept]
  · simp [pass.settle_of_changed name port kept]

theorem Pass.settle_eq : pass.settle name port =
    { port.age pass.config.maxAge pass.now with
      role := pass.elected name port
      state := (pass.settle name port).state
      stateSince := (pass.settle name port).stateSince } := by
  by_cases kept : port.role = pass.elected name port
  · rw [pass.settle_of_kept name port kept, ← kept, age_eq]
  · rw [pass.settle_of_changed name port kept]

theorem Pass.settle_stateSince : (pass.settle name port).stateSince = port.stateSince ∨
      (pass.settle name port).stateSince = pass.now := by
  by_cases kept : port.role = pass.elected name port
  · left
    rw [pass.settle_of_kept name port kept, age_stateSince]
  · right
    rw [pass.settle_of_changed name port kept]

theorem Pass.advance_eq : pass.advance port =
    { port with
      state := pass.nextState port
      stateSince :=
        if pass.nextState port = port.state then port.stateSince else pass.now } := by
  unfold advance
  by_cases stays : pass.nextState port = port.state <;> simp [stays]

theorem Pass.transmit_eq : pass.transmit port =
    { port with
      lastTx := (pass.transmit port).lastTx
      bpdusTx := (pass.transmit port).bpdusTx } := by
  unfold transmit
  split_ifs <;> rfl

variable {port}

theorem Pass.visit_of_not_live (down : ¬ port.Live) :
    pass.visit name port = { port with role := .disabled, state := .discarding } := by
  rw [live_iff, not_not] at down
  rw [visit, if_pos down]

/-- Everything a visit does to a live port but for its transmit counters. -/
theorem Pass.visit_of_live (live : port.Live) : pass.visit name port =
    { port with
      received := (port.age pass.config.maxAge pass.now).received
      lastRx := (port.age pass.config.maxAge pass.now).lastRx
      role := pass.elected name port
      state := pass.nextState (pass.settle name port)
      stateSince :=
        if pass.nextState (pass.settle name port) = (pass.settle name port).state then
          (pass.settle name port).stateSince
        else pass.now
      lastTx := (pass.visit name port).lastTx
      bpdusTx := (pass.visit name port).bpdusTx } := by
  rw [live_iff] at live
  rw [visit, if_neg live, transmit_eq, advance_eq, settle_eq, age_eq]

@[simp]
theorem Pass.visit_linkUp : (pass.visit name port).linkUp = port.linkUp := by
  by_cases live : port.Live
  · rw [pass.visit_of_live name live]
  · rw [pass.visit_of_not_live name live]

@[simp]
theorem Pass.visit_errdisabled : (pass.visit name port).errdisabled = port.errdisabled := by
  by_cases live : port.Live
  · rw [pass.visit_of_live name live]
  · rw [pass.visit_of_not_live name live]

@[simp]
theorem Pass.visit_config : (pass.visit name port).config = port.config := by
  by_cases live : port.Live
  · rw [pass.visit_of_live name live]
  · rw [pass.visit_of_not_live name live]

theorem Pass.visit_live_iff : (pass.visit name port).Live ↔ port.Live := by
  simp [Port.Live]

theorem Pass.visit_role (live : port.Live) : (pass.visit name port).role = pass.elected name port := by
  rw [pass.visit_of_live name live]

theorem Pass.visit_state (live : port.Live) :
    (pass.visit name port).state = pass.nextState (pass.settle name port) := by
  rw [pass.visit_of_live name live]

theorem Pass.visit_received (live : port.Live) :
    (pass.visit name port).received = (port.age pass.config.maxAge pass.now).received := by
  rw [pass.visit_of_live name live]

theorem Pass.visit_stateSince : (pass.visit name port).stateSince = port.stateSince ∨
      (pass.visit name port).stateSince = pass.now := by
  by_cases live : port.Live
  · rw [pass.visit_of_live name live]
    by_cases stays : pass.nextState (pass.settle name port) = (pass.settle name port).state
    · simpa [stays] using pass.settle_stateSince name port
    · simp [stays]
  · rw [pass.visit_of_not_live name live]
    exact .inl rfl

theorem Pass.visit_portId : (pass.visit name port).portId = port.portId := by
  by_cases live : port.Live
  · rw [pass.visit_of_live name live]
    rfl
  · rw [pass.visit_of_not_live name live]
    rfl

theorem Pass.nextState_of_blocked {port : Port} (notRoot : port.role ≠ .root)
    (notDesignated : port.role ≠ .designated) : pass.nextState port = .discarding := by
  unfold nextState
  split
  · rfl
  · rfl
  all_goals contradiction

theorem Pass.visit_discards (off : ¬ port.Live ∨
      (pass.visit name port).role ≠ .root ∧ (pass.visit name port).role ≠ .designated) :
    (pass.visit name port).state = .discarding := by
  by_cases live : port.Live
  · rcases off with down | ⟨notRoot, notDesignated⟩
    · exact absurd live down
    · rw [pass.visit_role name live] at notRoot notDesignated
      rw [pass.visit_state name live]
      apply nextState_of_blocked <;> rwa [settle_role]
  · rw [pass.visit_of_not_live name live]

end Visit

end Hemlock.Stp
