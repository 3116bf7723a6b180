import Hemlock.Stp.Runs

/-!
# Forward delay

A port without portfast forwards only after twice the forward delay in one role.
The timers say so as long as nothing but links, roles and the timers themselves
moves a port; a configuration change can also put a port into service again
without restarting them.  `Inner.Calm` rules these changes out, with some that would
do no harm, and the runs without them are safe.
-/

namespace Hemlock.Stp

open Machine Port PortState Pass

def Role.active (role : Role) : Prop := role = .root ∨ role = .designated

/-- Spanning tree is on and the port called `name` is live in this role. -/
def Inner.Holds (inner : Inner) (name : String) (role : Role) : Prop :=
  inner.config.mode ≠ .none ∧ ∃ port, inner.ports[name]? = some port ∧ port.Live ∧ port.role = role

/-- The configuration change leaves no port in service that was not, takes
portfast from no port that forwards, and does not lengthen the delay of ports
that are past part of it. -/
def Inner.Calm (inner : Inner) (config : Config) : Prop :=
  config.mode ≠ .none → ∀ (name : String) port, inner.ports[name]? = some port →
    (port.reconfigure (config.portConfig name)).Live → port.role.active →
    inner.config.mode ≠ .none ∧ port.errdisabled = false ∧
      (port.state = .forwarding → (config.portConfig name).portfast = false →
        port.config.portfast = false ∧ config.withDefaults.forwardTime ≤ inner.config.forwardTime) ∧
      (port.state = .learning → config.withDefaults.forwardTime ≤ inner.config.forwardTime)

/-- Every configuration change of the run is calm where it is made. -/
def CalmRun (bridgeMac : Mac) (inputs : List Input) : Prop :=
  ∀ before time config after, inputs = before ++ ⟨time, .setConfig config⟩ :: after →
    ((engine bridgeMac).run before).Calm config

variable {bridgeMac : Mac} {inputs : List Input} {input : Input}

theorem CalmRun.shorten (calm : CalmRun bridgeMac (inputs ++ [input])) : CalmRun bridgeMac inputs := by
  rintro before time config after rfl
  exact calm before time config (after ++ [input]) (by simp)

/-- A port that is not live or has no active role discards. -/
def Port.Idle (port : Port) : Prop :=
  ¬ port.Live ∨ ¬ port.role.active → port.state = .discarding

theorem Port.setLink_cases (port : Port) (event : LinkEvent) (now : Nat) :
    ((port.setLink event now).role = port.role ∧ (port.setLink event now).errdisabled = port.errdisabled ∧
        (port.setLink event now).config.portfast = port.config.portfast) ∧
      ((port.setLink event now).state = .discarding ∧ (port.setLink event now).stateSince = now ∨
        (port.setLink event now).linkUp = port.linkUp ∧ (port.setLink event now).state = port.state ∧
        (port.setLink event now).stateSince = port.stateSince) := by
  have portfast : port.config.withDefaults.portfast = port.config.portfast := by
    unfold PortConfig.withDefaults
    split_ifs <;> rfl
  unfold setLink
  dsimp only
  split_ifs <;> simp [portfast]

theorem Port.receive_cases (port : Port) (info : PriorityVector) (now : Nat) :
    ((port.receive info now).role = port.role ∧ (port.receive info now).linkUp = port.linkUp ∧
        (port.receive info now).stateSince = port.stateSince ∧
        (port.receive info now).config = port.config) ∧
      ((port.receive info now).errdisabled = true ∧ (port.receive info now).state = .discarding ∨
        (port.receive info now).errdisabled = port.errdisabled ∧
        (port.receive info now).state = port.state) := by
  unfold receive
  dsimp only
  split_ifs <;> simp

theorem Port.idle_new_setLink (name : String) (config : PortConfig) (event : LinkEvent)
    (now : Nat) : ((new name config now).setLink event now).Idle := by
  intro _
  obtain ⟨-, ⟨down, -⟩ | ⟨-, state, -⟩⟩ := (new name config now).setLink_cases event now
  · exact down
  · exact state

variable {port : Port}

theorem Port.Idle.setLink (idle : port.Idle) (event : LinkEvent) (now : Nat) :
    (port.setLink event now).Idle := by
  intro off
  obtain ⟨⟨role, errdisabled, -⟩, ⟨down, -⟩ | ⟨linkUp, state, -⟩⟩ := port.setLink_cases event now
  · exact down
  · rw [state]
    apply idle
    rwa [Port.Live, role, errdisabled, linkUp] at off

theorem Port.Idle.receive (idle : port.Idle) (info : PriorityVector) (now : Nat) :
    (port.receive info now).Idle := by
  intro off
  obtain ⟨⟨role, linkUp, -, -⟩, ⟨-, down⟩ | ⟨errdisabled, state⟩⟩ := port.receive_cases info now
  · exact down
  · rw [state]
    apply idle
    rwa [Port.Live, role, errdisabled, linkUp] at off

theorem Port.Idle.reconfigure (idle : port.Idle) (config : PortConfig) :
    (port.reconfigure config).Idle := by
  intro off
  apply idle
  rcases off with down | inactive
  · left
    intro live
    exact down ⟨live.1, by simp [Port.reconfigure, live.2]⟩
  · exact .inr inactive

theorem Port.idle_switchOff (port : Port) : port.switchOff.Idle := by
  intro off
  rcases off with down | inactive
  · simp only [switchOff, Port.Live] at down
    simp only [switchOff]
    simpa using down
  · exact absurd (.inr rfl) inactive

theorem Pass.idle_visit (pass : Pass) (name : String) (port : Port) : (pass.visit name port).Idle := by
  intro off
  apply visit_discards
  rw [visit_live_iff, Role.active, not_or] at off
  exact off

variable {name : String}

theorem idle_of_run (bridgeMac : Mac) (inputs : List Input)
    (hf : ((engine bridgeMac).run inputs).ports[name]? = some port) : port.Idle := by
  refine @ports_invariant bridgeMac Port.Idle ?_ inputs name port hf
  intro inner input name port change before
  cases change with
  | kept _ _ present => exact before _ present
  | created _ _ => exact idle_new_setLink _ _ _ _
  | link _ present => exact (before _ present).setLink _ _
  | received _ present => exact (before _ present).receive _ _
  | reconfigured _ present => exact (before _ present).reconfigure _
  | switchedOff _ _ _ => exact idle_switchOff _
  | visited _ _ _ => exact idle_visit _ _ _

/-- How many forward delays a port has behind it. -/
def PortState.delays : PortState → Nat
  | .discarding => 0
  | .learning => 1
  | .forwarding => 2

/-- The timer of the port vouches for its state: it has been in service since a
time that lies the delays of its state before the last change. -/
def Seasoned (bridgeMac : Mac) (inputs : List Input) (name : String) (port : Port)
    (forwardTime : UInt8) : Prop :=
  ∃ since, since + port.state.delays * secs forwardTime.toNat ≤ port.stateSince ∧
    (engine bridgeMac).HeldSince (fun inner _ => inner.Holds name port.role) since inputs

variable {forwardTime forwardTime' : UInt8}

theorem Seasoned.carry {before : Port} (seasoned : Seasoned bridgeMac inputs name before forwardTime)
    (holds : ((engine bridgeMac).run inputs).Holds name before.role) (role : port.role = before.role)
    (timer : ∀ since, since + before.state.delays * secs forwardTime.toNat ≤ before.stateSince →
      since + port.state.delays * secs forwardTime'.toNat ≤ port.stateSince) :
    Seasoned bridgeMac (inputs ++ [input]) name port forwardTime' := by
  obtain ⟨since, past, held⟩ := seasoned
  rw [← role] at holds held
  exact ⟨since, timer since past, held.concat fun _ => holds⟩

theorem seasoned_of_restart (chronological : Chronological (inputs ++ [input]))
    (restarted : input.time + port.state.delays * secs forwardTime.toNat ≤ port.stateSince) :
    Seasoned bridgeMac (inputs ++ [input]) name port forwardTime := by
  refine ⟨input.time, restarted, heldSince_of_le ?_⟩
  have past := (chronological_concat.mp chronological).2
  intro other hm
  rcases List.mem_append.mp hm with earlier | last
  · exact past other earlier
  · rw [List.mem_singleton.mp last]

theorem stateSince_le_of_run (bridgeMac : Mac) (inputs : List Input)
    (hf : ((engine bridgeMac).run inputs).ports[name]? = some port) {bound : Nat}
    (past : ∀ input ∈ inputs, input.time ≤ bound) : port.stateSince ≤ bound := by
  refine @ports_induction bridgeMac (fun inputs => ∀ input ∈ inputs, input.time ≤ bound)
    (fun _ _ port => port.stateSince ≤ bound) ?_ ?_ inputs past name port hf
  · intro inputs input past earlier hm
    exact past earlier (List.mem_append_left _ hm)
  · intro inputs input name port past change before
    have now : input.time ≤ bound := past input (by simp)
    cases change with
    | kept _ _ present => exact before _ present
    | @created event config _ _ =>
      obtain ⟨-, ⟨-, since⟩ | ⟨-, -, since⟩⟩ :=
        (new name config input.time).setLink_cases event input.time
      all_goals exact since.le.trans now
    | @link event port _ present =>
      obtain ⟨-, ⟨-, since⟩ | ⟨-, -, since⟩⟩ := port.setLink_cases event input.time
      · exact since.le.trans now
      · exact since.le.trans (before port present)
    | @received bytes info port _ present =>
      obtain ⟨⟨-, -, since, -⟩, -⟩ := port.receive_cases info input.time
      exact since.le.trans (before port present)
    | @reconfigured config port _ present | @switchedOff port _ _ present => exact before port present
    | @visited port _ _ present =>
      rcases ((engine bridgeMac).run inputs |>.pass input.time).visit_stateSince name with
        since | since
      · exact since.le.trans (before port present)
      · exact since.le.trans now

theorem Pass.nextState_timer (pass : Pass) {port : Port} (active : port.role.active)
    (slow : port.config.portfast = false) (started : port.stateSince ≤ pass.now) {since : Nat}
    (past : since + port.state.delays * secs pass.config.forwardTime.toNat ≤ port.stateSince) :
    since + (pass.nextState port).delays * secs pass.config.forwardTime.toNat ≤
      if pass.nextState port = port.state then port.stateSince else pass.now := by
  have next : pass.nextState port = match port.state with
      | .discarding =>
        if secs pass.config.forwardTime.toNat ≤ pass.now - port.stateSince then .learning
        else .discarding
      | .learning =>
        if secs pass.config.forwardTime.toNat ≤ pass.now - port.stateSince then .forwarding
        else .learning
      | .forwarding => .forwarding := by
    rcases active with role | role <;> simp only [nextState, role, slow] <;>
      cases port.state <;> rfl
  generalize secs pass.config.forwardTime.toNat = delay at *
  rw [next]
  cases state : port.state with
  | forwarding => simpa [state] using past
  | discarding | learning =>
    simp only [delays] at past ⊢
    split_ifs
    all_goals simp_all
    omega

/-- The port is in service and its timer is not bypassed by portfast. -/
def Port.Serves (port : Port) : Prop :=
  port.Live ∧ port.role.active ∧ (port.state = .forwarding → port.config.portfast = false)

theorem secs_le {first second : UInt8} (le : first ≤ second) : secs first.toNat ≤ secs second.toNat :=
  Nat.mul_le_mul_left _ (UInt8.le_iff_toNat_le.mp le)

theorem Port.delays_le_of_calm (forwarding : port.state = .forwarding → forwardTime' ≤ forwardTime)
    (learning : port.state = .learning → forwardTime' ≤ forwardTime) :
    port.state.delays * secs forwardTime'.toNat ≤ port.state.delays * secs forwardTime.toNat := by
  cases state : port.state with
  | discarding => simp [delays]
  | learning => exact Nat.mul_le_mul_left _ (secs_le (learning state))
  | forwarding => exact Nat.mul_le_mul_left _ (secs_le (forwarding state))

theorem Pass.slow_of_serves {pass : Pass} (live : port.Live)
    (serves : (pass.visit name port).Serves) : port.config.portfast = false := by
  obtain ⟨-, active, slow⟩ := serves
  rw [pass.visit_role name live] at active
  rw [pass.visit_state name live] at slow
  by_contra fast
  apply absurd (slow _) (by simp [fast])
  rcases active with role | role <;> simp [nextState, role, fast]

/-- After a visit the timer of a port in service still vouches for it, or the port
has a new role and its timer was restarted. -/
theorem Pass.visit_timer (pass : Pass) (name : String) (live : port.Live)
    (started : port.stateSince ≤ pass.now) (serves : (pass.visit name port).Serves) :
    ((pass.visit name port).role = port.role ∧ ∀ since,
        since + port.state.delays * secs pass.config.forwardTime.toNat ≤ port.stateSince →
        since + (pass.visit name port).state.delays * secs pass.config.forwardTime.toNat ≤
          (pass.visit name port).stateSince) ∨
      pass.now + (pass.visit name port).state.delays * secs pass.config.forwardTime.toNat ≤
        (pass.visit name port).stateSince := by
  have slow := slow_of_serves live serves
  have active := serves.2.1
  rw [pass.visit_role name live] at active
  have timer := @nextState_timer pass (pass.settle name port) (by simpa using active)
    (by simpa using slow)
  rw [pass.visit_of_live name live]
  by_cases kept : port.role = pass.elected name port
  · left
    have settled := pass.settle_of_kept name port kept
    refine ⟨kept.symm, ?_⟩
    intro since past
    exact @timer (by simpa [settled] using started) since (by simpa [settled] using past)
  · right
    have settled := pass.settle_of_changed name port kept
    exact @timer (by simp [settled]) pass.now (by simp [settled, delays])

/-- The invariant of calm runs: the timer vouches for the port while it serves. -/
def Vouched (bridgeMac : Mac) (inputs : List Input) (name : String) (port : Port) : Prop :=
  ((engine bridgeMac).run inputs).config.mode ≠ .none → port.Serves →
    Seasoned bridgeMac inputs name port ((engine bridgeMac).run inputs).config.forwardTime

section Changes

variable {bridgeMac : Mac} {inputs : List Input} {input : Input} {name : String} {before : Port}
  (vouched : Vouched bridgeMac inputs name before)
  (present : ((engine bridgeMac).run inputs).ports[name]? = some before)

include vouched present

theorem Vouched.unmoved {port : Port} (notConfig : ∀ config, input.event ≠ .setConfig config)
    (serves : port.Serves → before.Serves) (role : port.role = before.role)
    (state : port.state = before.state) (since : port.stateSince = before.stateSince) :
    Vouched bridgeMac (inputs ++ [input]) name port := by
  intro on served
  have config : ((engine bridgeMac).run (inputs ++ [input])).config =
      ((engine bridgeMac).run inputs).config := by
    rw [run_concat]
    exact Inner.next_config notConfig
  rw [config] at on ⊢
  have servedBefore := serves served
  refine (vouched on servedBefore).carry ⟨on, before, present, servedBefore.1, rfl⟩ role ?_
  intro start past
  rwa [state, since]

theorem Vouched.setLink (chronological : Chronological (inputs ++ [input])) {event : LinkEvent}
    (isLink : input.event = .link event) :
    Vouched bridgeMac (inputs ++ [input]) name (before.setLink event input.time) := by
  obtain ⟨⟨role, errdisabled, portfast⟩, ⟨state, since⟩ | ⟨linkUp, state, since⟩⟩ :=
    before.setLink_cases event input.time
  · intro _ _
    apply seasoned_of_restart chronological
    simp [state, since, delays]
  · refine vouched.unmoved present (by simp [isLink]) ?_ role state since
    intro served
    rwa [Port.Serves, Port.Live, linkUp, errdisabled, role, state, portfast] at served

theorem Vouched.receive {bytes : List UInt8} {info : PriorityVector}
    (isFrame : input.event = .frame name bytes) :
    Vouched bridgeMac (inputs ++ [input]) name (before.receive info input.time) := by
  obtain ⟨⟨role, linkUp, since, config⟩, ⟨down, -⟩ | ⟨errdisabled, state⟩⟩ :=
    before.receive_cases info input.time
  · rintro _ ⟨live, -⟩
    simp [Port.Live, down] at live
  · refine vouched.unmoved present (by simp [isFrame]) ?_ role state since
    intro served
    rwa [Port.Serves, Port.Live, linkUp, errdisabled, role, state, config] at served

theorem Vouched.reconfigure {time : Nat} {config : Config}
    (calm : ((engine bridgeMac).run inputs).Calm config) :
    Vouched bridgeMac (inputs ++ [⟨time, .setConfig config⟩]) name
      (before.reconfigure (config.portConfig name)) := by
  rintro on ⟨live, active, slow⟩
  rw [run_concat] at on ⊢
  obtain ⟨onBefore, enabled, forwarding, learning⟩ := calm on name before present live active
  have slowBefore (state : before.state = .forwarding) := forwarding state (slow state)
  have liveBefore : before.Live := ⟨live.1, enabled⟩
  refine (vouched onBefore ⟨liveBefore, active, fun state => (slowBefore state).1⟩).carry
    ⟨onBefore, before, present, liveBefore, rfl⟩ rfl ?_
  intro since past
  have shorter := before.delays_le_of_calm (fun state => (slowBefore state).2) learning
  exact (Nat.add_le_add_left shorter since).trans past

theorem Vouched.visit (chronological : Chronological (inputs ++ [input]))
    (isStep : input.event = .step) : Vouched bridgeMac (inputs ++ [input]) name
      ((((engine bridgeMac).run inputs).pass input.time).visit name before) := by
  intro on serves
  have config : ((engine bridgeMac).run (inputs ++ [input])).config =
      ((engine bridgeMac).run inputs).config := by
    rw [run_concat]
    exact Inner.next_config (by simp [isStep])
  rw [config] at on ⊢
  have live := (visit_live_iff _ name).mp serves.1
  have slow := slow_of_serves live serves
  have started : before.stateSince ≤ input.time :=
    stateSince_le_of_run bridgeMac inputs present (chronological_concat.mp chronological).2
  rcases (((engine bridgeMac).run inputs).pass input.time).visit_timer name live started serves with
    ⟨role, timer⟩ | restarted
  · exact (vouched on ⟨live, role ▸ serves.2.1, fun _ => slow⟩).carry
      ⟨on, before, present, live, rfl⟩ role timer
  · exact seasoned_of_restart chronological restarted

end Changes

/-- In a run of calm configuration changes the timers vouch for every port in
service. -/
theorem vouched_of_run (bridgeMac : Mac) (inputs : List Input)
    (chronological : Chronological inputs) (calm : CalmRun bridgeMac inputs)
    (hf : ((engine bridgeMac).run inputs).ports[name]? = some port) :
    Vouched bridgeMac inputs name port := by
  refine @ports_induction bridgeMac
    (fun inputs => Chronological inputs ∧ CalmRun bridgeMac inputs) (Vouched bridgeMac)
    ?_ ?_ inputs ⟨chronological, calm⟩ name port hf
  · rintro inputs input ⟨chronological, calm⟩
    exact ⟨(chronological_concat.mp chronological).1, calm.shorten⟩
  · rintro inputs input name port ⟨chronological, calm⟩ change before
    cases change with
    | kept notConfig _ present =>
      exact (before _ present).unmoved present notConfig id rfl rfl rfl
    | @created event config _ _ =>
      -- a new port has no role yet
      rintro _ ⟨-, active, -⟩
      rw [((new name config input.time).setLink_cases event input.time).1.1] at active
      rcases active with impossible | impossible <;> cases impossible
    | link isLink present => exact (before _ present).setLink present chronological isLink
    | received isFrame present => exact (before _ present).receive present isFrame
    | @reconfigured config earlier isConfig present =>
      obtain ⟨time, event⟩ := input
      subst isConfig
      exact (before earlier present).reconfigure present (calm inputs time config [] rfl)
    | switchedOff isStep off _ =>
      intro on
      rw [run_concat] at on
      exact absurd off (@Inner.next_config _ input (by simp [isStep]) ▸ on)
    | visited isStep _ present => exact (before _ present).visit present chronological isStep

/-- The property of one pass: a port without portfast that forwards has been live
in its role, under a mode other than none, for twice the forward delay. -/
def ForwardsLate (bridgeMac : Mac) (inputs : List Input) (now : Nat) : Prop :=
  let inner := (engine bridgeMac).run (inputs ++ [⟨now, .step⟩])
  inner.config.mode ≠ .none → ∀ (name : String) port, inner.ports[name]? = some port →
    port.config.portfast = false → port.state = .forwarding →
    port.role.active ∧ inner.Holds name port.role ∧ 2 * secs inner.config.forwardTime.toNat ≤ now ∧
      (engine bridgeMac).HeldSince (fun inner _ => inner.Holds name port.role)
        (now - 2 * secs inner.config.forwardTime.toNat) (inputs ++ [⟨now, .step⟩])

/-- In every run whose configuration changes are calm, after every pass. -/
theorem forward_delay_safe (bridgeMac : Mac) (inputs : List Input)
    (chronological : Chronological inputs) (calm : CalmRun bridgeMac inputs) :
    ∀ before now after, inputs = before ++ ⟨now, .step⟩ :: after → ForwardsLate bridgeMac before now := by
  rintro before now after rfl on name port found slow forwarding
  have whole : before ++ (⟨now, .step⟩ : Input) :: after = (before ++ [⟨now, .step⟩]) ++ after := by
    simp
  rw [whole] at chronological calm
  have inOrder : Chronological (before ++ [⟨now, .step⟩]) :=
    (List.pairwise_append.mp chronological).1
  have calmSoFar : CalmRun bridgeMac (before ++ [⟨now, .step⟩]) := by
    intro earlier time config later split
    exact calm earlier time config (later ++ after) (by simp [split])
  have busy : port.Live ∧ port.role.active := by
    by_contra idle
    have discarding := idle_of_run bridgeMac _ found (by simpa [← not_and_or] using idle)
    simp [forwarding] at discarding
  obtain ⟨since, past, held⟩ := vouched_of_run bridgeMac _ inOrder calmSoFar found on
    ⟨busy.1, busy.2, fun _ => slow⟩
  have started : port.stateSince ≤ now :=
    stateSince_le_of_run bridgeMac _ found inOrder.le_last
  rw [forwarding, PortState.delays] at past
  refine ⟨busy.2, ⟨on, port, found, busy.1, rfl⟩, by omega, held.mono (by omega)⟩

/-- A port comes up, and the delay is shortened while it learns. -/
def steadyRun : List Input :=
  [⟨0, .link ⟨"Ethernet1", true, 1000⟩⟩, ⟨0, .step⟩, ⟨secs 15, .step⟩,
    ⟨secs 20, .setConfig { forwardTime := 10 }⟩]

theorem calm_steadyRun :
    ((engine #v[2, 0, 0, 0, 0, 1]).run (steadyRun.take 3)).Calm { forwardTime := 10 } := by
  have learns : ∀ entry ∈ ((engine #v[2, 0, 0, 0, 0, 1]).run (steadyRun.take 3)).ports.toList,
      entry.2.errdisabled = false ∧ entry.2.state = .learning := by
    decide +kernel
  intro _ name port found _ _
  obtain ⟨enabled, learning⟩ := learns (name, port) (Std.ExtTreeMap.mem_toList_iff_getElem?_eq_some.mpr found)
  refine ⟨by decide +kernel, enabled, fun forwarding => ?_, fun _ => by decide +kernel⟩
  cases learning.symm.trans forwarding

theorem forward_delay_safe_steady : (∃ port ∈ ((engine #v[2, 0, 0, 0, 0, 1]).run
        (steadyRun ++ [⟨secs 25, .step⟩])).ports["Ethernet1"]?, port.state = .forwarding) ∧
      ForwardsLate #v[2, 0, 0, 0, 0, 1] steadyRun (secs 25) := by
  refine ⟨by decide +kernel, ?_⟩
  refine forward_delay_safe #v[2, 0, 0, 0, 0, 1] (steadyRun ++ [⟨secs 25, .step⟩]) ?_ ?_
    steadyRun (secs 25) [] rfl
  · unfold Chronological
    decide +kernel
  · intro before time config after split
    -- the one change of the configuration is the fourth input
    rcases before with _ | ⟨_, _ | ⟨_, _ | ⟨_, _ | ⟨_, _ | ⟨_, _⟩⟩⟩⟩⟩ <;> simp [steadyRun] at split
    obtain ⟨rfl, rfl, rfl, ⟨rfl, rfl⟩, rfl⟩ := split
    exact calm_steadyRun

/-- A port comes up while spanning tree is off, which is switched on later. -/
def lateSwitch : List Input :=
  [⟨0, .setConfig { mode := .none }⟩, ⟨0, .step⟩,
    ⟨secs 100, .link ⟨"Ethernet1", true, 1000⟩⟩, ⟨secs 100, .step⟩]

/-- The port still forwards in the first pass with spanning tree on. -/
theorem switching_on_forwards_early :
    Chronological (lateSwitch ++ [⟨secs 200, .setConfig {}⟩, ⟨secs 200, .step⟩]) ∧
      ¬ ForwardsLate #v[2, 0, 0, 0, 0, 1] (lateSwitch ++ [⟨secs 200, .setConfig {}⟩]) (secs 200) := by
  refine ⟨by unfold Chronological; decide +kernel, ?_⟩
  intro late
  have forwards : ∃ port ∈ ((engine #v[2, 0, 0, 0, 0, 1]).run
      (lateSwitch ++ [⟨secs 200, .setConfig {}⟩] ++ [⟨secs 200, .step⟩])).ports["Ethernet1"]?,
      port.config.portfast = false ∧ port.state = .forwarding := by
    decide +kernel
  obtain ⟨port, found, slow, forwarding⟩ := forwards
  obtain ⟨-, -, -, held⟩ := late (by decide +kernel) "Ethernet1" port found slow forwarding
  have holds := held lateSwitch ⟨secs 200, .setConfig {}⟩ [⟨secs 200, .step⟩] (by simp)
    (by decide +kernel)
  exact absurd (by decide +kernel) holds.1

end Hemlock.Stp
