import Hemlock.Library.Mailbox
import Hemlock.Snoop.Engine
import Hemlock.Stp.Election
import Hemlock.Switching.Hardware

/-!
# Updates on their way to syncd

A push task takes one update after the other from its queue and makes the calls for it,
each of them once.  When syncd cannot be reached or a call fails, the update is dropped.
-/

namespace Hemlock.Orch

open Machine Mailbox Net OrderedMap Stp
open Switching (StpPortState)

/-- What a push task makes of an update: whose state it is about, the state it asks for, and
what each of its calls makes of the state that syncd has. -/
structure Push (Update Key Value : Type) where
  key : Update → Key
  value : Update → Value
  calls : Update → List (Value → Value)
  made : ∀ update held, (calls update).foldl (fun held call => call held) held = value update

def stpState : Stp.PortState → StpPortState
  | .discarding => .blocking
  | .learning => .learning
  | .forwarding => .forwarding

def pushStpStates : Push Stp.StateUpdate String (Option StpPortState) where
  key := Stp.StateUpdate.port
  value update := some (stpState update.state)
  calls update := [fun _ => some (stpState update.state)]
  made _ _ := rfl

def pushErrdisable : Push Stp.ErrdisableEvent String (Option String) where
  key := Stp.ErrdisableEvent.port
  value event := some event.reason
  calls event := [fun _ => some event.reason]
  made _ _ := rfl

def pushL2mcGroups : Push Snoop.GroupUpdate (UInt16 × IpAddr) (Option (List String)) where
  key update := (update.vlan, update.group)
  value update := if update.remove then none else some update.ports
  calls update :=
    if update.remove then [fun _ => none]
    else [fun members => some (members.getD []), fun _ => some update.ports]
  made update held := by split <;> rfl

/-- A push task, what its engine asked for last and what syncd accepted last. -/
structure Task (Update Key Value : Type) where
  queue : List Update := []
  emitted : Key → Value
  accepted : Key → Value
  /-- The most recent call succeeded. -/
  granted : Bool := false

/-- The engine emits an update, or the task takes the next one: syncd is reached or not, and some
calls succeed before one fails. -/
inductive Event (Update : Type) where
  | emit (update : Update)
  | take (connected : Bool) (count : Nat)

def Event.update? {Update : Type} : Event Update → Option Update
  | .emit update => some update
  | .take _ _ => none

section

variable {Update Key Value : Type} [DecidableEq Key] (push : Push Update Key Value)

def Push.next (task : Task Update Key Value) : Event Update → Task Update Key Value
  | .emit update =>
    { task with
      queue := task.queue ++ [update]
      emitted := Function.update task.emitted (push.key update) (push.value update) }
  | .take connected count =>
    match task.queue with
    | [] => task
    | update :: rest =>
      if connected then
        { task with
          queue := rest
          accepted := Function.update task.accepted (push.key update)
            (((push.calls update).take count).foldl (fun held call => call held)
              (task.accepted (push.key update)))
          granted := (push.calls update).length ≤ count }
      else { task with queue := rest }

def Push.task (held : Key → Value) : Machine (Task Update Key Value) (Event Update) Empty where
  init := { emitted := held, accepted := held }
  next := push.next
  emit _ _ := []

/-- When nothing waits and the most recent call succeeded, syncd has what was asked for last. -/
def Task.CaughtUp (task : Task Update Key Value) : Prop :=
  task.queue = [] → task.granted = true → task.accepted = task.emitted

/-- The update that is taken gets through, or a later one for the same key waits. -/
def Push.Harmless (task : Task Update Key Value) : Event Update → Prop
  | .emit _ => True
  | .take connected count => ∀ update rest, task.queue = update :: rest →
    connected = true ∧ (push.calls update).length ≤ count ∨
      ∃ later ∈ rest, push.key later = push.key update

def Push.news (key : Key) (update : Update) : Option Value :=
  if push.key update = key then some (push.value update) else none

/-- Syncd will have what was asked for last, once the updates that wait have reached it. -/
def Push.InLine (task : Task Update Key Value) : Prop :=
  ∀ key, settled (push.news key) (task.accepted key) task.queue = task.emitted key

variable {push} {task : Task Update Key Value} {event : Event Update}

theorem Push.InLine.caughtUp (inLine : push.InLine task) : task.CaughtUp := by
  intro empty _
  funext key
  rw [← inLine key, empty, settled_nil]

theorem Push.next_emitted (connected count) :
    (push.next task (.take connected count)).emitted = task.emitted := by
  rw [Push.next]
  split <;> [rfl; split <;> rfl]

theorem Push.InLine.next (inLine : push.InLine task) (harmless : push.Harmless task event) :
    push.InLine (push.next task event) := by
  intro key
  have before := inLine key
  cases event with
  | emit update =>
    dsimp only [Push.next]
    rw [settled_concat, before, Push.news, Function.update_apply]
    by_cases hs : push.key update = key
    · rw [if_pos hs, if_pos hs.symm, Option.getD_some]
    · rw [if_neg hs, if_neg (Ne.symm hs), Option.getD_none]
  | take connected count =>
    cases waiting : task.queue with
    | nil => simpa [Push.next, waiting] using before
    | cons update rest =>
      have left : (push.next task (.take connected count)).queue = rest := by
        cases connected <;> simp [Push.next, waiting]
      rw [left, Push.next_emitted, ← before, waiting, settled_cons, Push.news]
      -- The state that syncd has does not matter if a later update overrides it.
      refine settled_congr fun silent => ?_
      split_ifs with hs
      · obtain ⟨rfl, enough⟩ | ⟨later, hl, sameKey⟩ := harmless update rest waiting
        · simp [Push.next, waiting, ← hs, List.take_of_length_le enough, push.made]
        · have unsaid := silent later hl
          rw [Push.news, if_pos (sameKey.trans hs)] at unsaid
          cases unsaid
      · cases connected <;> simp [Push.next, waiting, Ne.symm hs]

theorem Push.caughtUp_of_harmless {held : Key → Value} {events : List (Event Update)}
    (harmless : (push.task held).Throughout push.Harmless events) :
    (push.task held).Always Task.CaughtUp events := by
  have inLine := always_of_throughout (fun _ => rfl) (fun _ _ => Push.InLine.next) events harmless
  exact fun before after split => (inLine before after split).caughtUp

end

abbrev stpTask := pushStpStates.task fun _ => none

def stateUpdate? : Stp.Output → Option Stp.StateUpdate
  | .state update => some update
  | _ => none

theorem emitted_eq_replay {events : List (Event Stp.StateUpdate)} {outputs : List Stp.Output}
    (fed : events.filterMap Event.update? = outputs.filterMap stateUpdate?) (name : String) :
    (stpTask.run events).emitted name = (replay outputs)[name]?.map stpState := by
  have replayed : replay outputs = Std.ExtTreeMap.insertMany ∅
      ((outputs.filterMap stateUpdate?).map fun update => (update.port, update.state)) := by
    rw [List.map_filterMap, replay]
    congr 2
    funext output
    cases output <;> rfl
  rw [replayed, ← fed]
  clear fed replayed
  induction events using List.reverseRecOn with
  | nil => rfl
  | append_singleton events event ih =>
    rw [run_concat, List.filterMap_append, List.map_append]
    cases event with
    | emit update =>
      change Function.update (stpTask.run events).emitted update.port (stpState update.state) name =
        (Std.ExtTreeMap.insertMany ∅ (_ ++ [(update.port, update.state)]))[name]?.map stpState
      rw [Function.update_apply, ih, Std.ExtTreeMap.insertMany_concat, lookup_insert]
      simp only [eq_comm (a := name)]
      split_ifs <;> rfl
    | take connected count =>
      change _ = (Std.ExtTreeMap.insertMany ∅ (_ ++ []))[name]?.map stpState
      rw [List.append_nil, ← ih]
      exact congrFun (Push.next_emitted connected count) name

/-- No task loses an update in a run in which each update that does not get through is followed,
in the queue, by another one for the same key.  So the switch has the state of each port that
the spanning-tree engine holds after a pass. -/
theorem push_tasks_caughtUp (mac : Mac) (inputs : List Stp.Input) (now : Nat) :
    (∀ held events, (pushStpStates.task held).Throughout pushStpStates.Harmless events →
      (pushStpStates.task held).Always Task.CaughtUp events) ∧
    (∀ held events, (pushErrdisable.task held).Throughout pushErrdisable.Harmless events →
      (pushErrdisable.task held).Always Task.CaughtUp events) ∧
    (∀ held events, (pushL2mcGroups.task held).Throughout pushL2mcGroups.Harmless events →
      (pushL2mcGroups.task held).Always Task.CaughtUp events) ∧
    ∀ events, stpTask.Throughout pushStpStates.Harmless events → events.filterMap Event.update? =
        ((Stp.engine mac).sent (inputs ++ [⟨now, .step⟩])).filterMap stateUpdate? →
      (stpTask.run events).queue = [] → (stpTask.run events).granted = true →
      ∀ name, (stpTask.run events).accepted name =
        ((((Stp.engine mac).run (inputs ++ [⟨now, .step⟩])).ports[name]?).map Stp.Port.shown).map stpState := by
  refine ⟨fun _ _ => Push.caughtUp_of_harmless, fun _ _ => Push.caughtUp_of_harmless,
    fun _ _ => Push.caughtUp_of_harmless, fun events harmless fed empty granted name => ?_⟩
  have caughtUp := Push.caughtUp_of_harmless harmless events [] (List.append_nil _).symm
  rw [caughtUp empty granted, emitted_eq_replay fed, Stp.replay_of_pass]

/-- Syncd is away for the first update of a port while a second one waits. -/
theorem push_tasks_caughtUp_away : stpTask.Always Task.CaughtUp
    [.emit ⟨"Ethernet1", .forwarding⟩, .emit ⟨"Ethernet1", .discarding⟩, .take false 0, .take true 1] := by
  refine (push_tasks_caughtUp #v[2, 0, 0, 0, 0, 1] [] 0).1 _ ([] ++ [.emit _] ++ [.emit _] ++ [.take _ _] ++ [.take _ _]) ?_
  simp only [throughout_concat]
  refine ⟨⟨⟨⟨throughout_nil _ _, trivial⟩, trivial⟩, ?_⟩, ?_⟩
  · rintro update rest ⟨⟩
    exact .inr ⟨_, List.mem_singleton_self _, rfl⟩
  · rintro update rest ⟨⟩
    exact .inl ⟨rfl, Nat.le_refl _⟩

/-- Two links come up, and both go down again. -/
def twoLinks : List Stp.Input :=
  [⟨0, .setConfig { mode := .none }⟩, ⟨0, .link ⟨"Ethernet1", true, 1000⟩⟩,
    ⟨0, .link ⟨"Ethernet2", true, 1000⟩⟩, ⟨0, .step⟩, ⟨1, .link ⟨"Ethernet1", false, 0⟩⟩,
    ⟨1, .link ⟨"Ethernet2", false, 0⟩⟩, ⟨1, .step⟩]

def twoLinksEvents : List (Event Stp.StateUpdate) :=
  (((Stp.engine Stp.loopMac).sent twoLinks).filterMap stateUpdate?).map .emit

/-- The engine holds both ports Discarding.  Syncd is away when the update of one is taken and
accepts that of the other, and the first one still forwards. -/
theorem discarding_port_forwards :
    ((Stp.engine #v[2, 0, 0, 0, 0, 1]).run twoLinks).lastStates["Ethernet1"]? = some .discarding ∧
    (stpTask.run (twoLinksEvents ++
      [.take true 1, .take true 1, .take false 0, .take true 1])).accepted "Ethernet1" = some .forwarding ∧
    ¬ (stpTask.run (twoLinksEvents ++
      [.take true 1, .take true 1, .take false 0, .take true 1])).CaughtUp := by
  refine ⟨by decide +kernel, by decide +kernel, fun caughtUp => ?_⟩
  have same := congrFun (caughtUp (by decide +kernel) (by decide +kernel)) "Ethernet1"
  revert same
  decide +kernel

end Hemlock.Orch
