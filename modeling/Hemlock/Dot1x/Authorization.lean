import Hemlock.Library.Machine
import Hemlock.Library.OrderedMap
import Hemlock.Names

/-!
# The 802.1X engine

The engine tells syncd which ports are authorized, and only when something changes.  So
what syncd was told last about a port has to be what the engine holds.
-/

namespace Hemlock.Dot1x

open Machine OrderedMap Std.ExtTreeMap

structure Radius where
  ip : String
  key : String
  port : UInt16
  timeout : UInt16
  retransmit : UInt16
  deriving DecidableEq

structure Config where
  radius : List Radius := []
  reauthInterval : UInt32 := 0
  ports : Std.ExtTreeSet String compare := ∅
  deriving BEq, ReflBEq, LawfulBEq

structure PortState where
  authorized : Bool := false
  supplicant : Option String := none
  lastAuth : Option Nat := none
  failures : UInt32 := 0

structure Inner where
  config : Config := {}
  ports : NameMap PortState := ∅

inductive CtrlEvent where
  | authSuccess
  | authFailure
  | logoff
  deriving DecidableEq

inductive Input where
  | setConfig (config : Config)
  | event (event : CtrlEvent) (port mac : String) (now : Nat)

/-- The state after a call, the updates for syncd, and what hostapd has to be restarted with. -/
abbrev Outcome := Inner × List (String × Bool) × Option Config

section

variable (inner : Inner) (config : Config)

def Inner.stale : List String := inner.ports.keys.filter fun port => !config.ports.contains port

def Inner.kept : NameMap PortState := inner.ports.filter fun port _ => config.ports.contains port

def Inner.fresh : List String := config.ports.toList.filter fun port => (inner.kept config)[port]?.isNone

/-- New ports start unauthorized; ports that leave are authorized again. -/
def Inner.setConfig : Outcome :=
  if inner.config == config then (inner, [], none)
  else
    let changedProcess := inner.config.radius != config.radius ||
      inner.config.reauthInterval != config.reauthInterval || inner.config.ports != config.ports
    (⟨config, (inner.kept config).insertMany ((inner.fresh config).map (·, {}))⟩,
      (inner.stale config).map (·, true) ++ (inner.fresh config).map (·, false),
      if changedProcess then some config else none)

end

def PortState.hear (state : PortState) (mac : String) (now : Nat) : CtrlEvent → PortState
  | .authSuccess => { state with authorized := true, supplicant := some mac, lastAuth := some now }
  | .authFailure =>
    { state with
      authorized := false
      failures := state.failures + 1
      supplicant := if mac.isEmpty then none else some mac }
  | .logoff => { state with authorized := false, supplicant := none }

def Inner.handleEvent (inner : Inner) (event : CtrlEvent) (port mac : String) (now : Nat) : Outcome :=
  match inner.ports[port]? with
  | none => (inner, [], none)
  | some state =>
    let heard := state.hear mac now event
    ({ inner with ports := inner.ports.insert port heard },
      if heard.authorized = state.authorized then [] else [(port, heard.authorized)], none)

def Inner.step (inner : Inner) : Input → Outcome
  | .setConfig config => inner.setConfig config
  | .event event port mac now => inner.handleEvent event port mac now

def engine : Machine Inner Input (String × Bool) where
  init := {}
  next inner input := (inner.step input).1
  emit inner input := (inner.step input).2.1

/-- What syncd has been told, the last update for a port counting. -/
def told (inputs : List Input) : NameMap Bool := (∅ : NameMap Bool).insertMany (engine.sent inputs)

/-- The port stays configured, and no event is for it. -/
def Keeps (port : String) : Input → Prop
  | .setConfig config => port ∈ config.ports
  | .event _ port' _ _ => port' ≠ port

/-- The last event for a port since it was added is a success. -/
def Succeeded (port : String) (inputs : List Input) : Prop :=
  ∃ before mac now after, inputs = before ++ .event .authSuccess port mac now :: after ∧
    port ∈ (engine.run before).config.ports ∧ ∀ input ∈ after, Keeps port input

def Inner.flag (inner : Inner) (port : String) : Option Bool := inner.ports[port]?.map PortState.authorized

/-- What an input makes of the flag of a port. -/
def stands (port : String) (flag : Option Bool) : Input → Option Bool
  | .setConfig config => if config.ports.contains port then some (flag.getD false) else none
  | .event event port' _ _ => if port' = port then flag.map fun _ => event = .authSuccess else flag

variable {inner : Inner} {port : String} {mirror : NameMap Bool}

theorem Inner.mem_stale {config : Config} : port ∈ inner.stale config ↔
    (inner.flag port).isSome = true ∧ config.ports.contains port = false := by
  simp [stale, flag]

theorem Inner.kept_lookup {config : Config} : (inner.kept config)[port]? =
    if config.ports.contains port then inner.ports[port]? else none := by
  rw [kept, getElem?_filter']
  cases inner.ports[port]? <;> simp [Option.filter]

theorem Inner.mem_fresh {config : Config} : port ∈ inner.fresh config ↔
    config.ports.contains port = true ∧ inner.flag port = none := by
  rw [fresh, List.mem_filter, kept_lookup, Std.ExtTreeSet.mem_toList, ← Std.ExtTreeSet.contains_iff_mem]
  refine and_congr_right fun listed => ?_
  rw [if_pos listed]
  simp [flag]

/-- What a step makes of a port, and what it tells syncd about it. -/
structure Steps (port : String) (mirror : NameMap Bool) (inner : Inner) (input : Input)
    (outcome : Outcome) : Prop where
  flag : outcome.1.flag port = stands port (inner.flag port) input
  listed : (outcome.1.flag port).isSome = outcome.1.config.ports.contains port
  news : (mirror.insertMany outcome.2.1)[port]? =
    (outcome.1.flag port).or (((inner.flag port).map fun _ => true).or mirror[port]?)

section

variable (listed : (inner.flag port).isSome = inner.config.ports.contains port)
  (right : ∀ authorized, inner.flag port = some authorized → mirror[port]? = some authorized)
include listed right

theorem Steps.of_same {input : Input} {outcome : Outcome} (flag : outcome.1.flag port = inner.flag port)
    (config : outcome.1.config = inner.config)
    (quiet : (mirror.insertMany outcome.2.1)[port]? = mirror[port]?)
    (stands : stands port (inner.flag port) input = inner.flag port) :
    Steps port mirror inner input outcome := by
  refine ⟨flag.trans stands.symm, by rw [flag, config, listed], ?_⟩
  rw [quiet, flag]
  cases hf : inner.flag port with
  | none => rfl
  | some authorized => exact right authorized hf

theorem setConfig_steps (config : Config) :
    Steps port mirror inner (.setConfig config) (inner.setConfig config) := by
  unfold Inner.setConfig
  by_cases same : inner.config == config
  · rw [if_pos same]
    refine .of_same listed right rfl rfl (by rw [insertMany_nil]) ?_
    rw [stands, ← eq_of_beq same, ← listed]
    cases inner.flag port <;> rfl
  · have flag : Inner.flag ⟨config, (inner.kept config).insertMany ((inner.fresh config).map (·, {}))⟩ port =
        if config.ports.contains port then some ((inner.flag port).getD false) else none := by
      rw [Inner.flag, getElem?_insertMany_const, if_congr Inner.mem_fresh rfl rfl, Inner.kept_lookup]
      unfold Inner.flag
      cases config.ports.contains port <;> cases inner.ports[port]? <;> rfl
    rw [if_neg same]
    refine ⟨flag, ?_, ?_⟩ <;> dsimp only <;> rw [flag]
    · cases config.ports.contains port <;> rfl
    · rw [insertMany_append, getElem?_insertMany_const, getElem?_insertMany_const,
        if_congr Inner.mem_fresh rfl rfl, if_congr Inner.mem_stale rfl rfl]
      cases hf : inner.flag port with
      | none => cases config.ports.contains port <;> rfl
      | some authorized =>
        rw [right authorized hf]
        cases config.ports.contains port <;> rfl

theorem handleEvent_steps (event : CtrlEvent) (name mac : String) (now : Nat) :
    Steps port mirror inner (.event event name mac now) (inner.handleEvent event name mac now) := by
  unfold Inner.handleEvent
  by_cases isPort : name = port
  · subst isPort
    cases hf : inner.ports[name]? with
    | none =>
      refine .of_same listed right rfl rfl (by rw [insertMany_nil]) ?_
      rw [stands, if_pos rfl, Inner.flag, hf]
      rfl
    | some state =>
      have before : inner.flag name = some state.authorized := congrArg (Option.map _) hf
      have authorized : (state.hear mac now event).authorized = decide (event = .authSuccess) := by
        cases event <;> rfl
      have after : Inner.flag { inner with ports := inner.ports.insert name (state.hear mac now event) } name =
          some (decide (event = .authSuccess)) := by
        rw [Inner.flag, getElem?_insert_self, Option.map_some, authorized]
      refine ⟨?_, ?_, ?_⟩ <;> dsimp only <;> rw [after]
      · rw [stands, if_pos rfl, before]
        rfl
      · rw [← listed, before]
        rfl
      · rw [authorized]
        split_ifs with same
        · rw [insertMany_nil, right _ before, same]
          rfl
        · rw [insertMany_list_singleton, getElem?_insert_self]
          rfl
  · have stands : stands port (inner.flag port) (.event event name mac now) = inner.flag port := if_neg isPort
    cases inner.ports[name]? with
    | none => exact .of_same listed right rfl rfl (by rw [insertMany_nil]) stands
    | some state =>
      refine .of_same listed right ?_ rfl ?_ stands
      · rw [Inner.flag, lookup_insert, if_neg isPort]
        rfl
      · dsimp only
        split_ifs
        · rw [insertMany_nil]
        · rw [insertMany_list_singleton, lookup_insert, if_neg isPort]

end

theorem succeeded_concat {inputs : List Input} {input : Input} : Succeeded port (inputs ++ [input]) ↔
    (∃ mac now, input = .event .authSuccess port mac now ∧ port ∈ (engine.run inputs).config.ports) ∨
      Succeeded port inputs ∧ Keeps port input := by
  constructor
  · rintro ⟨before, mac, now, after, split, listed, keeps⟩
    cases after using List.reverseRecOn with
    | nil =>
      obtain ⟨rfl, isLast⟩ := List.append_inj' split rfl
      exact .inl ⟨mac, now, List.singleton_inj.mp isLast, listed⟩
    | append_singleton after last _ =>
      rw [← List.cons_append, ← List.append_assoc] at split
      obtain ⟨rfl, isLast⟩ := List.append_inj' split rfl
      obtain rfl := List.singleton_inj.mp isLast
      rw [List.forall_mem_append, List.forall_mem_singleton] at keeps
      exact .inr ⟨⟨before, mac, now, after, rfl, listed, keeps.1⟩, keeps.2⟩
  · rintro (⟨mac, now, rfl, listed⟩ | ⟨⟨before, mac, now, after, rfl, listed, keeps⟩, last⟩)
    · exact ⟨inputs, mac, now, [], rfl, listed, by simp⟩
    · refine ⟨before, mac, now, after ++ [input], by simp, listed, ?_⟩
      exact List.forall_mem_append.mpr ⟨keeps, List.forall_mem_singleton.mpr last⟩

/-- The engine's flag for a port, what syncd was told and what the inputs say agree. -/
structure Mirrored (port : String) (inputs : List Input) : Prop where
  flag : (engine.run inputs).flag port = some true ↔ Succeeded port inputs
  listed : ((engine.run inputs).flag port).isSome = (engine.run inputs).config.ports.contains port
  right : ∀ authorized, (engine.run inputs).flag port = some authorized →
    (told inputs)[port]? = some authorized
  gone : (engine.run inputs).flag port = none → ∀ config, .setConfig config ∈ inputs →
    port ∈ config.ports → (told inputs)[port]? = some true

theorem mirrored (port : String) (inputs : List Input) : Mirrored port inputs := by
  induction inputs using List.reverseRecOn with
  | nil => exact ⟨by simp [engine, Inner.flag, Succeeded], rfl, by simp [engine, Inner.flag], by simp⟩
  | append_singleton inputs input ih =>
    obtain ⟨flag, listed, right, gone⟩ := ih
    have steps : Steps port (told inputs) (engine.run inputs) input ((engine.run inputs).step input) := by
      cases input with
      | setConfig config => exact setConfig_steps listed right config
      | event event name mac now => exact handleEvent_steps listed right event name mac now
    have news := steps.news
    have more : told (inputs ++ [input]) = (told inputs).insertMany ((engine.run inputs).step input).2.1 := by
      rw [told, sent_concat, insertMany_append]
      rfl
    have ran : engine.run (inputs ++ [input]) = ((engine.run inputs).step input).1 := run_concat ..
    constructor <;> rw [ran]
    · rw [steps.flag, succeeded_concat, ← flag, ← Std.ExtTreeSet.contains_iff_mem, ← listed]
      cases input with
      | setConfig config =>
        cases (engine.run inputs).flag port <;> simp [stands, Keeps, and_comm]
      | event event name mac now =>
        by_cases isPort : name = port
        · cases (engine.run inputs).flag port <;> simp [stands, Keeps, isPort]
        · simp [stands, Keeps, isPort]
    · exact steps.listed
    · intro authorized hf
      rw [more, news, hf]
      rfl
    · intro hn config hm lists
      rw [more, news, hn]
      cases hf : (engine.run inputs).flag port with
      | some authorized => rfl
      | none =>
        rcases List.mem_append.mp hm with earlier | last
        · exact gone hf config earlier lists
        · obtain rfl := List.mem_singleton.mp last
          have added := steps.flag.symm.trans hn
          rw [stands, if_pos (Std.ExtTreeSet.contains_iff_mem.mpr lists)] at added
          cases added

end Hemlock.Dot1x
