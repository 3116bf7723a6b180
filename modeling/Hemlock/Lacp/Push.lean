import Hemlock.Intent.Diffs
import Hemlock.Lacp.Gates
import Hemlock.Library.Refusal

/-!
# Where the engine's configurations come from

The management daemon assembles every channel group from the intents and pushes them in one
request; the orchestrator checks the request and hands it to the engine.  A port has one
`channel-group`, so no push lists it in two groups, which is what the gate invariant needs.
-/

namespace Hemlock.Lacp

open Machine OrderedMap Refusal Std.ExtTreeMap
open Intent (Intents InterfaceIntent LacpMode LagEnsure LagFallback PortLacpIntent addMember lagState)

structure LacpMemberMessage where
  port : String
  mode : Int
  rateFast : Bool
  portPriority : UInt32

structure LagMessage where
  group : UInt32
  minLinks : UInt32
  fallback : Int
  fallbackTimeoutSecs : UInt32
  members : List LacpMemberMessage

structure SetLagConfigsRequest where
  lags : List LagMessage
  systemPriority : UInt32

def wireMode : LacpMode → Int
  | .active => 1
  | .passive => 2
  | .on => 3

def wireFallback : Option LagFallback → Int
  | none => 1
  | some .static => 2
  | some .individual => 3

def memberMessage (port : String) (mode : LacpMode) (lacp : PortLacpIntent) : LacpMemberMessage where
  port := port
  mode := wireMode mode
  rateFast := lacp.rateFast
  portPriority := (lacp.portPriority.getD 32768).toUInt32

def lagMessage (group : UInt16) (ensure : LagEnsure) : LagMessage where
  group := group.toUInt32
  minLinks := (ensure.lag.minLinks.getD 0).toUInt32
  fallback := wireFallback ensure.lag.fallback
  fallbackTimeoutSecs := (ensure.lag.fallbackTimeout.getD 90).toUInt32
  members := ensure.members.toList.map fun (port, mode, lacp) => memberMessage port mode lacp

def pushLagConfigs (wanted : Intents) : SetLagConfigsRequest where
  lags := (lagState wanted).toList.map fun (group, ensure) => lagMessage group ensure
  systemPriority := (wanted.lacp.systemPriority.getD 32768).toUInt32

def u16Of (value : UInt32) : Option UInt16 :=
  if value.toNat < 65536 then some value.toUInt16 else none

def u8Of (value : UInt32) : Option UInt8 :=
  if value.toNat < 256 then some value.toUInt8 else none

def orError {Value : Type} (message : String) : Option Value → Except String Value
  | some value => .ok value
  | none => .error message

/-- A priority; 0 asks for the default. -/
def priorityOf (value : UInt32) (message : String) : Except String UInt16 :=
  if value = 0 then .ok 32768 else orError message (u16Of value)

def LacpMemberMessage.entry (message : LacpMemberMessage) : Except String (String × MemberConfig) := do
  let mode ← match message.mode with
    | 1 => Except.ok Mode.active
    | 2 => Except.ok Mode.passive
    | 3 => Except.ok Mode.on
    | _ => Except.error "unspecified lacp mode"
  let portPriority ← priorityOf message.portPriority "bad port-priority"
  return (message.port,
    { mode := mode, rateFast := message.rateFast, portPriority := portPriority })

def LagMessage.config (message : LagMessage) : Except String LagConfig := do
  let group ← orError s!"bad group {message.group}"
    ((u16Of message.group).filter fun group => 1 ≤ group && group ≤ 64)
  let members ← message.members.mapM LacpMemberMessage.entry
  let minLinks ← orError "bad min-links" (u8Of message.minLinks)
  return {
    group := group
    minLinks := minLinks
    fallback := match message.fallback with
      | 2 => some .static
      | 3 => some .individual
      | _ => none
    fallbackTimeout := secs
      (if message.fallbackTimeoutSecs = 0 then 90 else message.fallbackTimeoutSecs.toNat)
    members := (∅ : NameMap MemberConfig).insertMany members }

def setLagConfigs (request : SetLagConfigsRequest) : Except String (UInt16 × List LagConfig) := do
  let systemPriority ← priorityOf request.systemPriority "bad system-priority"
  let configs ← request.lags.mapM LagMessage.config
  return (systemPriority, configs)

/-! What the engine is meant to get: the intents, with 0 for the default priority and timeout. -/

def orDefaultPriority (priority : UInt16) : UInt16 := if priority = 0 then 32768 else priority

def engineMode : LacpMode → Mode
  | .active => .active
  | .passive => .passive
  | .on => .on

def engineFallback : LagFallback → Fallback
  | .static => .static
  | .individual => .individual

def memberConfig (mode : LacpMode) (lacp : PortLacpIntent) : MemberConfig where
  mode := engineMode mode
  rateFast := lacp.rateFast
  portPriority := orDefaultPriority (lacp.portPriority.getD 32768)

def lagConfig (group : UInt16) (ensure : LagEnsure) : LagConfig where
  group := group
  minLinks := ensure.lag.minLinks.getD 0
  fallback := ensure.lag.fallback.map engineFallback
  fallbackTimeout :=
    let timeout := ensure.lag.fallbackTimeout.getD 90
    secs (if timeout = 0 then 90 else timeout.toNat)
  members := ensure.members.map fun _ (mode, lacp) => memberConfig mode lacp

def engineConfigs (intents : Intents) : List LagConfig :=
  (lagState intents).toList.map fun (group, ensure) => lagConfig group ensure

theorem u16Of_toUInt32 (value : UInt16) : u16Of value.toUInt32 = some value := by
  have small : value.toUInt32.toNat < 65536 := value.toNat_lt
  rw [u16Of, if_pos small, UInt16.toUInt16_toUInt32]

theorem u8Of_toUInt32 (value : UInt8) : u8Of value.toUInt32 = some value := by
  have small : value.toUInt32.toNat < 256 := value.toNat_lt
  rw [u8Of, if_pos small, UInt8.toUInt8_toUInt32]

theorem toUInt32_eq_zero (value : UInt16) : value.toUInt32 = 0 ↔ value = 0 :=
  @UInt16.toUInt32_inj value 0

theorem priorityOf_toUInt32 (priority : UInt16) (message : String) :
    priorityOf priority.toUInt32 message = .ok (orDefaultPriority priority) := by
  unfold priorityOf orDefaultPriority
  simp only [toUInt32_eq_zero, u16Of_toUInt32]
  split_ifs <;> rfl

theorem entry_memberMessage (port : String) (mode : LacpMode) (lacp : PortLacpIntent) :
    (memberMessage port mode lacp).entry = .ok (port, memberConfig mode lacp) := by
  unfold LacpMemberMessage.entry memberMessage
  rw [priorityOf_toUInt32]
  cases mode <;> rfl

theorem config_lagMessage (group : UInt16) (ensure : LagEnsure) :
    (lagMessage group ensure).config = if 1 ≤ group ∧ group ≤ 64 then .ok (lagConfig group ensure)
      else .error s!"bad group {group.toUInt32}" := by
  have members : (lagMessage group ensure).members.mapM LacpMemberMessage.entry =
      .ok (ensure.members.toList.map fun entry => (entry.1, memberConfig entry.2.1 entry.2.2)) := by
    rw [lagMessage, List.mapM_map]
    simp only [Function.comp_def, entry_memberMessage]
    exact List.mapM_pure
  have minLinks : u8Of (lagMessage group ensure).minLinks = some (ensure.lag.minLinks.getD 0) :=
    u8Of_toUInt32 _
  have isGroup : u16Of (lagMessage group ensure).group = some group := u16Of_toUInt32 group
  unfold LagMessage.config
  rw [members, minLinks, isGroup, Option.filter_some]
  by_cases valid : 1 ≤ group ∧ group ≤ 64
  · rw [if_pos valid, if_pos (by simpa using valid)]
    refine congrArg Except.ok ?_
    simp only [lagConfig, LagConfig.mk.injEq, true_and]
    refine ⟨?_, ?_, ?_⟩
    · dsimp only [lagMessage]
      rcases ensure.lag.fallback with _ | _ | _ <;> rfl
    · simp only [lagMessage, toUInt32_eq_zero, UInt16.toNat_toUInt32]
    · exact insertMany_map_toList ensure.members fun _ entry => memberConfig entry.1 entry.2
  · rw [if_neg valid, if_neg (by simpa using valid)]
    rfl

def groupOf (intents : Intents) (name : String) : Option UInt16 :=
  intents.ports[name]?.bind fun port => port.channelGroup.map (·.group)

/-- A group lists only ports whose channel group it is. -/
def Grouped (intents : Intents) (lags : GroupMap LagEnsure) : Prop :=
  ∀ group, ∀ name ∈ (lags.getD group {}).members, groupOf intents name = some group

variable {intents : Intents}

theorem Grouped.addMember {lags : GroupMap LagEnsure} (grouped : Grouped intents lags) {name : String}
    {port : InterfaceIntent} (configured : intents.ports[name]? = some port) :
    Grouped intents (addMember lags name port) := by
  intro group other lists
  unfold Intent.addMember at lists
  split at lists
  case h_1 => exact grouped group other lists
  case h_2 channel isChannel =>
    rw [getD_insert] at lists
    split_ifs at lists with isGroup
    · cases Std.LawfulEqCmp.eq_of_compare isGroup
      rcases member_insert.mp lists with rfl | earlier
      · simp [groupOf, configured, isChannel]
      · exact grouped _ other earlier
    · exact grouped group other lists

theorem grouped_lagState : Grouped intents (lagState intents) := by
  apply List.foldlRecOn
  · intro group name lists
    rw [getD_eq_getD_getElem?, getElem?_map] at lists
    cases intents.lags[group]? <;> simp at lists
  · intro lags grouped entry hl
    exact grouped.addMember (mem_toList_iff_getElem?_eq_some.mp hl)

theorem oneGroup_engineConfigs (name : String) : OneGroup name (engineConfigs intents) := by
  have origin {config : LagConfig} (pushed : config ∈ engineConfigs intents) (lists : name ∈ config.members) :
      groupOf intents name = some config.group := by
    obtain ⟨entry, hl, rfl⟩ := List.mem_map.mp pushed
    refine grouped_lagState entry.1 name ?_
    rw [getD_eq_getD_getElem?, mem_toList_iff_getElem?_eq_some.mp hl]
    exact mem_map.mp lists
  intro config pushed config' pushed' lists lists'
  exact Option.some.inj ((origin pushed lists).symm.trans (origin pushed' lists'))

theorem mapM_config {configs : List LagConfig} :
    (pushLagConfigs intents).lags.mapM LagMessage.config = .ok configs ↔
      (∀ entry ∈ (lagState intents).toList, 1 ≤ entry.1 ∧ entry.1 ≤ 64) ∧
        configs = engineConfigs intents := by
  rw [pushLagConfigs, List.mapM_map]
  refine mapM_eq_ok_iff fun entry config => ?_
  rw [Function.comp_apply, config_lagMessage]
  split_ifs with valid <;> simp [valid, eq_comm]

end Hemlock.Lacp
