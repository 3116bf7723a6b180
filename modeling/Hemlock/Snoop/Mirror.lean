import Hemlock.Snoop.Membership

/-!
# The mirror of the group table

syncd learns the group table from the updates alone.  The engine's record of what
it pushed is what the updates add up to, and a pass brings it in line with the
live members and the multicast routers.
-/

namespace Hemlock.Snoop

open Machine Net Reconcile OrderedMap Snoop.Inner VlanState

def addGroup (vlan : UInt16) (group : IpAddr) (known : Option (List String)) :
    Output → Option (List String)
  | .group update =>
    if update.vlan = vlan ∧ update.group = group then
      if update.remove then none else some update.ports
    else known
  | _ => known

/-- The entry of a group after all the group updates among some outputs. -/
def groupEntry (outputs : List Output) (vlan : UInt16) (group : IpAddr) : Option (List String) :=
  outputs.foldl (addGroup vlan group) none

def addScope (vlan : UInt16) (known : Option (Bool × List String)) :
    Output → Option (Bool × List String)
  | .mrouters update => if update.vlan = vlan then some (update.restrict, update.ports) else known
  | _ => known

def scopeEntry (outputs : List Output) (vlan : UInt16) : Option (Bool × List String) :=
  outputs.foldl (addScope vlan) none

theorem foldl_addGroup_groupUpdate (vlan vlan' : UInt16) (group : IpAddr)
    (updates : List (IpAddr × Option (List String))) (hk : Option (List String)) :
    (updates.map (groupUpdate vlan')).foldl (addGroup vlan group) hk =
      if vlan' = vlan then latest group hk updates else hk := by
  induction updates generalizing hk with
  | nil => simp [latest]
  | cons update updates ih =>
    obtain ⟨heard, ports⟩ := update
    rw [List.map_cons, List.foldl_cons, ih]
    by_cases here : vlan' = vlan
    · subst here
      cases ports <;> simp [groupUpdate, addGroup, latest]
    · cases ports <;> simp [groupUpdate, addGroup, here]

def Inner.expired (inner : Inner) (vlan : UInt16) (now : Nat) : VlanState :=
  (inner.state vlan).expire inner.config (inner.config.vlanEnabled vlan) now

theorem Inner.expired_pushed (inner : Inner) (vlan : UInt16) (now : Nat) :
    (inner.expired vlan now).pushedGroups = (inner.state vlan).pushedGroups ∧
      (inner.expired vlan now).pushedMrouters = (inner.state vlan).pushedMrouters := by
  unfold expired expire
  split_ifs <;> exact ⟨rfl, rfl⟩

theorem Inner.evaluate_pushedGroups (inner : Inner) (vlan : UInt16) (now : Nat) :
    (inner.evaluate vlan now).1.pushedGroups = (inner.expired vlan now).wanted (inner.mrouters vlan now) :=
  reconciled_of_trusted (trusted_self _ _) fun _ hl => hl

theorem Inner.evaluate_pushedMrouters (inner : Inner) (vlan : UInt16) (now : Nat) :
    (inner.evaluate vlan now).1.pushedMrouters =
      some (inner.config.scope vlan (inner.mrouters vlan now)) := rfl

variable {vlan : UInt16} {outputs : List Output}

theorem foldl_of_quiet {Entry : Type} {add : Option Entry → Output → Option Entry} {hk : Option Entry}
    (quiet : ∀ output ∈ outputs, add hk output = hk) : outputs.foldl add hk = hk := by
  apply List.foldlRecOn outputs add (motive := fun entry => entry = hk) rfl
  rintro entry rfl
  exact quiet

theorem Inner.foldl_addGroup_evaluate (inner : Inner) (vlan vlan' : UInt16) (group : IpAddr)
    (now : Nat) : (inner.evaluate vlan' now).2.foldl (addGroup vlan group)
        (inner.state vlan).pushedGroups[group]? =
      if vlan' = vlan then (inner.evaluate vlan now).1.pushedGroups[group]?
      else (inner.state vlan).pushedGroups[group]? := by
  simp only [evaluate, List.foldl_append, foldl_addGroup_groupUpdate]
  rw [foldl_of_quiet, foldl_of_quiet]
  · split_ifs with here
    · subst here
      have pushed := inner.evaluate_pushedGroups vlan' now
      simp only [evaluate] at pushed
      rw [pushed, ← expired, (inner.expired_pushed vlan' now).1, latest_changes]
    · rfl
  all_goals split_ifs <;> simp [addGroup]

theorem Inner.foldl_addScope_evaluate (inner : Inner) (vlan vlan' : UInt16) (now : Nat) :
    (inner.evaluate vlan' now).2.foldl (addScope vlan) (inner.state vlan).pushedMrouters =
      if vlan' = vlan then (inner.evaluate vlan now).1.pushedMrouters
      else (inner.state vlan).pushedMrouters := by
  simp only [evaluate, List.foldl_append]
  rw [foldl_of_quiet, List.foldl_map,
    List.foldl_fixed' (f := fun known update => addScope vlan known (groupUpdate vlan' update))]
  · have hs := (inner.expired_pushed vlan' now).2
    rw [expired] at hs
    split_ifs with hu here here
    · subst here
      rw [← hs, hu]
      rfl
    · rfl
    · subst here
      simp [addScope]
    · simp [addScope, here]
  · rintro ⟨group, _ | ports⟩ <;> rfl
  · split_ifs <;> simp [addScope]

structure Mirrors (inner : Inner) (outputs : List Output) : Prop where
  groups : ∀ vlan group, groupEntry outputs vlan group = (inner.state vlan).pushedGroups[group]?
  scopes : ∀ vlan, scopeEntry outputs vlan = (inner.state vlan).pushedMrouters

variable {sent : List Output}

theorem Mirrors.visit {pass : Inner × List Output} (mirrors : Mirrors pass.1 (sent ++ pass.2))
    (now : Nat) (vlan' : UInt16) :
    Mirrors (Inner.visit now pass vlan').1 (sent ++ (Inner.visit now pass vlan').2) where
  groups vlan group := by
    rw [Inner.visit_state]
    simp only [Inner.visit]
    rw [groupEntry, ← List.append_assoc, List.foldl_append, ← groupEntry, mirrors.groups,
      Inner.foldl_addGroup_evaluate]
    split_ifs <;> rfl
  scopes vlan := by
    rw [Inner.visit_state]
    simp only [Inner.visit]
    rw [scopeEntry, ← List.append_assoc, List.foldl_append, ← scopeEntry, mirrors.scopes,
      Inner.foldl_addScope_evaluate]
    split_ifs <;> rfl

variable {inner : Inner}

theorem Mirrors.step (mirrors : Mirrors inner sent) (now : Nat) :
    Mirrors (inner.step now).1 (sent ++ (inner.step now).2) := by
  apply List.foldlRecOn _ (Inner.visit now) (motive := fun pass => Mirrors pass.1 (sent ++ pass.2))
  · rwa [List.append_nil]
  · intro pass held vlan _
    exact held.visit now vlan

theorem VlanState.hear_pushed (state : VlanState) (fastLeave : Bool) (ourSource : IpAddr)
    (port : String) (now : Nat) (message : Message) :
    (state.hear fastLeave ourSource port now message).pushedGroups = state.pushedGroups ∧
      (state.hear fastLeave ourSource port now message).pushedMrouters = state.pushedMrouters := by
  cases message with
  | report _ _ | query _ => exact ⟨rfl, rfl⟩
  | leave group =>
    simp only [hear]
    split
    · exact ⟨rfl, rfl⟩
    · split_ifs
      · exact ⟨rfl, rfl⟩
      · split <;> exact ⟨rfl, rfl⟩

theorem Mirrors.applyMessage (mirrors : Mirrors inner sent) (port : String) (vlan' : UInt16)
    (now : Nat) (message : Message) : Mirrors (inner.applyMessage port vlan' now message) sent where
  groups vlan group := by
    rw [mirrors.groups, Inner.applyMessage, Inner.state_insert]
    split_ifs with here
    · rw [(hear_pushed _ _ _ _ _ _).1, here]
    · rfl
  scopes vlan := by
    rw [mirrors.scopes, Inner.applyMessage, Inner.state_insert]
    split_ifs with here
    · rw [(hear_pushed _ _ _ _ _ _).2, here]
    · rfl

theorem Mirrors.next (mirrors : Mirrors inner sent) (input : Input) :
    Mirrors (inner.next input) (sent ++ inner.emit input) := by
  obtain ⟨now, event⟩ := input
  cases event with
  | step => exact mirrors.step now
  | setConfig _ | setVlanPorts _ =>
    rw [Inner.emit, List.append_nil]
    exact ⟨mirrors.groups, mirrors.scopes⟩
  | frame port vlan bytes =>
    rw [Inner.emit, List.append_nil]
    simp only [Inner.next, Inner.frameIn]
    split_ifs
    · apply List.foldlRecOn _ _ (motive := fun inner' => Mirrors inner' sent) mirrors
      intro inner' held message _
      exact held.applyMessage port vlan now message
    · exact mirrors

theorem mirrors_of_run (family : Family) (systemMac : Mac) (inputs : List Input) :
    Mirrors ((engine family systemMac).run inputs) ((engine family systemMac).sent inputs) := by
  induction inputs using List.reverseRecOn with
  | nil => exact ⟨fun _ _ => rfl, fun _ => rfl⟩
  | append_singleton inputs input ih =>
    rw [run_concat, sent_concat]
    exact ih.next input

/-- The multicast routers a state gives under a configuration. -/
def VlanState.routers (state : VlanState) (config : Config) (vlan : UInt16) : List String :=
  sortDedup ((config.ofVlan vlan).staticMrouters ++ state.dynMrouters.keys)

/-- A state whose pushes are up to date with its tables. -/
structure VlanState.Settled (config : Config) (vlan : UInt16) (state : VlanState) : Prop where
  occupied : ∀ (group : IpAddr) members,
    state.groups[group]? = some members → members.isEmpty = false
  groups : state.pushedGroups = state.wanted (state.routers config vlan)
  scope : (∃ ports, state.pushedMrouters = some (true, ports)) ↔ config.vlanEnabled vlan = true ∧
      (state.routers config vlan ≠ [] ∨ (config.ofVlan vlan).querier = true)

theorem VlanState.wanted_of_disabled {config : Config} (disabled : ¬ config.vlanEnabled vlan = true)
    (state : VlanState) (now : Nat) (routers : List String) :
    (state.expire config (config.vlanEnabled vlan) now).wanted routers = ∅ := by
  apply ext_getElem?
  intro group
  simp [wanted, expire, disabled]

theorem Inner.evaluate_routers (inner : Inner) (vlan : UInt16) (now : Nat)
    (enabled : inner.config.vlanEnabled vlan = true) :
    (inner.evaluate vlan now).1.routers inner.config vlan = inner.mrouters vlan now := by
  simp only [routers, mrouters, evaluate, expire, enabled, if_true]

theorem Inner.evaluate_settled (inner : Inner) (vlan : UInt16) (now : Nat) :
    (inner.evaluate vlan now).1.Settled inner.config vlan where
  occupied := by
    intro group members hk
    simp only [evaluate, expire, getElem?_filter', Option.filter_eq_some_iff] at hk
    simpa using hk.2
  groups := by
    rw [inner.evaluate_pushedGroups]
    by_cases enabled : inner.config.vlanEnabled vlan = true
    · rw [← inner.evaluate_routers vlan now enabled]
      rfl
    · have shed := wanted_of_disabled enabled (inner.state vlan) now
      exact (shed _).trans (shed _).symm
  scope := by
    rw [inner.evaluate_pushedMrouters]
    by_cases enabled : inner.config.vlanEnabled vlan = true
    · rw [inner.evaluate_routers vlan now enabled]
      simp [Config.scope]
    · simp [Config.scope, enabled]

theorem Inner.foldl_visit_settled {now : Nat} (vlans : List UInt16) (pass : Inner × List Output)
    (visited : vlan ∈ vlans) :
    ((vlans.foldl (visit now) pass).1.state vlan).Settled pass.1.config vlan := by
  induction vlans using List.reverseRecOn with
  | nil => cases visited
  | append_singleton vlans last ih =>
    have hu := (foldl_visit_settings now vlans pass).1
    rw [List.foldl_append, List.foldl_cons, List.foldl_nil, visit_state]
    split_ifs with hs
    · rw [← hu]
      exact evaluate_settled _ vlan now
    · apply ih
      simpa [Ne.symm hs] using visited

theorem Inner.foldl_visit_unvisited {now : Nat} (vlans : List UInt16) (pass : Inner × List Output)
    (unvisited : vlan ∉ vlans) : (vlans.foldl (visit now) pass).1.state vlan = pass.1.state vlan := by
  apply List.foldlRecOn vlans (visit now)
    (motive := fun pass' => pass'.1.state vlan = pass.1.state vlan) rfl
  intro pass' held vlan' hl
  rw [visit_state, if_neg (ne_of_mem_of_not_mem hl unvisited), held]

theorem Config.ofVlan_of_unknown {config : Config} (hu : vlan ∉ config.vlans.keys) :
    config.ofVlan vlan = {} := by
  rw [Config.ofVlan, getElem?_eq_none (by simpa using hu), Option.getD_none]

theorem Inner.step_settled (inner : Inner) (now : Nat) (vlan : UInt16) :
    ((inner.step now).1.state vlan).Settled inner.config vlan := by
  by_cases hk : vlan ∈ inner.vlans.keys ++ inner.config.vlans.keys
  · exact foldl_visit_settled _ (inner, []) hk
  · have unconfigured : inner.config.ofVlan vlan = {} :=
      Config.ofVlan_of_unknown fun hl => hk (List.mem_append_right _ hl)
    rw [step, foldl_visit_unvisited _ _ hk, state_of_unknown hk]
    refine ⟨?_, ?_, ?_⟩
    · simp
    · simp [wanted]
    · simp [routers, unconfigured, sortDedup]

theorem mem_sortDedup {names : List String} {name : String} : name ∈ sortDedup names ↔ name ∈ names := by
  simp [sortDedup]

namespace VlanState.Settled

variable {config : Config} {vlan : UInt16} {state : VlanState}
  (settled : state.Settled config vlan) (group : IpAddr)

include settled

theorem pushed_none_iff : state.pushedGroups[group]? = none ↔ ∀ port, state.member group port = none := by
  rw [settled.groups, wanted, getElem?_map, Option.map_eq_none_iff]
  constructor
  · intro ha port
    rw [member, ha, Option.bind_none]
  · intro nobody
    cases hk : state.groups[group]? with
    | none => rfl
    | some members =>
      have empty : members = ∅ := by
        apply ext_getElem?
        intro port
        rw [← member_of_groups hk, nobody port, getElem?_empty]
      have occupied := settled.occupied group members hk
      rw [empty] at occupied
      cases occupied

theorem mem_pushed {ports : List String} (pushed : state.pushedGroups[group]? = some ports)
    (port : String) :
    port ∈ ports ↔ (state.member group port).isSome = true ∨ port ∈ state.routers config vlan := by
  rw [settled.groups, wanted, getElem?_map, Option.map_eq_some_iff] at pushed
  obtain ⟨members, hk, rfl⟩ := pushed
  rw [member_of_groups hk, mem_sortDedup, List.mem_append, mem_keys, mem_iff_isSome_getElem?]

end VlanState.Settled

section Spec

variable (family : Family) (inputs : List Input) (now : Nat) (vlan : UInt16)

/-- The port has reported the group, and no pass since then has dropped the membership:
none found snooping off, the report older than the hold time of that moment, or a leave
past its grace. -/
def LiveMember (group : IpAddr) (port : String) : Prop :=
  ∃ member, (membership vlan group).follow family vlan port inputs = some member ∧
    (membership vlan group).live (configAfter inputs) now member = true

/-- A multicast-router port: configured, or a query was heard there lately. -/
def RouterPort (port : String) : Prop :=
  port ∈ ((configAfter inputs).ofVlan vlan).staticMrouters ∨
    ∃ heard, routing.follow family vlan port inputs = some heard ∧
      routing.live (configAfter inputs) now heard = true

/-- A report of the group by the port is younger than the hold time now in force, and the
port has not left the group. -/
def YoungReport (group : IpAddr) (port : String) : Prop :=
  (∃ input ∈ inputs, ∃ bytes version, input.event = .frame port vlan bytes ∧
    .report group version ∈ parse family bytes ∧
    now - input.time < (configAfter inputs).membershipHold) ∧
  ∀ input ∈ inputs, ∀ bytes, input.event = .frame port vlan bytes → .leave group ∉ parse family bytes

end Spec

theorem Fact.Kept.isSome_step {Entry : Type} {fact : Fact Entry} {port : String}
    {lookup : VlanState → Option Entry} (kept : fact.Kept vlan port lookup) (family : Family)
    (systemMac : Mac) (inputs : List Input) (now : Nat) :
    (lookup ((((engine family systemMac).run inputs).step now).1.state vlan)).isSome = true ↔
      (configAfter inputs).vlanEnabled vlan = true ∧
        ∃ entry, fact.follow family vlan port inputs = some entry ∧
          fact.live (configAfter inputs) now entry = true := by
  rw [kept.step, run_config, kept.follow]
  split_ifs with enabled
  · simp [enabled, Option.any_eq_true]
  · simp [enabled]

theorem mem_routers_step (family : Family) (systemMac : Mac) (inputs : List Input) (now : Nat)
    (vlan : UInt16) (enabled : (configAfter inputs).vlanEnabled vlan = true) (port : String) :
    port ∈ ((((engine family systemMac).run inputs).step now).1.state vlan).routers
        (configAfter inputs) vlan ↔ RouterPort family inputs now vlan port := by
  have heard := (routing_kept vlan port).isSome_step family systemMac inputs now
  rw [routers, mem_sortDedup, List.mem_append, mem_keys,
    mem_iff_isSome_getElem?, heard, RouterPort]
  simp [enabled]

/-- After every pass of every run, the updates sent so far add up to this: a group of an
enabled VLAN with a live member goes to its live members and the router ports; no
other group has an entry; and unknown multicast of a VLAN is restricted exactly when
snooping is enabled there and it has a router port or a querier. -/
theorem updates_mirror_membership (family : Family) (systemMac : Mac) (inputs : List Input)
    (now : Nat) (vlan : UInt16) :
    let outputs := (engine family systemMac).sent (inputs ++ [⟨now, .step⟩])
    let config := configAfter inputs
    let live := LiveMember family inputs now vlan
    let router := RouterPort family inputs now vlan
    (∀ group, config.vlanEnabled vlan = true → (∃ port, live group port) →
      ∃ ports, groupEntry outputs vlan group = some ports ∧
        ∀ port, port ∈ ports ↔ live group port ∨ router port) ∧
    (∀ group, ¬ (config.vlanEnabled vlan = true ∧ ∃ port, live group port) →
      groupEntry outputs vlan group = none) ∧
    ((∃ ports, scopeEntry outputs vlan = some (true, ports)) ↔ config.vlanEnabled vlan = true ∧
        ((∃ port, router port) ∨ (config.ofVlan vlan).querier = true)) := by
  intro outputs config live router
  have mirrors := mirrors_of_run family systemMac (inputs ++ [⟨now, .step⟩])
  rw [run_concat] at mirrors
  change Mirrors (((engine family systemMac).run inputs).step now).1 outputs at mirrors
  have settled := ((engine family systemMac).run inputs).step_settled now vlan
  rw [run_config] at settled
  have isLive (group : IpAddr) (port : String) :=
    (membership_kept vlan group port).isSome_step family systemMac inputs now
  have isRouter := mem_routers_step family systemMac inputs now vlan
  generalize (((engine family systemMac).run inputs).step now).1 = after at *
  refine ⟨?_, ?_, ?_⟩
  · rintro group enabled ⟨port, alive⟩
    have present : (after.state vlan).pushedGroups[group]? ≠ none := by
      rw [Ne, settled.pushed_none_iff]
      intro nobody
      have found := (isLive group port).mpr ⟨enabled, alive⟩
      rw [nobody port] at found
      cases found
    obtain ⟨ports, pushed⟩ := Option.ne_none_iff_exists'.mp present
    refine ⟨ports, (mirrors.groups vlan group).trans pushed, fun port => ?_⟩
    rw [settled.mem_pushed group pushed, isLive, isRouter enabled]
    exact or_congr_left (and_iff_right enabled)
  · intro group nobody
    rw [mirrors.groups, settled.pushed_none_iff]
    intro port
    rw [← Option.not_isSome_iff_eq_none, isLive]
    exact fun alive => nobody ⟨alive.1, port, alive.2⟩
  · rw [mirrors.scopes, settled.scope]
    apply and_congr_right
    intro enabled
    apply or_congr_left
    simp only [← List.isEmpty_eq_false_iff, List.isEmpty_eq_false_iff_exists_mem, isRouter enabled]
    rfl

/-- An IGMPv2 report of 239.1.1.1. -/
def joinFrame : List UInt8 :=
  List.replicate 12 0 ++ [0x08, 0x00, 0x45] ++ List.replicate 8 0 ++ [2] ++ List.replicate 10 0 ++
    [0x16, 0, 0, 0, 239, 1, 1, 1]

/-- A port joins a group, and snooping of its VLAN is switched off and on again. -/
def reEnabled : List Input :=
  [⟨0, .frame "Ethernet1" 10 joinFrame⟩, ⟨0, .step⟩,
    ⟨secs 1, .setConfig { disabled := true }⟩, ⟨secs 1, .step⟩,
    ⟨secs 2, .setConfig {}⟩]

/-- The report is two seconds old, and the mirror has no entry for its group. -/
theorem reEnabled_forgets_member :
    (configAfter reEnabled).vlanEnabled 10 = true ∧
      YoungReport .igmp reEnabled (secs 2) 10 (.v4 (Bytes.four 239 1 1 1)) "Ethernet1" ∧
      groupEntry ((engine .igmp #v[2, 0, 0, 0, 0, 1]).sent (reEnabled ++ [⟨secs 2, .step⟩])) 10
        (.v4 (Bytes.four 239 1 1 1)) = none := by
  have joins : parse .igmp joinFrame = [.report (.v4 (Bytes.four 239 1 1 1)) 2] := by decide +kernel
  refine ⟨by decide +kernel, ⟨⟨_, .head _, joinFrame, 2, rfl, ?_, by decide +kernel⟩, ?_⟩, by decide +kernel⟩
  · rw [joins]
    exact .head _
  · intro input isInput bytes isFrame
    simp only [reEnabled, List.mem_cons, List.not_mem_nil, or_false] at isInput
    rcases isInput with rfl | rfl | rfl | rfl | rfl <;> cases isFrame
    rw [joins]
    simp

end Hemlock.Snoop
