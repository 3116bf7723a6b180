import Hemlock.Snoop.Engine

/-!
# Soft state, one port at a time

What the engine remembers of a port in a VLAN (its membership of a group, or when a
query was last heard there) depends on nothing but the messages of that port, the
passes and the configuration.  `Fact.follow` is this dependence: it follows one
fact through a run, without the engine's tables.
-/

namespace Hemlock.Snoop

open Machine Net OrderedMap VlanState Snoop.Inner Member

/-- How one remembered fact about a port of a VLAN changes. -/
structure Fact (Entry : Type) where
  hear : Config → Nat → Option Entry → Message → Option Entry
  live : Config → Nat → Entry → Bool

/-- Membership of a group: a report renews it; a leave ends it, at once or after a
grace. -/
def membership (vlan : UInt16) (group : IpAddr) : Fact Member where
  hear config now entry
    | .report heard version => if heard = group then some ⟨now, version, none⟩ else entry
    | .leave heard =>
      if heard = group then
        if (config.ofVlan vlan).fastLeave then none
        else entry.map fun member => { member with pendingLeave := some now }
      else entry
    | .query _ => entry
  live := Member.live

/-- A router behind the port: every query renews it. -/
def routing : Fact Nat where
  hear _ now entry
    | .query _ => some now
    | _ => entry
  live config now heard := now - heard < config.querierHold

namespace Fact

variable {Entry : Type} (fact : Fact Entry) (family : Family) (vlan : UInt16) (port : String)

/-- What an input makes of the fact under a configuration. -/
def track (config : Config) (entry : Option Entry) (input : Input) : Option Entry :=
  match input.event with
  | .frame source vlan' bytes =>
    if source = port ∧ vlan' = vlan ∧ config.vlanEnabled vlan then
      (parse family bytes).foldl (fact.hear config input.time) entry
    else entry
  | .step => if config.vlanEnabled vlan then entry.filter (fact.live config input.time) else none
  | _ => entry

end Fact

def Config.after (config : Config) (input : Input) : Config :=
  match input.event with
  | .setConfig config => config.normalise
  | _ => config

def configAfter (inputs : List Input) : Config := inputs.foldl Config.after {}

def Fact.follow {Entry : Type} (fact : Fact Entry) (family : Family) (vlan : UInt16)
    (port : String) (inputs : List Input) : Option Entry :=
  (inputs.foldl
    (fun (config, entry) input => (config.after input, fact.track family vlan port config entry input))
    (({} : Config), none)).2

theorem Inner.state_insert (inner : Inner) (vlan vlan' : UInt16) (state : VlanState) :
    ({ inner with vlans := inner.vlans.insert vlan' state } : Inner).state vlan =
      if vlan' = vlan then state else inner.state vlan := by
  simp only [Inner.state, lookup_insert]
  split_ifs <;> rfl

def VlanState.member (state : VlanState) (group : IpAddr) (port : String) : Option Member :=
  state.groups[group]?.bind fun members => members[port]?

variable (state : VlanState)

theorem VlanState.member_insert (group group' : IpAddr) (members : NameMap Member) (port : String) :
    ({ state with groups := state.groups.insert group' members } : VlanState).member group port =
      if group' = group then members[port]? else state.member group port := by
  simp only [member, lookup_insert]
  split_ifs <;> rfl

theorem VlanState.member_of_groups {state : VlanState} {group : IpAddr}
    {members : NameMap Member} (hk : state.groups[group]? = some members) (port : String) :
    state.member group port = members[port]? := by
  rw [member, hk, Option.bind_some]

theorem VlanState.hear_member (config : Config) (vlan : UInt16) (ourSource : IpAddr)
    (source : String) (now : Nat) (message : Message) (group : IpAddr) (port : String) :
    (state.hear (config.ofVlan vlan).fastLeave ourSource source now message).member group port =
      if source = port then (membership vlan group).hear config now (state.member group port) message
      else state.member group port := by
  cases message with
  | query _ =>
    simp only [membership, ite_self]
    rfl
  | report heard version =>
    simp only [hear, membership, member_insert]
    by_cases hs : heard = group
    · subst hs
      have members : (state.groups[heard]?.getD ∅)[port]? = state.member heard port := by
        cases hk : state.groups[heard]? <;> simp [member, hk]
      simp only [lookup_insert, members, if_true]
    · simp only [if_neg hs, ite_self]
  | leave heard =>
    simp only [hear, membership]
    by_cases hs : heard = group
    · subst hs
      cases hk : state.groups[heard]? with
      | none => simp [member, hk]
      | some members =>
        have isMember := member_of_groups hk port
        by_cases fast : (config.ofVlan vlan).fastLeave = true
        · simp only [if_pos fast, member_insert, lookup_erase, isMember, if_true]
        · simp only [if_neg fast]
          by_cases here : source = port
          · subst here
            cases hf : members[source]? with
            | none => simp [isMember, hf]
            | some hm =>
              simp [member_insert, isMember, hf]
          · rw [if_neg here]
            cases hf : members[source]? with
            | none => rfl
            | some hm =>
              simp [member_insert, isMember, lookup_insert, here]
    · simp only [if_neg hs, ite_self]
      cases hk : state.groups[heard]? with
      | none => rfl
      | some members =>
        dsimp only
        split_ifs
        · rw [member_insert, if_neg hs]
        · cases members[source]? with
          | none => rfl
          | some hm => exact (state.member_insert group heard _ port).trans (if_neg hs)

theorem VlanState.hear_dynMrouters (fastLeave : Bool) (config : Config) (ourSource : IpAddr)
    (source : String) (now : Nat) (message : Message) (port : String) :
    (state.hear fastLeave ourSource source now message).dynMrouters[port]? =
      if source = port then routing.hear config now state.dynMrouters[port]? message
      else state.dynMrouters[port]? := by
  cases message with
  | report _ _ => simp only [hear, routing, ite_self]
  | query _ =>
    simp only [hear, routing, lookup_insert]
  | leave heard =>
    have hs : (state.hear fastLeave ourSource source now (.leave heard)).dynMrouters =
        state.dynMrouters := by
      simp only [hear]
      split
      · rfl
      · split_ifs
        · rfl
        · split <;> rfl
    simp only [hs, routing, ite_self]

theorem VlanState.expire_member (config : Config) (enabled : Bool) (now : Nat) (group : IpAddr)
    (port : String) : (state.expire config enabled now).member group port =
      if enabled then (state.member group port).filter (live config now) else none := by
  cases enabled with
  | false => simp [expire, member]
  | true =>
    simp only [expire, member, if_true, getElem?_filter', getElem?_map]
    cases hk : state.groups[group]? with
    | none => rfl
    | some members =>
      -- an empty group is dropped, and has no member anyway
      have hf : (members.filter fun _ => live config now)[port]? =
          members[port]?.filter (live config now) := getElem?_filter'
      rw [Option.map_some, Option.bind_some, ← hf]
      by_cases empty : (members.filter fun _ => live config now).isEmpty = true
      · rw [isEmpty_iff.mp empty]
        simp
      · rw [Option.filter_some, if_pos (by simpa using empty), Option.bind_some]

theorem VlanState.expire_dynMrouters (config : Config) (enabled : Bool) (now : Nat) (port : String) :
    (state.expire config enabled now).dynMrouters[port]? =
      if enabled then state.dynMrouters[port]?.filter (routing.live config now) else none := by
  cases enabled with
  | false => simp [expire]
  | true =>
    simp only [expire, getElem?_filter']
    rfl

theorem Inner.visit_state (now : Nat) (pass : Inner × List Output) (vlan vlan' : UInt16) :
    (visit now pass vlan').1.state vlan =
      if vlan' = vlan then (pass.1.evaluate vlan now).1 else pass.1.state vlan := by
  rw [visit, state_insert]
  split_ifs with hs
  · rw [hs]
  · rfl

theorem Inner.foldl_visit_settings (now : Nat) (vlans : List UInt16) (pass : Inner × List Output) :
    (vlans.foldl (visit now) pass).1.config = pass.1.config ∧
      (vlans.foldl (visit now) pass).1.family = pass.1.family := by
  apply List.foldlRecOn vlans (visit now)
    (motive := fun pass' => pass'.1.config = pass.1.config ∧ pass'.1.family = pass.1.family)
  · exact ⟨rfl, rfl⟩
  · intro pass' held vlan _
    exact held

theorem Inner.foldl_visit_entry {Entry : Type} {lookup : VlanState → Option Entry}
    {keep : Option Entry → Option Entry} {now : Nat} {vlan : UInt16} {config : Config}
    (evaluated : ∀ inner : Inner, inner.config = config →
      lookup (inner.evaluate vlan now).1 = keep (lookup (inner.state vlan)))
    (idempotent : ∀ entry, keep (keep entry) = keep entry) (vlans : List UInt16)
    (pass : Inner × List Output) (configured : pass.1.config = config) :
    lookup ((vlans.foldl (visit now) pass).1.state vlan) =
      if vlan ∈ vlans then keep (lookup (pass.1.state vlan)) else lookup (pass.1.state vlan) := by
  induction vlans using List.reverseRecOn with
  | nil => rfl
  | append_singleton vlans last ih =>
    have hu := (foldl_visit_settings now vlans pass).1.trans configured
    rw [List.foldl_append, List.foldl_cons, List.foldl_nil, visit_state]
    by_cases hs : last = vlan
    · have visited : vlan ∈ vlans ++ [last] := by simp [hs]
      rw [if_pos hs, evaluated _ hu, ih]
      split_ifs
      · rw [idempotent]
      · rfl
    · rw [if_neg hs, ih]
      simp [Ne.symm hs]

theorem Inner.state_of_unknown {inner : Inner} {vlan : UInt16}
    (hu : vlan ∉ inner.vlans.keys ++ inner.config.vlans.keys) : inner.state vlan = {} := by
  have ha : inner.vlans[vlan]? = none := by
    simp only [List.mem_append, mem_keys, not_or] at hu
    exact getElem?_eq_none hu.1
  rw [state, ha, Option.getD_none]

theorem Inner.step_entry {Entry : Type} {lookup : VlanState → Option Entry}
    {keep : Option Entry → Option Entry} {inner : Inner} {now : Nat} {vlan : UInt16}
    (evaluated : ∀ inner' : Inner, inner'.config = inner.config →
      lookup (inner'.evaluate vlan now).1 = keep (lookup (inner'.state vlan)))
    (idempotent : ∀ entry, keep (keep entry) = keep entry) (hu : lookup {} = none)
    (nothing : keep none = none) :
    lookup ((inner.step now).1.state vlan) = keep (lookup (inner.state vlan)) := by
  rw [step, foldl_visit_entry evaluated idempotent _ _ rfl]
  split_ifs with hk
  · rfl
  · rw [state_of_unknown hk, hu, nothing]

/-- The engine keeps a fact about a port where `lookup` finds it. -/
structure Fact.Kept {Entry : Type} (fact : Fact Entry) (vlan : UInt16) (port : String)
    (lookup : VlanState → Option Entry) : Prop where
  unknown : lookup {} = none
  heard : ∀ (inner : Inner) source vlan' now message,
    lookup ((Inner.applyMessage source vlan' now inner message).state vlan) =
      if source = port ∧ vlan' = vlan then
        fact.hear inner.config now (lookup (inner.state vlan)) message
      else lookup (inner.state vlan)
  evaluated : ∀ (inner : Inner) now, lookup (inner.evaluate vlan now).1 =
      if inner.config.vlanEnabled vlan then
        (lookup (inner.state vlan)).filter (fact.live inner.config now)
      else none

namespace Fact.Kept

variable {Entry : Type} {fact : Fact Entry} {vlan : UInt16} {port : String}
  {lookup : VlanState → Option Entry} (kept : fact.Kept vlan port lookup)

include kept

theorem foldl_applyMessage (source : String) (vlan' : UInt16) (now : Nat)
    (messages : List Message) (inner : Inner) :
    lookup ((messages.foldl (applyMessage source vlan' now) inner).state vlan) =
      if source = port ∧ vlan' = vlan then
        messages.foldl (fact.hear inner.config now) (lookup (inner.state vlan))
      else lookup (inner.state vlan) := by
  induction messages generalizing inner with
  | nil => simp
  | cons message messages ih =>
    have rest := ih (applyMessage source vlan' now inner message)
    rw [kept.heard] at rest
    rw [List.foldl_cons, rest]
    split_ifs <;> rfl

theorem step (inner : Inner) (now : Nat) : lookup ((inner.step now).1.state vlan) =
      if inner.config.vlanEnabled vlan then
        (lookup (inner.state vlan)).filter (fact.live inner.config now) else none := by
  refine @step_entry _ lookup
    (fun entry => if inner.config.vlanEnabled vlan then entry.filter (fact.live inner.config now)
      else none) inner now vlan ?_ ?_ kept.unknown ?_
  · intro inner' configured
    rw [kept.evaluated, configured]
  · intro entry
    split_ifs
    · rw [Option.filter_filter]
      simp only [Bool.and_self]
    · rfl
  · split_ifs <;> rfl

theorem next (inner : Inner) (input : Input) : lookup ((inner.next input).state vlan) =
      fact.track inner.family vlan port inner.config (lookup (inner.state vlan)) input := by
  obtain ⟨now, event⟩ := input
  cases event with
  | setConfig _ | setVlanPorts _ => rfl
  | step => exact kept.step inner now
  | frame source vlan' bytes =>
    simp only [Inner.next, Fact.track, Inner.frameIn]
    by_cases here : source = port ∧ vlan' = vlan
    · obtain ⟨rfl, rfl⟩ := here
      by_cases enabled : inner.config.vlanEnabled vlan' = true
      · rw [if_pos enabled, if_pos ⟨rfl, rfl, enabled⟩, kept.foldl_applyMessage, if_pos ⟨rfl, rfl⟩]
      · rw [if_neg enabled, if_neg fun relevant => enabled relevant.2.2]
    · have irrelevant : ¬ (source = port ∧ vlan' = vlan ∧ inner.config.vlanEnabled vlan = true) :=
        fun relevant => here ⟨relevant.1, relevant.2.1⟩
      split_ifs
      · rw [kept.foldl_applyMessage, if_neg here]
      · rfl

end Fact.Kept

theorem Inner.foldl_applyMessage_settings (source : String) (vlan : UInt16) (now : Nat)
    (messages : List Message) (inner : Inner) :
    (messages.foldl (applyMessage source vlan now) inner).config = inner.config ∧
      (messages.foldl (applyMessage source vlan now) inner).family = inner.family := by
  apply List.foldlRecOn messages (applyMessage source vlan now)
    (motive := fun inner' => inner'.config = inner.config ∧ inner'.family = inner.family)
  · exact ⟨rfl, rfl⟩
  · intro inner' held message _
    exact held

theorem Inner.next_settings (inner : Inner) (input : Input) :
    (inner.next input).config = inner.config.after input ∧ (inner.next input).family = inner.family := by
  obtain ⟨now, event⟩ := input
  cases event with
  | setConfig _ | setVlanPorts _ => exact ⟨rfl, rfl⟩
  | step => exact foldl_visit_settings now _ (inner, [])
  | frame port vlan bytes =>
    simp only [next, frameIn]
    split_ifs
    · exact foldl_applyMessage_settings port vlan now _ inner
    · exact ⟨rfl, rfl⟩

theorem run_family (family : Family) (systemMac : Mac) (inputs : List Input) :
    ((engine family systemMac).run inputs).family = family := by
  refine @run_invariant _ _ _ (engine family systemMac) (fun inner => inner.family = family)
    rfl ?_ inputs
  intro inner input held
  exact (inner.next_settings input).2.trans held

theorem run_config (family : Family) (systemMac : Mac) (inputs : List Input) :
    ((engine family systemMac).run inputs).config = configAfter inputs := by
  induction inputs using List.reverseRecOn with
  | nil => rfl
  | append_singleton inputs input ih =>
    rw [run_concat, configAfter, List.foldl_append, ← configAfter, ← ih]
    exact (next_settings _ input).1

theorem Fact.Kept.follow {Entry : Type} {fact : Fact Entry} {vlan : UInt16} {port : String}
    {lookup : VlanState → Option Entry} (kept : fact.Kept vlan port lookup) (family : Family)
    (systemMac : Mac) (inputs : List Input) : lookup (((engine family systemMac).run inputs).state vlan) =
      fact.follow family vlan port inputs := by
  have together : (configAfter inputs, lookup (((engine family systemMac).run inputs).state vlan)) =
      inputs.foldl (fun (config, entry) input =>
          (config.after input, fact.track family vlan port config entry input))
        (({} : Config), none) := by
    induction inputs using List.reverseRecOn with
    | nil => rw [← kept.unknown]; rfl
    | append_singleton inputs input ih =>
      rw [List.foldl_append, ← ih, run_concat]
      have ht := kept.next ((engine family systemMac).run inputs) input
      rw [run_family, run_config] at ht
      rw [configAfter, List.foldl_append]
      exact congrArg (Prod.mk _) ht
  rw [Fact.follow, ← together]

theorem membership_kept (vlan : UInt16) (group : IpAddr) (port : String) :
    (membership vlan group).Kept vlan port fun state => state.member group port where
  unknown := by simp [member]
  heard inner source vlan' now message := by
    rw [applyMessage, state_insert]
    by_cases here : vlan' = vlan
    · subst here
      simp [hear_member]
    · simp [here]
  evaluated inner now := expire_member _ _ _ _ _ _

theorem routing_kept (vlan : UInt16) (port : String) :
    routing.Kept vlan port fun state => state.dynMrouters[port]? where
  unknown := by simp
  heard inner source vlan' now message := by
    rw [applyMessage, state_insert]
    by_cases here : vlan' = vlan
    · subst here
      rw [if_pos rfl, hear_dynMrouters _ _ inner.config]
      simp
    · simp [here]
  evaluated inner now := expire_dynMrouters _ _ _ _ _

end Hemlock.Snoop
