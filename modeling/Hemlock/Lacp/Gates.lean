import Hemlock.Lacp.Aggregation
import Hemlock.Lacp.Runs

/-!
# The gate invariant

Between them, the lemmas of this module say where everything a gate rests on comes
from: the link from the last link event, the partner from a PDU of that port, the
fallback from passes in which nobody was heard, and the gates a receiver knows
from the last update of the group.
-/

namespace Hemlock.Lacp

open Machine OrderedMap Lacp.Inner Lag Output Member

variable {now : Nat}

theorem Member.partnerCurrent_iff (member : Member) : member.partnerCurrent now = true ↔
      ∃ heard, member.lastRx = some heard ∧ now - heard < member.timeout := by
  unfold partnerCurrent
  cases member.lastRx <;> simp

variable {group : UInt16} {name : String} {member : Member} {time : Nat}

variable (systemMac : Mac)

theorem heard_of_run (inputs : List Input) (hf : ((engine systemMac).run inputs).Has group name member)
    (stamped : member.lastRx = some time) : ∃ bytes partner, (⟨time, .frame name bytes⟩ : Input) ∈ inputs ∧
      decodePdu bytes = some partner ∧ member.partner = some partner := by
  refine @members_induction systemMac (fun inputs name member => ∀ time, member.lastRx = some time →
      ∃ bytes partner, (⟨time, .frame name bytes⟩ : Input) ∈ inputs ∧
        decodePdu bytes = some partner ∧ member.partner = some partner)
    ?_ inputs group name member hf time stamped
  intro inputs input group name member change before time stamped
  have kept {earlier : Member} (has : ((engine systemMac).run inputs).Has group name earlier)
      (lastRx : earlier.lastRx = some time) (partner : member.partner = earlier.partner) :
      ∃ bytes partner, (⟨time, .frame name bytes⟩ : Input) ∈ inputs ++ [input] ∧
        decodePdu bytes = some partner ∧ member.partner = some partner := by
    obtain ⟨bytes, heard, received, decoded, hk⟩ := before earlier has time lastRx
    exact ⟨bytes, heard, List.mem_append_left _ received, decoded, partner.trans hk⟩
  cases change with
  | kept _ _ has | configured _ has => exact kept has stamped rfl
  | @linked event earlier _ _ has =>
    cases up : event.up with
    | false => simp [setLink, up] at stamped
    | true =>
      simp only [up] at stamped kept ⊢
      exact kept has stamped rfl
  | @heard bytes partner earlier isFrame decoded has =>
    obtain ⟨now, event⟩ := input
    subst isFrame
    cases stamped
    exact ⟨bytes, partner, by simp, decoded, rfl⟩
  | joined _ => cases stamped
  | @visited lag earlier _ hp has =>
    have hs := lag.same_visit input.time name earlier
    rw [hs.lastRx] at stamped
    exact kept ⟨lag, hp, has⟩ stamped hs.partner

def lastLink (name : String) (inputs : List Input) : Option Bool :=
  (inputs.filterMap fun input =>
    match input.event with
    | .link event => if event.port = name then some event.up else none
    | _ => none).getLast?

variable {inputs : List Input} {input : Input}

theorem lastLink_concat_link {event : LinkEvent} (isLink : input.event = .link event)
    (named : event.port = name) : lastLink name (inputs ++ [input]) = some event.up := by
  simp [lastLink, isLink, named]

theorem lastLink_concat_other (other : ∀ event, input.event = .link event → event.port ≠ name) :
    lastLink name (inputs ++ [input]) = lastLink name inputs := by
  have nothing : (match input.event with
      | .link event => if event.port = name then some event.up else none
      | _ => none) = none := by
    split
    next event isLink => exact if_neg (other event isLink)
    next => rfl
  simp [lastLink, nothing]

theorem Inner.modifyMember_rest (inner : Inner) (port : String) (change : Member → Member) :
    (inner.modifyMember port change).linkStates = inner.linkStates ∧
      (inner.modifyMember port change).portToLag = inner.portToLag := by
  rcases inner.modifyMember_cases port change with ⟨hu, -⟩ | ⟨_, _, _, -, -, -, changed⟩
  · rw [hu]
    exact ⟨rfl, rfl⟩
  · rw [changed]
    exact ⟨rfl, rfl⟩

theorem Inner.frameIn_rest (inner : Inner) (port : String) (bytes : List UInt8) (now : Nat) :
    (inner.frameIn port bytes now).linkStates = inner.linkStates ∧
      (inner.frameIn port bytes now).portToLag = inner.portToLag := by
  unfold frameIn
  split
  · exact inner.modifyMember_rest port _
  · exact ⟨rfl, rfl⟩

/-- The engine remembers the last link event of every port. -/
theorem linkStates_of_run (inputs : List Input) (name : String) :
    ((engine systemMac).run inputs).linkStates[name]? = lastLink name inputs := by
  induction inputs using List.reverseRecOn with
  | nil => simp [engine, Inner.initial, lastLink]
  | append_singleton inputs input ih =>
    rw [run_concat]
    change (Inner.next _ input).linkStates[name]? = _
    unfold Inner.next
    split
    next isPush => rw [lastLink_concat_other (by simp [isPush])]; exact ih
    next event isLink =>
      rw [Inner.linkEvent, (Inner.modifyMember_rest _ _ _).1, lookup_insert]
      split_ifs with hs
      · rw [lastLink_concat_link isLink hs]
      · rw [lastLink_concat_other, ih]
        intro other isOther named
        rw [isLink, Event.link.injEq] at isOther
        simp [isOther, named] at hs
    next isFrame =>
      rw [lastLink_concat_other (by simp [isFrame]), (Inner.frameIn_rest _ _ _ _).1]
      exact ih
    next isStep => rw [lastLink_concat_other (by simp [isStep])]; exact ih

/-- No two groups of a push list the port. -/
def OneGroup (name : String) (configs : List LagConfig) : Prop :=
  ∀ config ∈ configs, ∀ config' ∈ configs, name ∈ config.members → name ∈ config'.members →
    config.group = config'.group

/-- No push of the run listed the port in two groups. -/
def Unshared (name : String) (inputs : List Input) : Prop :=
  ∀ time systemPriority configs,
    (⟨time, .setConfigs systemPriority configs⟩ : Input) ∈ inputs → OneGroup name configs

theorem Unshared.of_append {rest : List Input} (unshared : Unshared name (inputs ++ rest)) :
    Unshared name inputs := by
  intro time systemPriority configs member
  exact unshared time systemPriority configs (List.mem_append_left _ member)

theorem Unshared.concat_step (unshared : Unshared name inputs) (now : Nat) :
    Unshared name (inputs ++ [⟨now, .step⟩]) := by
  intro time systemPriority configs member
  exact unshared time systemPriority configs (by simpa using member)

theorem mem_ownership {lags : GroupMap Lag} :
    (name, group) ∈ ownership lags ↔ ∃ lag, lags[group]? = some lag ∧ name ∈ lag.members := by
  simp only [ownership, List.mem_flatMap, List.mem_map, Prod.exists, Prod.mk.injEq,
    mem_toList_iff_getElem?_eq_some, mem_keys]
  constructor
  · rintro ⟨other, lag, hp, other', member, rfl, rfl⟩
    exact ⟨lag, hp, member⟩
  · rintro ⟨lag, hp, member⟩
    exact ⟨group, lag, hp, name, member, rfl, rfl⟩

variable {inner : Inner}

theorem Inner.setConfigs_owner {systemPriority : UInt16} {configs : List LagConfig}
    (oneGroup : OneGroup name configs)
    (hf : (inner.setConfigs systemPriority configs now).Has group name member) :
    (inner.setConfigs systemPriority configs now).portToLag[name]? = some group := by
  obtain ⟨lag, hp, hm⟩ := hf
  have hl : name ∈ lag.members := mem_of_lookup hm
  apply getElem?_insertMany_of_agreed (mem_ownership.mpr ⟨lag, hp, hl⟩)
  intro other owned
  obtain ⟨lag', hp', hl'⟩ := mem_ownership.mp owned
  obtain ⟨config, pushed, rfl, lists⟩ := setConfigs_listed hp
  obtain ⟨config', pushed', rfl, lists'⟩ := setConfigs_listed hp'
  exact oneGroup config' pushed' config pushed (lists' name hl') (lists name hl)

theorem Inner.portToLag_of_next
    (noPush : ∀ systemPriority configs, input.event ≠ .setConfigs systemPriority configs) :
    (inner.next input).portToLag = inner.portToLag := by
  unfold next
  split
  next systemPriority configs isPush => exact absurd isPush (noPush systemPriority configs)
  next event _ => exact (modifyMember_rest _ _ _).2
  next port bytes _ => exact (inner.frameIn_rest port bytes input.time).2
  next => rfl

theorem MemberChange.has_before (change : MemberChange inner input group name member)
    (noPush : ∀ systemPriority configs, input.event ≠ .setConfigs systemPriority configs) :
    ∃ earlier, inner.Has group name earlier := by
  cases change with
  | kept _ _ has | linked _ _ has | heard _ _ has => exact ⟨_, has⟩
  | configured isPush | joined isPush => exact absurd isPush (noPush _ _)
  | visited _ hp hm => exact ⟨_, _, hp, hm⟩

theorem owner_of_run (inputs : List Input) (unshared : Unshared name inputs)
    (hf : ((engine systemMac).run inputs).Has group name member) :
    ((engine systemMac).run inputs).portToLag[name]? = some group := by
  induction inputs using List.reverseRecOn generalizing member with
  | nil =>
    obtain ⟨lag, hp, -⟩ := hf
    simp [engine, initial] at hp
  | append_singleton inputs input ih =>
    rw [run_concat] at hf ⊢
    by_cases push : ∃ systemPriority configs, input.event = .setConfigs systemPriority configs
    · obtain ⟨systemPriority, configs, isPush⟩ := push
      obtain ⟨time, event⟩ := input
      subst isPush
      exact setConfigs_owner (unshared time systemPriority configs (by simp)) hf
    · have noPush (systemPriority : UInt16) (configs : List LagConfig) :
          input.event ≠ .setConfigs systemPriority configs := by
        intro isPush
        exact push ⟨systemPriority, configs, isPush⟩
      obtain ⟨earlier, has⟩ := (memberChange_of_next hf).has_before noPush
      exact (congrArg (·[name]?) (portToLag_of_next noPush)).trans (ih unshared.of_append has)

/-- A member's link is what the last link event of its port reported. -/
theorem linkUp_of_run (inputs : List Input) (unshared : Unshared name inputs)
    (hf : ((engine systemMac).run inputs).Has group name member) :
    member.linkUp = (lastLink name inputs).getD false := by
  refine @members_induction systemMac (fun inputs name member => Unshared name inputs →
      member.linkUp = (lastLink name inputs).getD false)
    ?_ inputs group name member hf unshared
  intro inputs input group name member change before unshared
  cases change with
  | kept _ elsewhere has =>
    rw [lastLink_concat_other]
    · exact before member has unshared.of_append
    · intro event isLink named
      exact elsewhere event isLink named (owner_of_run systemMac inputs unshared.of_append has)
  | @linked event earlier isLink named has =>
    rw [lastLink_concat_link isLink named]
    cases up : event.up <;> simp [setLink]
  | heard isEvent _ has | configured isEvent has =>
    rw [lastLink_concat_other (by simp [isEvent])]
    exact (before _ has unshared.of_append :)
  | joined isPush =>
    rw [lastLink_concat_other (by simp [isPush]), ← linkStates_of_run systemMac]
    exact rfl
  | @visited lag earlier isStep hp has =>
    rw [lastLink_concat_other (by simp [isStep]), (lag.same_visit input.time name earlier).linkUp]
    exact before earlier ⟨lag, hp, has⟩ unshared.of_append

/-- The group has a LAG, and if the input is a pass then no member's partner
information is current in it. -/
def Unheard (group : UInt16) (inner : Inner) (input : Input) : Prop :=
  ∃ lag, inner.lags[group]? = some lag ∧ (input.event = .step → lag.anyPartner input.time = false)

variable {lag : Lag}

theorem unheard_since (inputs : List Input) (chronological : Chronological inputs)
    (hf : ((engine systemMac).run inputs).lags[group]? = some lag) :
    (engine systemMac).HeldSince (Unheard group) lag.partnerlessSince inputs := by
  refine @lags_induction systemMac Chronological (fun inputs group lag =>
      (engine systemMac).HeldSince (Unheard group) lag.partnerlessSince inputs)
    (fun _ _ ordered => (chronological_concat.mp ordered).1) ?_ inputs chronological group lag hf
  intro inputs input group lag ordered change before
  cases change with
  | same notStep hp since =>
    rw [since]
    apply (before _ hp).concat
    intro _
    exact ⟨_, hp, fun isStep => absurd isStep notStep⟩
  | created _ since =>
    rw [since]
    exact heldSince_of_le ordered.le_last
  | @stepped earlier isStep hp =>
    rw [step_partnerlessSince]
    split_ifs with heard
    · exact heldSince_of_le ordered.le_last
    · apply (before earlier hp).concat
      intro _
      exact ⟨earlier, hp, fun _ => by simpa using heard⟩

theorem unheard_of_fallbackActive (inputs : List Input) (now : Nat)
    (chronological : Chronological (inputs ++ [⟨now, .step⟩]))
    (hf : ((engine systemMac).run (inputs ++ [⟨now, .step⟩])).lags[group]? = some lag)
    (active : lag.fallbackActive = true) : lag.config.fallbackTimeout ≤ now ∧
      (engine systemMac).HeldSince (Unheard group) (now - lag.config.fallbackTimeout)
        (inputs ++ [⟨now, .step⟩]) := by
  have held := unheard_since systemMac _ chronological hf
  obtain ⟨before, -, rfl⟩ := exists_of_pass hf
  obtain ⟨-, -, expired⟩ := step_fallback active
  rw [step_config]
  refine ⟨by omega, ?_⟩
  by_cases immediate : before.config.fallbackTimeout = 0
  · rw [immediate]
    exact heldSince_of_le chronological.le_last
  · exact held.mono (by omega)

/-- A PDU arrived on a member of the group, and the pass that the loop makes after
every PDU followed within three seconds and after `since`. -/
def PduHeard (systemMac : Mac) (group : UInt16) (since : Nat) (inputs : List Input) : Prop :=
  ∃ before time name bytes pass after member,
    inputs = before ++ (⟨time, .frame name bytes⟩ : Input) :: ⟨pass, .step⟩ :: after ∧
      since < pass ∧ pass < time + secs 3 ∧ (decodePdu bytes).isSome ∧
      ((engine systemMac).run before).Has group name member

theorem Member.partnerCurrent_receive (member : Member) (partner : Partner)
    (recent : now < time + secs 3) : (member.receive partner time).partnerCurrent now = true := by
  have kept : secs 3 ≤ (member.receive partner time).timeout := by
    unfold timeout secs
    split_ifs <;> omega
  change decide (now - time < (member.receive partner time).timeout) = true
  rw [decide_eq_true_eq]
  unfold secs at recent kept
  omega

theorem not_pduHeard {systemMac : Mac} {since : Nat} (unshared : ∀ name, Unshared name inputs)
    (held : (engine systemMac).HeldSince (Unheard group) since inputs) :
    ¬ PduHeard systemMac group since inputs := by
  rintro ⟨before, time, name, bytes, pass, after, member, split, late, recent, decodes, has⟩
  obtain ⟨partner, decoded⟩ := Option.isSome_iff_exists.mp decodes
  obtain ⟨lag, hp, unheard⟩ := held (before ++ [⟨time, .frame name bytes⟩]) ⟨pass, .step⟩ after
    (by simpa using split) late
  have owned := owner_of_run systemMac before (split ▸ unshared name).of_append has
  obtain ⟨earlier, was, hm⟩ := has
  have heard : (((engine systemMac).run before).frameIn name bytes time).lags[group]? =
      some { earlier with members := earlier.members.insert name (member.receive partner time) } := by
    simp [frameIn, modifyMember, decoded, owned, was, hm]
  rw [run_concat] at hp
  cases hp.symm.trans heard
  have current := member.partnerCurrent_receive partner recent
  have silent := unheard rfl
  simp only [anyPartner, List.any_eq_false, Prod.forall, mem_toList_iff_getElem?_eq_some] at silent
  exact silent name _ getElem?_insert_self current

def Output.gatesOf (group : UInt16) : Output → Option (List (String × Bool))
  | .gates update => if update.group = group then some update.members else none
  | .pdu _ _ => none

def lastUpdate (group : UInt16) (outputs : List Output) : Option (List (String × Bool)) :=
  (outputs.filterMap (Output.gatesOf group)).getLast?

theorem lastUpdate_append (group : UInt16) (earlier later : List Output) :
    lastUpdate group (earlier ++ later) = (lastUpdate group later).or (lastUpdate group earlier) := by
  simp [lastUpdate]

theorem Inner.emit_of_quiet (quiet : input.event ≠ .step) : inner.emit input = [] := by
  unfold emit
  split
  next => rfl
  next => rfl
  next => rfl
  next isStep => exact absurd isStep quiet

theorem Lag.gateUpdate?_select (lag : Lag) (now : Nat) : (lag.select now).gateUpdate? =
      if lag.lastGates ≠ some (lag.step now).gateList then
        some ⟨lag.config.group, (lag.step now).gateList⟩ else none := by
  have kept : (lag.select now).lastGates = lag.lastGates ∧ (lag.select now).config = lag.config := by
    unfold select listen
    split_ifs <;> exact ⟨rfl, rfl⟩
  rw [gateUpdate?, step_gateList, kept.1, kept.2]

theorem Lag.mem_gatesOf_emit (lag : Lag) (systemPriority : UInt16) (systemMac : Mac) (now : Nat)
    (group : UInt16) (gates : List (String × Bool)) :
    gates ∈ (lag.emit systemPriority systemMac now).filterMap (gatesOf group) ↔
      lag.config.group = group ∧ lag.lastGates ≠ some (lag.step now).gateList ∧
        gates = (lag.step now).gateList := by
  have noPdus : ((lag.select now).pdusOut systemPriority systemMac now).filterMap
      (gatesOf group ∘ fun sent => .pdu sent.1 sent.2) = [] := by
    simp [gatesOf]
  simp only [emit, List.filterMap_append, List.filterMap_map, noPdus,
    gateUpdate?_select]
  split_ifs with changed
  · by_cases hs : lag.config.group = group <;>
      simp [gatesOf, hs, changed]
  · simp [not_not.mp changed]

/-- What a pass tells for a group: the gates it leaves, unless they are those that
were told last. -/
theorem Inner.mem_gatesOf_emit (now : Nat)
    (keyed : ∀ {group : UInt16} {lag}, inner.lags[group]? = some lag → lag.config.group = group)
    (hp : inner.lags[group]? = some lag) (gates : List (String × Bool)) :
    gates ∈ (inner.emit ⟨now, .step⟩).filterMap (gatesOf group) ↔
      lag.lastGates ≠ some (lag.step now).gateList ∧ gates = (lag.step now).gateList := by
  simp only [emit, List.filterMap_flatMap, List.mem_flatMap, Prod.exists,
    mem_toList_iff_getElem?_eq_some, Lag.mem_gatesOf_emit]
  constructor
  · intro ⟨other, lag', hp', isGroup, told⟩
    rw [← keyed hp', isGroup, hp, Option.some.injEq] at hp'
    rwa [hp']
  · intro told
    exact ⟨group, lag, hp, keyed hp, told⟩

theorem getLast?_of_forall_eq {Value : Type} {values : List Value} {value : Value}
    (member : value ∈ values) (hs : ∀ other ∈ values, other = value) : values.getLast? = some value := by
  have nonempty := List.ne_nil_of_mem member
  rw [List.getLast?_eq_some_getLast nonempty, hs _ (List.getLast_mem nonempty)]

theorem lastUpdate_of_run (inputs : List Input)
    (hf : ((engine systemMac).run inputs).lags[group]? = some lag) {gates : List (String × Bool)}
    (remembered : lag.lastGates = some gates) :
    lastUpdate group ((engine systemMac).sent inputs) = some gates := by
  refine @lags_induction systemMac (fun _ => True)
    (fun inputs group lag => ∀ gates, lag.lastGates = some gates →
      lastUpdate group ((engine systemMac).sent inputs) = some gates)
    (fun _ _ _ => trivial) ?_ inputs trivial group lag hf gates remembered
  intro inputs input group lag _ change before gates remembered
  rw [sent_concat, lastUpdate_append]
  cases change with
  | same notStep hp _ hs =>
    rw [hs] at remembered
    have silent : (engine systemMac).emit ((engine systemMac).run inputs) input = [] :=
      emit_of_quiet notStep
    rw [silent]
    exact before _ hp gates remembered
  | created _ _ fresh => simp [fresh] at remembered
  | @stepped earlier isStep hp =>
    obtain ⟨now, event⟩ := input
    subst isStep
    rw [step_lastGates, Option.some.injEq] at remembered
    subst remembered
    have told := mem_gatesOf_emit now (keyed_of_run systemMac inputs) hp
    by_cases hu : earlier.lastGates = some (earlier.step now).gateList
    · have silent : lastUpdate group (emit ((engine systemMac).run inputs) ⟨now, .step⟩) =
          none := by
        rw [lastUpdate, List.getLast?_eq_none_iff, List.eq_nil_iff_forall_not_mem]
        intro gates member
        exact ((told gates).mp member).1 hu
      exact (congrArg (Option.or · _) silent).trans (before earlier hp _ hu)
    · have update : lastUpdate group (emit ((engine systemMac).run inputs) ⟨now, .step⟩) =
          some (earlier.step now).gateList :=
        getLast?_of_forall_eq ((told _).mpr ⟨hu, rfl⟩) fun gates member => ((told gates).mp member).2
      exact congrArg (Option.or · _) update

/-- What holds of a LAG after a pass at `now` that follows the run `inputs`. -/
structure GateInvariant (systemMac : Mac) (inputs : List Input) (now : Nat) (group : UInt16)
    (lag : Lag) : Prop where
  /-- An open gate implies that the port's last link event was up. -/
  linked : ∀ (name : String) member, lag.members[name]? = some member →
    member.bundled = true → lastLink name inputs = some true
  /-- The aggregate is closed, or it has the links it needs. -/
  enough : lag.openGates = 0 ∨ lag.config.minLinks.toNat ≤ lag.openGates
  /-- An individual port is the link-up member of least (port priority, port number)
  under individual fallback. -/
  individual : ∀ (name : String) member, lag.members[name]? = some member →
    member.individual = true → lag.fallbackActive = true ∧ lag.config.fallback = some .individual ∧
        lastLink name inputs = some true ∧
        ∀ (other : String) member', lag.members[other]? = some member' →
          lastLink other inputs = some true → member.rank ≤ member'.rank
  single : ∀ (name : String) member (other : String) member',
    lag.members[name]? = some member → lag.members[other]? = some member' →
      member.individual = true → member'.individual = true → name = other
  /-- Fallback is active only after `fallback_timeout` without a partner: no pass of
  that time knew one, and no PDU arrived on a member. -/
  unheard : lag.fallbackActive = true →
    lag.config.fallbackTimeout ≤ now ∧ lag.anyPartner now = false ∧
      (engine systemMac).HeldSince (Unheard group) (now - lag.config.fallbackTimeout)
        (inputs ++ [⟨now, .step⟩]) ∧
      ¬ PduHeard systemMac group (now - lag.config.fallbackTimeout) (inputs ++ [⟨now, .step⟩])
  /-- Under LACP an open gate rests on a recent PDU with the SYNC bit. -/
  synced : lag.config.lacp = true → lag.fallbackActive = false →
    ∀ (name : String) member, lag.members[name]? = some member → member.bundled = true →
      ∃ time bytes partner, (⟨time, .frame name bytes⟩ : Input) ∈ inputs ∧
        decodePdu bytes = some partner ∧ partner.inSync = true ∧
        now < time + secs (if member.config.rateFast then 3 else 90)
  /-- The last update for the group lists exactly its members with their gates. -/
  told : lastUpdate group ((engine systemMac).sent (inputs ++ [⟨now, .step⟩])) =
    some (lag.members.toList.map fun (name, member) => (name, member.bundled))

/-- The gate invariant holds after every pass of every run whose pushes list a port in one
group only, for every LAG. -/
theorem gateInvariant_of_pass (systemMac : Mac) (inputs : List Input) (now : Nat)
    (chronological : Chronological (inputs ++ [⟨now, .step⟩]))
    (unshared : ∀ name, Unshared name inputs) (group : UInt16) (lag : Lag)
    (found : ((engine systemMac).run (inputs ++ [⟨now, .step⟩])).lags[group]? = some lag) :
    GateInvariant systemMac inputs now group lag := by
  have link (name : String) (member : Member) (present : lag.members[name]? = some member) :
      member.linkUp = (lastLink name inputs).getD false := by
    have linkUp := linkUp_of_run systemMac _ ((unshared name).concat_step now) ⟨lag, found, present⟩
    rwa [lastLink_concat_other (by simp)] at linkUp
  have up (name : String) (member : Member) (present : lag.members[name]? = some member) :
      member.linkUp = true ↔ lastLink name inputs = some true := by
    rw [link name member present]
    cases lastLink name inputs <;> simp
  obtain ⟨before, -, passed⟩ := exists_of_pass found
  constructor
  case linked =>
    intro name member present bundled
    rw [← up name member present]
    subst passed
    exact Lag.linkUp_of_bundled present bundled
  case enough =>
    subst passed
    rw [Lag.step_config]
    exact before.step_openGates now
  case individual =>
    intro name member present individual
    subst passed
    obtain ⟨active, fallback, -, live, least⟩ := Lag.step_individual present individual
    rw [Lag.step_config]
    refine ⟨active, fallback, (up name member present).mp live, ?_⟩
    intro other member' present' live'
    exact least other member' present' ((up other member' present').mpr live')
  case single =>
    intro name member other member' present present' individual individual'
    subst passed
    obtain ⟨-, -, chosen, -⟩ := Lag.step_individual present individual
    obtain ⟨-, -, chosen', -⟩ := Lag.step_individual present' individual'
    exact Option.some.inj (chosen.trans chosen'.symm)
  case unheard =>
    intro active
    obtain ⟨elapsed, held⟩ := unheard_of_fallbackActive systemMac inputs now chronological found active
    refine ⟨elapsed, ?_, held, not_pduHeard (fun name => (unshared name).concat_step now) held⟩
    subst passed
    rw [Lag.step_anyPartner]
    exact (Lag.step_fallback active).2.1
  case synced =>
    intro lacp noFallback name member present bundled
    have ready : member.ready now = true := by
      subst passed
      rw [Lag.step_config] at lacp
      exact ((Lag.step_bundled_iff lacp noFallback present).mp bundled).1
    obtain ⟨-, current, partner, isPartner, inSync⟩ := (member.ready_iff now).mp ready
    obtain ⟨time, stamped, recent⟩ := member.partnerCurrent_iff.mp current
    obtain ⟨bytes, heard, received, decoded, known⟩ :=
      heard_of_run systemMac _ ⟨lag, found, present⟩ stamped
    rw [isPartner, Option.some.injEq] at known
    refine ⟨time, bytes, heard, by simpa using received, decoded, known ▸ inSync, ?_⟩
    unfold Member.timeout at recent
    omega
  case told =>
    apply lastUpdate_of_run systemMac _ found
    subst passed
    exact before.step_lastGates now

theorem gateInvariant_of_pass_cabled :
    lastLink "Ethernet2" (cabledTo #v[2, 0, 0, 0, 0, 7] #v[2, 0, 0, 0, 0, 7]) = some true := by
  have bundles : ∃ lag ∈ ((engine #v[2, 0, 0, 0, 0, 1]).run
      (cabledTo #v[2, 0, 0, 0, 0, 7] #v[2, 0, 0, 0, 0, 7] ++ [⟨secs 2, .step⟩])).lags[(1 : UInt16)]?,
      ∃ member ∈ lag.members["Ethernet2"]?, member.bundled = true := by
    decide +kernel
  obtain ⟨lag, found, member, present, bundled⟩ := bundles
  refine (gateInvariant_of_pass #v[2, 0, 0, 0, 0, 1] _ (secs 2) ?_ ?_ 1 lag found).linked
    "Ethernet2" member present bundled
  · unfold Chronological
    decide +kernel
  · intro name time systemPriority configs pushed
    simp only [cabledTo, List.mem_cons, Timed.mk.injEq, reduceCtorEq,
      and_false, List.not_mem_nil, or_false] at pushed
    obtain ⟨-, -, rfl⟩ := pushed
    simp [OneGroup]

def staticGroup (group : UInt16) : LagConfig where
  group := group
  minLinks := 0
  fallback := none
  fallbackTimeout := secs 90
  members := (∅ : NameMap MemberConfig).insert "Ethernet1" { mode := .on, rateFast := false }

/-- A push lists a port in two groups, and the port's link goes down. -/
def sharedRun : List Input :=
  [⟨0, .link ⟨"Ethernet1", true⟩⟩, ⟨0, .step⟩,
    ⟨0, .setConfigs 32768 [staticGroup 1, staticGroup 2]⟩, ⟨0, .step⟩,
    ⟨secs 1, .link ⟨"Ethernet1", false⟩⟩]

/-- The link event reaches one of the two groups; the other keeps its gate open. -/
theorem shared_port_stays_open : Chronological (sharedRun ++ [⟨secs 1, .step⟩]) ∧
    ∃ lag ∈ ((engine #v[2, 0, 0, 0, 0, 1]).run (sharedRun ++ [⟨secs 1, .step⟩])).lags[(1 : UInt16)]?,
      ¬ GateInvariant #v[2, 0, 0, 0, 0, 1] sharedRun (secs 1) 1 lag := by
  have opened : ∃ lag ∈ ((engine #v[2, 0, 0, 0, 0, 1]).run
      (sharedRun ++ [⟨secs 1, .step⟩])).lags[(1 : UInt16)]?,
      ∃ member ∈ lag.members["Ethernet1"]?, member.bundled = true := by
    decide +kernel
  obtain ⟨lag, found, member, present, bundled⟩ := opened
  refine ⟨by unfold Chronological; decide +kernel, lag, found, fun invariant => ?_⟩
  have linkedUp := invariant.linked "Ethernet1" member present bundled
  revert linkedUp
  decide +kernel

end Hemlock.Lacp
