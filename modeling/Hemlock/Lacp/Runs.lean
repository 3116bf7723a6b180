import Hemlock.Lacp.Selection

/-!
# Runs of the engine, member by member and LAG by LAG

`MemberChange` lists what one input can make of a member, `LagChange` what it can
make of a LAG's clock and of the gates it remembers.
-/

namespace Hemlock.Lacp

open Machine OrderedMap Lacp.Inner LagConfig

def Inner.Has (inner : Inner) (group : UInt16) (name : String) (member : Member) : Prop :=
  ∃ lag, inner.lags[group]? = some lag ∧ lag.members[name]? = some member

/-- A member that joins starts with the remembered link state. -/
def Member.joining (config : MemberConfig) (name : String) (linkStates : NameMap Bool) : Member :=
  { Member.new config (portNumberOf name) with linkUp := linkStates[name]?.getD false }

variable {linkStates : NameMap Bool} {name : String} {hm : Member} {config : LagConfig}

theorem LagConfig.membersFrom_cases {members : NameMap Member}

    (hf : (config.membersFrom members linkStates)[name]? = some hm) :
    name ∈ config.members ∧ ((∃ earlier memberConfig, members[name]? = some earlier ∧
          hm = { earlier with config := memberConfig }) ∨
        ∃ memberConfig, hm = Member.joining memberConfig name linkStates) := by
  rw [membersFrom, getElem?_map, Option.map_eq_some_iff] at hf
  obtain ⟨memberConfig, hl, rfl⟩ := hf
  refine ⟨mem_of_lookup hl, ?_⟩
  cases hp : members[name]? with
  | none => exact .inr ⟨memberConfig, rfl⟩
  | some earlier => exact .inl ⟨earlier, memberConfig, rfl, rfl⟩

def LagConfig.apply (config : LagConfig) (linkStates : NameMap Bool) (now : Nat) : Option Lag → Lag
  | some lag =>
    { lag with
      members := config.membersFrom lag.members linkStates
      config := config }
  | none =>
    { config := config
      members := config.membersFrom ∅ linkStates
      partnerlessSince := now
      fallbackActive := false
      lastGates := none }

theorem applyConfig_eq (linkStates : NameMap Bool) (now : Nat) (lags : GroupMap Lag)
    (config : LagConfig) : applyConfig linkStates now lags config =
      lags.insert config.group (config.apply linkStates now lags[config.group]?) := by
  unfold applyConfig
  split <;> simp [apply, *]

/-- A property of LAGs that applying a configuration keeps holds of all LAGs after a
push. -/
theorem foldl_applyConfig {Invariant : UInt16 → Lag → Prop} {linkStates : NameMap Bool}
    {now : Nat} (configs : List LagConfig) (configured : ∀ config ∈ configs, ∀ earlier : Option Lag,
      (∀ lag, earlier = some lag → Invariant config.group lag) →
      Invariant config.group (config.apply linkStates now earlier)) (lags : GroupMap Lag)
    (held : ∀ (group : UInt16) lag, lags[group]? = some lag → Invariant group lag)
    (group : UInt16) (lag : Lag)
    (hf : (configs.foldl (applyConfig linkStates now) lags)[group]? = some lag) : Invariant group lag := by
  induction configs generalizing lags with
  | nil => exact held group lag hf
  | cons config configs ih =>
    apply ih _ _ _ hf
    · intro other hl
      exact configured other (List.mem_cons_of_mem _ hl)
    · intro group lag hf
      rw [applyConfig_eq, lookup_insert] at hf
      split_ifs at hf with hs
      · cases hf
        rw [← hs]
        exact configured config List.mem_cons_self _ (held config.group)
      · exact held group lag hf

/-- The LAG carries one of these configurations and no other members than it
lists. -/
def Listed (configs : List LagConfig) (group : UInt16) (lag : Lag) : Prop :=
  ∃ config ∈ configs, config.group = group ∧ ∀ name ∈ lag.members, name ∈ config.members

variable {now : Nat}

theorem LagConfig.mem_of_mem_apply {earlier : Option Lag}
    (hm : name ∈ (config.apply linkStates now earlier).members) : name ∈ config.members := by
  cases earlier <;> simpa [apply, membersFrom] using hm

theorem foldl_applyConfig_listed
    {configs rest : List LagConfig} (subset : rest ⊆ configs) (lags : GroupMap Lag)
    (held : ∀ (group : UInt16) lag, lags[group]? = some lag →
      group ∈ rest.map LagConfig.group ∨ Listed configs group lag) (group : UInt16) (lag : Lag)
    (hf : (rest.foldl (applyConfig linkStates now) lags)[group]? = some lag) :
    Listed configs group lag := by
  induction rest generalizing lags with
  | nil =>
    rcases held group lag hf with pending | hl
    · simp at pending
    · exact hl
  | cons config rest ih =>
    apply ih _ _ _ hf
    · exact fun _ hm => subset (List.mem_cons_of_mem _ hm)
    · intro group lag hf
      rw [applyConfig_eq, lookup_insert] at hf
      split_ifs at hf with hs
      · right
        cases hf
        exact ⟨config, subset List.mem_cons_self, hs, fun _ => LagConfig.mem_of_mem_apply⟩
      · rcases held group lag hf with pending | hl
        · left
          rw [List.map_cons, List.mem_cons] at pending
          rcases pending with rfl | pending
          · simp at hs
          · exact pending
        · exact .inr hl

variable {group : UInt16} {inner : Inner}

theorem Inner.setConfigs_listed {systemPriority : UInt16} {configs : List LagConfig} {lag : Lag}
    (hf : (inner.setConfigs systemPriority configs now).lags[group]? = some lag) :
    Listed configs group lag := by
  apply foldl_applyConfig_listed (fun _ hm => hm) _ _ _ _ hf
  intro group lag kept
  left
  rw [getElem?_filter'] at kept
  have wanted := (Option.filter_eq_some_iff.mp kept).2
  simpa using wanted

/-- What one input can make of the member called `name`. -/
inductive MemberChange (inner : Inner) (input : Input) (group : UInt16) (name : String) :
    Member → Prop where
  | kept {member} : input.event ≠ .step → (∀ event, input.event = .link event → event.port = name →
        inner.portToLag[name]? ≠ some group) →
      inner.Has group name member → MemberChange inner input group name member
  | linked {event member} : input.event = .link event → event.port = name →
      inner.Has group name member →
      MemberChange inner input group name (member.setLink event.up)
  | heard {bytes partner member} : input.event = .frame name bytes →
      decodePdu bytes = some partner → inner.Has group name member →
      MemberChange inner input group name (member.receive partner input.time)
  | configured {systemPriority configs memberConfig member} :
      input.event = .setConfigs systemPriority configs → inner.Has group name member →
      MemberChange inner input group name { member with config := memberConfig }
  | joined {systemPriority configs memberConfig} :
      input.event = .setConfigs systemPriority configs →
      MemberChange inner input group name (Member.joining memberConfig name inner.linkStates)
  | visited {lag member} : input.event = .step → inner.lags[group]? = some lag →
      lag.members[name]? = some member →
      MemberChange inner input group name (lag.visit input.time name member)

/-- Nothing changes when the port is a member of no LAG that owns it; otherwise one
member of one LAG does. -/
theorem Inner.modifyMember_cases (inner : Inner) (port : String) (change : Member → Member) :
    (inner.modifyMember port change = inner ∧
        ∀ group hm, inner.portToLag[port]? = some group → ¬ inner.Has group port hm) ∨
      ∃ group lag hm, inner.portToLag[port]? = some group ∧ inner.lags[group]? = some lag ∧
        lag.members[port]? = some hm ∧
        inner.modifyMember port change = { inner with
            lags := inner.lags.insert group
              { lag with members := lag.members.insert port (change hm) } } := by
  cases owned : inner.portToLag[port]? with
  | none => exact .inl ⟨by simp [modifyMember, owned], by simp⟩
  | some group =>
    cases hp : inner.lags[group]? with
    | none =>
      left
      refine ⟨by simp [modifyMember, owned, hp], ?_⟩
      rintro _ hm ⟨⟩ ⟨lag, hf, -⟩
      simp [hp] at hf
    | some lag =>
      cases was : lag.members[port]? with
      | none =>
        left
        refine ⟨by simp [modifyMember, owned, hp, was], ?_⟩
        rintro _ hm ⟨⟩ ⟨lag', hf, isMember⟩
        rw [hp, Option.some.injEq] at hf
        simp [← hf, was] at isMember
      | some hm =>
        right
        exact ⟨group, lag, hm, rfl, hp, was, by
          simp [modifyMember, owned, hp, was]⟩

variable {change : Member → Member}

theorem Inner.modifyMember_has {port : String}  (hf : (inner.modifyMember port change).Has group name hm) :
    (inner.Has group name hm ∧ (port = name → inner.portToLag[name]? ≠ some group)) ∨
      port = name ∧ ∃ earlier, inner.Has group name earlier ∧ hm = change earlier := by
  rcases inner.modifyMember_cases port change with
    ⟨hu, nowhere⟩ | ⟨owner, lag, earlier, owned, hp, was, changed⟩
  · rw [hu] at hf
    left
    refine ⟨hf, ?_⟩
    rintro rfl owned
    exact nowhere group hm owned hf
  · rw [changed] at hf
    obtain ⟨lag', hp', isMember⟩ := hf
    rw [lookup_insert] at hp'
    split_ifs at hp' with hs
    · cases hp'
      subst hs
      rw [lookup_insert] at isMember
      split_ifs at isMember with named
      · right
        cases isMember
        subst named
        exact ⟨rfl, earlier, ⟨lag, hp, was⟩, rfl⟩
      · left
        refine ⟨⟨lag, hp, isMember⟩, ?_⟩
        rintro rfl
        simp at named
    · left
      refine ⟨⟨lag', hp', isMember⟩, ?_⟩
      rintro rfl other
      rw [owned, Option.some.injEq] at other
      simp [other] at hs

/-- Where the members a push leaves come from. -/
def Inner.Origin (inner : Inner) (group : UInt16) (name : String) (member : Member) : Prop :=
  (∃ earlier memberConfig, inner.Has group name earlier ∧
      member = { earlier with config := memberConfig }) ∨
    ∃ memberConfig, member = Member.joining memberConfig name inner.linkStates

theorem Inner.origin_of_setConfigs {systemPriority : UInt16} {configs : List LagConfig}
    (hf : (inner.setConfigs systemPriority configs now).Has group name hm) :
    inner.Origin group name hm := by
  obtain ⟨lag, hp, isMember⟩ := hf
  refine @foldl_applyConfig (fun group lag => ∀ (name : String) hm, lag.members[name]? = some hm →
      inner.Origin group name hm)
    inner.linkStates now configs ?_ _ ?_ group lag hp name hm isMember
  · intro config _ earlier held name hm hf
    have members : (config.apply inner.linkStates now earlier).members =
        config.membersFrom (earlier.elim ∅ Lag.members) inner.linkStates := by
      cases earlier <;> rfl
    rw [members] at hf
    obtain ⟨-, ⟨before, memberConfig, was, rfl⟩ | joins⟩ := membersFrom_cases hf
    · cases earlier with
      | none => simp at was
      | some lag =>
        -- a second configuration for the same group changes the configuration again
        rcases held lag rfl name before was with ⟨origin, _, has, rfl⟩ | ⟨_, rfl⟩
        · exact .inl ⟨origin, memberConfig, has, rfl⟩
        · exact .inr ⟨memberConfig, rfl⟩
    · exact .inr joins
  · intro group lag kept name hm isMember
    rw [getElem?_filter'] at kept
    have hp := (Option.filter_eq_some_iff.mp kept).1
    exact .inl ⟨hm, hm.config, ⟨lag, hp, isMember⟩, rfl⟩

theorem Inner.memberChange_of_next {input : Input} (hf : (inner.next input).Has group name hm) :
    MemberChange inner input group name hm := by
  unfold next at hf
  split at hf
  next systemPriority configs event =>
    rcases origin_of_setConfigs hf with ⟨earlier, memberConfig, has, rfl⟩ | ⟨_, rfl⟩
    · exact .configured event has
    · exact .joined event
  next linkEvent event =>
    rcases modifyMember_has hf with ⟨has, elsewhere⟩ | ⟨hs, earlier, has, rfl⟩
    · refine .kept (by simp [event]) ?_ has
      intro other isOther named
      rw [event, Event.link.injEq] at isOther
      exact elsewhere (isOther ▸ named)
    · exact .linked event hs has
  next port bytes event =>
    have noLink (other : LinkEvent) : input.event ≠ .link other := by simp [event]
    unfold frameIn at hf
    split at hf
    next partner decoded =>
      rcases modifyMember_has hf with ⟨has, -⟩ | ⟨rfl, earlier, has, rfl⟩
      · exact .kept (by simp [event]) (fun other isLink => absurd isLink (noLink other)) has
      · exact .heard event decoded has
    next => exact .kept (by simp [event]) (fun other isLink => absurd isLink (noLink other)) hf
  next event =>
    obtain ⟨lag, hp, isMember⟩ := hf
    rw [step, getElem?_map, Option.map_eq_some_iff] at hp
    obtain ⟨earlier, was, rfl⟩ := hp
    obtain ⟨before, wasMember, rfl⟩ := Lag.exists_of_step_members isMember
    exact .visited event was wasMember

/-- What one input can make of a LAG's clock and of the gates it remembers. -/
inductive LagChange (inner : Inner) (input : Input) (group : UInt16) : Lag → Prop where
  | same {earlier lag} : input.event ≠ .step → inner.lags[group]? = some earlier →
      lag.partnerlessSince = earlier.partnerlessSince → lag.lastGates = earlier.lastGates →
      (earlier.config.group = group → lag.config.group = group) →
      LagChange inner input group lag
  | created {lag} : input.event ≠ .step → lag.partnerlessSince = input.time →
      lag.lastGates = none → lag.config.group = group → LagChange inner input group lag
  | stepped {earlier} : input.event = .step → inner.lags[group]? = some earlier →
      LagChange inner input group (earlier.step input.time)

theorem Inner.modifyMember_lags {port : String} {lag : Lag}
    (hf : (inner.modifyMember port change).lags[group]? = some lag) :
    ∃ earlier members, inner.lags[group]? = some earlier ∧ lag = { earlier with members := members } := by
  rcases inner.modifyMember_cases port change with
    ⟨hu, -⟩ | ⟨owner, earlier, hm, -, hp, -, changed⟩
  · rw [hu] at hf
    exact ⟨lag, lag.members, hf, rfl⟩
  · rw [changed, lookup_insert] at hf
    split_ifs at hf with hs
    · cases hf
      subst hs
      exact ⟨earlier, _, hp, rfl⟩
    · exact ⟨lag, lag.members, hf, rfl⟩

theorem Inner.lagChange_of_next {input : Input} {lag : Lag}
    (hf : (inner.next input).lags[group]? = some lag) : LagChange inner input group lag := by
  unfold next at hf
  split at hf
  next systemPriority configs event =>
    refine @foldl_applyConfig (LagChange inner input) inner.linkStates input.time configs ?_ _ ?_
      group lag hf
    · intro config _ earlier held
      cases earlier with
      | none => exact .created (by simp [event]) rfl rfl rfl
      | some before =>
        cases held before rfl with
        | same notStep hp since gates keyed =>
          exact .same notStep hp since gates (fun _ => rfl)
        | created notStep since gates keyed => exact .created notStep since gates rfl
        | stepped isStep _ => simp [event] at isStep
    · intro group lag kept
      rw [getElem?_filter'] at kept
      exact .same (by simp [event]) (Option.filter_eq_some_iff.mp kept).1 rfl rfl id
  next linkEvent event =>
    obtain ⟨earlier, members, hp, rfl⟩ := modifyMember_lags hf
    exact .same (by simp [event]) hp rfl rfl id
  next port bytes event =>
    unfold frameIn at hf
    split at hf
    next =>
      obtain ⟨earlier, members, hp, rfl⟩ := modifyMember_lags hf
      exact .same (by simp [event]) hp rfl rfl id
    next => exact .same (by simp [event]) hf rfl rfl id
  next event =>
    rw [step, getElem?_map, Option.map_eq_some_iff] at hf
    obtain ⟨earlier, hp, rfl⟩ := hf
    exact .stepped event hp

theorem members_induction (systemMac : Mac) {Invariant : List Input → String → Member → Prop}
    (change : ∀ inputs input group name hm,
      MemberChange ((engine systemMac).run inputs) input group name hm →
      (∀ earlier, ((engine systemMac).run inputs).Has group name earlier →
        Invariant inputs name earlier) → Invariant (inputs ++ [input]) name hm)
    (inputs : List Input) {group : UInt16} {name : String} {hm : Member}
    (hf : ((engine systemMac).run inputs).Has group name hm) : Invariant inputs name hm := by
  refine @Machine.run_induction _ _ _ (engine systemMac) (fun _ => True)
    (fun inputs inner => ∀ group name hm, inner.Has group name hm → Invariant inputs name hm)
    ?_ (fun _ _ _ => trivial) ?_ inputs trivial group name hm hf
  · rintro group name hm ⟨lag, hp, -⟩
    simp [engine, initial] at hp
  · intro inputs input _ held group name hm hf
    exact change inputs input group name hm (memberChange_of_next hf) (held group name)

theorem lags_induction (systemMac : Mac) {Allowed : List Input → Prop}
    {Invariant : List Input → UInt16 → Lag → Prop}
    (shorten : ∀ inputs input, Allowed (inputs ++ [input]) → Allowed inputs)
    (change : ∀ inputs input group lag, Allowed (inputs ++ [input]) →
      LagChange ((engine systemMac).run inputs) input group lag →
      (∀ earlier, ((engine systemMac).run inputs).lags[group]? = some earlier →
        Invariant inputs group earlier) → Invariant (inputs ++ [input]) group lag)
    (inputs : List Input) (allowed : Allowed inputs) {group : UInt16} {lag : Lag}
    (hf : ((engine systemMac).run inputs).lags[group]? = some lag) : Invariant inputs group lag := by
  refine @Machine.run_induction _ _ _ (engine systemMac) Allowed
    (fun inputs inner => ∀ (group : UInt16) lag, inner.lags[group]? = some lag →
      Invariant inputs group lag)
    ?_ shorten ?_ inputs allowed group lag hf
  · simp [engine, initial]
  · intro inputs input allowed held group lag hf
    exact change inputs input group lag allowed (lagChange_of_next hf) (held group)

theorem keyed_of_run (systemMac : Mac) (inputs : List Input) {lag : Lag}
    (hf : ((engine systemMac).run inputs).lags[group]? = some lag) : lag.config.group = group := by
  refine @lags_induction systemMac (fun _ => True) (fun _ group lag => lag.config.group = group)
    (fun _ _ _ => trivial) ?_ inputs trivial group lag hf
  intro inputs input group lag _ change before
  cases change with
  | same _ hp _ _ keyed => exact keyed (before _ hp)
  | created _ _ _ keyed => exact keyed
  | stepped _ hp =>
    rw [Lag.step_config]
    exact before _ hp

end Hemlock.Lacp
