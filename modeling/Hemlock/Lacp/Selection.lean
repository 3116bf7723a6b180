import Hemlock.Lacp.Engine
import Hemlock.Library.OrderedMap

/-!
# Selection in one LAG

A pass gives every member a verdict: whether its gate opens and whether it
forwards as an individual port.  `Lag.verdict` says what it is for each member,
and everything a pass guarantees about gates is read off it.
-/

namespace Hemlock.Lacp

open OrderedMap Lag Member

section

variable (lag : Lag) (now : Nat)

/-- What a member wants before min-links are applied. -/
def Lag.want (name : String) (member : Member) : Bool × Bool :=
  if !lag.config.lacp then (member.linkUp, false)
  else if lag.fallbackArmed now then
    if lag.config.fallback = some .individual then
      (some name = lag.chosen, some name = lag.chosen)
    else (member.linkUp, false)
  else (member.ready now, false)

theorem Lag.selection_eq : lag.selection now = lag.members.map (lag.want now) := by
  unfold selection want
  split_ifs with static armed individual
  · rfl
  · rw [individual]
  · cases fallback : lag.config.fallback with
    | none => simp [fallbackArmed, fallback] at armed
    | some kind =>
      cases kind with
      | static => rfl
      | individual => exact absurd fallback individual
  · rfl

/-- min-links close the aggregate. -/
def Lag.short : Bool :=
  0 < lag.config.minLinks && bundledCount (lag.selection now) < lag.config.minLinks.toNat

/-- The gate a pass gives to a member, and whether it forwards individually. -/
def Lag.verdict (name : String) (member : Member) : Bool × Bool :=
  let (gate, individual) := lag.want now name member
  (gate && (individual || !lag.short now), individual)

theorem Lag.gate_selection : lag.config.gate (lag.selection now) = lag.members.map (lag.verdict now) := by
  apply ext_getElem?
  intro name
  unfold LagConfig.gate
  by_cases short : lag.short now = true
  all_goals
    have counted := short
    unfold Lag.short at counted
    simp only [counted]
    rw [Lag.selection_eq]
    cases hf : lag.members[name]? with
    | none => simp [hf]
    | some member => simp [hf, Lag.verdict, short]

@[simp]
theorem Lag.listen_config : (lag.listen now).config = lag.config := by
  unfold listen
  split_ifs <;> rfl

@[simp]
theorem Lag.listen_members : (lag.listen now).members = lag.members := by
  unfold listen
  split_ifs <;> rfl

end

@[simp]
theorem Member.apply_bundled (member : Member) (gate individual : Bool) :
    (member.apply gate individual).bundled = gate := by
  unfold apply
  by_cases changed : member.bundled = gate <;> simp [changed]

@[simp]
theorem Member.apply_individual (member : Member) (gate individual : Bool) :
    (member.apply gate individual).individual = individual := rfl

/-- What a pass leaves alone in a member: all but gates and counters. -/
structure Member.Same (member after : Member) : Prop where
  config : after.config = member.config
  portNumber : after.portNumber = member.portNumber
  linkUp : after.linkUp = member.linkUp
  partner : after.partner = member.partner
  lastRx : after.lastRx = member.lastRx

variable {member after : Member}

theorem Member.Same.partnerCurrent (hs : member.Same after) (now : Nat) :
    after.partnerCurrent now = member.partnerCurrent now := by
  unfold Member.partnerCurrent Member.timeout
  rw [hs.lastRx, hs.config]

theorem Member.Same.rank (hs : member.Same after) : after.rank = member.rank := by
  simp [Member.rank, hs.portNumber, hs.config]

theorem Member.Same.ready (hs : member.Same after) (now : Nat) : after.ready now = member.ready now := by
  unfold Member.ready
  rw [hs.partnerCurrent, hs.linkUp, hs.partner]

theorem Member.same_apply (member : Member) (gate individual : Bool) :
    member.Same (member.apply gate individual) := by
  unfold apply
  by_cases changed : member.bundled = gate <;> constructor <;> simp [changed]

section

variable (lag : Lag) (now : Nat)

/-- The LAG as selection sees it. -/
abbrev Lag.heard : Lag := lag.listen now

def Lag.visit (name : String) (member : Member) : Member :=
  let verdict := (lag.heard now).verdict now name member
  let member := member.apply verdict.1 verdict.2
  if lag.config.lacp then member.transmit now else member

theorem Lag.step_members : (lag.step now).members = lag.members.map (lag.visit now) := by
  have selected : (lag.select now).members = lag.members.map fun name member =>
      member.apply ((lag.heard now).verdict now name member).1
        ((lag.heard now).verdict now name member).2 := by
    apply ext_getElem?
    intro name
    simp only [select, gate_selection, getElem?_map, listen_members]
    cases lag.members[name]? <;> simp
  apply ext_getElem?
  intro name
  have config : (lag.select now).config = lag.config := lag.listen_config now
  unfold step transmit publish
  simp only [config, selected]
  split_ifs with lacp
  all_goals
    cases hf : lag.members[name]? with
    | none => simp [hf]
    | some member => simp [hf, visit, lacp]

theorem Member.same_transmit (member : Member) (now : Nat) :
    member.Same (member.transmit now) ∧ (member.transmit now).bundled = member.bundled ∧
      (member.transmit now).individual = member.individual := by
  unfold transmit
  split_ifs <;> exact ⟨⟨rfl, rfl, rfl, rfl, rfl⟩, rfl, rfl⟩

theorem Lag.same_visit (name : String) (member : Member) : member.Same (lag.visit now name member) := by
  unfold visit
  have applied := member.same_apply ((lag.heard now).verdict now name member).1
    ((lag.heard now).verdict now name member).2
  split_ifs
  · obtain ⟨sent, -, -⟩ := same_transmit (member.apply
      ((lag.heard now).verdict now name member).1 ((lag.heard now).verdict now name member).2) now
    exact ⟨sent.config.trans applied.config, sent.portNumber.trans applied.portNumber,
      sent.linkUp.trans applied.linkUp, sent.partner.trans applied.partner,
      sent.lastRx.trans applied.lastRx⟩
  · exact applied

theorem Lag.visit_verdict (name : String) (member : Member) :
    ((lag.visit now name member).bundled, (lag.visit now name member).individual) =
      (lag.heard now).verdict now name member := by
  unfold visit
  split_ifs
  · obtain ⟨-, bundled, individual⟩ := same_transmit (member.apply
      ((lag.heard now).verdict now name member).1 ((lag.heard now).verdict now name member).2) now
    rw [bundled, individual]
    simp
  · simp

end

variable {lag : Lag} {name : String}

theorem Lag.chosen_spec (hp : lag.members[name]? = some member) (chosen : some name = lag.chosen) :
    member.linkUp = true ∧ ∀ (other : String) hm', lag.members[other]? = some hm' → hm'.linkUp = true →
        member.rank ≤ hm'.rank := by
  obtain ⟨⟨name', winner⟩, least, rfl⟩ := Option.map_eq_some_iff.mp chosen.symm
  have hl := List.argmin_mem least
  rw [List.mem_filter, mem_toList_iff_getElem?_eq_some, hp, Option.some.injEq] at hl
  obtain ⟨rfl, live⟩ := hl
  refine ⟨live, ?_⟩
  intro other hm' hp' live'
  have candidate : (other, hm') ∈ lag.members.toList.filter fun entry => entry.2.linkUp := by
    rw [List.mem_filter, mem_toList_iff_getElem?_eq_some]
    exact ⟨hp', live'⟩
  exact (List.le_of_mem_argmin candidate least :)

variable {now : Nat}

theorem Lag.linkUp_of_want (hp : lag.members[name]? = some member)
    (wants : (lag.want now name member).1 = true) : member.linkUp = true := by
  unfold want at wants
  split_ifs at wants with static armed individual
  · exact wants
  · exact (chosen_spec hp (by simpa using wants)).1
  · exact wants
  · simp only [ready, Bool.and_eq_true] at wants
    exact wants.1.1

theorem Lag.individual_of_want (individual : (lag.want now name member).2 = true) :
    lag.fallbackArmed now = true ∧ lag.config.fallback = some .individual ∧ some name = lag.chosen := by
  unfold want at individual
  split_ifs at individual with static armed fallback
  · exact ⟨armed, fallback, by simpa using individual⟩

theorem Lag.exists_of_step_members (hf : (lag.step now).members[name]? = some after) :
    ∃ member, lag.members[name]? = some member ∧ after = lag.visit now name member := by
  rw [step_members, getElem?_map, Option.map_eq_some_iff] at hf
  obtain ⟨member, hp, rfl⟩ := hf
  exact ⟨member, hp, rfl⟩

theorem Lag.visit_bundled (lag : Lag) (now : Nat) (name : String) (member : Member) :
    (lag.visit now name member).bundled = (((lag.heard now).want now name member).1 &&
        (((lag.heard now).want now name member).2 || !(lag.heard now).short now)) :=
  congrArg Prod.fst (lag.visit_verdict now name member)

theorem Lag.visit_individual (lag : Lag) (now : Nat) (name : String) (member : Member) :
    (lag.visit now name member).individual = ((lag.heard now).want now name member).2 :=
  congrArg Prod.snd (lag.visit_verdict now name member)

theorem Lag.linkUp_of_bundled (hf : (lag.step now).members[name]? = some after)
    (bundled : after.bundled = true) : after.linkUp = true := by
  obtain ⟨member, hp, rfl⟩ := exists_of_step_members hf
  rw [visit_bundled, Bool.and_eq_true] at bundled
  rw [(lag.same_visit now name member).linkUp]
  exact linkUp_of_want (by rwa [listen_members]) bundled.1

theorem toNat_eq_zero_of_not_pos {count : UInt8} (zero : ¬ 0 < count) : count.toNat = 0 := by
  simpa [UInt8.lt_iff_toNat_lt] using zero

def Lag.openGates (lag : Lag) : Nat :=
  lag.members.toList.countP fun (_, member) => member.bundled && !member.individual

theorem Lag.step_openGates (lag : Lag) (now : Nat) :
    (lag.step now).openGates = 0 ∨ lag.config.minLinks.toNat ≤ (lag.step now).openGates := by
  have counted : (lag.step now).openGates = lag.members.toList.countP fun (name, member) =>
      ((lag.heard now).want now name member).1 && !(lag.heard now).short now &&
        !((lag.heard now).want now name member).2 := by
    rw [Lag.openGates, Lag.step_members, toList_map, List.countP_map]
    apply List.countP_congr
    rintro ⟨name, member⟩ -
    simp only [Function.comp_apply, Lag.visit_bundled, Lag.visit_individual]
    cases ((lag.heard now).want now name member).2 <;> simp
  by_cases short : (lag.heard now).short now = true
  · left
    rw [counted]
    simp [short]
  · right
    have wanted : bundledCount ((lag.heard now).selection now) = (lag.step now).openGates := by
      rw [counted, bundledCount, Lag.selection_eq, toList_map, List.countP_map, Lag.listen_members]
      apply List.countP_congr
      rintro ⟨name, member⟩ -
      simp [short]
    rw [← wanted]
    simp only [Lag.short, Lag.listen_config, Bool.and_eq_true, decide_eq_true_eq, not_and,
      not_lt] at short
    by_cases required : 0 < lag.config.minLinks
    · exact short required
    · rw [toNat_eq_zero_of_not_pos required]
      exact Nat.zero_le _

theorem Lag.step_fallbackActive (lag : Lag) (now : Nat) :
    (lag.step now).fallbackActive = (lag.heard now).fallbackArmed now := by
  unfold step transmit
  split_ifs <;> rfl

theorem Lag.step_partnerlessSince (lag : Lag) (now : Nat) : (lag.step now).partnerlessSince =
      if lag.anyPartner now then now else lag.partnerlessSince := by
  have selected : (lag.select now).publish.partnerlessSince =
      if lag.anyPartner now then now else lag.partnerlessSince := by
    unfold publish select listen
    split_ifs <;> rfl
  unfold step transmit
  split_ifs at selected ⊢
  all_goals exact selected

theorem Lag.anyPartner_listen (lag : Lag) (now : Nat) :
    (lag.listen now).anyPartner now = lag.anyPartner now := by
  rw [anyPartner, listen_members, anyPartner]

theorem Lag.step_fallback (active : (lag.step now).fallbackActive = true) :
    lag.config.lacp = true ∧ lag.anyPartner now = false ∧
      lag.config.fallbackTimeout ≤ now - (lag.step now).partnerlessSince := by
  rw [step_fallbackActive] at active
  simp only [fallbackArmed, listen_config, anyPartner_listen, Bool.and_eq_true,
    Bool.not_eq_true'] at active
  obtain ⟨⟨⟨lacp, -⟩, unheard⟩, expired⟩ := active
  refine ⟨lacp, unheard, ?_⟩
  rw [step_partnerlessSince]
  simpa [listen, unheard] using expired

theorem Lag.step_anyPartner (lag : Lag) (now : Nat) :
    (lag.step now).anyPartner now = lag.anyPartner now := by
  rw [anyPartner, step_members, toList_map, List.any_map]
  congr 1
  funext entry
  exact (lag.same_visit now entry.1 entry.2).partnerCurrent now

theorem Lag.step_config (lag : Lag) (now : Nat) : (lag.step now).config = lag.config := by
  have config : (lag.select now).publish.config = lag.config := lag.listen_config now
  unfold step transmit
  split_ifs <;> exact config

theorem Lag.step_gateList (lag : Lag) (now : Nat) :
    (lag.step now).gateList = (lag.select now).gateList := by
  unfold step transmit
  split_ifs
  · rw [gateList, toList_map, List.map_map]
    apply List.map_congr_left
    intro entry _
    exact congrArg (entry.1, ·) (same_transmit entry.2 now).2.1
  · rfl

theorem Lag.step_lastGates (lag : Lag) (now : Nat) :
    (lag.step now).lastGates = some (lag.step now).gateList := by
  rw [step_gateList]
  unfold step transmit
  split_ifs <;> rfl

/-- An individual port forwards under armed individual fallback and is the live
member of least rank. -/
theorem Lag.step_individual (hf : (lag.step now).members[name]? = some after)
    (individual : after.individual = true) :
    (lag.step now).fallbackActive = true ∧ lag.config.fallback = some .individual ∧
      some name = lag.chosen ∧ after.linkUp = true ∧
      ∀ (other : String) hm', (lag.step now).members[other]? = some hm' →
        hm'.linkUp = true → after.rank ≤ hm'.rank := by
  obtain ⟨member, hp, rfl⟩ := Lag.exists_of_step_members hf
  rw [Lag.visit_individual] at individual
  obtain ⟨armed, fallback, chosen⟩ := Lag.individual_of_want individual
  have hs := lag.same_visit now name member
  have chosen' : some name = lag.chosen := by simpa [Lag.chosen] using chosen
  obtain ⟨live, least⟩ := Lag.chosen_spec hp chosen'
  refine ⟨by rwa [Lag.step_fallbackActive], by simpa using fallback, chosen', hs.linkUp.trans live, ?_⟩
  intro other after' hf' live'
  obtain ⟨hm', hp', rfl⟩ := Lag.exists_of_step_members hf'
  have hs' := lag.same_visit now other hm'
  rw [hs.rank, hs'.rank]
  exact least other hm' hp' (hs'.linkUp.symm.trans live')

/-- Under LACP and without fallback a gate is open exactly when its member is ready
and enough members are. -/
theorem Lag.step_bundled_iff (lacp : lag.config.lacp = true)
    (noFallback : (lag.step now).fallbackActive = false)
    (hf : (lag.step now).members[name]? = some after) :
    after.bundled = true ↔ after.ready now = true ∧ lag.config.minLinks.toNat ≤
          (lag.step now).members.toList.countP fun (_, member) => member.ready now := by
  have want (other : String) (member : Member) :
      (lag.heard now).want now other member = (member.ready now, false) := by
    rw [step_fallbackActive] at noFallback
    simp [want, lacp, noFallback]
  have count : bundledCount ((lag.heard now).selection now) =
      (lag.step now).members.toList.countP fun (_, member) => member.ready now := by
    rw [bundledCount, selection_eq, step_members, toList_map,
      toList_map, List.countP_map, List.countP_map, listen_members]
    apply List.countP_congr
    rintro ⟨other, member⟩ -
    simp [want, (lag.same_visit now other member).ready]
  obtain ⟨member, hp, rfl⟩ := exists_of_step_members hf
  rw [visit_bundled, want, (lag.same_visit now name member).ready]
  simp only [short, count, listen_config, Bool.false_or, Bool.and_eq_true,
    Bool.not_eq_true', Bool.and_eq_false_iff, decide_eq_false_iff_not, not_lt]
  apply and_congr_right
  intro _
  constructor
  · rintro (none | enough)
    · rw [toNat_eq_zero_of_not_pos none]
      exact Nat.zero_le _
    · exact enough
  · exact .inr

end Hemlock.Lacp
