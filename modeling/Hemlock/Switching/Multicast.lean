import Hemlock.Intent.Reading
import Hemlock.Switching.Mapping

/-!
# Requests about VLANs that are gone

Multicast groups are recorded under the number of their VLAN, and instances list VLANs by
number, so both outlive the VLAN.  When they are removed, a VLAN that is not defined any
more counts as the default one.
-/

namespace Hemlock.Switching

open Contracts Net OrderedMap Hardware
open Acl (Status saiErr)

structure L2mcGroupState where
  oid : Oid
  members : NameMap Oid := ∅

/-- The bridge with the recorded multicast groups and what the switch has of them. -/
structure Snooping where
  world : World
  l2mc : Std.ExtTreeMap (UInt16 × String) L2mcGroupState comparePair := ∅
  groups : OidSet := ∅
  members : OidMap (Oid × PortId) := ∅
  entries : Std.ExtTreeMap (Option Oid × IpAddr) Oid comparePair := ∅
  unknownMcast : Std.ExtTreeMap (Option Oid) Oid compare := ∅

/-- A call of the switch, with the reason to refuse it if there is one. -/
def l2mcCall (refusal : Snooping → Option String) (effect : Snooping → Snooping) :
    EStateM Status Snooping Unit := fun s =>
  match refusal s with
  | none => .ok () (effect s)
  | some text => .error (saiErr text) s

def createGroup : EStateM Status Snooping Oid := fun s =>
  .ok s.world.hardware.next
    { s with
      world.hardware.next := s.world.hardware.next + 1
      groups := s.groups.insert s.world.hardware.next }

def removeGroup (group : Oid) : EStateM Status Snooping Unit :=
  l2mcCall
    (fun s =>
      if s.members.values.any fun member => member.1 = group then
        some ("L2MC group " ++ hex group ++ " has members")
      else if s.entries.values.contains group || s.unknownMcast.values.contains group then
        some ("L2MC group " ++ hex group ++ " is still referenced")
      else if group ∈ s.groups then none
      else some ("no such L2MC group " ++ hex group))
    fun s => { s with groups := s.groups.erase group }

def removeL2mcMember (member : Oid) : EStateM Status Snooping Unit :=
  l2mcCall
    (fun s => if member ∈ s.members then none else some ("no such L2MC member " ++ hex member))
    fun s => { s with members := s.members.erase member }

def setL2mcEntry (vlan : Option Oid) (ip : IpAddr) (l2mc : Option Oid) : EStateM Status Snooping Unit :=
  l2mcCall
    (fun s =>
      if vlan.any fun vlan => !s.world.hardware.hasVlan vlan then
        some ("no such VLAN " ++ hex (vlan.getD 0))
      else
        match l2mc with
        | some group =>
          if group ∈ s.groups then none else some ("no such L2MC group " ++ hex group)
        | none =>
          if (vlan, ip) ∈ s.entries then none
          else
            some ("no L2MC entry for " ++ ip.text ++ " in VLAN " ++
              vlan.elim "None" fun vlan => "Some(Oid(" ++ toString vlan ++ "))"))
    fun s =>
      match l2mc with
      | some group => { s with entries := s.entries.insert (vlan, ip) group }
      | none => { s with entries := s.entries.erase (vlan, ip) }

def l2mcKey (rawVlan : UInt32) (group : String) : Except Status (UInt16 × IpAddr) := do
  let vlan ← vlanId rawVlan
  match parseIpAddr group.toList with
  | none => throw ⟨.invalidArgument, "bad group address " ++ Intent.debug group⟩
  | some ip =>
    if ip.isMulticast then return (vlan, ip)
    else throw ⟨.invalidArgument, ip.text ++ " is not a multicast address"⟩

def ensureL2mcGroup (supported : Bool) (rawVlan : UInt32) (group : String) : EStateM Status Snooping Unit := do
  settle (requireCapability supported "igmp-snooping")
  let (vlan, ip) ← settle (l2mcKey rawVlan group)
  let s ← get
  if (vlan, ip.text) ∈ s.l2mc then return
  else
    let ref ← settle (s.world.fdbVlanRef vlan)
    let oid ← createGroup
    recover (setL2mcEntry ref ip (some oid)) (removeGroup oid)
    modify fun s => { s with l2mc := s.l2mc.insert (vlan, ip.text) ⟨oid, ∅⟩ }

def removeL2mcGroup (rawVlan : UInt32) (group : String) : EStateM Status Snooping Unit := do
  let (vlan, ip) ← settle (l2mcKey rawVlan group)
  let s ← get
  match s.l2mc[(vlan, ip.text)]? with
  | none => return
  | some state =>
    modify fun s => { s with l2mc := s.l2mc.erase (vlan, ip.text) }
    attempt (setL2mcEntry (s.world.refOrDefault vlan) ip none)
    each removeL2mcMember state.members.values
    removeGroup state.oid

inductive SnoopingCall where
  | bridge (call : MappingCall)
  | ensureGroup (vlan : UInt32) (group : String)
  | removeGroup (vlan : UInt32) (group : String)

def Snooping.next (s : Snooping) : SnoopingCall → Snooping
  | .bridge call => { s with world := final (call.rpc {}) s.world }
  | .ensureGroup vlan group => final (ensureL2mcGroup true vlan group) s
  | .removeGroup vlan group => final (removeL2mcGroup vlan group) s

def snooping (board : Board) : Machine Snooping SnoopingCall Empty where
  init := { world := board.boot }
  next := Snooping.next
  emit := fun _ _ => []

def Snooping.defaultEntry (s : Snooping) (ip : IpAddr) : Option Oid :=
  s.entries[((none, ip) : Option Oid × IpAddr)]?

/-- The instance of the default VLAN. -/
def World.defaultStp (w : World) : Option Oid := w.hardware.vlanStp[(none : Option Oid)]?.join

structure Snooping.SparesDefault (s after : Snooping) : Prop where
  entries : ∀ ip, after.defaultEntry ip = s.defaultEntry ip
  mapping : after.world.defaultStp = s.world.defaultStp

/-- The VLAN of a recorded group counts as the default one, which has the group too. -/
def Snooping.Mistakes (s : Snooping) (rawVlan : UInt32) (group : String) : Prop :=
  ∃ vlan ip, l2mcKey rawVlan group = .ok (vlan, ip) ∧ (vlan, ip.text) ∈ s.l2mc ∧
    s.world.refOrDefault vlan = none ∧ s.defaultEntry ip ≠ none

def World.knows (w : World) (ref : Option Oid) : Bool := ref.all w.hardware.hasVlan

/-- A VLAN that counts as the default one comes before any that the switch refuses, and the
default one is in another instance. -/
def World.Mistakes (w : World) (raw : UInt32) : Prop :=
  ∃ number state, stpInstance raw = .ok number ∧ w.stps[number]? = some state ∧
    none ∈ (state.vlans.map w.refOrDefault).takeWhile w.knows ∧ w.defaultStp ≠ none

section

variable {s : Snooping} {w : World} {ref : Option Oid} {ip : IpAddr} {rawVlan : UInt32} {group : String}

theorem l2mcCall_keeps {refusal : Snooping → Option String} {effect : Snooping → Snooping}
    {Kept : Snooping → Prop} (keeps : ∀ s, Kept s → Kept (effect s)) :
    Keeps Kept (l2mcCall refusal effect) Kept := by
  intro s hk
  rw [l2mcCall]
  cases refusal s with
  | none => exact keeps s hk
  | some text => exact hk

/-- Nothing happens to the default VLAN but that it may lose an entry. -/
structure Snooping.Loses (s : Snooping) (ref : Option Oid) (ip : IpAddr) (after : Snooping) : Prop where
  entries : ∀ other, after.defaultEntry other = if (ref, ip) = (none, other) then none else s.defaultEntry other
  mapping : after.world.defaultStp = s.world.defaultStp

theorem setL2mcEntry_loses : Contract (fun after => after.entries = s.entries ∧ after.world = s.world)
    (setL2mcEntry ref ip none) (fun _ => s.Loses ref ip) (s.Loses ref ip) := by
  rintro after ⟨entries, world⟩
  have refused (ha : ∀ other, (ref, ip) = (none, other) → s.defaultEntry other = none) :
      s.Loses ref ip after := by
    refine ⟨fun other => ?_, by rw [world]⟩
    rw [Snooping.defaultEntry, entries]
    split_ifs with hs
    · exact ha other hs
    · rfl
  rw [setL2mcEntry, l2mcCall]
  by_cases hu : (ref.any fun vlan => !after.world.hardware.hasVlan vlan) = true
  · rw [if_pos hu]
    refine refused fun other hs => ?_
    cases hs
    cases hu
  · rw [if_neg hu]
    by_cases hp : (ref, ip) ∈ after.entries
    · rw [if_pos hp]
      exact ⟨fun other => by rw [Snooping.defaultEntry, lookup_erase, entries]; rfl, by rw [world]⟩
    · rw [if_neg hp]
      refine refused fun other hs => ?_
      rw [entries, hs] at hp
      exact getElem?_eq_none hp

theorem removeL2mcGroup_loses {vlan : UInt16} (hp : l2mcKey rawVlan group = .ok (vlan, ip))
    (hm : (vlan, ip.text) ∈ s.l2mc) :
    s.Loses (s.world.refOrDefault vlan) ip (final (removeL2mcGroup rawVlan group) s) := by
  obtain ⟨state, hf⟩ := exists_of_mem hm
  have removes : Contract (fun start => start = s) (removeL2mcGroup rawVlan group)
      (fun _ => s.Loses (s.world.refOrDefault vlan) ip) (s.Loses (s.world.refOrDefault vlan) ip) := by
    simp only [removeL2mcGroup, hp, settle, pure_bind]
    refine contract_get_bind fun start isStart => ?_
    subst isStart
    rw [hf]
    refine Contract.bind (contract_modify fun _ hs => ?_) fun _ =>
      Contract.bind (contract_attempt setL2mcEntry_loses) fun _ => Contract.bind
        (contract_each_keep (fun _ => l2mcCall_keeps fun _ loses => ⟨loses.entries, loses.mapping⟩) _)
        fun _ => l2mcCall_keeps fun _ loses => ⟨loses.entries, loses.mapping⟩
    subst hs
    exact ⟨rfl, rfl⟩
  exact removes.final rfl

theorem removeL2mcGroup_idle
    (ha : ∀ vlan ip, l2mcKey rawVlan group = .ok (vlan, ip) → (vlan, ip.text) ∉ s.l2mc) :
    final (removeL2mcGroup rawVlan group) s = s := by
  rw [final, removeL2mcGroup]
  cases hp : l2mcKey rawVlan group with
  | error failure => rfl
  | ok key => simp [getElem?_eq_none (ha key.1 key.2 hp)]

theorem removeL2mcGroup_spares :
    s.SparesDefault (final (removeL2mcGroup rawVlan group) s) ↔ ¬ s.Mistakes rawVlan group := by
  by_cases hm : ∃ vlan ip, l2mcKey rawVlan group = .ok (vlan, ip) ∧ (vlan, ip.text) ∈ s.l2mc
  · obtain ⟨vlan, ip, hp, hm⟩ := hm
    have loses := removeL2mcGroup_loses hp hm
    constructor
    · rintro spares ⟨vlan', ip', hp', -, stands, ne⟩
      rw [hp] at hp'
      cases hp'
      have gone := spares.entries ip
      rw [loses.entries, if_pos (by rw [stands])] at gone
      exact ne gone.symm
    · intro spares
      refine ⟨fun other => ?_, loses.mapping⟩
      rw [loses.entries]
      split_ifs with hs
      · obtain ⟨stands, rfl⟩ := Prod.mk.inj hs
        by_contra ne
        exact spares ⟨vlan, ip, hp, hm, stands, Ne.symm ne⟩
      · rfl
  · rw [removeL2mcGroup_idle fun vlan ip hp hl => hm ⟨vlan, ip, hp, hl⟩]
    refine iff_of_true ⟨fun _ => rfl, rfl⟩ ?_
    rintro ⟨vlan, ip, hp, hl, -⟩
    exact hm ⟨vlan, ip, hp, hl⟩

theorem moveVlans_defaultStp (refs : List (Option Oid)) (w : World) :
    (final (moveVlans refs none) w).defaultStp =
      if none ∈ refs.takeWhile w.knows then none else w.defaultStp := by
  induction refs generalizing w with
  | nil => simp [moveVlans, each, final]
  | cons ref rest ih =>
    by_cases hk : w.knows ref = true
    · have moved : sai (setVlanStpInstance ref none) w = .ok () (w.remap [ref] none) := by
        rw [setVlanStpInstance, sai_checked]
        · simp [World.remap]
        · cases ref <;> simp_all [World.knows]
      have hs : (w.remap [ref] none).knows = w.knows := rfl
      have isDefault : (w.remap [ref] none).defaultStp = if none = ref then none else w.defaultStp := by
        rw [World.defaultStp, getElem?_remap]
        by_cases isNone : none = ref <;> simp [isNone, World.defaultStp]
      rw [final, moveVlans, each, bind_of_ok moved]
      refine (ih _).trans ?_
      rw [List.takeWhile_cons_of_pos hk, hs, isDefault]
      by_cases isNone : none = ref <;> simp [isNone]
    · have refused : first
          [(ref.any fun vlan => !w.hardware.hasVlan vlan, .noSuchVlan (ref.getD 0)),
            (false, .noSuchStpInstance 0)] = some (.noSuchVlan (ref.getD 0)) := by
        cases ref <;> simp_all [World.knows, first]
      have failed : moveVlans (ref :: rest) none w = .error _ w := bind_of_error (sai_refused refused)
      rw [final_of_error failed, List.takeWhile_cons_of_neg hk]
      simp

theorem removeStpInstance_defaultStp {raw : UInt32} {number : UInt8} {state : StpInstanceState}
    (hp : stpInstance raw = .ok number) (held : w.stps[number]? = some state) :
    (final (removeStpInstance raw) w).defaultStp =
      if none ∈ (state.vlans.map w.refOrDefault).takeWhile w.knows then none else w.defaultStp := by
  rw [← moveVlans_defaultStp]
  have removes : Contract (fun start => start = w) (removeStpInstance raw)
      (fun _ after => after.defaultStp = (final (moveVlans (state.vlans.map w.refOrDefault) none) w).defaultStp)
      fun after => after.defaultStp = (final (moveVlans (state.vlans.map w.refOrDefault) none) w).defaultStp := by
    simp only [removeStpInstance, hp, settle, pure_bind]
    refine contract_get_bind fun start isStart => ?_
    subst isStart
    rw [held]
    exact Contract.bind (contract_of_final rfl) fun _ =>
      Contract.bind (contract_sai (fun _ hs _ => hs) fun _ hs _ => hs) fun _ => contract_modify fun _ hs => hs
  exact removes.final rfl

theorem removeStpInstance_spares {raw : UInt32} :
    (final (removeStpInstance raw) w).defaultStp = w.defaultStp ↔ ¬ w.Mistakes raw := by
  cases hp : stpInstance raw with
  | error failure =>
    refine iff_of_true (by simp [final, removeStpInstance, hp]) ?_
    rintro ⟨number, state, isNumber, -⟩
    simp [hp] at isNumber
  | ok number =>
    cases held : w.stps[number]? with
    | none =>
      refine iff_of_true (by simp [final, removeStpInstance, hp, held]) ?_
      rintro ⟨number', state, isNumber, isState, -⟩
      cases hp.symm.trans isNumber
      simp [held] at isState
    | some state =>
      rw [removeStpInstance_defaultStp hp held]
      constructor
      · rintro spared ⟨number', state', isNumber, isState, reached, ne⟩
        cases hp.symm.trans isNumber
        cases held.symm.trans isState
        rw [if_pos reached] at spared
        exact ne spared.symm
      · intro spared
        split_ifs with reached
        · by_contra ne
          exact spared ⟨number, state, hp, held, reached, Ne.symm ne⟩
        · rfl

end

/-- Whatever the state, the default VLAN keeps its entries and its instance unless a VLAN of
the removed group or instance is taken for it. -/
theorem spares_default_iff (s : Snooping) (raw : UInt32) :
    (∀ group, s.SparesDefault (s.next (.removeGroup raw group)) ↔ ¬ s.Mistakes raw group) ∧
      (s.SparesDefault (s.next (.bridge (.remove raw))) ↔ ¬ s.world.Mistakes raw) := by
  refine ⟨fun group => removeL2mcGroup_spares, ?_⟩
  rw [← removeStpInstance_spares]
  exact ⟨Snooping.SparesDefault.mapping, fun hi => ⟨fun _ => rfl, hi⟩⟩

/-- A group and an instance that have outlived VLAN 10, next to those of the default VLAN. -/
def outlived : Snooping :=
  (snooping smallBoard).run
    [.bridge (.ensureVlan ⟨10, "", false⟩), .ensureGroup 10 "239.1.1.1", .ensureGroup 1 "239.1.1.1",
      .bridge (.create 1), .bridge (.setVlans ⟨1, [1]⟩), .bridge (.create 2),
      .bridge (.setVlans ⟨2, [10]⟩), .bridge (.removeVlan 10)]

theorem removal_reaches_default : outlived.world.vlanObject 10 = none ∧
    ¬ outlived.SparesDefault (outlived.next (.removeGroup 10 "239.1.1.1")) ∧
    ¬ outlived.SparesDefault (outlived.next (.bridge (.remove 2))) := by
  refine ⟨by decide +kernel, fun spares => ?_, fun spares => ?_⟩
  · exact absurd (spares.entries (.v4 #v[239, 1, 1, 1])) (by decide +kernel)
  · exact absurd spares.mapping (by decide +kernel)

end Hemlock.Switching
