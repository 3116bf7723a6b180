import Hemlock.Library.Machine
import Hemlock.Switching.SpanningTree

/-!
# VLANs and the instances that list them

The switch maps each VLAN to one instance.  A request looks at the lists of its own
instance only: a VLAN that is defined after it was listed is not mapped, and a VLAN that
leaves one list is unmapped even though another list has it.
-/

namespace Hemlock.Switching

open Contracts OrderedMap World Hardware Board Machine

inductive MappingCall where
  | create (raw : UInt32)
  | setVlans (req : SetStpInstanceVlansRequest)
  | remove (raw : UInt32)
  | ensureVlan (req : EnsureVlanRequest)
  | removeVlan (raw : UInt32)

def MappingCall.rpc (caps : Capabilities) : MappingCall → Rpc Unit
  | .create raw => createStpInstance caps raw
  | .setVlans req => setStpInstanceVlans req
  | .remove raw => removeStpInstance raw
  | .ensureVlan req => Switching.ensureVlan req
  | .removeVlan raw => Switching.removeVlan raw

def mappingMachine (caps : Capabilities) (board : Board) : Machine World MappingCall Empty where
  init := board.boot
  next := fun w call => final (call.rpc caps) w
  emit := fun _ _ => []

def World.Lists (w : World) (number : UInt8) (vlan : UInt16) : Prop :=
  ∃ state, w.stps[number]? = some state ∧ vlan ∈ state.vlans

/-- A defined VLAN that one instance lists is mapped to it, and one that none lists to the
default instance. -/
structure World.Faithful (w : World) : Prop where
  listed : ∀ {vlan : UInt16} {ref : Option Oid} {number : UInt8} {state : StpInstanceState},
    w.fdbVlanRef vlan = .ok ref → w.stps[number]? = some state → vlan ∈ state.vlans →
    (∀ other, w.Lists other vlan → other = number) →
    w.hardware.vlanStp[ref]? = some (some state.oid)
  unlisted : ∀ {vlan : UInt16} {ref : Option Oid}, w.fdbVlanRef vlan = .ok ref →
    (∀ number, ¬ w.Lists number vlan) → w.hardware.vlanStp[ref]?.join = none

def World.Defined (w : World) (vlan : UInt16) : Prop := ∃ ref, w.fdbVlanRef vlan = .ok ref

/-- VLANs are defined and removed while no instance lists them, and what a request unmaps
no other instance lists. -/
def World.Careful (w : World) : MappingCall → Prop
  | .create _ => True
  | .setVlans req => ∀ (number : UInt8) (listed : List UInt16),
      stpInstance req.number = .ok number → req.vlans.mapM vlanId = .ok listed →
      ∀ vlan, w.Lists number vlan → vlan ∉ listed → w.Defined vlan →
      ∀ other, w.Lists other vlan → other = number
  | .remove raw => ∀ number : UInt8, stpInstance raw = .ok number →
      -- a VLAN that is not defined stands for the default one
      ∀ vlan, w.Lists number vlan → ∀ reset, w.fdbVlanRef reset = .ok (w.refOrDefault vlan) →
      ∀ other, w.Lists other reset → other = number
  | .ensureVlan req => ∀ id : UInt16, vlanId req.id = .ok id → ¬ w.Defined id →
      ∀ number, ¬ w.Lists number id
  | .removeVlan raw => ∀ id : UInt16, vlanId raw = .ok id → id ≠ 1 → ∀ number, ¬ w.Lists number id

section

variable {w after : World} {vlan other : UInt16} {ref : Option Oid} {oid : Oid}

theorem fdbVlanRef_eq_ok : w.fdbVlanRef vlan = .ok ref ↔
    (vlan = 1 ∧ ref = none) ∨ vlan ≠ 1 ∧ ref.isSome ∧ w.vlanObject vlan = ref := by
  unfold fdbVlanRef
  by_cases isDefault : vlan = 1
  · rw [if_pos isDefault]
    constructor
    · intro hk
      cases hk
      exact .inl ⟨isDefault, rfl⟩
    · rintro (⟨-, rfl⟩ | ⟨ne, -⟩)
      · rfl
      · exact absurd isDefault ne
  · rw [if_neg isDefault]
    cases object : w.vlanObject vlan with
    | none | some oid => cases ref <;> simp [isDefault]

/-- The objects of VLANs and instances, and a mapping that follows the lists. -/
structure World.Mapping (w : World) : Prop extends w.StpObjects where
  plain : w.vlanObject 1 = none
  objects : ∀ {id : UInt16} {oid : Oid}, w.vlanObject id = some oid →
    w.hardware.vlans[id]? = some oid
  vlanNumbered : ∀ {id : UInt16} {oid : Oid}, w.vlanObject id = some oid → oid < w.hardware.next
  vlanDistinct : ∀ {id other : UInt16} {oid : Oid}, w.vlanObject id = some oid →
    w.vlanObject other = some oid → id = other
  exclusive : ∀ {vlan : UInt16} {ref : Option Oid} {number : UInt8} {state : StpInstanceState},
    w.fdbVlanRef vlan = .ok ref → w.stps[number]? = some state → vlan ∈ state.vlans →
    (∀ other, w.Lists other vlan → other = number) →
    w.hardware.vlanStp[ref]? = some (some state.oid)
  mapped : ∀ {ref : Option Oid} {oid : Oid}, w.hardware.vlanStp[ref]? = some (some oid) →
    ∃ (vlan : UInt16) (number : UInt8), ∃ state,
      w.fdbVlanRef vlan = .ok ref ∧ w.stps[number]? = some state ∧ vlan ∈ state.vlans ∧
        state.oid = oid

theorem World.Mapping.ref_injective (hi : w.Mapping) (hk : w.fdbVlanRef vlan = .ok ref)
    (hk' : w.fdbVlanRef other = .ok ref) : vlan = other := by
  rcases fdbVlanRef_eq_ok.mp hk with ⟨rfl, rfl⟩ | ⟨ne, ho, object⟩
  · rcases fdbVlanRef_eq_ok.mp hk' with ⟨rfl, -⟩ | ⟨-, ho, -⟩
    · rfl
    · cases ho
  · rcases fdbVlanRef_eq_ok.mp hk' with ⟨-, rfl⟩ | ⟨-, -, object'⟩
    · cases ho
    · obtain ⟨oid, rfl⟩ := Option.isSome_iff_exists.mp ho
      exact hi.vlanDistinct object object'

theorem World.Mapping.faithful (hi : w.Mapping) : w.Faithful where
  listed := hi.exclusive
  unlisted := by
    intro vlan ref hk unlisted
    cases hf : w.hardware.vlanStp[ref]? with
    | none => rfl
    | some stp =>
      cases stp with
      | none => rfl
      | some oid =>
        obtain ⟨vlan', number, state, hk', held, listed, -⟩ := hi.mapped hf
        rw [hi.ref_injective hk' hk] at listed
        exact absurd ⟨state, held, listed⟩ (unlisted number)

structure World.SameMapping (w after : World) : Prop where
  objects : ∀ id, after.vlanObject id = w.vlanObject id
  stps : after.stps = w.stps
  vlans : after.hardware.vlans = w.hardware.vlans
  vlanStp : after.hardware.vlanStp = w.hardware.vlanStp
  stpInstances : after.hardware.stpInstances = w.hardware.stpInstances
  next : w.hardware.next ≤ after.hardware.next

theorem World.SameMapping.refl (w : World) : w.SameMapping w :=
  ⟨fun _ => rfl, rfl, rfl, rfl, rfl, Nat.le_refl _⟩

theorem World.SameMapping.trans {last : World} (hs : w.SameMapping after)
    (more : after.SameMapping last) : w.SameMapping last where
  objects := fun id => (more.objects id).trans (hs.objects id)
  stps := more.stps.trans hs.stps
  vlans := more.vlans.trans hs.vlans
  vlanStp := more.vlanStp.trans hs.vlanStp
  stpInstances := more.stpInstances.trans hs.stpInstances
  next := Nat.le_trans hs.next more.next

variable {number : UInt8}

theorem World.SameMapping.lists (hs : w.SameMapping after) :
    after.Lists number vlan ↔ w.Lists number vlan := by
  rw [World.Lists, World.Lists, hs.stps]

/-- The objects of VLANs change that no instance lists. -/
theorem World.Mapping.redefine (hi : w.Mapping)
    (kept : ∀ other, (other = 1 ∨ ∃ number, w.Lists number other) →
      after.vlanObject other = w.vlanObject other)
    (stps : after.stps = w.stps) (vlanStp : after.hardware.vlanStp = w.hardware.vlanStp)
    (stpInstances : after.hardware.stpInstances = w.hardware.stpInstances)
    (next : w.hardware.next ≤ after.hardware.next)
    (objects : ∀ {other : UInt16} {oid : Oid}, after.vlanObject other = some oid →
      after.hardware.vlans[other]? = some oid ∧ oid < after.hardware.next)
    (hd : ∀ {other other' : UInt16} {oid : Oid}, after.vlanObject other = some oid →
      after.vlanObject other' = some oid → other = other') : after.Mapping where
  toStpObjects := hi.toStpObjects.of_sub
    (fun hf => ⟨_, by rwa [stps] at hf, rfl⟩) stpInstances next
  plain := (kept 1 (.inl rfl)).trans hi.plain
  objects := fun object => (objects object).1
  vlanNumbered := fun object => (objects object).2
  vlanDistinct := hd
  exclusive := by
    intro vlan ref number state hk hf hl only
    rw [stps] at hf
    rw [fdbVlanRef, kept vlan (.inr ⟨number, state, hf, hl⟩)] at hk
    rw [vlanStp]
    refine hi.exclusive hk hf hl fun other lists => only other ?_
    rwa [World.Lists, stps]
  mapped := by
    intro ref oid hf
    rw [vlanStp] at hf
    obtain ⟨vlan, number, state, hk, held, hl, ho⟩ := hi.mapped hf
    refine ⟨vlan, number, state, ?_, by rwa [stps], hl, ho⟩
    rwa [fdbVlanRef, kept vlan (.inr ⟨number, state, held, hl⟩)]

theorem World.Mapping.of_same (hi : w.Mapping) (hs : w.SameMapping after) : after.Mapping := by
  refine hi.redefine (fun other _ => hs.objects other) hs.stps hs.vlanStp hs.stpInstances hs.next ?_ ?_
  · intro id oid object
    rw [hs.objects] at object
    rw [hs.vlans]
    exact ⟨hi.objects object, Nat.lt_of_lt_of_le (hi.vlanNumbered object) hs.next⟩
  · intro id other oid object object'
    rw [hs.objects] at object object'
    exact hi.vlanDistinct object object'

theorem World.SameMapping.setHardware {hw : Hardware} (hs : w.SameMapping after)
    (vlans : hw.vlans = after.hardware.vlans) (vlanStp : hw.vlanStp = after.hardware.vlanStp)
    (stpInstances : hw.stpInstances = after.hardware.stpInstances)
    (next : after.hardware.next ≤ hw.next) : w.SameMapping { after with hardware := hw } :=
  hs.trans ⟨fun _ => rfl, rfl, vlans, vlanStp, stpInstances, next⟩

theorem removeMembers_sameMapping {members : List Oid} :
    Keeps w.SameMapping (removeMembers members) w.SameMapping := by
  refine contract_each_keep (fun hm => ?_) members
  exact contract_sai (fun _ hs _ => hs.setHardware rfl rfl rfl (Nat.le_refl _)) fun _ hs _ => hs

theorem addVlanMember_sameMapping {vlan port : Oid} {tagged : Bool} :
    Keeps w.SameMapping (sai (addVlanMember vlan port tagged)) w.SameMapping :=
  contract_sai (fun _ hs _ => hs.setHardware rfl rfl rfl (Nat.le_succ _)) fun _ hs _ => hs

variable {id : UInt16}

theorem leaveVlan_sameMapping {Failed : World → Prop} :
    Keeps w.SameMapping (modify (leaveVlan id) : Rpc Unit) Failed :=
  contract_modify fun _ hs => hs.trans ⟨fun _ => rfl, rfl, rfl, rfl, rfl, Nat.le_refl _⟩

theorem reconcile_sameMapping {suspend : Bool} :
    Keeps w.SameMapping (reconcileVlanSuspension id suspend) w.SameMapping := by
  refine contract_read fun start => ?_
  cases suspend with
  | true =>
    refine removeMembers_sameMapping.bind fun _ => ?_
    exact leaveVlan_sameMapping
  | false =>
    cases start.vlanObject id with
    | none => exact contract_done
    | some vlan =>
      refine contract_each_keep (fun port => ?_) _
      refine addVlanMember_sameMapping.bind fun hm => ?_
      exact contract_modify fun _ hs =>
        hs.trans ⟨fun _ => rfl, rfl, rfl, rfl, rfl, Nat.le_refl _⟩

variable {number' : UInt8}

theorem lists_addInstance (fresh : number ∉ w.stps) :
    (w.addInstance number).Lists number' vlan ↔ w.Lists number' vlan := by
  unfold World.Lists
  rw [lookup_addInstance]
  split_ifs with hs
  · subst hs
    simp [getElem?_eq_none fresh]
  · rfl

theorem World.Mapping.addInstance (hi : w.Mapping) (fresh : number ∉ w.stps) :
    (w.addInstance number).Mapping where
  __ := hi
  toStpObjects := hi.toStpObjects.addInstance
  vlanNumbered := fun object => Nat.lt_succ_of_lt (hi.vlanNumbered object)
  exclusive := by
    intro vlan ref number' state hk hf hl only
    rw [lookup_addInstance] at hf
    split_ifs at hf with hs
    · cases hf
      cases hl
    · exact hi.exclusive hk hf hl fun other lists =>
        only other ((lists_addInstance fresh).mpr lists)
  mapped := by
    intro ref oid hf
    obtain ⟨vlan, number', state, hk, held, hl, ho⟩ := hi.mapped hf
    refine ⟨vlan, number', state, hk, ?_, hl, ho⟩
    rwa [lookup_addInstance, if_neg]
    rintro rfl
    exact fresh (mem_of_lookup held)

def World.remap (refs : List (Option Oid)) (stp : Option Oid) (w : World) : World :=
  { w with hardware.vlanStp := w.hardware.vlanStp.insertMany (refs.map (·, stp)) }

variable {refs : List (Option Oid)} {stp : Option Oid}

theorem getElem?_remap : (w.remap refs stp).hardware.vlanStp[ref]? =
      if ref ∈ refs then some stp else w.hardware.vlanStp[ref]? := by
  rw [remap, getElem?_insertMany_const]

/-- The switch knows the VLANs. -/
def World.Known (w : World) (refs : List (Option Oid)) : Prop :=
  ∀ oid, some oid ∈ refs → w.hardware.hasVlan oid = true

theorem moveVlans_ok (hk : w.Known refs) (created : stp.all w.hardware.stpInstances.contains = true) :
    moveVlans refs stp w = .ok () (w.remap refs stp) := by
  induction refs generalizing w with
  | nil => simp [moveVlans, each, remap]
  | cons ref rest ih =>
    have granted : sai (setVlanStpInstance ref stp) w = .ok () (w.remap [ref] stp) := by
      rw [setVlanStpInstance, sai_checked]
      · simp [remap]
      · have isKnown := hk
        cases ref <;> cases stp <;> simp_all [World.Known]
    have hk' : (w.remap [ref] stp).Known rest :=
      fun oid hl => hk oid (List.mem_cons_of_mem _ hl)
    rw [moveVlans, each, bind_of_ok granted]
    refine (ih hk' created).trans ?_
    simp [remap, insertMany_cons]

variable {vlans : List UInt16}

theorem mem_refs : ref ∈ w.refs vlans ↔ ∃ vlan ∈ vlans, w.fdbVlanRef vlan = .ok ref := by
  rw [refs, List.mem_filterMap]
  refine exists_congr fun vlan => and_congr_right fun _ => ?_
  cases w.fdbVlanRef vlan <;> simp [Except.toOption]

theorem World.Mapping.hasVlan (hi : w.Mapping)
    (hk : w.fdbVlanRef vlan = .ok (some oid)) : w.hardware.hasVlan oid = true := by
  rcases fdbVlanRef_eq_ok.mp hk with ⟨-, ha⟩ | ⟨-, -, object⟩
  · cases ha
  · have hl := mem_values_iff.mpr ⟨vlan, hi.objects object⟩
    simpa [Hardware.hasVlan] using hl

theorem World.Mapping.known_refs (hi : w.Mapping) (vlans : List UInt16) : w.Known (w.refs vlans) := by
  intro oid hl
  obtain ⟨vlan, -, hk⟩ := mem_refs.mp hl
  exact hi.hasVlan hk

theorem refOrDefault_of_ok (hk : w.fdbVlanRef vlan = .ok ref) : w.refOrDefault vlan = ref := by
  rw [refOrDefault, hk]
  rfl

theorem exists_refOrDefault (w : World) (vlan : UInt16) :
    ∃ reset, w.fdbVlanRef reset = .ok (w.refOrDefault vlan) := by
  cases hk : w.fdbVlanRef vlan with
  | ok ref => exact ⟨vlan, by rw [refOrDefault_of_ok hk, hk]⟩
  | error failure =>
    refine ⟨1, ?_⟩
    rw [refOrDefault, hk]
    rfl

theorem World.Mapping.known_refOrDefault (hi : w.Mapping) (vlans : List UInt16) :
    w.Known (vlans.map w.refOrDefault) := by
  intro oid hl
  obtain ⟨vlan, -, isOid⟩ := List.mem_map.mp hl
  obtain ⟨reset, hk⟩ := exists_refOrDefault w vlan
  exact hi.hasVlan (isOid ▸ hk)

/-- The list of an instance is replaced, and the mapping with it. -/
def World.relist (number : UInt8) (state : StpInstanceState) (wanted : List UInt16) (w : World) : World :=
  { (w.remap (w.refs (state.vlans.filter fun vlan => vlan ∉ wanted)) none).remap
      (w.refs wanted) (some state.oid) with
    stps := w.stps.modify number fun state => { state with vlans := wanted } }

variable {state : StpInstanceState} {wanted : List UInt16}

theorem lookup_relist (held : w.stps[number]? = some state) :
    (w.relist number state wanted).stps[number']? =
      if number = number' then some { state with vlans := wanted } else w.stps[number']? := by
  simp only [relist, lookup_modify, held,
    Option.map_some]

theorem lists_relist (held : w.stps[number]? = some state) :
    (w.relist number state wanted).Lists number' vlan ↔
      if number = number' then vlan ∈ wanted else w.Lists number' vlan := by
  unfold World.Lists
  rw [lookup_relist held]
  split_ifs <;> simp

theorem getElem?_relist : (w.relist number state wanted).hardware.vlanStp[ref]? =
      if ref ∈ w.refs wanted then some (some state.oid)
      else if ref ∈ w.refs (state.vlans.filter fun vlan => vlan ∉ wanted) then some none
      else w.hardware.vlanStp[ref]? := by
  rw [← getElem?_remap, ← getElem?_remap]
  rfl

theorem World.Mapping.relist (hi : w.Mapping) (held : w.stps[number]? = some state)
    (careful : ∀ vlan, w.Lists number vlan → vlan ∉ wanted → w.Defined vlan →
      ∀ other, w.Lists other vlan → other = number) : (w.relist number state wanted).Mapping where
  __ := hi
  toStpObjects := by
    refine hi.toStpObjects.of_sub (fun hf => ?_) rfl (Nat.le_refl _)
    rw [lookup_relist held] at hf
    split_ifs at hf with hs
    · cases hf
      exact ⟨state, hs ▸ held, rfl⟩
    · exact ⟨_, hf, rfl⟩
  exclusive := by
    intro vlan ref number' state' hk hf hl only
    have hk : w.fdbVlanRef vlan = .ok ref := hk
    rw [lookup_relist held] at hf
    rw [getElem?_relist]
    split_ifs at hf with hs
    · cases hf
      rw [if_pos (mem_refs.mpr ⟨vlan, hl, hk⟩)]
    · have lists : w.Lists number' vlan := ⟨state', hf, hl⟩
      have unwanted : vlan ∉ wanted := fun isWanted =>
        hs (only number ((lists_relist held).mpr (by rwa [if_pos rfl])))
      have undropped : vlan ∉ state.vlans := fun earlier =>
        hs (careful vlan ⟨state, held, earlier⟩ unwanted ⟨ref, hk⟩ number' lists).symm
      have untouched {vlans : List UInt16} (ha : vlan ∉ vlans) : ref ∉ w.refs vlans := by
        intro moved
        obtain ⟨vlan', hm, hk'⟩ := mem_refs.mp moved
        exact ha (hi.ref_injective hk' hk ▸ hm)
      rw [if_neg (untouched unwanted), if_neg (untouched fun dropped =>
        undropped (List.mem_filter.mp dropped).1)]
      refine hi.exclusive hk hf hl fun other listsOther => ?_
      by_cases isNumber : number = other
      · obtain ⟨earlier, held', isListed⟩ := isNumber ▸ listsOther
        rw [held] at held'
        cases held'
        exact absurd isListed undropped
      · exact only other ((lists_relist held).mpr (by rwa [if_neg isNumber]))
  mapped := by
    intro ref oid hf
    rw [getElem?_relist] at hf
    split_ifs at hf with moved dropped
    · obtain ⟨vlan, isWanted, hk⟩ := mem_refs.mp moved
      cases hf
      exact ⟨vlan, number, { state with vlans := wanted }, hk,
        by rw [lookup_relist held, if_pos rfl], isWanted, rfl⟩
    · cases hf
    · obtain ⟨vlan, number', state', hk, held', hl, ho⟩ := hi.mapped hf
      refine ⟨vlan, number', state', hk, ?_, hl, ho⟩
      rw [lookup_relist held, if_neg]
      · exact held'
      · rintro rfl
        rw [held] at held'
        cases held'
        by_cases isWanted : vlan ∈ wanted
        · exact moved (mem_refs.mpr ⟨vlan, isWanted, hk⟩)
        · exact dropped (mem_refs.mpr ⟨vlan, by simp [hl, isWanted], hk⟩)

theorem mem_sortDedup : vlan ∈ sortDedup vlans ↔ vlan ∈ vlans := by
  simp [sortDedup]

theorem World.Mapping.setStpInstanceVlans {req : SetStpInstanceVlansRequest}
    (hi : w.Mapping) (careful : w.Careful (.setVlans req)) :
    (final (Switching.setStpInstanceVlans req) w).Mapping := by
  unfold final Switching.setStpInstanceVlans
  cases hp : stpInstance req.number with
  | error failure => exact hi
  | ok number =>
    cases collected : req.vlans.mapM vlanId with
    | error failure => exact hi
    | ok hl =>
      cases held : w.stps[number]? with
      | none => simpa [held] using hi
      | some state =>
        have unmaps := @moveVlans_ok w _ none
          (hi.known_refs (state.vlans.filter fun vlan => vlan ∉ sortDedup hl)) rfl
        have maps (refs : List (Option Oid)) : moveVlans (w.refs (sortDedup hl))
            (some state.oid) (w.remap refs none) = _ :=
          moveVlans_ok (hi.known_refs (sortDedup hl)) (hi.created held)
        simp only [settle_ok_bind_apply, get_bind_apply, held, bind_of_ok unmaps,
          bind_of_ok (maps _)]
        refine hi.relist held fun vlan lists unlisted => ?_
        exact careful number hl hp collected vlan lists fun isListed =>
          unlisted (mem_sortDedup.mpr isListed)

theorem World.Mapping.mapped_elsewhere (hi : w.Mapping) (held : w.stps[number]? = some state)
    (hf : (w.remap (state.vlans.map w.refOrDefault) none).hardware.vlanStp[ref]? = some (some oid)) :
    ∃ (vlan : UInt16) (number' : UInt8) (state' : StpInstanceState), number ≠ number' ∧
      w.fdbVlanRef vlan = .ok ref ∧ w.stps[number']? = some state' ∧ vlan ∈ state'.vlans ∧
        state'.oid = oid := by
  rw [getElem?_remap] at hf
  split_ifs at hf with isReset
  · cases hf
  · obtain ⟨vlan, number', state', hk, held', hl, ho⟩ := hi.mapped hf
    refine ⟨vlan, number', state', ?_, hk, held', hl, ho⟩
    rintro rfl
    rw [held] at held'
    cases held'
    exact isReset (List.mem_map.mpr ⟨vlan, hl, refOrDefault_of_ok hk⟩)

theorem World.Mapping.dropInstance (hi : w.Mapping) (held : w.stps[number]? = some state)
    (careful : ∀ vlan, w.Lists number vlan → ∀ reset, w.fdbVlanRef reset = .ok (w.refOrDefault vlan) →
      ∀ other, w.Lists other reset → other = number) :
    ((w.remap (state.vlans.map w.refOrDefault) none).dropInstance number state.oid).Mapping where
  __ := hi
  toStpObjects := World.StpObjects.dropInstance
    (hi.toStpObjects.of_sub (fun hf => ⟨_, hf, rfl⟩) rfl (Nat.le_refl _)) held
  exclusive := by
    intro vlan ref number' state' hk hf hl only
    obtain ⟨ne, hf⟩ := lookup_dropInstance.mp hf
    have lists : w.Lists number' vlan := ⟨state', hf, hl⟩
    have unreset : ref ∉ state.vlans.map w.refOrDefault := by
      intro isReset
      obtain ⟨vlan', hl', rfl⟩ := List.mem_map.mp isReset
      exact ne (careful vlan' ⟨state, held, hl'⟩ vlan hk number' lists).symm
    change (w.remap (state.vlans.map w.refOrDefault) none).hardware.vlanStp[ref]? = _
    rw [getElem?_remap, if_neg unreset]
    refine hi.exclusive hk hf hl fun other listsOther => ?_
    obtain ⟨state'', held'', hl''⟩ := listsOther
    by_cases isNumber : number = other
    · subst isNumber
      rw [held] at held''
      cases held''
      exact absurd (List.mem_map.mpr ⟨vlan, hl'', refOrDefault_of_ok hk⟩) unreset
    · exact only other ⟨state'', lookup_dropInstance.mpr ⟨isNumber, held''⟩, hl''⟩
  mapped := by
    intro ref oid hf
    obtain ⟨vlan, number', state', ne, hk, held', hl, ho⟩ :=
      hi.mapped_elsewhere held hf
    exact ⟨vlan, number', state', hk, lookup_dropInstance.mpr ⟨ne, held'⟩, hl, ho⟩

theorem World.Mapping.removeStpInstance {raw : UInt32}
    (hi : w.Mapping) (careful : w.Careful (.remove raw)) :
    (final (Switching.removeStpInstance raw) w).Mapping := by
  unfold final Switching.removeStpInstance
  cases hp : stpInstance raw with
  | error failure => exact hi
  | ok number =>
    cases held : w.stps[number]? with
    | none => simpa [held] using hi
    | some state =>
      have unmaps := @moveVlans_ok w _ none (hi.known_refOrDefault state.vlans) rfl
      have unused : some state.oid ∉
          (w.remap (state.vlans.map w.refOrDefault) none).hardware.vlanStp.values := by
        intro hl
        obtain ⟨ref, hf⟩ := mem_values_iff.mp hl
        obtain ⟨vlan, number', state', ne, -, held', -, ho⟩ :=
          hi.mapped_elsewhere held hf
        exact ne (hi.distinct held held' ho.symm)
      have created : (w.remap (state.vlans.map w.refOrDefault) none).hardware.stpInstances.contains
          state.oid = true := hi.created held
      have removed : sai (Hardware.removeStpInstance state.oid)
          (w.remap (state.vlans.map w.refOrDefault) none) = _ :=
        sai_checked (by simp [unused, created])
      simp only [settle_ok_bind_apply, get_bind_apply, held, bind_of_ok unmaps, bind_of_ok removed]
      exact hi.dropInstance held (careful number hp)

variable {req : EnsureVlanRequest}

theorem vlanObject_recordVlan {object : Option Oid} : (w.recordVlan id object req).vlanObject other =
      if id = other then (if id ∈ w.vlans then w.vlanObject id else object) else w.vlanObject other := by
  unfold recordVlan vlanObject
  simp only [lookup_insert]
  split_ifs with hs hk
  · obtain ⟨state, hf⟩ := exists_of_mem hk
    simp [hf]
  · simp [getElem?_eq_none hk]
  · rfl

theorem World.SameMapping.recordVlan (hu : id ∈ w.vlans ∨ w.vlanObject id = none) :
    w.SameMapping (w.recordVlan id none req) := by
  refine ⟨fun other => ?_, rfl, rfl, rfl, rfl, Nat.le_refl _⟩
  rw [vlanObject_recordVlan]
  split_ifs with hs hk
  · rw [hs]
  · rw [← hs, hu.resolve_left hk]
  · rfl

theorem World.ne_of_unlisted (ne : id ≠ 1) (unlisted : ∀ number, ¬ w.Lists number id)
    (kept : other = 1 ∨ ∃ number, w.Lists number other) : id ≠ other := by
  rintro rfl
  rcases kept with isDefault | ⟨number, lists⟩
  · exact ne isDefault
  · exact unlisted number lists

def World.defineVlan (id : UInt16) (req : EnsureVlanRequest) (w : World) : World :=
  World.recordVlan id (some w.hardware.next) req
    { w with
      hardware.next := w.hardware.next + 1
      hardware.vlans := w.hardware.vlans.insert id w.hardware.next }

theorem World.Mapping.defineVlan (hi : w.Mapping) (ne : id ≠ 1)
    (fresh : id ∉ w.vlans) (unlisted : ∀ number, ¬ w.Lists number id) : (w.defineVlan id req).Mapping := by
  have object (other : UInt16) : (w.defineVlan id req).vlanObject other =
      if id = other then some w.hardware.next else w.vlanObject other := by
    rw [World.defineVlan, vlanObject_recordVlan, if_neg fresh]
    rfl
  have vlans : (w.defineVlan id req).hardware.vlans =
    w.hardware.vlans.insert id w.hardware.next := rfl
  have next : (w.defineVlan id req).hardware.next = w.hardware.next + 1 := rfl
  refine hi.redefine (fun other kept => ?_) rfl rfl rfl (Nat.le_succ _) ?_ ?_
  · rw [object, if_neg (World.ne_of_unlisted ne unlisted kept)]
  · intro other oid hf
    rw [object] at hf
    rw [vlans, lookup_insert]
    split_ifs at hf ⊢ with hs
    · cases hf
      exact ⟨rfl, Nat.lt_succ_self _⟩
    · exact ⟨hi.objects hf, Nat.lt_succ_of_lt (hi.vlanNumbered hf)⟩
  · intro other other' oid hf hf'
    rw [object] at hf hf'
    split_ifs at hf hf' with hs hs' hs'
    · exact hs.symm.trans hs'
    · cases hf
      exact absurd (hi.vlanNumbered hf') (Nat.lt_irrefl _)
    · cases hf'
      exact absurd (hi.vlanNumbered hf) (Nat.lt_irrefl _)
    · exact hi.vlanDistinct hf hf'

theorem ensureVlan_sameMapping (flips : Bool)
    (hu : id ∈ w.vlans ∨ w.vlanObject id = none) :
    w.SameMapping <| final (do
      modify (recordVlan id none req)
      if flips then reconcileVlanSuspension id req.suspend else pure ()) w := by
  have records : Contract (fun start => start = w)
      (modify (recordVlan id none req) : Rpc Unit)
      (fun _ => w.SameMapping) w.SameMapping :=
    contract_modify (by
      rintro _ rfl
      exact World.SameMapping.recordVlan hu)
  refine (records.bind fun _ => ?_).final rfl
  split_ifs
  · exact reconcile_sameMapping
  · exact contract_done

theorem World.Mapping.ensureVlan (hi : w.Mapping)
    (careful : w.Careful (.ensureVlan req)) : (final (Switching.ensureVlan req) w).Mapping := by
  cases parsed : vlanId req.id with
  | error failure =>
    rw [Switching.ensureVlan, parsed]
    exact hi
  | ok id =>
    by_cases hk : id ∈ w.vlans ∨ id = 1
    · have hu : id ∈ w.vlans ∨ w.vlanObject id = none := by
        refine or_iff_not_imp_left.mpr fun ha => ?_
        rw [World.vlanObject, getElem?_eq_none ha, Option.bind_none]
      have hs := @ensureVlan_sameMapping w id req
        (w.vlans[id]?.any fun state => state.suspended ≠ req.suspend) hu
      refine hi.of_same ?_
      simpa [final, Switching.ensureVlan, parsed, newVlan, hk] using hs
    · have ha : id ∉ w.vlans := fun hp => hk (.inl hp)
      have undefined : ¬ w.Defined id := by
        rintro ⟨ref, isRef⟩
        rcases fdbVlanRef_eq_ok.mp isRef with ⟨isDefault, -⟩ | ⟨-, ho, object⟩
        · exact hk (.inr isDefault)
        · rw [World.vlanObject, getElem?_eq_none ha] at object
          simp [← object] at ho
      have unlisted := careful id parsed undefined
      have unknown : w.vlans[id]? = none := getElem?_eq_none ha
      have ne : id ≠ 1 := fun isDefault => hk (.inr isDefault)
      cases taken : w.hardware.vlans.contains id with
      | true =>
        have refused : sai (createVlan id) w = _ :=
          sai_refused (by simp [taken]; rfl)
        simpa [final, Switching.ensureVlan, parsed, newVlan, ha, ne,
          bind_of_error (map_of_error refused)] using hi
      | false =>
        have created : sai (createVlan id) w = _ :=
          sai_checked (by simp [taken, ne])
        simpa [final, Switching.ensureVlan, parsed, newVlan, ha, ne,
          bind_of_ok (map_of_ok created), World.defineVlan] using hi.defineVlan ne ha unlisted

def World.undefineVlan (id : UInt16) (oid : Oid) (w : World) : World :=
  { w with
    vlans := w.vlans.erase id
    hardware.vlans := w.hardware.vlans.filter fun _ object => object ≠ oid }

theorem World.Mapping.undefineVlan (hi : w.Mapping) (ne : id ≠ 1)
    (held : w.vlanObject id = some oid) (unlisted : ∀ number, ¬ w.Lists number id) :
    (w.undefineVlan id oid).Mapping := by
  have object {other : UInt16} : (w.undefineVlan id oid).vlanObject other =
      if id = other then none else w.vlanObject other := by
    unfold World.undefineVlan World.vlanObject
    simp only [lookup_erase]
    split_ifs <;> rfl
  refine hi.redefine (fun other kept => ?_) rfl rfl rfl (Nat.le_refl _) ?_ ?_
  · rw [object, if_neg (World.ne_of_unlisted ne unlisted kept)]
  · intro other oid' hf
    rw [object] at hf
    split_ifs at hf with hs
    have ne : oid' ≠ oid := by
      rintro rfl
      exact hs (hi.vlanDistinct held hf)
    refine ⟨?_, hi.vlanNumbered hf⟩
    rw [World.undefineVlan, getElem?_filter', hi.objects hf]
    simp [ne]
  · intro other other' oid' hf hf'
    rw [object] at hf hf'
    split_ifs at hf hf'
    exact hi.vlanDistinct hf hf'

theorem setVlanRif_sameMapping (w : World) (id : UInt16) (rif : Option Oid) :
    w.SameMapping (w.setVlanRif id rif) := by
  refine ⟨fun other => ?_, rfl, rfl, rfl, rfl, Nat.le_refl _⟩
  unfold setVlanRif vlanObject
  simp only [lookup_modify]
  split_ifs with hs
  · rw [hs]
    cases w.vlans[other]? <;> rfl
  · rfl

theorem teardownSvi_sameMapping {state : VlanState} :
    Keeps w.SameMapping (teardownSvi id state) w.SameMapping := by
  rw [teardownSvi]
  cases state.rif with
  | none => exact contract_done
  | some rif =>
    have removes : Keeps w.SameMapping (sai (removeVlanRouterInterface rif)) w.SameMapping :=
      contract_sai (fun _ hs _ => hs.setHardware rfl rfl rfl (Nat.le_refl _)) fun _ hs _ => hs
    refine removes.bind fun _ => ?_
    exact contract_modify fun _ hs => hs.trans (setVlanRif_sameMapping _ id none)

theorem removeVlanObject_mapping {state : VlanState} (hi : w.Mapping)
    (held : w.vlans[id]? = some state) (unlisted : id ≠ 1 → ∀ number, ¬ w.Lists number id) :
    Contract w.SameMapping (do
      removeVlanObject state
      modify fun w => { w with vlans := w.vlans.erase id })
      (fun _ => World.Mapping) World.Mapping := by
  have object : w.vlanObject id = state.oid := by rw [vlanObject, held, Option.bind_some]
  rw [removeVlanObject]
  cases ho : state.oid with
  | none =>
    refine contract_modify fun left hs => hi.of_same (hs.trans ?_)
    refine ⟨fun other => ?_, rfl, rfl, rfl, rfl, Nat.le_refl _⟩
    by_cases isId : id = other
    · subst isId
      rw [hs.objects, object, ho]
      simp [vlanObject]
    · simp [vlanObject, lookup_erase, isId]
  | some oid =>
    have ne : id ≠ 1 := by
      rintro rfl
      rw [hi.plain, ho] at object
      cases object
    have removes : Contract w.SameMapping (sai (Hardware.removeVlan oid))
        (fun _ left => World.Mapping { left with vlans := left.vlans.erase id }) World.Mapping :=
      contract_sai
        (fun left hs _ => (hi.of_same hs).undefineVlan ne
          ((hs.objects id).trans (object.trans ho))
          (fun number lists => unlisted ne number (hs.lists.mp lists)))
        fun _ hs _ => hi.of_same hs
    exact removes.bind fun _ => contract_modify fun _ erased => erased

theorem World.Mapping.removeVlan {raw : UInt32} (hi : w.Mapping) (careful : w.Careful (.removeVlan raw)) :
    (final (Switching.removeVlan raw) w).Mapping := by
  rw [final, Switching.removeVlan]
  cases hp : vlanId raw with
  | error failure => exact hi
  | ok id =>
    cases held : w.vlans[id]? with
    | none => simpa [held] using hi
    | some state =>
      have contract : Contract w.SameMapping (do
          teardownSvi id state
          removeMembers (w.portMembers id)
          modify (leaveVlan id)
          removeVlanObject state
          modify fun w => { w with vlans := w.vlans.erase id })
          (fun _ => World.Mapping) World.Mapping := by
        have hs (left : World) (hs : w.SameMapping left) : left.Mapping :=
          hi.of_same hs
        refine (teardownSvi_sameMapping.failing hs).bind fun _ => ?_
        refine (removeMembers_sameMapping.failing hs).bind fun _ => ?_
        refine leaveVlan_sameMapping.bind fun _ => ?_
        exact removeVlanObject_mapping hi held (careful id hp)
      simpa [held, final] using contract.final (.refl w)

theorem World.Mapping.next {caps : Capabilities} (hi : w.Mapping) (call : MappingCall)
    (careful : w.Careful call) : (final (call.rpc caps) w).Mapping := by
  cases call with
  | create raw =>
    rcases createStpInstance_cases w caps raw with ⟨-, hs⟩ | ⟨-, number, fresh, after⟩
    · rwa [MappingCall.rpc, hs]
    · rw [MappingCall.rpc, after]
      exact hi.addInstance fresh
  | setVlans req => exact hi.setStpInstanceVlans careful
  | remove raw => exact hi.removeStpInstance careful
  | ensureVlan req => exact hi.ensureVlan careful
  | removeVlan raw => exact hi.removeVlan careful

end

theorem boot_mapping (board : Board) : board.boot.Mapping where
  created := by simp [boot]
  numbered := by simp [boot]
  distinct := by simp [boot]
  plain := by simp [boot, vlanObject]
  objects := by simp [boot, vlanObject]
  vlanNumbered := by simp [boot, vlanObject]
  vlanDistinct := by simp [boot, vlanObject]
  exclusive := by simp [boot]
  mapped := by simp [boot]

/-- When requests are careful, VLANs are where the lists say after each of them. -/
theorem faithful_of_careful (caps : Capabilities) (board : Board) (calls : List MappingCall)
    (careful : (mappingMachine caps board).Throughout World.Careful calls) :
    (mappingMachine caps board).Always World.Faithful calls := by
  rintro before after rfl
  have mapping := @Machine.run_induction _ _ _ (mappingMachine caps board)
    ((mappingMachine caps board).Throughout World.Careful) (fun _ w => w.Mapping)
    (boot_mapping board) (fun _ _ => Machine.Throughout.left)
    (fun _ call careful mapping => mapping.next call (Machine.throughout_concat.mp careful).2)
    before careful.left
  exact mapping.faithful

theorem not_lists_of_all {w : World}
    (nothing : w.stps.toList.all (fun entry => entry.2.vlans.isEmpty) = true) (number : UInt8)
    (vlan : UInt16) : ¬ w.Lists number vlan := by
  rintro ⟨state, held, hl⟩
  have isEmpty := List.all_eq_true.mp nothing _ (mem_toList_iff_getElem?_eq_some.mpr held)
  simp only [List.isEmpty_iff] at isEmpty
  rw [isEmpty] at hl
  cases hl

/-- A VLAN is defined and then listed. -/
theorem faithful_of_careful_defined : (mappingMachine {} smallBoard).Always World.Faithful
      [.ensureVlan ⟨10, "", false⟩, .create 1, .setVlans ⟨1, [10]⟩] := by
  apply faithful_of_careful
  rw [show [MappingCall.ensureVlan ⟨10, "", false⟩, .create 1, .setVlans ⟨1, [10]⟩] =
    (([] ++ [.ensureVlan ⟨10, "", false⟩]) ++ [.create 1]) ++ [.setVlans ⟨1, [10]⟩] from rfl,
    Machine.throughout_concat, Machine.throughout_concat, Machine.throughout_concat]
  refine ⟨⟨⟨Machine.throughout_nil _ _, ?_⟩, trivial⟩, ?_⟩
  · intro id _ _ number
    exact not_lists_of_all (by decide +kernel) number id
  · intro number listed _ _ vlan lists
    exact absurd lists (not_lists_of_all (by decide +kernel) number vlan)

theorem not_faithful_of_unmapped {w : World} (vlan : UInt16) (ref : Option Oid) (number : UInt8)
    (state : StpInstanceState) (hk : w.fdbVlanRef vlan = .ok ref)
    (only : w.stps[number]? = some state ∧ vlan ∈ state.vlans ∧
      (w.stps.toList.all fun entry => entry.1 = number || vlan ∉ entry.2.vlans) = true ∧
      w.hardware.vlanStp[ref]? ≠ some (some state.oid)) : ¬ w.Faithful := by
  intro faithful
  obtain ⟨held, hl, only, unmapped⟩ := only
  refine unmapped (faithful.listed hk held hl ?_)
  rintro other ⟨state', held', hl'⟩
  have isNumber := List.all_eq_true.mp only _ (mem_toList_iff_getElem?_eq_some.mpr held')
  simpa [hl'] using isNumber

/-- A VLAN that was listed before it was defined, one that moved to another instance, and
the default VLAN when an instance goes that lists one that is not defined. -/
theorem unfaithful_runs : ¬ ((mappingMachine {} smallBoard).run
      [.create 1, .setVlans ⟨1, [10]⟩, .ensureVlan ⟨10, "", false⟩]).Faithful ∧
    ¬ ((mappingMachine {} smallBoard).run
      [.ensureVlan ⟨10, "", false⟩, .create 1, .create 2, .setVlans ⟨1, [10]⟩, .setVlans ⟨2, [10]⟩,
        .setVlans ⟨1, []⟩]).Faithful ∧
    ¬ ((mappingMachine {} smallBoard).run
      [.create 1, .create 2, .setVlans ⟨1, [1]⟩, .setVlans ⟨2, [10]⟩, .remove 2]).Faithful := by
  refine ⟨?_, ?_, ?_⟩
  · exact not_faithful_of_unmapped 10 (some 2) 1 ⟨1, [10]⟩ rfl (by decide +kernel)
  · exact not_faithful_of_unmapped 10 (some 1) 2 ⟨3, [10]⟩ rfl (by decide +kernel)
  · exact not_faithful_of_unmapped 1 none 1 ⟨1, [1]⟩ rfl (by decide +kernel)

end Hemlock.Switching
