import Hemlock.Library.Reconcile
import Hemlock.Switching.Service
import Mathlib.Data.List.Nodup

/-!
# Memberships and their records

The members of VLANs in the switch, and a record of them.  Members are removed one after
the other, and a program of a switchport makes them anew; what the record must say
afterwards is stated for any record that tracked the switch before.
-/

namespace Hemlock.Switching

open Contracts OrderedMap Hardware

/-- The memberships that are recorded for each port or Port-Channel. -/
abbrev Record := PortId → Membership → Prop

/-- A record that knows about every member in the switch.  It may have memberships that
are gone. -/
structure Hardware.Tracked (hw : Hardware) (record : Record) : Prop where
  known : ∀ {member : Oid} {entry : VlanMember}, hw.vlanMembers[member]? = some entry →
    ∃ membership, record entry.port membership ∧ membership.member = member
  own : ∀ {port : PortId} {membership : Membership} {entry : VlanMember}, record port membership →
    hw.vlanMembers[membership.member]? = some entry →
    entry.port = port ∧ entry.tagged = membership.tagged ∧
      hw.vlans[membership.vlan]? = some entry.vlan
  separate : ∀ {port other : PortId} {membership membership' : Membership}, record port membership →
    record other membership' → membership.member = membership'.member →
    port = other ∧ membership = membership'
  numbered : ∀ {port : PortId} {membership : Membership}, record port membership →
    membership.member < hw.next
  distinct : ∀ {id other : UInt16} {vlan : Oid}, hw.vlans[id]? = some vlan →
    hw.vlans[other]? = some vlan → id = other

def Record.set (record : Record) (port : PortId) (memberships : List Membership) : Record :=
  fun other membership => if other = port then membership ∈ memberships else record other membership

section

variable {hw : Hardware} {record record' : Record} {port other : PortId}

variable {memberships : List Membership} {membership : Membership}

@[simp]
theorem Record.set_self : record.set port memberships port membership ↔ membership ∈ memberships := by
  simp [Record.set]

theorem Record.set_other (ne : other ≠ port) :
    record.set port memberships other membership ↔ record other membership := by
  simp [Record.set, ne]

variable {member : Oid} {entry : VlanMember}

theorem Hardware.Tracked.unlisted (ht : hw.Tracked record) {id : UInt16} {vlan : Oid}
    (object : hw.vlans[id]? = some vlan) (ha : ∀ membership, record port membership → membership.vlan ≠ id)
    (hf : hw.vlanMembers[member]? = some entry) (inVlan : entry.vlan = vlan) : entry.port ≠ port := by
  rintro rfl
  obtain ⟨membership, hr, rfl⟩ := ht.known hf
  obtain ⟨-, -, object'⟩ := ht.own hr hf
  exact ha membership hr (ht.distinct object' (inVlan ▸ object))

theorem Hardware.Tracked.forget (ht : hw.Tracked record)
    (sub : ∀ port membership, record' port membership → record port membership)
    (known : ∀ {member : Oid} {entry : VlanMember}, hw.vlanMembers[member]? = some entry →
      ∃ membership, record' entry.port membership ∧ membership.member = member) : hw.Tracked record' where
  __ := ht
  known := known
  own := fun hr => ht.own (sub _ _ hr)
  separate := fun hr hr' => ht.separate (sub _ _ hr) (sub _ _ hr')
  numbered := fun hr => ht.numbered (sub _ _ hr)

def Hardware.eraseMembers (members : List Oid) (hw : Hardware) : Hardware :=
  { hw with vlanMembers := members.foldl Std.ExtTreeMap.erase hw.vlanMembers }

theorem getElem?_eraseMembers {members : List Oid} :
    (hw.eraseMembers members).vlanMembers[member]? = some entry ↔
      member ∉ members ∧ hw.vlanMembers[member]? = some entry :=
  Reconcile.getElem?_foldl_erase

theorem Hardware.Tracked.eraseMembers (ht : hw.Tracked record) (members : List Oid) :
    (hw.eraseMembers members).Tracked record where
  __ := ht
  known := fun hf => ht.known (getElem?_eraseMembers.mp hf).2
  own := fun hr hf => ht.own hr (getElem?_eraseMembers.mp hf).2

end

def World.eraseMembers (members : List Oid) (w : World) : World :=
  { w with hardware := w.hardware.eraseMembers members }

section

variable {w : World} {members : List Oid}

theorem removeMembers_cases (w : World) (members : List Oid) :
    removeMembers members w = .ok () (w.eraseMembers members) ∨ ∃ removed failure, removed <+: members ∧
        removeMembers members w = .error failure (w.eraseMembers removed) := by
  induction members generalizing w with
  | nil => exact .inl rfl
  | cons member rest ih =>
    rw [removeMembers, each]
    cases hp : w.hardware.vlanMembers.contains member with
    | true =>
      have removed : sai (removeVlanMember member) w =
          .ok () (w.eraseMembers [member]) := sai_checked (by simp [hp])
      rw [bind_of_ok removed]
      rcases ih (w.eraseMembers [member]) with
        ran | ⟨gone, failure, isPrefix, failed⟩
      · exact .inl ran
      · exact .inr ⟨member :: gone, failure, List.cons_prefix_cons.mpr ⟨rfl, isPrefix⟩, failed⟩
    | false =>
      have refused : sai (removeVlanMember member) w = _ :=
        sai_refused (by simp [hp]; rfl)
      rw [bind_of_error refused]
      exact .inr ⟨[], _, List.nil_prefix, rfl⟩

theorem removeMembers_ok (hd : members.Nodup) (hp : ∀ member ∈ members, member ∈ w.hardware.vlanMembers) :
    removeMembers members w = .ok () (w.eraseMembers members) := by
  induction members generalizing w with
  | nil => rfl
  | cons member rest ih =>
    rw [List.nodup_cons] at hd
    have isPresent := hp member (List.mem_cons_self ..)
    have removed : sai (removeVlanMember member) w =
        .ok () (w.eraseMembers [member]) := sai_checked (by simpa using isPresent)
    rw [removeMembers, each, bind_of_ok removed]
    refine ih hd.2 fun other hl => ?_
    have ne : member ≠ other := fun hs => hd.1 (hs ▸ hl)
    simpa [World.eraseMembers, eraseMembers, ne] using hp other (List.mem_cons_of_mem _ hl)

end

structure Hardware.SameBridge (hw after : Hardware) : Prop where
  ports : after.ports = hw.ports
  lags : after.lags = hw.lags
  vlans : after.vlans = hw.vlans
  rifs : after.rifs = hw.rifs
  vlanRifs : after.vlanRifs = hw.vlanRifs
  next : hw.next ≤ after.next

structure Hardware.SamePorts (hw after : Hardware) : Prop where
  ports : after.ports = hw.ports
  lags : after.lags = hw.lags
  rifs : after.rifs = hw.rifs
  next : hw.next ≤ after.next

theorem Hardware.SamePorts.refl (hw : Hardware) : hw.SamePorts hw :=
  ⟨rfl, rfl, rfl, Nat.le_refl _⟩

theorem Hardware.SameBridge.samePorts {hw after : Hardware} (hs : hw.SameBridge after) :
    hw.SamePorts after := ⟨hs.ports, hs.lags, hs.rifs, hs.next⟩

theorem Hardware.SameBridge.refl (hw : Hardware) : hw.SameBridge hw :=
  ⟨rfl, rfl, rfl, rfl, rfl, Nat.le_refl _⟩

theorem Hardware.SameBridge.trans {hw after last : Hardware} (hs : hw.SameBridge after)
    (more : after.SameBridge last) : hw.SameBridge last where
  ports := more.ports.trans hs.ports
  lags := more.lags.trans hs.lags
  vlans := more.vlans.trans hs.vlans
  rifs := more.rifs.trans hs.rifs
  vlanRifs := more.vlanRifs.trans hs.vlanRifs
  next := Nat.le_trans hs.next more.next

structure Hardware.Bridged (hw : Hardware) (port : PortId) : Prop where
  portLike : hw.isPortLike port = true
  unrouted : hw.rifs.contains port = false

theorem Hardware.Bridged.of_same {hw after : Hardware} {port : PortId}
    (bridged : hw.Bridged port) (hs : hw.SameBridge after) : after.Bridged port where
  portLike := by
    rw [isPortLike, hs.ports, hs.lags]
    exact bridged.portLike
  unrouted := by
    rw [hs.rifs]
    exact bridged.unrouted

def Hardware.addMember (hw : Hardware) (vlan : Oid) (port : PortId) (tagged : Bool) : Hardware :=
  { hw with
    next := hw.next + 1
    vlanMembers := hw.vlanMembers.insert hw.next ⟨vlan, port, tagged⟩ }

section

variable {w : World} {hw : Hardware} {record : Record} {port : PortId}
  {memberships : List Membership} {id : UInt16} {vlan : Oid} {tagged : Bool}

theorem Hardware.Tracked.fresh (ht : hw.Tracked record) : hw.vlanMembers[hw.next]? = none := by
  cases hf : hw.vlanMembers[hw.next]? with
  | none => rfl
  | some entry =>
    obtain ⟨membership, hr, isNext⟩ := ht.known hf
    exact absurd (ht.numbered hr) (by simp [isNext])

theorem sameBridge_addMember : hw.SameBridge (hw.addMember vlan port tagged) :=
  ⟨rfl, rfl, rfl, rfl, rfl, Nat.le_succ _⟩

variable {member : Oid}

theorem getElem?_addMember : (hw.addMember vlan port tagged).vlanMembers[member]? =
      if hw.next = member then some ⟨vlan, port, tagged⟩ else hw.vlanMembers[member]? := by
  simp [addMember, getElem?_insert]

theorem Hardware.Tracked.addMember {record' : Record} (ht : hw.Tracked record)
    (object : hw.vlans[id]? = some vlan) (gains : ∀ other membership, record' other membership ↔
      record other membership ∨ other = port ∧ membership = ⟨id, hw.next, tagged⟩) :
    (hw.addMember vlan port tagged).Tracked record' where
  __ := ht
  known := by
    intro member entry hf
    rw [getElem?_addMember] at hf
    split_ifs at hf with isNew
    · cases hf
      exact ⟨_, (gains _ _).mpr (.inr ⟨rfl, rfl⟩), isNew⟩
    · obtain ⟨membership, hr, hm⟩ := ht.known hf
      exact ⟨membership, (gains _ _).mpr (.inl hr), hm⟩
  own := by
    intro other membership entry hr hf
    rw [getElem?_addMember] at hf
    rcases (gains _ _).mp hr with earlier | ⟨rfl, rfl⟩
    · rw [if_neg (Nat.ne_of_gt (ht.numbered earlier))] at hf
      exact ht.own earlier hf
    · rw [if_pos rfl] at hf
      cases hf
      exact ⟨rfl, rfl, object⟩
  separate := by
    intro other other' membership membership' hr hr' hs
    rcases (gains _ _).mp hr with earlier | ⟨rfl, rfl⟩
    · rcases (gains _ _).mp hr' with earlier' | ⟨rfl, rfl⟩
      · exact ht.separate earlier earlier' hs
      · exact absurd hs (Nat.ne_of_lt (ht.numbered earlier))
    · rcases (gains _ _).mp hr' with earlier' | ⟨rfl, rfl⟩
      · exact absurd hs (Nat.ne_of_gt (ht.numbered earlier'))
      · exact ⟨rfl, rfl⟩
  numbered := by
    intro other membership hr
    rcases (gains _ _).mp hr with earlier | ⟨rfl, rfl⟩
    · exact Nat.lt_succ_of_lt (ht.numbered earlier)
    · exact Nat.lt_succ_self _

theorem addVlanMember_ok (bridged : w.hardware.Bridged port)
    (ht : w.hardware.Tracked record) (object : w.hardware.vlans[id]? = some vlan)
    (ha : ∀ membership, record port membership → membership.vlan ≠ id) :
    sai (addVlanMember vlan port tagged) w =
      .ok w.hardware.next { w with hardware := w.hardware.addMember vlan port tagged } := by
  have hasVlan : w.hardware.hasVlan vlan = true := by
    simpa [hasVlan] using mem_values_iff.mpr ⟨id, object⟩
  have free : (w.hardware.vlanMembers.values.any fun member =>
      member.vlan = vlan && member.port = port) = false := by
    simp only [List.any_eq_false, Bool.and_eq_true, decide_eq_true_eq, not_and]
    intro entry hl inVlan
    obtain ⟨member, hf⟩ := mem_values_iff.mp hl
    exact ht.unlisted object ha hf inVlan
  apply sai_checked
  simp [bridged.portLike, bridged.unrouted, hasVlan, free]

structure Added (before : Hardware) (record : Record) (port : PortId) (earlier : List Membership)
    (desired : List (UInt16 × Bool × Oid)) (members : List Membership) (hw : Hardware) : Prop where
  same : before.SameBridge hw
  tracked : hw.Tracked (record.set port members)
  retained : ∀ {member : Oid} {entry : VlanMember}, before.vlanMembers[member]? = some entry →
    hw.vlanMembers[member]? = some entry
  distinct : (members.map Membership.vlan).Nodup
  origin : ∀ membership ∈ members, membership ∈ earlier ∨
    (∃ entry ∈ desired, membership.vlan = entry.1 ∧ membership.tagged = entry.2.1) ∧
      membership.member ∈ hw.vlanMembers

variable {membership : Membership}

theorem gains_append (record : Record) (port : PortId) (memberships : List Membership)
    (other : PortId) (membership' : Membership) :
    record.set port (memberships ++ [membership]) other membership' ↔
      record.set port memberships other membership' ∨ other = port ∧ membership' = membership := by
  unfold Record.set
  split_ifs with hp <;> simp [hp]

variable {before : Hardware} {members : List Membership} {desired : List (UInt16 × Bool × Oid)}
  {entry : UInt16 × Bool × Oid}

theorem Added.skip {earlier : List Membership}
    (added : Added before record port earlier desired members hw) :
    Added before record port earlier (entry :: desired) members hw :=
  { added with
    origin := fun membership hl => (added.origin membership hl).imp_right <|
      And.imp_left fun ⟨entry, hl', hs⟩ => ⟨entry, List.mem_cons_of_mem _ hl', hs⟩ }

theorem Added.begin {earlier : List Membership} (ht : before.Tracked (record.set port earlier))
    (added : Added (before.addMember vlan port tagged) record port
      (earlier ++ [⟨id, before.next, tagged⟩]) desired members hw) :
    Added before record port earlier ((id, tagged, vlan) :: desired) members hw where
  __ := added
  same := sameBridge_addMember.trans added.same
  retained := by
    intro member entry hf
    apply added.retained
    rw [getElem?_addMember, if_neg]
    · exact hf
    · rintro rfl
      rw [ht.fresh] at hf
      cases hf
  origin := by
    intro membership hl
    rcases added.origin membership hl with earlier | ⟨⟨entry, hl', same⟩, there⟩
    · rcases List.mem_append.mp earlier with earlier | isNew
      · exact .inl earlier
      · rw [List.mem_singleton] at isNew
        subst isNew
        have there := @added.retained before.next _ (by rw [getElem?_addMember, if_pos rfl])
        exact .inr ⟨⟨_, List.mem_cons_self .., rfl, rfl⟩, mem_of_lookup there⟩
    · exact .inr ⟨⟨entry, List.mem_cons_of_mem _ hl', same⟩, there⟩

/-- Memberships whose VLANs differ, and of those that are desired none with the other
tagging. -/
structure Matching (memberships : List Membership) (desired : List (UInt16 × Bool × Oid)) : Prop where
  distinct : (memberships.map Membership.vlan).Nodup
  once : (desired.map Prod.fst).Nodup
  agree : ∀ membership ∈ memberships, ∀ entry ∈ desired, membership.vlan = entry.1 →
    membership.tagged = entry.2.1

theorem Matching.tail (matching : Matching memberships (entry :: desired)) :
    Matching memberships desired where
  __ := matching
  once := (List.nodup_cons.mp matching.once).2
  agree := fun membership hl entry hl' =>
    matching.agree membership hl entry (List.mem_cons_of_mem _ hl')

theorem Matching.add (matching : Matching memberships ((id, tagged, vlan) :: desired))
    (ha : ∀ membership ∈ memberships, membership.vlan ≠ id) :
    Matching (memberships ++ [⟨id, member, tagged⟩]) desired where
  distinct := by
    rw [List.map_append, List.nodup_append]
    refine ⟨matching.distinct, by simp, fun other hl id' hl' hs => ?_⟩
    obtain ⟨membership, isListed, rfl⟩ := List.mem_map.mp hl
    exact ha membership isListed (hs.trans (by simpa using hl'))
  once := matching.tail.once
  agree := by
    intro membership hl entry hl' hs
    rcases List.mem_append.mp hl with earlier | isNew
    · exact matching.tail.agree membership earlier entry hl' hs
    · rw [List.mem_singleton] at isNew
      subst isNew
      exact absurd (List.mem_map.mpr ⟨entry, hl', hs.symm⟩) (List.nodup_cons.mp matching.once).1

theorem addMissing_ok (bridged : w.hardware.Bridged port)
    (ht : w.hardware.Tracked (record.set port memberships))
    (objects : ∀ entry ∈ desired, w.hardware.vlans[entry.1]? = some entry.2.2)
    (matching : Matching memberships desired) :
    ∃ members hw, addMissing port desired memberships w = .ok members { w with hardware := hw } ∧
      Added w.hardware record port memberships desired members hw := by
  induction desired generalizing w memberships with
  | nil =>
    refine ⟨memberships, w.hardware, rfl, .refl _, ht, fun hf => hf, matching.distinct, ?_⟩
    exact fun membership hl => .inl hl
  | cons entry rest ih =>
    obtain ⟨vlan, tagged, oid⟩ := entry
    have objects' (entry : UInt16 × Bool × Oid) (hl : entry ∈ rest) :=
      objects entry (List.mem_cons_of_mem _ hl)
    rw [addMissing]
    by_cases isThere : (memberships.any fun membership =>
        membership.vlan = vlan && membership.tagged = tagged) = true
    · rw [if_pos isThere]
      obtain ⟨members, hw, ran, added⟩ :=
        ih bridged ht objects' matching.tail
      exact ⟨members, hw, ran, added.skip⟩
    · have ha (membership : Membership) (hl : membership ∈ memberships) : membership.vlan ≠ vlan := by
        intro hs
        have hi := matching.agree membership hl _ (List.mem_cons_self ..) hs
        exact isThere (List.any_eq_true.mpr ⟨membership, hl, by simp [hs, hi]⟩)
      have object := objects _ (List.mem_cons_self ..)
      have granted := @addVlanMember_ok w _ port vlan oid tagged bridged ht object
        (fun membership hr => ha membership (Record.set_self.mp hr))
      obtain ⟨members, hw, ran, added⟩ := @ih
        { w with hardware := w.hardware.addMember oid port tagged } _
        (bridged.of_same sameBridge_addMember) (ht.addMember object (gains_append _ _ _))
        objects' (matching.add ha)
      rw [if_neg isThere, bind_of_ok granted]
      exact ⟨members, hw, ran, added.begin ht⟩

def World.Active (w : World) (id : UInt16) : Prop :=
  ∃ state, w.vlans[id]? = some state ∧ state.suspended = false

/-- What a program leaves: the record with its own memberships for the object. -/
structure Programmed (w : World) (record : Record) (port : PortId) (current : List Membership)
    (program : L2Program) (members : List Membership) (hw : Hardware) : Prop where
  same : w.hardware.SameBridge hw
  tracked : hw.Tracked (record.set port members)
  elsewhere : ∀ {member : Oid} {entry : VlanMember}, w.hardware.vlanMembers[member]? = some entry →
    entry.port ≠ port → hw.vlanMembers[member]? = some entry
  present : (∀ membership ∈ current, membership.member ∈ w.hardware.vlanMembers) →
    ∀ membership ∈ members, membership.member ∈ hw.vlanMembers
  distinct : (members.map Membership.vlan).Nodup
  wanted : ∀ membership ∈ members, (membership.vlan, membership.tagged) ∈ program.wanted
  active : ∀ membership ∈ members, w.Active membership.vlan

theorem nodup_wanted (program : L2Program) : (program.wanted.map Prod.fst).Nodup := by
  have rest : ((program.trunkVlans.filter fun vlan => vlan ≠ program.nativeVlan ∧ vlan ≠ 1).map
      fun vlan => (vlan, true)).map Prod.fst =
      program.trunkVlans.filter fun vlan => vlan ≠ program.nativeVlan ∧ vlan ≠ 1 := by
    simp [Function.comp_def]
  unfold L2Program.wanted
  split_ifs
  · rw [List.map_append, rest, List.map_singleton, List.singleton_append, List.nodup_cons]
    exact ⟨by simp, program.distinct.filter _⟩
  · rw [List.nil_append, rest]
    exact program.distinct.filter _
  all_goals simp

variable {program : L2Program}

theorem desired_eq_some {pair : UInt16 × Bool} : (match w.vlans[pair.1]? with
      | some state => if state.suspended = true then none else state.oid.map (pair.1, pair.2, ·)
      | none => none) = some entry ↔ (entry.1, entry.2.1) = pair ∧
        ∃ state, w.vlans[pair.1]? = some state ∧ state.suspended = false ∧ state.oid = some entry.2.2 := by
  obtain ⟨vlan, tagged, oid⟩ := entry
  cases w.vlans[pair.1]? with
  | none => simp
  | some state =>
    aesop

theorem mem_desired : entry ∈ w.desired program ↔ (entry.1, entry.2.1) ∈ program.wanted ∧
      ∃ state, w.vlans[entry.1]? = some state ∧ state.suspended = false ∧ state.oid = some entry.2.2 := by
  rw [World.desired, List.mem_filterMap]
  constructor
  · rintro ⟨pair, hl, hf⟩
    obtain ⟨rfl, known⟩ := desired_eq_some.mp hf
    exact ⟨hl, known⟩
  · rintro ⟨hl, known⟩
    exact ⟨_, hl, desired_eq_some.mpr ⟨rfl, known⟩⟩

theorem nodup_desired (program : L2Program) : ((w.desired program).map Prod.fst).Nodup := by
  have once := nodup_wanted program
  rw [List.Nodup, List.pairwise_map] at once ⊢
  rw [World.desired, List.pairwise_filterMap]
  refine once.imp fun {first second} ne entry hf entry' hf' => ?_
  rw [← (desired_eq_some.mp hf).1, ← (desired_eq_some.mp hf').1] at ne
  exact ne

theorem Hardware.Tracked.of_same {after : Hardware} (ht : hw.Tracked record)
    (vlanMembers : after.vlanMembers = hw.vlanMembers) (vlans : after.vlans = hw.vlans)
    (next : hw.next ≤ after.next) : after.Tracked record where
  __ := ht
  known := by
    rw [vlanMembers]
    exact ht.known
  own := by
    rw [vlanMembers, vlans]
    exact ht.own
  numbered := fun hr => Nat.lt_of_lt_of_le (ht.numbered hr) next
  distinct := by
    rw [vlans]
    exact ht.distinct

variable {current : List Membership}

theorem Hardware.Tracked.keep (ht : hw.Tracked (record.set port current)) :
    (hw.eraseMembers (staleMembers desired current)).Tracked
      (record.set port (current.filter (isDesired desired))) := by
  refine (ht.eraseMembers _).forget ?_ ?_
  · intro other membership hr
    unfold Record.set at hr ⊢
    split_ifs at hr ⊢
    · exact (List.mem_filter.mp hr).1
    · exact hr
  · intro member entry hf
    obtain ⟨remains, hf⟩ := getElem?_eraseMembers.mp hf
    obtain ⟨membership, hr, rfl⟩ := ht.known hf
    refine ⟨membership, ?_, rfl⟩
    unfold Record.set at hr ⊢
    split_ifs at hr ⊢
    · refine List.mem_filter.mpr ⟨hr, ?_⟩
      by_contra stale
      exact remains (List.mem_map.mpr ⟨membership, List.mem_filter.mpr ⟨hr, by simpa using stale⟩, rfl⟩)
    · exact hr

theorem settleDefaultVlan_ok (bridged : w.hardware.Bridged port) :
    ∃ hw, settleDefaultVlan port program w = .ok () { w with hardware := hw } ∧
      w.hardware.SameBridge hw ∧ hw.vlanMembers = w.hardware.vlanMembers := by
  unfold settleDefaultVlan
  split_ifs
  all_goals exact ⟨_, sai_checked (by simp [bridged.portLike, bridged.unrouted]),
    ⟨rfl, rfl, rfl, rfl, rfl, Nat.le_refl _⟩, rfl⟩

theorem matching_kept (distinct : (current.map Membership.vlan).Nodup)
    (once : (desired.map Prod.fst).Nodup) : Matching (current.filter (isDesired desired)) desired where
  distinct := distinct.sublist (List.filter_sublist.map _)
  once := once
  agree := by
    intro membership hl entry hl' hs
    obtain ⟨entry', hl'', hi⟩ := List.any_eq_true.mp (List.mem_filter.mp hl).2
    simp only [Bool.and_eq_true, decide_eq_true_eq] at hi
    rw [List.inj_on_of_nodup_map once hl' hl'' (hs.symm.trans hi.1.symm)]
    exact hi.2.symm

theorem mem_staleMembers (stale : member ∈ staleMembers desired current) :
    ∃ membership ∈ current, isDesired desired membership = false ∧ membership.member = member := by
  obtain ⟨membership, hl, hm⟩ := List.mem_map.mp stale
  exact ⟨membership, (List.mem_filter.mp hl).1, by simpa using (List.mem_filter.mp hl).2, hm⟩

theorem exists_desired (isDesired : isDesired desired membership = true) :
    ∃ oid, (membership.vlan, membership.tagged, oid) ∈ desired := by
  obtain ⟨⟨vlan, tagged, oid⟩, hl, hi⟩ := List.any_eq_true.mp isDesired
  simp only [Bool.and_eq_true, decide_eq_true_eq] at hi
  obtain ⟨rfl, rfl⟩ := hi
  exact ⟨oid, hl⟩

theorem Added.exists_desired
    (added : Added before record port (current.filter (isDesired desired)) desired members hw)
    (hl : membership ∈ members) : ∃ oid, (membership.vlan, membership.tagged, oid) ∈ desired := by
  rcases added.origin membership hl with kept | ⟨⟨⟨vlan, tagged, oid⟩, hl', rfl, rfl⟩, -⟩
  · exact Switching.exists_desired (List.mem_filter.mp kept).2
  · exact ⟨oid, hl'⟩

theorem Added.programmed {settled : Hardware} (ht : w.hardware.Tracked (record.set port current))
    (same : w.hardware.SameBridge settled) (left : settled.vlanMembers =
      (w.hardware.eraseMembers (staleMembers (w.desired program) current)).vlanMembers)
    (added : Added settled record port (current.filter (isDesired (w.desired program)))
      (w.desired program) members hw) : Programmed w record port current program members hw where
  __ := added
  same := same.trans added.same
  elsewhere := by
    intro member entry hf ne
    apply added.retained
    rw [left]
    refine getElem?_eraseMembers.mpr ⟨fun stale => ?_, hf⟩
    obtain ⟨membership, hl, -, rfl⟩ := mem_staleMembers stale
    exact ne (ht.own (Record.set_self.mpr hl) hf).1
  present := by
    intro present membership hl
    rcases added.origin membership hl with kept | ⟨-, there⟩
    · obtain ⟨isListed, isDesired⟩ := List.mem_filter.mp kept
      obtain ⟨entry, hf⟩ := exists_of_mem (present membership isListed)
      have unstale : membership.member ∉ staleMembers (w.desired program) current := by
        intro stale
        obtain ⟨membership', hl', undesired, hm⟩ := mem_staleMembers stale
        obtain ⟨-, rfl⟩ := ht.separate (Record.set_self.mpr hl') (Record.set_self.mpr isListed) hm
        simp [isDesired] at undesired
      have remains := getElem?_eraseMembers.mpr ⟨unstale, hf⟩
      rw [← left] at remains
      exact mem_of_lookup (added.retained remains)
    · exact there
  wanted := by
    intro membership hl
    obtain ⟨oid, isDesired⟩ := added.exists_desired hl
    exact (mem_desired.mp isDesired).1
  active := by
    intro membership hl
    obtain ⟨oid, isDesired⟩ := added.exists_desired hl
    obtain ⟨-, state, hk, active, -⟩ := mem_desired.mp isDesired
    exact ⟨state, hk, active⟩

theorem programL2_of_removed (bridged : w.hardware.Bridged port)
    (tracked : w.hardware.Tracked (record.set port current))
    (hd : (current.map Membership.vlan).Nodup)
    (objects : ∀ id, w.hardware.vlans[id]? = w.vlanObject id)
    (removed : removeMembers (staleMembers (w.desired program) current) w =
      .ok () (w.eraseMembers (staleMembers (w.desired program) current))) :
    ∃ members hw, programL2 port current program w = .ok members { w with hardware := hw } ∧
      Programmed w record port current program members hw := by
  have erased : w.hardware.SameBridge (w.hardware.eraseMembers
      (staleMembers (w.desired program) current)) := ⟨rfl, rfl, rfl, rfl, rfl, Nat.le_refl _⟩
  obtain ⟨settled, settles, same, left⟩ := @settleDefaultVlan_ok
    (w.eraseMembers (staleMembers (w.desired program) current)) port program
    (bridged.of_same erased)
  have same := erased.trans same
  have objects' (entry : UInt16 × Bool × Oid) (hl : entry ∈ w.desired program) :
      settled.vlans[entry.1]? = some entry.2.2 := by
    obtain ⟨-, state, hk, -, ho⟩ := mem_desired.mp hl
    rw [same.vlans, objects, World.vlanObject, hk, Option.bind_some, ho]
  obtain ⟨members, hw, adds, added⟩ := @addMissing_ok { w with hardware := settled } record
    port _ _ (bridged.of_same same) (tracked.keep.of_same left same.vlans same.next) objects'
    (matching_kept hd (nodup_desired program))
  have bridged' := bridged.of_same (same.trans added.same)
  have classifies : sai (setPortPvid port program.untagged)
      { w with hardware := hw } = _ := sai_checked (by simp [bridged'.portLike])
  refine ⟨members, { hw with pvids := hw.pvids.insert port program.untagged }, ?_, ?_⟩
  · rw [programL2, get_bind_apply, bind_of_ok removed, bind_of_ok settles]
    refine (bind_of_ok adds).trans ?_
    rw [bind_of_ok classifies]
    rfl
  · have programmed := added.programmed tracked same left
    exact { programmed with
      same := programmed.same.trans ⟨rfl, rfl, rfl, rfl, rfl, Nat.le_refl _⟩
      tracked := programmed.tracked.of_same rfl rfl (Nat.le_refl _) }

end

end Hemlock.Switching
