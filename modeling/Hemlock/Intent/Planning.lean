import Hemlock.Intent.Diffs

/-!
# Diffs lead to the candidate

Each family of changes, applied in its order to what the running intents stand for, gives
what the candidate stands for.
-/

namespace Hemlock.Intent

open Plan Family Intents NetdevChange MgmtIntent StaticRoute ArpStatic

/-- What `SetPortAttrs` leaves a port with: 0 and `auto` are unpinned. -/
structure PortAttrs where
  adminUp : Bool
  description : String
  speedMbps : UInt32
  duplex : String
  mtu : UInt32

/-- The attributes as configured, with nothing for an absent port. -/
structure ConfiguredAttrs where
  adminUp : Option Bool
  description : Option String
  speedMbps : Option UInt32
  duplex : Option Duplex
  mtu : Option UInt32

def configuredAttrs (port : Option InterfaceIntent) : ConfiguredAttrs where
  adminUp := port.bind (·.adminUp)
  description := port.bind (·.description)
  speedMbps := port.bind (·.speedMbps)
  duplex := port.bind (·.duplex)
  mtu := port.bind (·.mtu)

def ConfiguredAttrs.effective (attrs : ConfiguredAttrs) : PortAttrs where
  adminUp := attrs.adminUp.getD true
  description := attrs.description.getD ""
  speedMbps := attrs.speedMbps.getD 0
  duplex := (attrs.duplex.map Duplex.word).getD "auto"
  mtu := attrs.mtu.getD 0

def PortChange.act (change : PortChange) (attrs : PortAttrs) : PortAttrs where
  adminUp := change.adminUp.getD attrs.adminUp
  description := change.description.getD attrs.description
  speedMbps := change.speedMbps.getD attrs.speedMbps
  duplex := change.duplex.getD attrs.duplex
  mtu := change.mtu.getD attrs.mtu

def portAttributes : Family (NameMap InterfaceIntent) PortChange String ConfiguredAttrs PortAttrs where
  diff := diff
  key := PortChange.name
  act := PortChange.act
  entry ports name := configuredAttrs ports[name]?
  effective ports name := (configuredAttrs ports[name]?).effective

theorem adminDelta_getD (wanted now : Option Bool) :
    (adminDelta wanted now).getD (now.getD true) = wanted.getD true := by
  cases wanted <;> cases now <;> simp only [adminDelta] <;> grind

theorem descriptionDelta_getD (wanted now : Option String) :
    (descriptionDelta wanted now).getD (now.getD "") = wanted.getD "" := by
  cases wanted <;> cases now <;> simp only [descriptionDelta] <;> grind

theorem adminDelta_self (wanted : Option Bool) : adminDelta wanted wanted = none := by
  cases wanted <;> simp [adminDelta]

theorem adminDelta_none (now : Option Bool) :
    adminDelta none now = if now = some false then some true else none := by
  rcases now with _ | _ | _ <;> rfl

theorem descriptionDelta_self (wanted : Option String) : descriptionDelta wanted wanted = none := by
  cases wanted <;> simp [descriptionDelta]

theorem ite_ne_getD {Value Sent : Type} [DecidableEq Value] (wanted now : Value) (send : Value → Sent) :
    (if wanted ≠ now then some (send wanted) else none).getD (send now) = send wanted := by
  by_cases hs : wanted = now <;> simp [hs]

theorem PortChange.foldl_sent (change : PortChange) (attrs : PortAttrs) :
    change.sent.foldl (fun attrs change => change.act attrs) attrs = change.act attrs := by
  unfold sent
  split
  · rfl
  · next still =>
      simp only [moves, Bool.or_eq_true, not_or, Option.not_isSome_iff_eq_none] at still
      obtain ⟨⟨⟨⟨admin, description⟩, speed⟩, duplex⟩, mtu⟩ := still
      simp [act, admin, description, speed, duplex, mtu]

theorem foldl_changedPort (name : String) (current : Option InterfaceIntent) (wanted : InterfaceIntent) :
    (changedPort name current wanted).foldl (fun attrs change => change.act attrs)
      (configuredAttrs current).effective = (configuredAttrs (some wanted)).effective := by
  refine (PortChange.foldl_sent _ _).trans ?_
  simp only [PortChange.act]
  congr 1
  · exact adminDelta_getD wanted.adminUp _
  · exact descriptionDelta_getD wanted.description _
  · exact ite_ne_getD wanted.speedMbps _ (·.getD 0)
  · exact ite_ne_getD wanted.duplex _ (fun duplex => (duplex.map Duplex.word).getD "auto")
  · exact ite_ne_getD wanted.mtu _ (·.getD 0)

theorem changedPort_of_same {name : String} {current : Option InterfaceIntent}
    {wanted : InterfaceIntent} (hs : configuredAttrs current = configuredAttrs (some wanted)) :
    changedPort name current wanted = [] := by
  simp only [configuredAttrs, ConfiguredAttrs.mk.injEq] at hs
  obtain ⟨admin, description, speed, duplex, mtu⟩ := hs
  simp [changedPort, linkDelta, PortChange.sent, PortChange.moves, admin, description, speed, duplex, mtu,
    adminDelta_self, descriptionDelta_self]

theorem removedPort_eq (name : String) (had : InterfaceIntent) :
    removedPort name had = changedPort name (some had) {} := by
  have description : ((had.description.filter (· ≠ "")).map fun _ => "") =
      descriptionDelta none had.description := by
    cases had.description with
    | none => rfl
    | some text =>
      by_cases empty : text = ""
      · simp [descriptionDelta, empty]
      · simp [descriptionDelta, empty]
  simp only [removedPort, changedPort, adminDelta_none, description, Option.bind_some]

theorem name_of_mem_changedPort (name : String) (current : Option InterfaceIntent)
    (wanted : InterfaceIntent) : ∀ change ∈ changedPort name current wanted, change.name = name := by
  intro change hl
  simp only [changedPort, PortChange.sent] at hl
  split at hl
  · rw [List.mem_singleton.mp hl]
  · cases hl

theorem configuredAttrs_getD (port : Option InterfaceIntent) :
    configuredAttrs (some (port.getD {})) = configuredAttrs port := by
  cases port <;> rfl

theorem portAttributes_changesAt (running candidate : NameMap InterfaceIntent) (name : String) :
    portAttributes.changesAt running candidate name =
      changedPort name running[name]? (candidate[name]?.getD {}) :=
  filter_changed_append_removed ({} : InterfaceIntent) name_of_mem_changedPort removedPort_eq
    (fun _ => changedPort_of_same rfl) running candidate name

theorem portAttributes_correct : portAttributes.Correct := by
  refine correct_of_changesAt _ (fun running candidate name => ?_)
    fun running candidate name hs => ?_
  · rw [portAttributes_changesAt]
    refine (foldl_changedPort name _ _).trans ?_
    rw [configuredAttrs_getD]
    rfl
  · rw [portAttributes_changesAt]
    exact changedPort_of_same (hs.trans (configuredAttrs_getD _).symm)

structure Netdev where
  up : Bool
  addresses : List String
  mtu : UInt32

def MgmtIntent.effective (standard : UInt32) (intent : MgmtIntent) : Netdev where
  up := intent.adminUp.getD true
  addresses := intent.address.toList
  mtu := intent.mtu.getD standard

/-- The old address goes before the new one comes. -/
def NetdevChange.act (change : NetdevChange) (netdev : Netdev) : Netdev where
  up := change.adminUp.getD netdev.up
  addresses :=
    let left := change.delAddress.elim netdev.addresses netdev.addresses.erase
    change.setAddress.elim left left.insert
  mtu := change.setMtu.getD netdev.mtu

/-- What the entries of one kind say about their netdevs, nothing where there is none. -/
def netdevs {Entry : Type} (standard : UInt32) (netdev : Entry → MgmtIntent)
    (entries : Intents → NameMap Entry) : Family Intents NetdevChange String MgmtIntent Netdev where
  diff running candidate := diffNetdevs standard netdev (entries running) (entries candidate)
  key := NetdevChange.name
  act := NetdevChange.act
  entry intents name := ((entries intents)[name]?.map netdev).getD {}
  effective intents name := (((entries intents)[name]?.map netdev).getD {}).effective standard

theorem NetdevChange.foldl_sent (change : NetdevChange) (netdev : Netdev) :
    change.sent.foldl (fun netdev change => change.act netdev) netdev = change.act netdev := by
  unfold sent
  split
  · rfl
  · next still =>
      simp only [moves, Bool.or_eq_true, not_or, Option.not_isSome_iff_eq_none] at still
      obtain ⟨⟨⟨admin, set⟩, del⟩, mtu⟩ := still
      simp [act, admin, set, del, mtu]

theorem addresses_addressDelta (wanted now : Option String) :
    (let left := (addressDelta wanted now).2.elim now.toList now.toList.erase
    (addressDelta wanted now).1.elim left left.insert) = wanted.toList := by
  cases wanted with
  | none => cases now <;> simp [addressDelta]
  | some wanted => cases now with
    | none => simp [addressDelta]
    | some now =>
      by_cases hs : wanted = now <;> simp [addressDelta, hs]

theorem addressDelta_self (wanted : Option String) : addressDelta wanted wanted = (none, none) := by
  cases wanted with
  | none => rfl
  | some address => simp [addressDelta]

section

variable {standard : UInt32} {name : String} {current : Option MgmtIntent} {wanted : MgmtIntent}

theorem bind_eq_getD {Value : Type} (field : MgmtIntent → Option Value) (empty : field {} = none) :
    current.bind field = field (current.getD {}) := by
  cases current with
  | none => exact empty.symm
  | some intent => rfl

theorem foldl_changedNetdev :
    (changedNetdev standard name current wanted).foldl (fun netdev change => change.act netdev)
      ((current.getD {}).effective standard) = wanted.effective standard := by
  refine (NetdevChange.foldl_sent _ _).trans ?_
  simp only [NetdevChange.act, bind_eq_getD adminUp rfl,
    bind_eq_getD address rfl, bind_eq_getD mtu rfl]
  congr 1
  · exact adminDelta_getD wanted.adminUp _
  · exact addresses_addressDelta wanted.address _
  · exact ite_ne_getD wanted.mtu _ (·.getD standard)

theorem changedNetdev_of_same (hs : current.getD {} = wanted) :
    changedNetdev standard name current wanted = [] := by
  simp [changedNetdev, sent, moves, mtuDelta, adminDelta_self,
    addressDelta_self, bind_eq_getD adminUp rfl, bind_eq_getD address rfl,
    bind_eq_getD mtu rfl, hs]

theorem removedNetdev_eq (had : MgmtIntent) :
    removedNetdev standard name had = changedNetdev standard name (some had) {} := by
  have address : addressDelta none had.address = (none, had.address) := by
    cases had.address <;> rfl
  simp only [removedNetdev, changedNetdev, adminDelta_none, address, Option.bind_some]

theorem name_of_mem_changedNetdev :
    ∀ change ∈ changedNetdev standard name current wanted, change.name = name := by
  intro change hl
  simp only [changedNetdev, sent] at hl
  split at hl
  · rw [List.mem_singleton.mp hl]
  · cases hl

theorem netdevs_correct {Entry : Type} {netdev : Entry → MgmtIntent} (empty : Entry)
    (plain : netdev empty = {}) (entries : Intents → NameMap Entry) :
    (netdevs standard netdev entries).Correct := by
  have changes : ∀ running candidate name, (netdevs standard netdev entries).changesAt running candidate name =
      changedNetdev standard name ((entries running)[name]?.map netdev)
        (((entries candidate)[name]?.map netdev).getD {}) := by
    intro running candidate name
    have named : ∀ name current wanted,
        ∀ change ∈ changedNetdev standard name (Option.map netdev current) (netdev wanted),
          change.name = name := fun _ _ _ => name_of_mem_changedNetdev
    have drops : ∀ name had, removedNetdev standard name (netdev had) =
        changedNetdev standard name ((some had).map netdev) (netdev empty) := by
      intro name had
      rw [removedNetdev_eq, plain]
      rfl
    have changes := filter_changed_append_removed empty named drops
      (fun _ => changedNetdev_of_same plain.symm) (entries running) (entries candidate) name
    refine changes.trans ?_
    rw [← plain, Option.getD_map]
  refine correct_of_changesAt _ (fun running candidate name => ?_)
    fun running candidate name hs => ?_
  · rw [changes]
    exact foldl_changedNetdev
  · rw [changes]
    exact changedNetdev_of_same hs

end

section

variable {Entry Slot Content : Type} [DecidableEq Slot] (slotOf : Entry → Slot)
  (content : Entry → Content)

/-- The kernel keeps an entry in one slot: a route by its metric and kind, a neighbour by
its interface. -/
def slotView (entry : Option Entry) : Slot → Option Content := fun slot =>
  (entry.filter (slotOf · = slot)).map content

/-- An entry whose slot changes is deleted before the new one is put in. -/
def moveSlot (old new : Option Entry) (slots : Slot → Option Content) : Slot → Option Content :=
  let stale := old.filter fun old => new.all fun new => slotOf new ≠ slotOf old
  let left := stale.elim slots fun old => Function.update slots (slotOf old) none
  new.elim left fun new => Function.update left (slotOf new) (some (content new))

theorem moveSlot_slotView (old new : Option Entry) :
    moveSlot slotOf content old new (slotView slotOf content old) = slotView slotOf content new := by
  funext slot
  cases old with
  | none => cases new with
    | none => rfl
    | some new => simp [moveSlot, slotView, Function.update_apply, Option.filter, eq_comm]
  | some old => cases new with
    | none => simp [moveSlot, slotView, Function.update_apply, Option.filter, eq_comm]
    | some new =>
      by_cases hs : slotOf new = slotOf old
      · have kept : slot ≠ slotOf old → slotOf old ≠ slot := Ne.symm
        by_cases here : slot = slotOf old
        · simp [moveSlot, slotView, hs, here]
        · simp [moveSlot, slotView, Option.filter, hs, here, kept]
      · by_cases here : slot = slotOf new
        · simp [moveSlot, slotView, here]
        · by_cases there : slot = slotOf old
          · simp [moveSlot, slotView, Option.filter, hs, there, Ne.symm hs]
          · simp [moveSlot, slotView, Option.filter, hs, here, there, Ne.symm here, Ne.symm there]

end

def StaticRoute.slot (route : StaticRoute) : UInt8 × Bool := (route.distance, route.drop)

def kernelRoutes := Family.ofMap (fun running candidate => (diffOs running candidate).routes)
  Intents.routes RouteChange.destination
  (fun change => moveSlot StaticRoute.slot StaticRoute.nextHops change.old change.new)
  fun _ => slotView StaticRoute.slot StaticRoute.nextHops

def kernelArp := Family.ofMap (fun running candidate => (diffOs running candidate).arp)
  Intents.arpStatics ArpChange.ip
  (fun change => moveSlot ArpStatic.interface ArpStatic.mac change.old change.new)
  fun _ => slotView ArpStatic.interface ArpStatic.mac

/-- VLAN 1 is always there, with its defaults if it is not configured. -/
def vlanView (id : UInt16) (vlan : Option VlanIntent) : Option VlanIntent :=
  if id = 1 then some (vlan.getD {}) else vlan

def vlanTable := Family.ofMap diffVlans Intents.vlans VlanChange.id
  (fun change _ => vlanView change.id change.ensure) vlanView

def portChannels := Family.ofMap diffLags lagState LagChange.group
  (fun change _ => change.ensure) fun _ ensure => ensure

def mirrorSessions := Family.ofMap diffMirror Intents.mirror MirrorChange.session
  (fun change _ => change.ensure) fun _ ensure => ensure

def accessLists := Family.ofMap diffAcls Intents.acls AclChange.name
  (fun change _ => change.ensure) fun _ ensure => ensure

def accessBindings := Family.ofMap diffAclBindings aclBindings
  (fun change => (change.target, change.egress)) (fun change _ => change.acl) fun _ acl => acl

def switchports : Family Intents SwitchportChange String (Option SwitchportIntent)
    (Option SwitchportIntent) where
  diff := diffSwitchports
  key := SwitchportChange.name
  act change _ := change.set
  entry intents name := intents.ports[name]?.bind (·.switchport)
  effective intents name := intents.ports[name]?.bind (·.switchport)

theorem changedSwitchport_eq (name : String) (current : Option InterfaceIntent)
    (wanted : InterfaceIntent) : changedSwitchport name current wanted =
      if current.bind (·.switchport) = wanted.switchport then [] else [⟨name, wanted.switchport⟩] := by
  unfold changedSwitchport
  cases wanted.switchport with
  | none => cases current.bind (·.switchport) <;> simp
  | some wanted => cases current.bind (·.switchport) with
    | none => simp
    | some now => simp [eq_comm]

theorem switchports_correct : switchports.Correct := by
  have changes : ∀ running candidate name, switchports.changesAt running candidate name =
      changedSwitchport name running.ports[name]? (candidate.ports[name]?.getD {}) := by
    intro running candidate name
    refine filter_changed_append_removed ({} : InterfaceIntent) (fun name current wanted => ?_)
      (fun name had => ?_) (fun name => rfl) running.ports candidate.ports name
    · rw [changedSwitchport_eq]
      split <;> simp [switchports]
    · rw [changedSwitchport_eq, removedSwitchport]
      cases held : had.switchport <;> simp [held]
  have wanted : ∀ port : Option InterfaceIntent,
      (port.getD {}).switchport = port.bind (·.switchport) := by
    intro port
    cases port <;> rfl
  refine correct_of_changesAt _ (fun running candidate name => ?_)
    fun running candidate name hs => ?_
  · rw [changes, changedSwitchport_eq, wanted]
    split
    · next hs => exact hs
    · rfl
  · rw [changes, changedSwitchport_eq, wanted]
    exact if_pos hs

/-- Entries are removed before others are added. -/
inductive MacChange where
  | remove (place : String × UInt16)
  | add (place : String × UInt16) (target : FdbTarget)

def MacChange.place : MacChange → String × UInt16
  | .remove place => place
  | .add place _ => place

def MacChange.target : MacChange → Option FdbTarget
  | .remove _ => none
  | .add _ target => some target

def MacTableChanges.inOrder (changes : MacTableChanges) : List MacChange :=
  changes.remove.map .remove ++ changes.add.map fun entry => .add (entry.1, entry.2.1) entry.2.2

def staticMacs : Family Intents MacChange (String × UInt16) (Option FdbTarget) (Option FdbTarget) where
  diff running candidate := (diffMacTable running candidate).inOrder
  key := MacChange.place
  act change _ := change.target
  entry intents place := intents.macTable.statics[place]?
  effective intents place := intents.macTable.statics[place]?

def macAging : Family Intents UInt32 Unit (Option UInt32) UInt32 where
  diff running candidate := (diffMacTable running candidate).agingTime.toList
  key _ := ()
  act change _ := change
  entry intents _ := intents.macTable.agingTime
  effective intents _ := intents.macTable.agingTime.getD defaultFdbAgingSecs

theorem staticMacs_correct : staticMacs.Correct := by
  have changes : ∀ running candidate place, staticMacs.changesAt running candidate place =
      if running.macTable.statics[place]? = candidate.macTable.statics[place]? then []
      else [candidate.macTable.statics[place]?.elim (.remove place) (.add place)] := by
    intro running candidate place
    have named : ∀ place current target, ∀ made ∈ addedMac place current target,
        (made.1, made.2.1) = place := by
      intro place current target made hl
      unfold addedMac at hl
      split at hl
      · cases hl
      · rw [List.mem_singleton.mp hl]
    have removes : ((diffMacTable running candidate).remove.filter (id · = place)) = _ :=
      filter_removed (fun _ _ _ hl => List.mem_singleton.mp hl) _ _ place
    have adds := filter_changed named running.macTable.statics candidate.macTable.statics place
    refine (List.filter_append _ _).trans ?_
    rw [List.filter_map, List.filter_map]
    refine (congrArg₂ (fun gone come => gone.map MacChange.remove ++
      come.map fun entry => .add (entry.1, entry.2.1) entry.2.2) removes adds).trans ?_
    cases candidate.macTable.statics[place]? with
    | none => cases running.macTable.statics[place]? <;> simp
    | some target =>
      by_cases hs : running.macTable.statics[place]? = some target <;> simp [addedMac, hs]
  refine correct_of_changesAt _ (fun running candidate place => ?_)
    fun running candidate place hs => ?_
  · rw [changes]
    split
    · next hs => exact hs
    · next => cases hf : candidate.macTable.statics[place]? <;> simp [staticMacs, MacChange.target, hf]
  · rw [changes]
    exact if_pos hs

theorem macAging_correct : macAging.Correct := by
  have changes : ∀ running candidate, macAging.changesAt running candidate () =
      (diffMacTable running candidate).agingTime.toList := by
    intro running candidate
    exact List.filter_eq_self.mpr fun _ _ => rfl
  refine correct_of_changesAt _ (fun running candidate _ => ?_) fun running candidate _ hs => ?_
  · rw [changes]
    simp only [diffMacTable, macAging]
    split
    · rfl
    · next hs => simpa using hs
  · have sameAging : running.macTable.agingTime = candidate.macTable.agingTime := hs
    rw [changes]
    simp [diffMacTable, sameAging]

def stormLevel (intents : Intents) (place : String × StormKind) : Option String :=
  ((stormState intents)[place.1]?.getD ∅)[place.2]?

def stormLevels : Family Intents StormChange (String × StormKind) (Option String) (Option String) where
  diff := diffStormControl
  key change := (change.name, change.kind)
  act change _ := change.level
  entry := stormLevel
  effective := stormLevel

theorem stormLevels_changesAt (running candidate : Intents) (place : String × StormKind) :
    stormLevels.changesAt running candidate place =
      if stormLevel running place = stormLevel candidate place then []
      else [⟨place.1, place.2, stormLevel candidate place⟩] := by
  have named : ∀ name current levels, ∀ change ∈ diffLevels name (Option.getD current ∅) levels,
      change.name = name := by
    intro name current levels change hl
    obtain ⟨kind, now, level, rfl⟩ := exists_of_mem_diffMaps hl
    rfl
  have drops : ∀ name levels, (levels.toList.map fun entry => StormChange.mk name entry.1 none) =
      diffLevels name (Option.getD (some levels) ∅) ∅ := by
    intro name levels
    simp [diffLevels, diffMaps, changed, removed, List.map_eq_flatMap]
  -- first the changes of the interface, then those of the kind
  have ofName := filter_changed_append_removed ∅ named drops (fun _ => rfl) (stormState running)
    (stormState candidate) place.1
  have both : stormLevels.changesAt running candidate place =
      (((diffStormControl running candidate).filter (StormChange.name · = place.1)).filter
        (StormChange.kind · = place.2)) := by
    rw [List.filter_filter]
    refine congrArg (List.filter · _) (funext fun change => ?_)
    simp [stormLevels, Prod.ext_iff, Bool.and_comm]
  rw [both]
  exact (congrArg (List.filter _) ofName).trans (filter_diffMaps (fun _ _ _ => rfl) _ _ place.2)

theorem stormLevels_correct : stormLevels.Correct := by
  refine correct_of_changesAt _ (fun running candidate place => ?_)
    fun running candidate place hs => ?_
  · rw [stormLevels_changesAt]
    split
    · next hs => exact hs
    · rfl
  · rw [stormLevels_changesAt]
    exact if_pos hs

end Hemlock.Intent
