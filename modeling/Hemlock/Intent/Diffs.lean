import Hemlock.Intent.Reading
import Hemlock.Library.Plan

/-!
# Changes between two intent sets

What a commit sends, family by family: the changes that lead from the running intents to
the candidate's.  An attribute that goes away is sent as its default, or as the word that
stops forcing it; an entry that goes away is sent as its removal.
-/

namespace Hemlock.Intent

open Plan

structure PortChange where
  name : String
  adminUp : Option Bool := none
  description : Option String := none
  speedMbps : Option UInt32 := none
  duplex : Option String := none
  mtu : Option UInt32 := none
  deriving DecidableEq

def PortChange.moves (change : PortChange) : Bool :=
  change.adminUp.isSome || change.description.isSome || change.speedMbps.isSome ||
    change.duplex.isSome || change.mtu.isSome

def PortChange.sent (change : PortChange) : List PortChange :=
  if change.moves then [change] else []

def adminDelta : Option Bool → Option Bool → Option Bool
  | some wanted, some now => if wanted = now then none else some wanted
  | some wanted, none => some wanted
  -- Intent removed: back to the default, up.
  | none, some false => some true
  | none, _ => none

def descriptionDelta : Option String → Option String → Option String
  | some wanted, some now => if wanted = now then none else some wanted
  | some wanted, none => some wanted
  | none, some now => if now ≠ "" then some "" else none
  | none, none => none

/-- Speed, duplex and MTU.  A pin that goes away is sent as 0 or `auto`. -/
def linkDelta (wanted : InterfaceIntent) (current : Option InterfaceIntent) :
    Option UInt32 × Option String × Option UInt32 :=
  let speedNow := current.bind (·.speedMbps)
  let duplexNow := current.bind (·.duplex)
  let mtuNow := current.bind (·.mtu)
  (if wanted.speedMbps ≠ speedNow then some (wanted.speedMbps.getD 0) else none,
    if wanted.duplex ≠ duplexNow then some ((wanted.duplex.map Duplex.word).getD "auto") else none,
    if wanted.mtu ≠ mtuNow then some (wanted.mtu.getD 0) else none)

def changedPort (name : String) (current : Option InterfaceIntent) (wanted : InterfaceIntent) :
    List PortChange :=
  let adminUp := adminDelta wanted.adminUp (current.bind (·.adminUp))
  let description := descriptionDelta wanted.description (current.bind (·.description))
  let (speedMbps, duplex, mtu) := linkDelta wanted current
  PortChange.sent { name, adminUp, description, speedMbps, duplex, mtu }

/-- A port configured before and absent now reverts to its defaults. -/
def removedPort (name : String) (had : InterfaceIntent) : List PortChange :=
  let adminUp := if had.adminUp = some false then some true else none
  let description := (had.description.filter (· ≠ "")).map fun _ => ""
  let (speedMbps, duplex, mtu) := linkDelta {} (some had)
  PortChange.sent { name, adminUp, description, speedMbps, duplex, mtu }

def diff (running candidate : NameMap InterfaceIntent) : List PortChange :=
  changed changedPort running candidate ++ removed removedPort running candidate

def defaultMtu : UInt32 := 1500

def defaultPortMtu : UInt32 := 9100

structure NetdevChange where
  name : String
  adminUp : Option Bool := none
  setAddress : Option String := none
  delAddress : Option String := none
  setMtu : Option UInt32 := none
  deriving DecidableEq

def NetdevChange.moves (change : NetdevChange) : Bool :=
  change.adminUp.isSome || change.setAddress.isSome || change.delAddress.isSome ||
    change.setMtu.isSome

def NetdevChange.sent (change : NetdevChange) : List NetdevChange :=
  if change.moves then [change] else []

def addressDelta : Option String → Option String → Option String × Option String
  | some wanted, some now => if wanted = now then (none, none) else (some wanted, some now)
  | some wanted, none => (some wanted, none)
  | none, some now => (none, some now)
  | none, none => (none, none)

/-- A deleted MTU is sent as the default: a netdev has no unset one. -/
def mtuDelta (wanted current : Option UInt32) (standard : UInt32) : Option UInt32 :=
  if wanted ≠ current then some (wanted.getD standard) else none

def changedNetdev (standard : UInt32) (name : String) (current : Option MgmtIntent)
    (wanted : MgmtIntent) : List NetdevChange :=
  let adminUp := adminDelta wanted.adminUp (current.bind (·.adminUp))
  let (setAddress, delAddress) := addressDelta wanted.address (current.bind (·.address))
  let setMtu := mtuDelta wanted.mtu (current.bind (·.mtu)) standard
  NetdevChange.sent { name, adminUp, setAddress, delAddress, setMtu }

def removedNetdev (standard : UInt32) (name : String) (had : MgmtIntent) : List NetdevChange :=
  let adminUp := if had.adminUp = some false then some true else none
  let setMtu := mtuDelta none had.mtu standard
  NetdevChange.sent { name, adminUp, delAddress := had.address, setMtu }

/-- The netdevs of one kind; `netdev` is what the kind's entries say about theirs. -/
def diffNetdevs {Entry : Type} (standard : UInt32) (netdev : Entry → MgmtIntent)
    (running candidate : NameMap Entry) : List NetdevChange :=
  changed (fun name current wanted => changedNetdev standard name (current.map netdev) (netdev wanted))
      running candidate ++
    removed (fun name had => removedNetdev standard name (netdev had)) running candidate

def managementNetdev (management : MgmtIntent) : MgmtIntent := management

/-- The admin state of a port stays with the switch. -/
def portNetdev (port : InterfaceIntent) : MgmtIntent := { address := port.address, mtu := port.mtu }

def sviNetdev (svi : SviIntent) : MgmtIntent := { address := svi.address, mtu := svi.mtu }

structure RouteChange where
  destination : String
  old : Option StaticRoute
  new : Option StaticRoute
  deriving DecidableEq

structure ArpChange where
  ip : String
  old : Option ArpStatic
  new : Option ArpStatic
  deriving DecidableEq

structure VrrpMacvlanChange where
  interface : String
  group : UInt8
  create : Bool
  deriving DecidableEq

structure UserChange where
  name : String
  set : Option UserIntent
  deriving DecidableEq

structure OsChanges where
  management : List NetdevChange
  ports : List NetdevChange
  svis : List NetdevChange
  routes : List RouteChange
  arp : List ArpChange
  vrrpMacvlans : List VrrpMacvlanChange
  identity : Option IdentityIntent
  users : List UserChange
  ssh : Option SshIntent
  web : Option WebIntent
  ntp : Option NtpIntent

section

variable (running candidate : Intents)

def diffRoutes : List RouteChange :=
  diffMaps RouteChange.mk running.routes candidate.routes

def diffArp : List ArpChange :=
  diffMaps ArpChange.mk running.arpStatics candidate.arpStatics

/-- Groups that come and go; what changes inside of one is not the kernel's. -/
def diffMacvlans : List VrrpMacvlanChange :=
  changed (fun place current _ =>
      if current.isSome then [] else [⟨place.1, place.2, true⟩]) running.vrrp candidate.vrrp ++
    removed (fun place _ => [⟨place.1, place.2, false⟩]) running.vrrp candidate.vrrp

/-- Without a login block the accounts are not the configuration's to remove. -/
def diffUsers : List UserChange :=
  changed (fun name current wanted => if current = some wanted then [] else [⟨name, some wanted⟩])
      running.login candidate.login ++
    if candidate.login.isEmpty then []
    else removed (fun name _ => [⟨name, none⟩]) running.login candidate.login

def moved {State : Type} [DecidableEq State] (now wanted : State) : Option State :=
  if now ≠ wanted then some wanted else none

def diffOs : OsChanges :=
  { management := diffNetdevs defaultMtu managementNetdev running.management candidate.management
    ports := diffNetdevs defaultPortMtu portNetdev running.ports candidate.ports
    svis := diffNetdevs defaultMtu sviNetdev running.svis candidate.svis
    routes := diffRoutes running candidate
    arp := diffArp running candidate
    vrrpMacvlans := diffMacvlans running candidate
    identity := moved running.identity candidate.identity
    users := diffUsers running candidate
    ssh := moved running.ssh candidate.ssh
    web := moved running.web candidate.web
    ntp := moved running.ntp candidate.ntp }

structure VlanChange where
  id : UInt16
  ensure : Option VlanIntent
  deriving DecidableEq

def diffVlans : List VlanChange :=
  diffMaps (fun id _ ensure => ⟨id, ensure⟩) running.vlans candidate.vlans

structure SwitchportChange where
  name : String
  set : Option SwitchportIntent
  deriving DecidableEq

def changedSwitchport (name : String) (current : Option InterfaceIntent)
    (wanted : InterfaceIntent) : List SwitchportChange :=
  match wanted.switchport, current.bind (·.switchport) with
  | some wanted, some now => if wanted = now then [] else [⟨name, some wanted⟩]
  | some wanted, none => [⟨name, some wanted⟩]
  | none, some _ => [⟨name, none⟩]
  | none, none => []

def removedSwitchport (name : String) (had : InterfaceIntent) : List SwitchportChange :=
  if had.switchport.isSome then [⟨name, none⟩] else []

def diffSwitchports : List SwitchportChange :=
  changed changedSwitchport running.ports candidate.ports ++
    removed removedSwitchport running.ports candidate.ports

/-- A port-channel with the modes and the LACP tuning of its members. -/
structure LagEnsure where
  lag : LagIntent := {}
  members : NameMap (LacpMode × PortLacpIntent) := ∅
  deriving DecidableEq

structure LagChange where
  group : UInt16
  ensure : Option LagEnsure
  deriving DecidableEq

def addMember (lags : Std.ExtTreeMap UInt16 LagEnsure compare) (name : String)
    (port : InterfaceIntent) : Std.ExtTreeMap UInt16 LagEnsure compare :=
  match port.channelGroup with
  | none => lags
  | some member =>
    let ensure := lags.getD member.group {}
    lags.insert member.group
      { ensure with members := ensure.members.insert name (member.mode, port.lacp.getD {}) }

/-- Configured port-channels, and those that exist through their members only. -/
def lagState (intents : Intents) : Std.ExtTreeMap UInt16 LagEnsure compare :=
  intents.ports.toList.foldl (fun lags (name, port) => addMember lags name port)
    (intents.lags.map fun _ lag => { lag })

def diffLags : List LagChange :=
  diffMaps (fun group _ ensure => ⟨group, ensure⟩) (lagState running) (lagState candidate)

def defaultFdbAgingSecs : UInt32 := 300

structure MacTableChanges where
  agingTime : Option UInt32
  add : List (String × UInt16 × FdbTarget)
  remove : List (String × UInt16)
  deriving DecidableEq

def addedMac (place : String × UInt16) (current : Option FdbTarget) (target : FdbTarget) :
    List (String × UInt16 × FdbTarget) :=
  if current = some target then [] else [(place.1, place.2, target)]

def diffMacTable : MacTableChanges :=
  let now := running.macTable.agingTime.getD defaultFdbAgingSecs
  let want := candidate.macTable.agingTime.getD defaultFdbAgingSecs
  { agingTime := if now ≠ want then some want else none
    add := changed addedMac running.macTable.statics candidate.macTable.statics
    remove := removed (fun place _ => [place]) running.macTable.statics candidate.macTable.statics }

end

structure StormChange where
  name : String
  kind : StormKind
  level : Option String
  deriving DecidableEq

def lagName (group : UInt16) : String := "Port-Channel" ++ toString group.toNat

def stormState (intents : Intents) : NameMap StormLevels :=
  let add := fun (levels : NameMap StormLevels) (name : String) (storm : StormLevels) =>
    if storm.isEmpty then levels else levels.insert name storm
  let ports := intents.ports.toList.foldl (fun levels (name, port) => add levels name port.stormControl) ∅
  intents.lags.toList.foldl (fun levels (group, lag) => add levels (lagName group) lag.stormControl) ports

def diffLevels (name : String) (current levels : StormLevels) : List StormChange :=
  diffMaps (fun kind _ level => ⟨name, kind, level⟩) current levels

def diffStormControl (running candidate : Intents) : List StormChange :=
  let now := stormState running
  let want := stormState candidate
  changed (fun name current levels => diffLevels name (current.getD ∅) levels) now want ++
    removed (fun name levels => levels.toList.map fun (kind, _) => ⟨name, kind, none⟩) now want

structure MirrorChange where
  session : UInt8
  ensure : Option MirrorIntent
  deriving DecidableEq

def diffMirror (running candidate : Intents) : List MirrorChange :=
  diffMaps (fun session _ ensure => ⟨session, ensure⟩) running.mirror candidate.mirror

structure AclChange where
  name : String
  ensure : Option AclIntent
  deriving DecidableEq

def diffAcls (running candidate : Intents) : List AclChange :=
  diffMaps (fun name _ ensure => ⟨name, ensure⟩) running.acls candidate.acls

abbrev AclBindings := Std.ExtTreeMap (String × Bool) String comparePair

def bindGroups (bindings : AclBindings) (name : String) (groups : AccessGroups) : AclBindings :=
  let ingress := match groups.ingress with
    | some acl => bindings.insert (name, false) acl
    | none => bindings
  match groups.egress with
  | some acl => ingress.insert (name, true) acl
  | none => ingress

/-- The access list of each interface and direction, `true` for outgoing. -/
def aclBindings (intents : Intents) : AclBindings :=
  let ports := intents.ports.toList.foldl
    (fun bindings (name, port) => bindGroups bindings name port.accessGroups) ∅
  intents.lags.toList.foldl
    (fun bindings (group, lag) => bindGroups bindings (lagName group) lag.accessGroups) ports

structure AclBindingChange where
  target : String
  egress : Bool
  acl : Option String
  deriving DecidableEq

def diffAclBindings (running candidate : Intents) : List AclBindingChange :=
  diffMaps (fun place _ acl => ⟨place.1, place.2, acl⟩) (aclBindings running) (aclBindings candidate)

end Hemlock.Intent
