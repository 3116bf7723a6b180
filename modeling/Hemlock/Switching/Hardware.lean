import Hemlock.Library.OrderedMap
import Hemlock.Names

/-!
# The bridge of the switch

VLANs and their members, aggregated ports, router interfaces as far as bridging is
concerned, and spanning-tree instances, with the calls that change them.  A call that does
not make sense is refused and changes nothing.
-/

namespace Hemlock.Switching

abbrev Oid := Nat
abbrev PortId := Nat

abbrev OidMap (Value : Type) := Std.ExtTreeMap Oid Value compare
abbrev OidSet := Std.ExtTreeSet Oid compare

inductive StpPortState where
  | blocking
  | learning
  | forwarding
  deriving DecidableEq

/-- Why a call is refused. -/
inductive SaiError where
  | unknownPort (port : PortId)
  | vlanExists (id : UInt16)
  | noSuchVlan (vlan : Oid)
  | vlanHasMembers (vlan : Oid)
  | vlanHasRif (vlan : Oid)
  | vlanHasRifAlready (vlan : Option Oid)
  | noSuchVlanMember (member : Oid)
  | alreadyMember (port : PortId) (vlan : Oid)
  | noBridgePort (port : PortId)
  | hasRif (port : PortId)
  | noRif (port : PortId) (rif : Oid)
  | noSuchVlanRif (rif : Oid)
  | noSuchLag (lag : PortId)
  | lagHasMembers (lag : PortId)
  | lagHasVlans (lag : PortId)
  | routed (port : PortId)
  | inLag (port : PortId)
  | noSuchLagMember (member : Oid)
  | otherLagMember (member : Oid) (port : PortId)
  | noSuchStpInstance (stp : Oid)
  | stpInstanceHasVlans (stp : Oid)
  deriving DecidableEq

def hex (number : Nat) : String := "0x" ++ String.ofList (Nat.toDigits 16 number)

def SaiError.text : SaiError → String
  | .unknownPort port => "unknown port PortId(" ++ toString port ++ ")"
  | .vlanExists id => "VLAN " ++ toString id.toNat ++ " already exists"
  | .noSuchVlan vlan => "no such VLAN " ++ hex vlan
  | .vlanHasMembers vlan => "VLAN " ++ hex vlan ++ " still has members"
  | .vlanHasRif vlan => "VLAN " ++ hex vlan ++ " still has a RIF"
  | .vlanHasRifAlready none => "VLAN None already has a RIF"
  | .vlanHasRifAlready (some vlan) =>
    "VLAN Some(Oid(" ++ toString vlan ++ ")) already has a RIF"
  | .noSuchVlanMember member => "no such VLAN member " ++ hex member
  | .alreadyMember port vlan => "port " ++ hex port ++ " is already a member of VLAN " ++ hex vlan
  | .noBridgePort port => "port " ++ hex port ++ " is routed (no bridge port)"
  | .hasRif port => "port " ++ hex port ++ " already has a RIF"
  | .noRif port rif => "port " ++ hex port ++ " has no RIF " ++ hex rif
  | .noSuchVlanRif rif => "no such VLAN RIF " ++ hex rif
  | .noSuchLag lag => "no such LAG " ++ hex lag
  | .lagHasMembers lag => "LAG " ++ hex lag ++ " still has members"
  | .lagHasVlans lag => "LAG " ++ hex lag ++ " still has VLAN memberships"
  | .routed port => "port " ++ hex port ++ " is routed"
  | .inLag port => "port " ++ hex port ++ " is already a LAG member"
  | .noSuchLagMember member => "no such LAG member " ++ hex member
  | .otherLagMember member port => "LAG member " ++ hex member ++ " does not front " ++ hex port
  | .noSuchStpInstance stp => "no such STP instance " ++ hex stp
  | .stpInstanceHasVlans stp => "STP instance " ++ hex stp ++ " still has VLANs"

structure VlanMember where
  vlan : Oid
  port : PortId
  tagged : Bool
  deriving DecidableEq

structure LagMember where
  lag : PortId
  port : PortId
  enabled : Bool
  deriving DecidableEq

structure Hardware where
  ports : OidSet
  /-- Objects are numbered from here on. -/
  next : Oid
  vlans : VlanMap Oid := ∅
  vlanMembers : OidMap VlanMember := ∅
  /-- The members of the default VLAN. -/
  defaultMembers : OidSet := ∅
  pvids : OidMap UInt16 := ∅
  tpids : OidMap UInt16 := ∅
  rifs : OidMap Oid := ∅
  /-- Which VLAN a router interface fronts; `none` is the default VLAN. -/
  vlanRifs : OidMap (Option Oid) := ∅
  lags : OidSet := ∅
  lagMembers : OidMap LagMember := ∅
  stpInstances : OidSet := ∅
  vlanStp : Std.ExtTreeMap (Option Oid) (Option Oid) compare := ∅
  stpPortStates : Std.ExtTreeMap (Option Oid × PortId) StpPortState comparePair := ∅

instance : Std.TransCmp (@comparePair (Option Oid) PortId _ _) := inferInstance

abbrev Sai (Value : Type) := EStateM SaiError Hardware Value

namespace Hardware

/-- A call that is refused for one reason and has one effect. -/
def checked {Value : Type} (refusal : Hardware → Option SaiError)
    (effect : Hardware → Value × Hardware) : Sai Value := fun hw =>
  match refusal hw with
  | some error => .error error hw
  | none => .ok (effect hw).1 (effect hw).2

def first (reasons : List (Bool × SaiError)) : Option SaiError :=
  (reasons.find? Prod.fst).map Prod.snd

@[simp]
theorem first_eq_none {reasons : List (Bool × SaiError)} :
    first reasons = none ↔ ∀ reason ∈ reasons, reason.1 = false := by
  simp [first]

def isPortLike (hw : Hardware) (port : PortId) : Bool :=
  hw.ports.contains port || hw.lags.contains port

def hasVlan (hw : Hardware) (vlan : Oid) : Bool := hw.vlans.values.contains vlan

def createVlan (id : UInt16) : Sai Oid :=
  Hardware.checked
    (fun hw => first [(id = 1 || hw.vlans.contains id, .vlanExists id)])
    fun hw => (hw.next,
      { hw with next := hw.next + 1, vlans := hw.vlans.insert id hw.next })

def removeVlan (vlan : Oid) : Sai Unit :=
  Hardware.checked
    (fun hw => first
      [(hw.vlanMembers.values.any fun member => member.vlan = vlan, .vlanHasMembers vlan),
        (hw.vlanRifs.values.contains (some vlan), .vlanHasRif vlan),
        (!hw.hasVlan vlan, .noSuchVlan vlan)])
    fun hw => ((), { hw with vlans := hw.vlans.filter fun _ oid => oid ≠ vlan })

def addVlanMember (vlan : Oid) (port : PortId) (tagged : Bool) : Sai Oid :=
  Hardware.checked
    (fun hw => first
      [(!hw.isPortLike port, .unknownPort port), (hw.rifs.contains port, .noBridgePort port),
        (!hw.hasVlan vlan, .noSuchVlan vlan),
        (hw.vlanMembers.values.any fun member => member.vlan = vlan && member.port = port,
          .alreadyMember port vlan)])
    fun hw => (hw.next,
      { hw with
        next := hw.next + 1
        vlanMembers := hw.vlanMembers.insert hw.next ⟨vlan, port, tagged⟩ })

def removeVlanMember (member : Oid) : Sai Unit :=
  Hardware.checked
    (fun hw => first [(!hw.vlanMembers.contains member, .noSuchVlanMember member)])
    fun hw => ((), { hw with vlanMembers := hw.vlanMembers.erase member })

def setPortPvid (port : PortId) (vlan : UInt16) : Sai Unit :=
  Hardware.checked (fun hw => first [(!hw.isPortLike port, .unknownPort port)])
    fun hw => ((), { hw with pvids := hw.pvids.insert port vlan })

def removePortDefaultVlan (port : PortId) : Sai Unit :=
  Hardware.checked (fun hw => first [(!hw.isPortLike port, .unknownPort port)])
    fun hw => ((), { hw with defaultMembers := hw.defaultMembers.erase port })

def restorePortDefaultVlan (port : PortId) : Sai Unit :=
  Hardware.checked
    (fun hw => first
      [(!hw.isPortLike port, .unknownPort port), (hw.rifs.contains port, .noBridgePort port)])
    fun hw => ((),
      { hw with
        defaultMembers := hw.defaultMembers.insert port
        pvids := hw.pvids.insert port 1 })

/-- The usual tag type is what ports have that are not listed. -/
def setPortTpid (port : PortId) (tpid : UInt16) : Sai Unit :=
  Hardware.checked (fun hw => first [(!hw.ports.contains port, .unknownPort port)])
    fun hw => ((),
      { hw with
        tpids := if tpid = 0x8100 then hw.tpids.erase port else hw.tpids.insert port tpid })

def createRouterInterface (port : PortId) : Sai Oid :=
  Hardware.checked
    (fun hw => first
      [(!hw.ports.contains port, .unknownPort port), (hw.rifs.contains port, .hasRif port)])
    fun hw => (hw.next,
      { hw with
        next := hw.next + 1
        defaultMembers := hw.defaultMembers.erase port
        rifs := hw.rifs.insert port hw.next })

def removeRouterInterface (port : PortId) (rif : Oid) : Sai Unit :=
  Hardware.checked (fun hw => first [(hw.rifs[port]? ≠ some rif, .noRif port rif)])
    fun hw => ((),
      { hw with
        rifs := hw.rifs.erase port
        defaultMembers := hw.defaultMembers.insert port
        pvids := hw.pvids.insert port 1 })

def createVlanRouterInterface (vlan : Option Oid) : Sai Oid :=
  Hardware.checked
    (fun hw => first
      [(vlan.any fun vlan => !hw.hasVlan vlan, .noSuchVlan (vlan.getD 0)),
        (hw.vlanRifs.values.contains vlan, .vlanHasRifAlready vlan)])
    fun hw => (hw.next,
      { hw with
        next := hw.next + 1
        vlanRifs := hw.vlanRifs.insert hw.next vlan })

def removeVlanRouterInterface (rif : Oid) : Sai Unit :=
  Hardware.checked (fun hw => first [(!hw.vlanRifs.contains rif, .noSuchVlanRif rif)])
    fun hw => ((), { hw with vlanRifs := hw.vlanRifs.erase rif })

def createLag : Sai PortId :=
  Hardware.checked (fun _ => none) fun hw => (hw.next,
    { hw with
      next := hw.next + 1
      lags := hw.lags.insert hw.next
      defaultMembers := hw.defaultMembers.insert hw.next
      pvids := hw.pvids.insert hw.next 1 })

def removeLag (lag : PortId) : Sai Unit :=
  Hardware.checked
    (fun hw => first
      [(!hw.lags.contains lag, .noSuchLag lag),
        (hw.lagMembers.values.any fun member => member.lag = lag, .lagHasMembers lag),
        (hw.vlanMembers.values.any fun member => member.port = lag, .lagHasVlans lag)])
    fun hw => ((),
      { hw with
        lags := hw.lags.erase lag
        defaultMembers := hw.defaultMembers.erase lag
        pvids := hw.pvids.erase lag })

def addLagMember (lag port : PortId) : Sai Oid :=
  Hardware.checked
    (fun hw => first
      [(!hw.ports.contains port, .unknownPort port), (!hw.lags.contains lag, .noSuchLag lag),
        (hw.rifs.contains port, .routed port),
        (hw.lagMembers.values.any fun member => member.port = port, .inLag port)])
    fun hw => (hw.next,
      { hw with
        next := hw.next + 1
        defaultMembers := hw.defaultMembers.erase port
        lagMembers := hw.lagMembers.insert hw.next ⟨lag, port, false⟩ })

def removeLagMember (member : Oid) (port : PortId) : Sai Unit :=
  Hardware.checked
    (fun hw => first
      [(!hw.lagMembers.contains member, .noSuchLagMember member),
        (hw.lagMembers[member]?.any fun member => member.port ≠ port, .otherLagMember member port)])
    fun hw => ((),
      { hw with
        lagMembers := hw.lagMembers.erase member
        defaultMembers := hw.defaultMembers.insert port
        pvids := hw.pvids.insert port 1 })

def setLagMemberState (member : Oid) (enabled : Bool) : Sai Unit :=
  Hardware.checked
    (fun hw => first [(!hw.lagMembers.contains member, .noSuchLagMember member)])
    fun hw => ((),
      { hw with
        lagMembers := hw.lagMembers.modify member fun member => { member with enabled } })

def createStpInstance : Sai Oid :=
  Hardware.checked (fun _ => none) fun hw => (hw.next,
    { hw with
      next := hw.next + 1
      stpInstances := hw.stpInstances.insert hw.next })

def removeStpInstance (stp : Oid) : Sai Unit :=
  Hardware.checked
    (fun hw => first
      [(hw.vlanStp.values.contains (some stp), .stpInstanceHasVlans stp),
        (!hw.stpInstances.contains stp, .noSuchStpInstance stp)])
    fun hw => ((),
      { hw with
        stpInstances := hw.stpInstances.erase stp
        stpPortStates := hw.stpPortStates.filter fun key _ => key.1 ≠ some stp })

def setVlanStpInstance (vlan stp : Option Oid) : Sai Unit :=
  Hardware.checked
    (fun hw => first
      [(vlan.any fun vlan => !hw.hasVlan vlan, .noSuchVlan (vlan.getD 0)),
        (stp.any fun stp => !hw.stpInstances.contains stp, .noSuchStpInstance (stp.getD 0))])
    fun hw => ((), { hw with vlanStp := hw.vlanStp.insert vlan stp })

def setStpPortState (stp : Option Oid) (port : PortId) (state : StpPortState) : Sai Unit :=
  Hardware.checked
    (fun hw => first
      [(!hw.isPortLike port, .unknownPort port),
        (stp.any fun stp => !hw.stpInstances.contains stp, .noSuchStpInstance (stp.getD 0))])
    fun hw => ((),
      { hw with stpPortStates := hw.stpPortStates.insert (stp, port) state })

end Hardware

end Hemlock.Switching
