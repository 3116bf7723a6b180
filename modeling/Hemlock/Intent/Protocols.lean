import Hemlock.Intent.System

/-!
# VLANs, protocols and switching

The `vlans` block, the `protocols` block (LACP, spanning tree, multicast snooping) and the
`switching` block (static MAC table, mirror sessions).
-/

namespace Hemlock.Intent

open Config Net ConfigTree

def vlanStatement (vlans : VlanMap VlanIntent) : Item → Except IntentError (VlanMap VlanIntent)
  | .leaf name _ => .error (.badVlanBlock ("unrecognized statement " ++ debug name))
  | .block name [key] children =>
    if name ≠ "vlan" then .error (.badVlanBlock ("unrecognized block " ++ debug name))
    else do
      let id ← (parseVlanId key).mapError (.badVlan key)
      let suspended ←
        match ConfigTree.leafValue children "state" with
        | some "suspend" => pure true
        | some "active" | none => pure false
        | some other => throw (.badVlan key ("state must be `active` or `suspend`, got " ++ debug other))
      if suspended ∧ id = 1 then throw (.badVlan key "the default VLAN cannot be suspended")
      insertNew vlans id
        { description := ConfigTree.leafValue children "description", suspended }
        (.badVlan key "duplicate vlan block")
  | .block name _ _ =>
    .error (.badVlanBlock ("vlan block needs exactly one id key, got " ++ debug name))

def vlans (tree : ConfigTree) : Except IntentError (VlanMap VlanIntent) :=
  match tree.block "vlans" with
  | none => .ok ∅
  | some (_, items) => items.foldlM vlanStatement ∅

def optionalLeaf {Value : Type} (items : List Item) (name : String)
    (read : String → Except IntentError Value) : Except IntentError (Option Value) :=
  match ConfigTree.leafValue items name with
  | some value => some <$> read value
  | none => .ok none

def lacpGlobal (items : List Item) : Except IntentError LacpGlobalIntent := do
  let systemPriority ← optionalLeaf items "system-priority" fun value =>
    (parseInt16 value 0 65535 "system-priority").mapError fun reason =>
      .badProtocols ("lacp: " ++ reason)
  return { systemPriority }

def stpMode (items : List Item) : Except IntentError StpMode :=
  match ConfigTree.leafValue items "mode" with
  | some "mstp" | none => .ok .mstp
  | some "rstp" => .ok .rstp
  | some "none" => .ok .none
  | some "rapid-pvst" => .error (.badStp "mode rapid-pvst is not supported (use mstp or rstp)")
  | some other => .error (.badStp ("mode must be `mstp`, `rstp` or `none`, got " ++ debug other))

def stpPriority (value : String) : Except IntentError UInt16 := do
  let priority ← (parseInt16 value 0 61440 "priority").mapError .badStp
  if priority.toNat % 4096 ≠ 0 then
    throw (.badStp ("priority " ++ toString priority.toNat ++ " is not a multiple of 4096"))
  return priority

def stpTimer (items : List Item) (name : String) (low high : Nat) : Except IntentError (Option UInt8) :=
  optionalLeaf items name fun value => (parseInt8 value low high name).mapError .badStp

/-- The VLANs of an instance, each of them mapped nowhere else. -/
def mapVlans (id : UInt8) (mapped : VlanMap UInt8) :
    List String → Except IntentError (VlanMap UInt8 × List UInt16)
  | [] => .ok (mapped, [])
  | value :: rest => do
      let vlan ← (parseVlanId value).mapError .badStp
      match mapped[vlan]? with
      | some other =>
        throw (.badStp ("vlan " ++ toString vlan.toNat ++ " is mapped to both mst instance "
          ++ toString other.toNat ++ " and " ++ toString id.toNat))
      | none => pure ()
      let (mapped, vlans) ← mapVlans id (mapped.insert vlan id) rest
      return (mapped, vlan :: vlans)

def sortedDistinct (ids : List UInt16) : List UInt16 :=
  (ids.insertionSort (· ≤ ·)).dedup

def mstStatement (state : VlanMap UInt8 × StpIntent) :
    Item → Except IntentError (VlanMap UInt8 × StpIntent)
  | .block name _ _ => .error (.badStp ("mst: unrecognized block " ++ debug name))
  | .leaf "instance" (id :: keyword :: vlanValues) => do
      let id ← (parseInt8 id 1 15 "mst instance").mapError .badStp
      if keyword ≠ "vlans" ∨ vlanValues = [] then
        throw (.badStp ("mst instance " ++ toString id.toNat ++ ": expected `vlans <list>`"))
      let (mapped, vlans) ← mapVlans id state.1 vlanValues
      let instances ← insertNew state.2.instances id (sortedDistinct vlans)
        (.badStp ("duplicate mst instance " ++ toString id.toNat))
      return (mapped, { state.2 with instances })
  | .leaf "instance" _ => .error (.badStp "mst: expected `instance <1-15> vlans <list>`")
  | .leaf _ _ => .ok state

def stp (items : List Item) : Except IntentError StpIntent := do
  let mode ← stpMode items
  let priority ← optionalLeaf items "priority" stpPriority
  let helloTime ← stpTimer items "hello-time" 1 10
  let maxAge ← stpTimer items "max-age" 6 40
  let forwardTime ← stpTimer items "forward-time" 4 30
  let intent : StpIntent := { mode, priority, helloTime, maxAge, forwardTime }
  match (ConfigTree.blocksNamed items "mst").head? with
  | none => return intent
  | some (_, mst) =>
    let mstRevision ← optionalLeaf mst "revision" fun value =>
      (parseInt16 value 0 65535 "mst revision").mapError .badStp
    let intent := { intent with mstName := ConfigTree.leafValue mst "name", mstRevision }
    return (← mst.foldlM mstStatement (∅, intent)).2

def querierAddressOk (family address : String) : Bool :=
  !((parseIpv4 address).isNone && family = "igmp-snooping") &&
    !((parseIpv6 address).isNone && family = "mld-snooping")

/-- The `mrouter interface <port>` leaves of a VLAN. -/
def mrouterStatement (refuse : String → IntentError) (mrouters : List String) :
    Item → Except IntentError (List String)
  | .leaf "mrouter" [keyword, port] =>
    if keyword ≠ "interface" then
      .error (refuse ("expected `interface`, got " ++ debug keyword))
    else .ok (mrouters ++ [port])
  | .leaf "mrouter" _ => .error (refuse "expected `mrouter interface <port>`")
  | _ => .ok mrouters

def snoopVlan (family : String) (id : UInt16) (children : List Item) :
    Except IntentError SnoopVlanIntent := do
  let refuse := fun reason => IntentError.badSnooping family
    ("vlan " ++ toString id.toNat ++ ": " ++ reason)
  let (querier, querierAddress) ←
    match ConfigTree.leafValues children "querier" with
    | none => pure (false, none)
    | some [] => pure (true, none)
    | some ["address", address] =>
      if querierAddressOk family address then pure (true, some address)
      else throw (refuse ("bad querier address " ++ debug address))
    | some _ => throw (refuse "expected `querier [address <ip>]`")
  let mrouters ← children.foldlM (mrouterStatement refuse) []
  return {
    disabled := ConfigTree.hasLeaf children "disable"
    fastLeave := ConfigTree.hasLeaf children "fast-leave"
    querier, querierAddress
    mrouters := (mrouters.insertionSort (· ≤ ·)).dedup }

def addSnoopVlan (family key : String) (children : List Item) (intent : SnoopingIntent) :
    Except IntentError SnoopingIntent := do
  let id ← (parseVlanId key).mapError (.badSnooping family)
  let vlan ← snoopVlan family id children
  let vlans ← insertNew intent.vlans id vlan
    (.badSnooping family ("duplicate vlan " ++ toString id.toNat))
  return { intent with vlans }

/-- A VLAN with its settings, or only named; other statements are passed over. -/
def snoopStatement (family : String) (intent : SnoopingIntent) :
    Item → Except IntentError SnoopingIntent
  | .block "vlan" [key] children => addSnoopVlan family key children intent
  | .block "vlan" _ _ => .error (.badSnooping family "vlan block needs exactly one id key")
  | .leaf "vlan" [key] => addSnoopVlan family key [] intent
  | .leaf "vlan" _ => .error (.badSnooping family "expected `vlan <id>`")
  | _ => .ok intent

def snooping (items : List Item) (family : String) : Except IntentError SnoopingIntent := do
  let robustness ← optionalLeaf items "robustness" fun value =>
    (parseInt8 value 1 3 "robustness").mapError (.badSnooping family)
  items.foldlM (snoopStatement family)
    { disabled := ConfigTree.hasLeaf items "disable", robustness }

def protocolsBlock (name : String) (children : List Item) (intents : Intents) :
    Except IntentError Intents :=
  match name with
  | "spanning-tree" => do
      let stp ← stp children
      return { intents with stp }
  | "igmp-snooping" => do
      let igmpSnooping ← snooping children "igmp-snooping"
      return { intents with igmpSnooping }
  | "mld-snooping" => do
      let mldSnooping ← snooping children "mld-snooping"
      return { intents with mldSnooping }
  | "lacp" => do
      let lacp ← lacpGlobal children
      return { intents with lacp }
  | other => .error (.badProtocols ("unrecognized block " ++ debug other))

def protocolsStatement (intents : Intents) : Item → Except IntentError Intents
  | .leaf name _ => .error (.badProtocols ("unrecognized statement " ++ debug name))
  | .block name keys children =>
    if keys ≠ [] then .error (.badProtocols ("unrecognized block " ++ debug name))
    else protocolsBlock name children intents

def protocols (tree : ConfigTree) (intents : Intents) : Except IntentError Intents :=
  match tree.block "protocols" with
  | none => .ok intents
  | some (_, items) => items.foldlM protocolsStatement intents

def fdbTarget (mac : String) : List String → Except IntentError FdbTarget
  | ["interface", port] => .ok (.port port)
  | ["drop"] => .ok .drop
  | _ => .error (.badMacTable ("static " ++ mac ++ ": expected `interface <port>` or `drop`"))

def macStatement (intent : MacTableIntent) : Item → Except IntentError MacTableIntent
  | .block name _ _ => .error (.badMacTable ("unrecognized block " ++ debug name))
  | .leaf "aging-time" [value] => do
      let seconds ← (parseInt32 value 0 1000000 "aging-time").mapError .badMacTable
      if seconds ≠ 0 ∧ seconds < 10 then
        throw (.badMacTable ("bad aging-time " ++ toString seconds.toNat ++ " (0 or 10..1000000)"))
      return { intent with agingTime := some seconds }
  | .leaf "aging-time" _ => .error (.badMacTable "expected `aging-time <seconds>`")
  | .leaf "static" (mac :: "vlan" :: vlan :: rest) => do
      let target ← fdbTarget mac rest
      let mac ← (parseUnicastMac mac).mapError .badMacTable
      let vlan ← (parseVlanId vlan).mapError .badMacTable
      let statics ← insertNew intent.statics (mac, vlan) target
        (.badMacTable ("duplicate static entry " ++ mac ++ " vlan " ++ toString vlan.toNat))
      return { intent with statics }
  | .leaf "static" _ =>
    .error (.badMacTable "expected `static <mac> vlan <id> interface <port>|drop`")
  | .leaf other _ => .error (.badMacTable ("unrecognized statement " ++ debug other))

def macTable (items : List Item) : Except IntentError MacTableIntent :=
  items.foldlM macStatement {}

def mirrorSource (session : UInt8) : List String → Except IntentError (String × MirrorDirection)
  | [port] => .ok (port, .both)
  | [port, "rx"] => .ok (port, .rx)
  | [port, "tx"] => .ok (port, .tx)
  | [port, "both"] => .ok (port, .both)
  | [_, other] =>
    .error (.badMirror session ("direction must be `rx`, `tx` or `both`, got " ++ debug other))
  | _ => .error (.badMirror session "expected `source <port> [rx|tx|both]`")

def sessionStatement (session : UInt8) (intent : MirrorIntent) :
    Item → Except IntentError MirrorIntent
  | .block name _ _ => .error (.badMirror session ("unrecognized block " ++ debug name))
  | .leaf "source" values => do
      let (port, direction) ← mirrorSource session values
      let sources ← insertNew intent.sources port direction
        (.badMirror session ("duplicate source " ++ port))
      return { intent with sources }
  | .leaf "destination" [port] =>
    if intent.destination.isSome then .error (.badMirror session "duplicate destination")
    else .ok { intent with destination := some port }
  | .leaf "destination" _ => .error (.badMirror session "expected `destination <port>`")
  | .leaf other _ => .error (.badMirror session ("unrecognized statement " ++ debug other))

abbrev MirrorMap := Std.ExtTreeMap UInt8 MirrorIntent compare

def mirrorStatement (sessions : MirrorMap) : Item → Except IntentError MirrorMap
  | .leaf name _ => .error (.badMirrorBlock ("unrecognized statement " ++ debug name))
  | .block name [key] children =>
    if name ≠ "session" then .error (.badMirrorBlock ("unrecognized block " ++ debug name))
    else do
      let session ← (parseInt8 key 1 4 "session").mapError .badMirrorBlock
      let intent ← children.foldlM (sessionStatement session) {}
      insertNew sessions session intent
        (.badMirrorBlock ("duplicate session " ++ toString session.toNat))
  | .block name _ _ =>
    .error (.badMirrorBlock ("session block needs exactly one id key, got " ++ debug name))

def mirror (items : List Item) : Except IntentError MirrorMap := items.foldlM mirrorStatement ∅

def switchingBlock (name : String) (children : List Item) (intents : Intents) :
    Except IntentError Intents :=
  match name with
  | "mac-table" => do
      let macTable ← macTable children
      return { intents with macTable }
  | "mirror" => do
      let mirror ← mirror children
      return { intents with mirror }
  | other => .error (.badSwitching ("unrecognized block " ++ debug other))

def switchingStatement (intents : Intents) : Item → Except IntentError Intents
  | .leaf name _ => .error (.badSwitching ("unrecognized statement " ++ debug name))
  | .block name keys children =>
    if keys ≠ [] then .error (.badSwitching ("unrecognized block " ++ debug name))
    else switchingBlock name children intents

def switching (tree : ConfigTree) (intents : Intents) : Except IntentError Intents :=
  match tree.block "switching" with
  | none => .ok intents
  | some (_, items) => items.foldlM switchingStatement intents

end Hemlock.Intent
