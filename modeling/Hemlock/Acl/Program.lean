import Hemlock.Library.IpAddr
import Hemlock.Library.OrderedMap
import Hemlock.Names

/-!
# Access lists

The access lists of the switch: the rules that a user wrote, the entries that other
features add in front of them, and the single table of prioritised entries that a port
gets from both.
-/

namespace Hemlock.Acl

open Net

inductive AclStage where
  | ingress
  | egress
  deriving DecidableEq

inductive AclFamily where
  | ipv4
  | ipv6
  | mac
  deriving DecidableEq

abbrev IpPrefix := IpAddr × UInt8

/-- What an entry matches; an absent field matches everything. -/
structure AclFields where
  srcIp : Option IpPrefix := none
  dstIp : Option IpPrefix := none
  protocol : Option UInt8 := none
  srcPort : Option (UInt16 × UInt16) := none
  dstPort : Option (UInt16 × UInt16) := none
  dscp : Option UInt8 := none
  srcMac : Option (Mac × Mac) := none
  dstMac : Option (Mac × Mac) := none
  ethertype : Option UInt16 := none
  vlan : Option UInt16 := none
  deriving DecidableEq

inductive AclPacketAction where
  | forward
  | drop
  | trap
  | copy
  deriving DecidableEq

structure PolicerSpec where
  pps : Bool
  rate : UInt64
  burst : UInt64
  deriving DecidableEq

structure AclRuleState where
  permit : Bool
  log : Bool
  fields : AclFields
  police : Option PolicerSpec := none
  deriving DecidableEq

/-- A user's access list; its rules are read in the order of their numbers. -/
structure AclProgram where
  family : AclFamily
  rules : Std.ExtTreeMap UInt32 AclRuleState compare

structure InternalAclEntry where
  fields : AclFields
  action : AclPacketAction
  deriving DecidableEq

/-- The entries that other features have on a port. -/
structure InternalAcl where
  dot1x : List InternalAclEntry := []
  snoop : List InternalAclEntry := []
  deriving DecidableEq

def InternalAcl.isEmpty (internal : InternalAcl) : Bool :=
  internal.dot1x.isEmpty && internal.snoop.isEmpty

def InternalAcl.ordered (internal : InternalAcl) : List InternalAclEntry :=
  internal.dot1x ++ internal.snoop

inductive AclEntryKey where
  | internal (seq : UInt32)
  | user (number : UInt32)
  | implicitDeny
  deriving DecidableEq

structure DesiredEntry where
  key : AclEntryKey
  priority : UInt32
  fields : AclFields
  action : AclPacketAction
  police : Option PolicerSpec
  wantsCounter : Bool
  deriving DecidableEq

structure Desired where
  family : AclFamily
  userAcl : Option String
  entries : List DesiredEntry
  deriving DecidableEq

def internalPriorityTop : UInt32 := 2000000000

def userPriorityTop : UInt32 := 1000000000

def implicitDenyPriority : UInt32 := 1

def userAction (permit log : Bool) : AclPacketAction :=
  match permit, log with
  | true, false => .forward
  | true, true => .copy
  | false, false => .drop
  | false, true => .trap

/-- Only tables of the IPv4 family have every field that internal entries use. -/
def fitsFamily (fields : AclFields) (family : AclFamily) : Bool :=
  match family with
  | .ipv4 => true
  | .ipv6 | .mac =>
    fields.srcIp.isNone && fields.dstIp.isNone && fields.protocol.isNone &&
      fields.srcPort.isNone && fields.dstPort.isNone && fields.dscp.isNone

def DesiredEntry.ofInternal (entry : InternalAclEntry) (seq : Nat) : DesiredEntry where
  key := .internal (UInt32.ofNat seq)
  priority := internalPriorityTop - UInt32.ofNat seq
  fields := entry.fields
  action := entry.action
  police := none
  wantsCounter := false

def DesiredEntry.ofRule (number : UInt32) (rule : AclRuleState) (ordinal : Nat) : DesiredEntry where
  key := .user number
  priority := userPriorityTop - UInt32.ofNat ordinal
  fields := rule.fields
  action := userAction rule.permit rule.log
  police := rule.police
  wantsCounter := true

def DesiredEntry.implicitDeny : DesiredEntry where
  key := .implicitDeny
  priority := implicitDenyPriority
  fields := {}
  action := .drop
  police := none
  wantsCounter := true

def internalBand (entries : List InternalAclEntry) : List DesiredEntry :=
  entries.zipIdx.map fun (entry, seq) => .ofInternal entry seq

def userBand (program : AclProgram) : List DesiredEntry :=
  program.rules.toList.zipIdx.map fun ((number, rule), ordinal) => .ofRule number rule ordinal

def familyConflict (name : String) : String :=
  "ACL " ++ name ++ " cannot share the port with DHCP snooping on this platform " ++
    "(the snooping redirect needs IPv4 matching)"

def internalEntries (internal : Option InternalAcl) : List InternalAclEntry :=
  (internal.map InternalAcl.ordered).getD []

/-- What a port should have at a stage: no table when there is nothing to filter, and an
error when the internal entries do not fit the family of the user's list. -/
def desiredEntries (user : Option (String × AclProgram)) (internal : Option InternalAcl) :
    Except String (Option Desired) :=
  let inFront := internalEntries internal
  match user with
  | none =>
    -- Without a user's list the family is IPv4, which every entry fits.
    if inFront.isEmpty then .ok none else .ok (some ⟨.ipv4, none, internalBand inFront⟩)
  | some (name, program) =>
    if inFront.all fun entry => fitsFamily entry.fields program.family then
      .ok (some ⟨program.family, some name,
        internalBand inFront ++ userBand program ++ [.implicitDeny]⟩)
    else .error (familyConflict name)

theorem desiredEntries_of_fits (name : String) {program : AclProgram} {internal : Option InternalAcl}
    (fits : ∀ entry ∈ internalEntries internal, fitsFamily entry.fields program.family) :
    desiredEntries (some (name, program)) internal = .ok (some ⟨program.family, some name,
        internalBand (internalEntries internal) ++ userBand program ++ [.implicitDeny]⟩) := by
  exact if_pos (List.all_eq_true.mpr fits)

end Hemlock.Acl
