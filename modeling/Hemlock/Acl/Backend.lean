import Hemlock.Acl.Program
import Hemlock.Library.Faults
import Mathlib.Logic.Function.Basic

/-!
# The ACL tables of the switch

The tables, entries, counters and policers that the switch holds, the calls that change
them, and what the software remembers about them.
-/

namespace Hemlock.Acl

open Faults

abbrev Oid := Nat
abbrev PortId := Nat

structure AclAction where
  action : AclPacketAction
  counter : Option Oid
  policer : Option Oid
  deriving DecidableEq

structure HardwareEntry where
  table : Oid
  priority : UInt32
  fields : AclFields
  action : AclAction
  deriving DecidableEq

/-- The objects of the switch by their identifiers; new ones are numbered from `next` on. -/
structure Hardware where
  next : Oid
  tables : Oid → Option (AclStage × AclFamily)
  entries : Oid → Option HardwareEntry
  counters : Oid → Option Oid
  policers : Oid → Option PolicerSpec
  bound : PortId × AclStage → Option Oid

namespace Hardware

def createAclTable (stage : AclStage) (family : AclFamily) (hw : Hardware) : Oid × Hardware :=
  (hw.next, { hw with
    next := hw.next + 1
    tables := Function.update hw.tables hw.next (some (stage, family)) })

def removeAclTable (table : Oid) (hw : Hardware) : Unit × Hardware :=
  ((), { hw with tables := Function.update hw.tables table none })

def createAclEntry (table : Oid) (priority : UInt32) (fields : AclFields) (action : AclAction)
    (hw : Hardware) : Oid × Hardware :=
  (hw.next, { hw with
    next := hw.next + 1
    entries := Function.update hw.entries hw.next
      (some ⟨table, priority, fields, action⟩) })

def setAclEntryAction (entry : Oid) (action : AclAction) (hw : Hardware) : Unit × Hardware :=
  ((), { hw with
    entries := Function.update hw.entries entry
      ((hw.entries entry).map fun stored => { stored with action }) })

def removeAclEntry (entry : Oid) (hw : Hardware) : Unit × Hardware :=
  ((), { hw with entries := Function.update hw.entries entry none })

def createAclCounter (table : Oid) (hw : Hardware) : Oid × Hardware :=
  (hw.next, { hw with
    next := hw.next + 1
    counters := Function.update hw.counters hw.next (some table) })

def removeAclCounter (counter : Oid) (hw : Hardware) : Unit × Hardware :=
  ((), { hw with counters := Function.update hw.counters counter none })

def createPolicer (spec : PolicerSpec) (hw : Hardware) : Oid × Hardware :=
  (hw.next, { hw with
    next := hw.next + 1
    policers := Function.update hw.policers hw.next (some spec) })

def setPolicer (policer : Oid) (spec : PolicerSpec) (hw : Hardware) : Unit × Hardware :=
  ((), { hw with
    policers := Function.update hw.policers policer
      ((hw.policers policer).map fun _ => spec) })

def removePolicer (policer : Oid) (hw : Hardware) : Unit × Hardware :=
  ((), { hw with policers := Function.update hw.policers policer none })

def bindPortAcl (port : PortId) (stage : AclStage) (table : Option Oid) (hw : Hardware) : Unit × Hardware :=
  ((), { hw with bound := Function.update hw.bound (port, stage) table })

end Hardware

def AclStage.rank : AclStage → Nat
  | .ingress => 0
  | .egress => 1

instance : Ord AclStage := ⟨compareOn AclStage.rank⟩

instance : Std.TransOrd AclStage := inferInstanceAs (Std.TransCmp (compareOn AclStage.rank))

instance : Std.LawfulEqOrd AclStage where
  compare_self := Std.ReflCmp.compare_self
  eq_of_compare {first second} same := by
    have ranks : first.rank = second.rank := Nat.compare_eq_eq.mp same
    cases first <;> cases second <;> first | rfl | cases ranks

/-- Internal entries come before the rules, and the rules before the denial. -/
def AclEntryKey.rank : AclEntryKey → Nat
  | .internal seq => seq.toNat
  | .user number => 4294967296 + number.toNat
  | .implicitDeny => 8589934592

theorem AclEntryKey.rank_injective {first second : AclEntryKey} (hs : first.rank = second.rank) :
    first = second := by
  have bound (number : UInt32) : number.toNat < 4294967296 := number.toNat_lt
  cases first with
  | internal seq =>
    cases second with
    | internal seq' => rw [UInt32.toNat_inj.mp hs]
    | user number' | implicitDeny => have := bound seq; simp only [rank] at hs; omega
  | user number =>
    cases second with
    | internal seq' => have := bound seq'; simp only [rank] at hs; omega
    | user number' => rw [UInt32.toNat_inj.mp (Nat.add_left_cancel hs)]
    | implicitDeny => have := bound number; simp only [rank] at hs; omega
  | implicitDeny =>
    cases second with
    | internal seq' => have := bound seq'; simp only [rank] at hs; omega
    | user number' => have := bound number'; simp only [rank] at hs; omega
    | implicitDeny => rfl

instance : Ord AclEntryKey := ⟨compareOn AclEntryKey.rank⟩

instance : Std.TransOrd AclEntryKey := inferInstanceAs (Std.TransCmp (compareOn AclEntryKey.rank))

instance : Std.LawfulEqOrd AclEntryKey where
  compare_self := Std.ReflCmp.compare_self
  eq_of_compare same := AclEntryKey.rank_injective (Nat.compare_eq_eq.mp same)

structure AclEntryObjs where
  entry : Oid
  counter : Option Oid
  policer : Option Oid
  priority : UInt32
  fields : AclFields
  action : AclPacketAction
  police : Option PolicerSpec
  deriving DecidableEq

abbrev EntryMap := Std.ExtTreeMap AclEntryKey AclEntryObjs compare

structure PortAclTable where
  table : Oid
  family : AclFamily
  userAcl : Option String
  entries : EntryMap

/-- A map from ports and stages. -/
abbrev StageMap (Value : Type) := Std.ExtTreeMap (String × AclStage) Value comparePair

structure AclWorld where
  acls : NameMap AclProgram := ∅
  bindings : StageMap String := ∅
  internal : StageMap InternalAcl := ∅
  tables : StageMap PortAclTable := ∅
  counterBase : Std.ExtTreeMap Oid UInt64 compare := ∅

end Hemlock.Acl
