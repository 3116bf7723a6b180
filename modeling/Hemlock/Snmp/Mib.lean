import Hemlock.Library.IpAddr
import Hemlock.Library.TableWalk

/-!
# The IF-MIB

The table of object identifiers and values that the SNMP subagent serves, built from a
snapshot of the interfaces.  Its identifiers are strictly increasing when no two
interfaces have the same index.
-/

namespace Hemlock.Snmp

open Net TableWalk

/-- An object identifier, ordered lexicographically. -/
abbrev Oid := List Nat

inductive Value where
  | integer (value : Int32)
  | octetString (bytes : List UInt8)
  | counter32 (value : UInt32)
  | gauge32 (value : UInt32)
  | timeTicks (value : UInt32)
  | counter64 (value : UInt64)
  | endOfMibView
  | noSuchInstance
  | noSuchObject
  deriving DecidableEq

abbrev Mib := List (Oid × Value)

structure InterfaceCounters where
  inOctets : UInt64 := 0
  inUcastPkts : UInt64 := 0
  inMcastPkts : UInt64 := 0
  inBcastPkts : UInt64 := 0
  inDiscards : UInt64 := 0
  inErrors : UInt64 := 0
  outOctets : UInt64 := 0
  outUcastPkts : UInt64 := 0
  outMcastPkts : UInt64 := 0
  outBcastPkts : UInt64 := 0
  outDiscards : UInt64 := 0
  outErrors : UInt64 := 0

inductive AdminState where
  | unspecified
  | up
  | down
  deriving DecidableEq

inductive OperStatus where
  | unspecified
  | up
  | down
  | unknown
  deriving DecidableEq

structure InterfaceState where
  name : String
  kind : String
  index : UInt32 := 0
  adminState : AdminState := .unspecified
  operStatus : OperStatus := .unspecified
  mac : String := ""
  description : String := ""
  mtu : UInt32 := 0
  speedMbps : UInt64 := 0
  secondsSinceChange : Option UInt64 := none
  secondsSinceClear : Option UInt64 := none
  counters : Option InterfaceCounters := none

/-- The number that follows a known beginning of a name. -/
def trailing (start name : String) : Option UInt32 := do
  let digits ← name.toList.dropPrefix? start.toList
  let number ← parseUnsigned 10 4294967296 digits
  return UInt32.ofNat number

/-- The index of an interface: that of the platform for a front-panel port, and a band
of its own for each other kind. -/
def ifIndex (kind name : String) (index : UInt32) : Option UInt32 :=
  match kind with
  | "ethernet" => if 0 < index then some index else none
  | "management" => (trailing "Management" name).map fun n => 1000 + n
  | "port-channel" => (trailing "Port-Channel" name).map fun n => 2000 + n
  | "vlan" => (trailing "Vlan" name).map fun n => 10000 + n
  | _ => none

def InterfaceState.ifIndex (iface : InterfaceState) : Option UInt32 :=
  Snmp.ifIndex iface.kind iface.name iface.index

def octets (text : String) : Value := .octetString text.toUTF8.toList

/-- The six bytes of a hardware address; an unreadable one is empty. -/
def physAddress (mac : String) : Value :=
  let bytes := (mac.toList.splitOn ':').filterMap fun byte =>
    (parseUnsigned 16 256 byte).map UInt8.ofNat
  .octetString (if bytes.length = 6 then bytes else [])

def counter32 (value : UInt64) : Value := .counter32 value.toUInt32

def saturating32 (value : Nat) : UInt32 :=
  if value < 4294967296 then UInt32.ofNat value else 4294967295

/-- A 64-bit product that stays at the largest value. -/
def saturatingMul (value : UInt64) (factor : Nat) : Nat :=
  min (value.toNat * factor) 18446744073709551615

def ticks (seconds : Option UInt64) : Value :=
  .timeTicks ((seconds.map fun seconds => saturating32 (saturatingMul seconds 100)).getD 0)

/-- 1.3.6.1.2.1.2.2.1 -/
def ifTable : Oid := [1, 3, 6, 1, 2, 1, 2, 2, 1]

/-- 1.3.6.1.2.1.31.1.1.1 -/
def ifX : Oid := [1, 3, 6, 1, 2, 1, 31, 1, 1, 1]

/-- The columns of an interface: the table, the number of the column and the value. -/
def InterfaceState.columns (iface : InterfaceState) (index : UInt32) : List (Oid × Nat × Value) :=
  let counters := iface.counters.getD {}
  [(ifTable, 1, .integer index.toInt32), (ifTable, 2, octets iface.name),
    (ifTable, 3, .integer (if iface.kind = "ethernet" then 6 else 53)),
    (ifTable, 4, .integer iface.mtu.toInt32),
    (ifTable, 5, .gauge32 (saturating32 (saturatingMul iface.speedMbps 1000000))),
    (ifTable, 6, physAddress iface.mac),
    (ifTable, 7, .integer (if iface.adminState = .down then 2 else 1)),
    (ifTable, 8, .integer (if iface.operStatus = .up then 1 else 2)),
    (ifTable, 9, ticks iface.secondsSinceChange),
    (ifTable, 10, counter32 counters.inOctets),
    (ifTable, 11, counter32 counters.inUcastPkts),
    (ifTable, 12, counter32 (counters.inMcastPkts + counters.inBcastPkts)),
    (ifTable, 13, counter32 counters.inDiscards),
    (ifTable, 14, counter32 counters.inErrors),
    (ifTable, 16, counter32 counters.outOctets),
    (ifTable, 17, counter32 counters.outUcastPkts),
    (ifTable, 18, counter32 (counters.outMcastPkts + counters.outBcastPkts)),
    (ifTable, 19, counter32 counters.outDiscards),
    (ifTable, 20, counter32 counters.outErrors),
    (ifX, 1, octets iface.name),
    (ifX, 2, counter32 counters.inMcastPkts),
    (ifX, 3, counter32 counters.inBcastPkts),
    (ifX, 4, counter32 counters.outMcastPkts),
    (ifX, 5, counter32 counters.outBcastPkts),
    (ifX, 6, .counter64 counters.inOctets),
    (ifX, 7, .counter64 counters.inUcastPkts),
    (ifX, 8, .counter64 counters.inMcastPkts),
    (ifX, 9, .counter64 counters.inBcastPkts),
    (ifX, 10, .counter64 counters.outOctets),
    (ifX, 11, .counter64 counters.outUcastPkts),
    (ifX, 12, .counter64 counters.outMcastPkts),
    (ifX, 13, .counter64 counters.outBcastPkts),
    (ifX, 14, .integer 2),
    (ifX, 15, .gauge32 (saturating32 iface.speedMbps.toNat)),
    (ifX, 16, .integer 2),
    (ifX, 17, .integer 1),
    (ifX, 18, octets iface.description),
    (ifX, 19, ticks iface.secondsSinceClear)]

def columnOid (table : Oid) (column : Nat) (index : UInt32) : Oid := table ++ [column] ++ [index.toNat]

def rowsOf (interfaces : List InterfaceState) : List (UInt32 × InterfaceState) :=
  (interfaces.filterMap fun iface => iface.ifIndex.map fun index => (index, iface)).insertionSort
    fun first second => first.1 ≤ second.1

def ifNumber (rows : Nat) : Value :=
  .integer (if rows < 2147483648 then Int32.ofNat rows else 2147483647)

def entriesOf (interfaces : List InterfaceState) : Mib :=
  let rows := rowsOf interfaces
  ([1, 3, 6, 1, 2, 1, 2, 1, 0], ifNumber rows.length) :: rows.flatMap fun (index, iface) =>
      (iface.columns index).map fun (table, column, value) =>
        (columnOid table column index, value)

def buildMib (interfaces : List InterfaceState) : Mib :=
  (entriesOf interfaces).insertionSort fun first second => first.1 ≤ second.1

def columnIds : List Oid :=
  ([1, 2, 3, 4, 5, 6, 7, 8, 9, 10, 11, 12, 13, 14, 16, 17, 18, 19, 20].map fun column =>
    ifTable ++ [column]) ++
  ([1, 2, 3, 4, 5, 6, 7, 8, 9, 10, 11, 12, 13, 14, 15, 16, 17, 18, 19].map fun column =>
    ifX ++ [column])

theorem columnIds_nodup : columnIds.Nodup := by decide +kernel

theorem entriesOf_oids (interfaces : List InterfaceState) : (entriesOf interfaces).map Prod.fst =
      [1, 3, 6, 1, 2, 1, 2, 1, 0] ::
        (rowsOf interfaces).flatMap fun row => columnIds.map fun column => column ++ [row.1.toNat] := by
  rw [entriesOf, List.map_cons, List.map_flatMap]
  rfl

variable {interfaces : List InterfaceState}
variable (hd : (interfaces.filterMap InterfaceState.ifIndex).Nodup)
include hd

theorem rowsOf_nodup : ((rowsOf interfaces).map Prod.fst).Nodup := by
  have hs := (List.perm_insertionSort (fun first second : UInt32 × InterfaceState => first.1 ≤ second.1)
    (interfaces.filterMap fun iface => iface.ifIndex.map fun index => (index, iface))).map Prod.fst
  rw [rowsOf, hs.nodup_iff, List.map_filterMap]
  simpa [Function.comp_def] using hd

theorem entriesOf_nodup : ((entriesOf interfaces).map Prod.fst).Nodup := by
  rw [entriesOf_oids, List.nodup_cons]
  constructor
  · intro hl
    obtain ⟨row, -, hm⟩ := List.mem_flatMap.mp hl
    obtain ⟨column, hk, hs⟩ := List.mem_map.mp hm
    have shape : column = [1, 3, 6, 1, 2, 1, 2, 1] := by
      have parts := List.append_inj' (hs.trans (by rfl :
        ([1, 3, 6, 1, 2, 1, 2, 1, 0] : Oid) = [1, 3, 6, 1, 2, 1, 2, 1] ++ [0])) rfl
      exact parts.1
    rw [shape] at hk
    exact absurd hk (by decide)
  · rw [List.nodup_flatMap]
    constructor
    · intro row _
      exact columnIds_nodup.map fun first second hs => (List.append_inj' hs rfl).1
    · have rows := List.pairwise_map.mp (rowsOf_nodup hd)
      apply rows.imp
      intro first second apart
      apply List.disjoint_left.mpr
      intro oid inFirst inSecond
      obtain ⟨column, -, rfl⟩ := List.mem_map.mp inFirst
      obtain ⟨column', -, hs⟩ := List.mem_map.mp inSecond
      have last := (List.append_inj' hs rfl).2
      simp only [List.cons.injEq, and_true] at last
      exact apart (UInt32.toNat_inj.mp last.symm)

theorem buildMib_ascending :
    Ascending (buildMib interfaces) := ascending_insertionSort (entriesOf_nodup hd)

omit hd

theorem oid_ne_nil {entry : Oid × Value} (hm : entry ∈ buildMib interfaces) : entry.1 ≠ [] := by
  have hl : entry.1 ∈ (entriesOf interfaces).map Prod.fst :=
    List.mem_map_of_mem ((List.perm_insertionSort _ _).mem_iff.mp hm)
  rw [entriesOf_oids, List.mem_cons, List.mem_flatMap] at hl
  rcases hl with number | ⟨row, -, column⟩
  · rw [number]
    exact List.cons_ne_nil _ _
  · obtain ⟨column, -, hs⟩ := List.mem_map.mp column
    rw [← hs]
    exact List.concat_ne_nil _ _

end Hemlock.Snmp
