import Mathlib.Tactic.Common
import Std.Data.ExtTreeMap.Lemmas
import Std.Data.ExtTreeSet.Lemmas

/-!
# Names, addresses and clock readings
-/

namespace Hemlock

/-- A map from names, iterated in the order of the names. -/
abbrev NameMap (Value : Type) := Std.ExtTreeMap String Value compare

/-- Sets of names are compared by their elements. -/
instance lawfulBEq_names : LawfulBEq (Std.ExtTreeSet String compare) := inferInstance

/-- A map from VLAN identifiers, in their order. -/
abbrev VlanMap (Value : Type) := Std.ExtTreeMap UInt16 Value compare

abbrev Mac := Vector UInt8 6

/-- The value of a string of decimal digits as a 16-bit number; `none` for the
empty string and for values that do not fit. -/
def parseU16 (digits : List Char) : Option UInt16 :=
  if digits.isEmpty then none
  else
    let value := digits.foldl (fun value digit => value * 10 + (digit.toNat - '0'.toNat)) 0
    if value < 65536 then some (UInt16.ofNat value) else none

/-- The port number encoded in a display name (`Ethernet49` is 49). -/
def portNumberOf (name : String) : UInt16 :=
  let digits := (name.toList.dropWhile fun ch => !ch.isDigit).takeWhile Char.isDigit
  (parseU16 digits).getD 0

example : portNumberOf "Ethernet49" = 49 ∧ portNumberOf "Port-Channel" = 0 := by decide

/-- A duration in seconds, on a clock that counts nanoseconds. -/
def secs (seconds : Nat) : Nat := 1000000000 * seconds

end Hemlock
