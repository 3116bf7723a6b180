import Hemlock.Library.Bytes
import Hemlock.Names
import Mathlib.Data.Prod.Lex
import Mathlib.Data.List.Lex

/-!
# Bridge identifiers, priority vectors and the BPDUs that carry them

The derived orders of the source compare field by field, integers as numbers and
addresses byte by byte.  Here they are the orders of the fields' keys.
-/

namespace Hemlock.Stp

open Bytes

/-- A bridge identifier, ordered exactly like the wire encoding compares. -/
structure BridgeId where
  priority : UInt16
  mac : Mac
  deriving DecidableEq, Repr

def BridgeId.key (id : BridgeId) : ℕ ×ₗ List ℕ :=
  toLex (id.priority.toNat, id.mac.toList.map UInt8.toNat)

theorem BridgeId.key_injective : Function.Injective BridgeId.key := by
  rintro ⟨priority, mac⟩ ⟨priority', mac'⟩ equal
  simp only [BridgeId.key, EmbeddingLike.apply_eq_iff_eq, Prod.mk.injEq] at equal
  have bytes := List.map_injective_iff.mpr (fun _ _ => UInt8.toNat_inj.mp) equal.2
  rw [BridgeId.mk.injEq]
  exact ⟨UInt16.toNat_inj.mp equal.1, Vector.toList_inj.mp bytes⟩

instance : LinearOrder BridgeId := LinearOrder.lift' BridgeId.key BridgeId.key_injective

structure PriorityVector where
  root : BridgeId
  cost : UInt32
  bridge : BridgeId
  portId : UInt16
  deriving DecidableEq, Repr

/-- The first three components, which is all that roles are decided by. -/
def PriorityVector.claim (vector : PriorityVector) : BridgeId ×ₗ ℕ ×ₗ BridgeId :=
  toLex (vector.root, toLex (vector.cost.toNat, vector.bridge))

def PriorityVector.key (vector : PriorityVector) : (BridgeId ×ₗ ℕ ×ₗ BridgeId) ×ₗ ℕ :=
  toLex (vector.claim, vector.portId.toNat)

theorem PriorityVector.key_injective : Function.Injective PriorityVector.key := by
  rintro ⟨root, cost, bridge, portId⟩ ⟨root', cost', bridge', portId'⟩ equal
  simp only [PriorityVector.key, PriorityVector.claim, EmbeddingLike.apply_eq_iff_eq,
    Prod.mk.injEq] at equal
  obtain ⟨⟨rfl, costs, rfl⟩, ports⟩ := equal
  rw [UInt32.toNat_inj.mp costs, UInt16.toNat_inj.mp ports]

instance : LinearOrder PriorityVector :=
  LinearOrder.lift' PriorityVector.key PriorityVector.key_injective

theorem PriorityVector.lt_iff (first second : PriorityVector) :
    first < second ↔ first.claim < second.claim ∨
      first.claim = second.claim ∧ first.portId.toNat < second.portId.toNat :=
  Prod.Lex.toLex_lt_toLex

theorem PriorityVector.root_le_of_le {first second : PriorityVector} (le : first ≤ second) :
    first.root ≤ second.root := by
  have keys : first.key ≤ second.key := le
  rw [PriorityVector.key, PriorityVector.key, Prod.Lex.toLex_le_toLex] at keys
  have claims : first.claim ≤ second.claim := by
    rcases keys with lt | ⟨equal, -⟩
    · exact lt.le
    · exact equal.le
  rw [PriorityVector.claim, PriorityVector.claim, Prod.Lex.toLex_le_toLex] at claims
  rcases claims with lt | ⟨equal, -⟩
  · exact lt.le
  · exact equal.le

def stpDst : List UInt8 := [0x01, 0x80, 0xc2, 0x00, 0x00, 0x00]

/-- Encode an RST BPDU (LLC-framed). -/
def encodeBpdu (srcMac : Mac) (rstp : Bool) (root : BridgeId) (cost : UInt32)
    (bridge : BridgeId) (portId : UInt16) (hello maxAge forwardDelay : UInt8) : List UInt8 :=
  let version : UInt8 := if rstp then 0x02 else 0x00
  let body : List UInt8 :=
    [0x00, 0x00, version, version, 0x00] ++ be16 root.priority ++ root.mac.toList ++
      be32 cost ++ be16 bridge.priority ++ bridge.mac.toList ++ be16 portId ++ be16 0 ++
      be16 (maxAge.toUInt16 * 256) ++ be16 (hello.toUInt16 * 256) ++
      be16 (forwardDelay.toUInt16 * 256) ++ (if rstp then [0x00] else [])
  stpDst ++ srcMac.toList ++ be16 (UInt16.ofNat (body.length + 3)) ++ [0x42, 0x42, 0x03] ++ body

/-- Decode the priority vector of a (config or RST) BPDU; `none` when the frame is
not a spanning-tree BPDU. -/
def decodeBpdu (frame : List UInt8) : Option PriorityVector :=
  if frame.length < 17 + 31 || byteAt frame 14 != 0x42 || byteAt frame 15 != 0x42 then none
  else
    let body := frame.drop 17
    if byteAt body 0 != 0 || byteAt body 1 != 0 then none
    else
      let bpduType := byteAt body 3
      if bpduType != 0x00 && bpduType != 0x02 then none
      else
        some {
          root := ⟨be16At body 5, sixAt body 7⟩
          cost := be32At body 13
          bridge := ⟨be16At body 17, sixAt body 19⟩
          portId := be16At body 25 }

theorem decodeBpdu_encodeBpdu (srcMac : Mac) (rstp : Bool) (vector : PriorityVector)
    (hello maxAge forwardDelay : UInt8) :
    decodeBpdu (encodeBpdu srcMac rstp vector.root vector.cost vector.bridge vector.portId
      hello maxAge forwardDelay) = some vector := by
  obtain ⟨⟨rootPriority, rootMac⟩, cost, ⟨bridgePriority, bridgeMac⟩, portId⟩ := vector
  obtain ⟨s₀, s₁, s₂, s₃, s₄, s₅, rfl⟩ := exists_six srcMac
  obtain ⟨r₀, r₁, r₂, r₃, r₄, r₅, rfl⟩ := exists_six rootMac
  obtain ⟨b₀, b₁, b₂, b₃, b₄, b₅, rfl⟩ := exists_six bridgeMac
  cases rstp with
  | false | true =>
    simp [decodeBpdu, encodeBpdu, stpDst, be16, be32, byteAt, be16At, be32At, sixAt,
      ofBe16_be16, ofBe32_be32]

end Hemlock.Stp
