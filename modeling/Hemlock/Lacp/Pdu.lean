import Hemlock.Library.Bytes
import Hemlock.Names

/-!
# LACPDUs

What a partner tells us is its actor TLV.  A frame built from an actor's fields
decodes to exactly these fields.
-/

namespace Hemlock.Lacp

open Bytes

def lacpDst : List UInt8 := [0x01, 0x80, 0xc2, 0x00, 0x00, 0x02]

def lacpEthertype : UInt16 := 0x8809

namespace State

def activity : UInt8 := 0x01

def timeout : UInt8 := 0x02

def aggregation : UInt8 := 0x04

def sync : UInt8 := 0x08

def collecting : UInt8 := 0x10

def distributing : UInt8 := 0x20

def defaulted : UInt8 := 0x40

def expired : UInt8 := 0x80

end State

structure Partner where
  systemPriority : UInt16
  system : Mac
  key : UInt16
  portPriority : UInt16
  port : UInt16
  state : UInt8
  deriving DecidableEq, Repr

def Partner.inSync (partner : Partner) : Bool := partner.state &&& State.sync != 0

def Partner.bytes (partner : Partner) : List UInt8 :=
  be16 partner.systemPriority ++ partner.system.toList ++ be16 partner.key ++
    be16 partner.portPriority ++ be16 partner.port ++ [partner.state] ++ [0, 0, 0]

/-- Encode one LACPDU (whole Ethernet frame, 110-byte LACPDU body). -/
def encodePdu (srcMac : Mac) (actor : Partner) (partner : Option Partner) : List UInt8 :=
  let body : List UInt8 :=
    [0x01, 0x01] ++ [0x01, 20] ++ actor.bytes ++ [0x02, 20] ++ (match partner with
        | some partner => partner.bytes
        | none => List.replicate 18 0) ++
      [0x03, 16] ++ List.replicate 14 0 ++ [0x00, 0x00]
  let frame := lacpDst ++ srcMac.toList ++ be16 lacpEthertype ++ body
  frame ++ List.replicate (14 + 110 - frame.length) 0

/-- Decode the sender's actor TLV out of an Ethernet frame; `none` when it is not
an LACPDU. -/
def decodePdu (frame : List UInt8) : Option Partner :=
  if frame.length < 14 + 2 + 20 then none
  else if be16At frame 12 != lacpEthertype || byteAt frame 14 != 0x01 then none
  else
    let tlv := frame.drop 16
    if byteAt tlv 0 != 0x01 || byteAt tlv 1 != 20 then none
    else
      some {
        systemPriority := be16At tlv 2
        system := sixAt tlv 4
        key := be16At tlv 10
        portPriority := be16At tlv 12
        port := be16At tlv 14
        state := byteAt tlv 16 }

theorem decodePdu_encodePdu (srcMac : Mac) (actor : Partner) (partner : Option Partner) :
    decodePdu (encodePdu srcMac actor partner) = some actor := by
  obtain ⟨systemPriority, system, key, portPriority, port, state⟩ := actor
  obtain ⟨s₀, s₁, s₂, s₃, s₄, s₅, rfl⟩ := exists_six srcMac
  obtain ⟨a₀, a₁, a₂, a₃, a₄, a₅, rfl⟩ := exists_six system
  have ethertype : ofBe16 0x88 0x09 = 0x8809 := by decide
  simp [decodePdu, encodePdu, lacpDst, lacpEthertype, Partner.bytes, be16, byteAt, be16At, sixAt,
    ofBe16_be16, ethertype]

end Hemlock.Lacp
