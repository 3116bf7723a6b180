import Hemlock.Library.IpAddr
import Hemlock.Names

/-!
# Membership messages

What snooping reads out of IGMP and MLD frames, and the general queries that the
local querier sends.
-/

namespace Hemlock.Snoop

open Bytes Net

inductive Family where
  | igmp
  | mld
  deriving DecidableEq, Repr

/-- A parsed snooping-relevant message. -/
inductive Message where
  | report (group : IpAddr) (version : UInt8)
  | leave (group : IpAddr)
  | query (source : IpAddr)
  deriving DecidableEq

def ipv4At (bytes : List UInt8) (index : Nat) : IpAddr := .v4 (fourAt bytes index)

def ipv6At (bytes : List UInt8) (index : Nat) : IpAddr :=
  .v6 #v[be16At bytes index, be16At bytes (index + 2), be16At bytes (index + 4),
    be16At bytes (index + 6), be16At bytes (index + 8), be16At bytes (index + 10),
    be16At bytes (index + 12), be16At bytes (index + 14)]

/-- TO_IN and IS_IN with no sources leave; every other record that names a group
joins it. -/
def recordMessage (recordType : UInt8) (sources : Nat) (group : IpAddr) (version : UInt8) : List Message :=
  if (recordType = 1 || recordType = 3) && sources = 0 then [.leave group]
  else if 1 ≤ recordType && recordType ≤ 6 then [.report group version]
  else []

/-- The group records of an IGMPv3 or MLDv2 report, as far as the message reaches. -/
def parseRecords (groupAt : List UInt8 → Nat → IpAddr) (recordLength sourceLength : Nat)
    (version : UInt8) (body : List UInt8) : Nat → Nat → List Message
  | 0, _ => []
  | count + 1, offset =>
    if body.length < offset + recordLength then []
    else
      let auxLength := (byteAt body (offset + 1)).toNat * 4
      let sources := (be16At body (offset + 2)).toNat
      recordMessage (byteAt body offset) sources (groupAt body (offset + 4)) version ++
        parseRecords groupAt recordLength sourceLength version body count
          (offset + recordLength + sources * sourceLength + auxLength)

def parseIgmp (frame : List UInt8) : List Message :=
  if frame.length < 14 + 20 + 8 || byteAt frame 12 != 0x08 || byteAt frame 13 != 0x00 then []
  else
    let ip := frame.drop 14
    let ihl := (byteAt ip 0 &&& 0x0f).toNat * 4
    if byteAt ip 0 >>> 4 != 4 || ip.length < ihl + 8 || byteAt ip 9 != 2 then []
    else
      let igmp := ip.drop ihl
      match (byteAt igmp 0).toNat with
      | 0x11 => [.query (ipv4At ip 12)]
      | 0x12 => [.report (ipv4At igmp 4) 1]
      | 0x16 => [.report (ipv4At igmp 4) 2]
      | 0x17 => [.leave (ipv4At igmp 4)]
      | 0x22 => parseRecords ipv4At 8 4 3 igmp (be16At igmp 6).toNat 8
      | _ => []

/-- Where the message behind an IPv6 header starts, and its protocol; MLD rides
behind a hop-by-hop option. -/
def behindHopByHop (ip : List UInt8) : Option (UInt8 × Nat) :=
  if byteAt ip 6 = 0 then
    if ip.length < 40 + 8 then none
    else some (byteAt ip 40, 40 + ((byteAt ip 41).toNat + 1) * 8)
  else some (byteAt ip 6, 40)

def parseMld (frame : List UInt8) : List Message :=
  if frame.length < 14 + 40 + 8 || byteAt frame 12 != 0x86 || byteAt frame 13 != 0xdd then []
  else
    let ip := frame.drop 14
    if byteAt ip 0 >>> 4 != 6 || ip.length < 40 then []
    else
      match behindHopByHop ip with
      | none => []
      | some (next, offset) =>
        if next != 58 || ip.length < offset + 8 then []
        else
          let icmp := ip.drop offset
          match (byteAt icmp 0).toNat with
          | 130 => [.query (ipv6At ip 8)]
          | 131 => if 24 ≤ icmp.length then [.report (ipv6At icmp 8) 1] else []
          | 132 => if 24 ≤ icmp.length then [.leave (ipv6At icmp 8)] else []
          | 143 => parseRecords ipv6At 20 16 2 icmp (be16At icmp 6).toNat 8
          | _ => []

/-- The snooping-relevant messages of an Ethernet frame. -/
def parse : Family → List UInt8 → List Message
  | .igmp => parseIgmp
  | .mld => parseMld

def segmentBytes (segments : Vector UInt16 8) : List UInt8 := segments.toList.flatMap be16

/-- A general membership query as a whole frame; nothing sensible when the address is
of the other family. -/
def encodeGeneralQuery : Family → Mac → IpAddr → List UInt8
  | .igmp, srcMac, .v4 source =>
    let sum := checksum [0x11, 100, 0, 0, 0, 0, 0, 0]
    let igmp := [0x11, 100] ++ be16 sum ++ [0, 0, 0, 0]
    let head : List UInt8 := [0x45, 0xc0, 0, 28, 0, 0, 0, 0, 1, 2]
    let addresses := source.toList ++ [224, 0, 0, 1]
    let ip := head ++ be16 (checksum (head ++ [0, 0] ++ addresses)) ++ addresses
    [0x01, 0x00, 0x5e, 0x00, 0x00, 0x01] ++ srcMac.toList ++ [0x08, 0x00] ++ ip ++ igmp
  | .mld, srcMac, .v6 source =>
    let dst : List UInt8 := segmentBytes #v[0xff02, 0, 0, 0, 0, 0, 0, 1]
    let tail : List UInt8 := [0x27, 0x10, 0, 0] ++ List.replicate 16 0
    let sum := checksum (segmentBytes source ++ dst ++ be32 24 ++ [0, 0, 0, 58] ++
      ([130, 0, 0, 0] ++ tail))
    let icmp := [130, 0] ++ be16 sum ++ tail
    let ip := [0x60, 0, 0, 0] ++ be16 24 ++ [58, 1] ++ segmentBytes source ++ dst
    [0x33, 0x33, 0x00, 0x00, 0x00, 0x01] ++ srcMac.toList ++ [0x86, 0xdd] ++ ip ++ icmp
  | _, _, _ => []

/-- A general query is read back as a query of its source. -/
theorem parse_encodeGeneralQuery_igmp (srcMac : Mac) (source : Vector UInt8 4) :
    parse .igmp (encodeGeneralQuery .igmp srcMac (.v4 source)) = [.query (.v4 source)] := by
  obtain ⟨m₀, m₁, m₂, m₃, m₄, m₅, rfl⟩ := exists_six srcMac
  obtain ⟨a, b, c, d, rfl⟩ := exists_four source
  have version : (69 : UInt8) >>> 4 = 4 := by decide
  simp [parse, parseIgmp, encodeGeneralQuery, byteAt, be16, ipv4At, fourAt, four, version]

theorem parse_encodeGeneralQuery_mld (srcMac : Mac) (source : Vector UInt16 8) :
    parse .mld (encodeGeneralQuery .mld srcMac (.v6 source)) = [.query (.v6 source)] := by
  obtain ⟨m₀, m₁, m₂, m₃, m₄, m₅, rfl⟩ := exists_six srcMac
  obtain ⟨a, b, c, d, e, f, g, h, rfl⟩ := exists_eight source
  have version : (96 : UInt8) >>> 4 = 6 := by decide
  simp [parse, parseMld, behindHopByHop, encodeGeneralQuery, segmentBytes, byteAt, be16, be16At,
    ipv6At, ofBe16_be16, version]

end Hemlock.Snoop
