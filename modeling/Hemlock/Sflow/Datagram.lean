import Hemlock.Library.Bytes

/-!
# sFlow datagrams

The records of an sFlow v5 datagram and their encoding: everything is big-endian and
padded to four bytes.
-/

namespace Hemlock.Sflow

open Bytes

/-- Opaque bytes: the length, the bytes, and padding to four. -/
def opaqueBytes (bytes : List UInt8) : List UInt8 :=
  let length := if bytes.length < 4294967296 then UInt32.ofNat bytes.length else 4294967295
  be32 length ++ bytes ++ List.replicate ((4 - bytes.length % 4) % 4) 0

def sized (body : List UInt8) : List UInt8 :=
  let length := if body.length < 4294967296 then UInt32.ofNat body.length else 0
  be32 length ++ body

structure InterfaceCounters where
  ifIndex : UInt32
  ifType : UInt32 := 0
  ifSpeedBps : UInt64 := 0
  fullDuplex : Bool := false
  adminUp : Bool := false
  operUp : Bool := false
  inOctets : UInt64 := 0
  inUcastPkts : UInt32 := 0
  inMcastPkts : UInt32 := 0
  inBcastPkts : UInt32 := 0
  inDiscards : UInt32 := 0
  inErrors : UInt32 := 0
  outOctets : UInt64 := 0
  outUcastPkts : UInt32 := 0
  outMcastPkts : UInt32 := 0
  outBcastPkts : UInt32 := 0
  outDiscards : UInt32 := 0
  outErrors : UInt32 := 0

structure FlowSample where
  ifIndex : UInt32
  samplingRate : UInt32
  samplePool : UInt32
  drops : UInt32
  frameLength : UInt32
  header : List UInt8

/-- One sample inside a datagram, with its number. -/
inductive Record where
  | flow (sequence : UInt32) (sample : FlowSample)
  | counters (sequence : UInt32) (polled : InterfaceCounters)

def InterfaceCounters.encode (counters : InterfaceCounters) : List UInt8 :=
  let duplex : UInt32 := if counters.fullDuplex then 1 else 2
  let admin : UInt32 := if counters.adminUp then 1 else 0
  let oper : UInt32 := if counters.operUp then 1 else 0
  [be32 counters.ifIndex, be32 counters.ifType, be64 counters.ifSpeedBps, be32 duplex,
    be32 (admin ||| (oper <<< 1)), be64 counters.inOctets, be32 counters.inUcastPkts,
    be32 counters.inMcastPkts, be32 counters.inBcastPkts, be32 counters.inDiscards,
    be32 counters.inErrors, be32 0, be64 counters.outOctets, be32 counters.outUcastPkts,
    be32 counters.outMcastPkts, be32 counters.outBcastPkts, be32 counters.outDiscards,
    be32 counters.outErrors, be32 0].flatten

def Record.encode : Record → List UInt8
  | .flow sequence sample =>
    let header := sized (be32 1 ++ be32 sample.frameLength ++ be32 4 ++ opaqueBytes sample.header)
    be32 1 ++ sized (be32 sequence ++ be32 (sample.ifIndex &&& 0x00ffffff) ++
      be32 sample.samplingRate ++ be32 sample.samplePool ++ be32 sample.drops ++
      be32 sample.ifIndex ++ be32 0 ++ be32 1 ++ be32 1 ++ header)
  | .counters sequence polled =>
    be32 2 ++ sized (be32 sequence ++ be32 (polled.ifIndex &&& 0x00ffffff) ++ be32 1 ++ be32 1 ++
      sized polled.encode)

def Record.encodedLen (record : Record) : Nat := record.encode.length

structure Datagram where
  agentAddress : Vector UInt8 4
  subAgentId : UInt32
  sequence : UInt32
  uptimeMs : UInt32
  records : List Record

def Datagram.encode (datagram : Datagram) : List UInt8 :=
  let count :=
    if datagram.records.length < 4294967296 then UInt32.ofNat datagram.records.length else 0
  be32 5 ++ be32 1 ++ datagram.agentAddress.toList ++ be32 datagram.subAgentId ++
    be32 datagram.sequence ++ be32 datagram.uptimeMs ++ be32 count ++
    datagram.records.flatMap Record.encode

/-- The header of a datagram: seven words. -/
def headerBytes : Nat := 7 * 4

def recordsLen (records : List Record) : Nat := (records.map Record.encodedLen).sum

@[simp]
theorem length_be32 (value : UInt32) : (be32 value).length = 4 := rfl

@[simp]
theorem length_sized (body : List UInt8) : (sized body).length = 4 + body.length := by
  simp [sized]

theorem length_opaqueBytes (bytes : List UInt8) :
    (opaqueBytes bytes).length = 4 + (bytes.length + (4 - bytes.length % 4) % 4) := by
  simp [opaqueBytes]

theorem encodedLen_counters (sequence : UInt32) (polled : InterfaceCounters) :
    (Record.counters sequence polled).encodedLen = 116 := by
  have body : polled.encode.length = 88 := rfl
  simp only [Record.encodedLen, Record.encode, List.length_append, length_be32, length_sized, body]

theorem encodedLen_flow_le {sample : FlowSample} (short : sample.header.length ≤ 128)
    (sequence : UInt32) : (Record.flow sequence sample).encodedLen ≤ 192 := by
  simp only [Record.encodedLen, Record.encode, List.length_append, length_be32, length_sized,
    length_opaqueBytes]
  omega

theorem Datagram.length_encode (datagram : Datagram) :
    datagram.encode.length = headerBytes + recordsLen datagram.records := by
  simp only [Datagram.encode, List.length_append, Vector.length_toList,
    List.length_flatMap]
  rfl

end Hemlock.Sflow
