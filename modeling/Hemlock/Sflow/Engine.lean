import Hemlock.Library.Batching
import Hemlock.Library.Machine
import Hemlock.Sflow.Datagram
import Std.Data.ExtTreeMap.Lemmas

/-!
# The sFlow exporter

Samples and counter polls become numbered records, which wait until a datagram is full
or they have waited long enough.  Besides the datagrams the model shows when a record
is accepted, and which ones are thrown away when sFlow is turned off.
-/

namespace Hemlock.Sflow

open Machine

/-- A map from interface indexes. -/
abbrev IfMap (Value : Type) := Std.ExtTreeMap UInt32 Value compare

structure Config where
  enabled : Bool := false
  sampleRate : UInt32 := 0
  agentAddress : Vector UInt8 4 := #v[0, 0, 0, 0]

structure Sample where
  ifIndex : UInt32
  originalLength : UInt32
  bytes : List UInt8

structure Counters where
  samplesTaken : Nat := 0
  counterSamples : Nat := 0
  datagramsSent : Nat := 0
  datagramsFailed : Nat := 0

structure Inner where
  config : Config := {}
  counters : Counters := {}
  sequence : UInt32 := 0
  flowSequences : IfMap UInt32 := ∅
  counterSequences : IfMap UInt32 := ∅
  samplePool : IfMap UInt32 := ∅
  pending : List Record := []
  pendingBytes : Nat := headerBytes
  firstPending : Option Nat := none
  started : Nat

inductive Output where
  | accepted (record : Record)
  | datagram (datagram : Datagram)
  | discarded (records : List Record)

def maxHeaderBytes : Nat := 128

def maxDatagramBytes : Nat := 1400

def flushAfter : Nat := 500000000

def uptimeMs (started now : Nat) : UInt32 :=
  let millis := (now - started) / 1000000
  if millis < 4294967296 then UInt32.ofNat millis else 4294967295

section

variable (inner : Inner)

/-- Take everything queued as one datagram. -/
def Inner.seal (now : Nat) : Inner × Datagram :=
  let sequence := inner.sequence + 1
  ({ inner with
      sequence := sequence, pending := [], pendingBytes := headerBytes, firstPending := none },
    ⟨inner.config.agentAddress, 0, sequence, uptimeMs inner.started now, inner.pending⟩)

/-- The datagram is sealed before a record that would not fit any more. -/
def Inner.makeRoom (now size : Nat) : Inner × List Output :=
  if maxDatagramBytes < inner.pendingBytes + size ∧ inner.pending ≠ [] then
    let (inner, datagram) := inner.seal now
    (inner, [.datagram datagram])
  else (inner, [])

def Inner.push (now : Nat) (record : Record) : Inner × List Output :=
  let size := record.encodedLen
  let (inner, ready) := inner.makeRoom now size
  ({ inner with
      firstPending := if inner.pending = [] then some now else inner.firstPending
      pendingBytes := inner.pendingBytes + size
      pending := inner.pending ++ [record] },
    ready ++ [.accepted record])

def nextSequence (sequences : IfMap UInt32) (source : UInt32) : UInt32 :=
  sequences[source]?.getD 0 + 1

/-- Turning sFlow off discards what is queued. -/
def Inner.setConfig (config : Config) : Inner × List Output :=
  if config.enabled then ({ inner with config := config }, [])
  else
    ({ inner with
        config := config, pending := [], pendingBytes := headerBytes, firstPending := none },
      [.discarded inner.pending])

/-- How a sample is reported.  It stands for `sampleRate` packets, and the pool is the
number of packets that the samples so far stand for. -/
def Inner.flowSample (sample : Sample) : FlowSample :=
  let rate := max inner.config.sampleRate 1
  { ifIndex := sample.ifIndex
    samplingRate := rate
    samplePool := inner.samplePool[sample.ifIndex]?.getD 0 + rate
    drops := 0
    frameLength := sample.originalLength
    header := sample.bytes.take maxHeaderBytes }

def Inner.takeSample (now : Nat) (sample : Sample) : Inner × List Output :=
  if inner.config.enabled then
    let sequence := nextSequence inner.flowSequences sample.ifIndex
    let flow := inner.flowSample sample
    { inner with
      counters.samplesTaken := inner.counters.samplesTaken + 1
      flowSequences := inner.flowSequences.insert sample.ifIndex sequence
      samplePool := inner.samplePool.insert sample.ifIndex flow.samplePool }.push now
        (.flow sequence flow)
  else (inner, [])

def Inner.takePoll (now : Nat) (polled : InterfaceCounters) : Inner × List Output :=
  let sequence := nextSequence inner.counterSequences polled.ifIndex
  { inner with
    counters.counterSamples := inner.counters.counterSamples + 1
    counterSequences := inner.counterSequences.insert polled.ifIndex sequence }.push now
      (.counters sequence polled)

def Inner.takeCounters (now : Nat) (polls : List InterfaceCounters) : Inner × List Output :=
  if inner.config.enabled then
    polls.foldl
      (fun (inner, outputs) polled =>
        let (inner, ready) := inner.takePoll now polled
        (inner, outputs ++ ready))
      (inner, [])
  else (inner, [])

/-- A datagram that is not full is owed once its first record has waited long enough. -/
def Inner.flushDue (now : Nat) : Inner × List Output :=
  let waited := inner.firstPending.any fun since => flushAfter ≤ now - since
  if waited ∧ inner.pending ≠ [] then
    let (inner, datagram) := inner.seal now
    (inner, [.datagram datagram])
  else (inner, [])

def Inner.countSend (ok : Bool) : Inner :=
  if ok then { inner with counters.datagramsSent := inner.counters.datagramsSent + 1 }
  else { inner with counters.datagramsFailed := inner.counters.datagramsFailed + 1 }

inductive Event where
  | setConfig (config : Config)
  | takeSample (sample : Sample)
  | takeCounters (polls : List InterfaceCounters)
  | flushDue
  | countSend (ok : Bool)

abbrev Input := Timed Event

def Inner.react (input : Input) : Inner × List Output :=
  match input.event with
  | .setConfig config => inner.setConfig config
  | .takeSample sample => inner.takeSample input.time sample
  | .takeCounters polls => inner.takeCounters input.time polls
  | .flushDue => inner.flushDue input.time
  | .countSend ok => (inner.countSend ok, [])

end

def engine (started : Nat) : Machine Inner Input Output where
  init := { started := started }
  next inner input := (inner.react input).1
  emit inner input := (inner.react input).2

end Hemlock.Sflow
