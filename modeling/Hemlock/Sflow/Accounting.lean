import Hemlock.Sflow.Engine
import Hemlock.Library.OrderedMap

/-!
# Accounting

Every accepted record leaves in a datagram, once and in order, unless sFlow is turned
off while it waits; the byte count that decides when a datagram is full is exact; and
datagrams and samples are numbered without gaps.
-/

namespace Hemlock.Sflow

open Machine Batching OrderedMap

def Output.batch : Output → Batching.Event Record
  | .accepted record => .accept record
  | .datagram sealed => .send sealed.records
  | .discarded records => .discard records

/-- A datagram that may be sent. -/
def Datagram.Proper (datagram : Datagram) : Prop :=
  datagram.records ≠ [] ∧ datagram.encode.length ≤ maxDatagramBytes

theorem headerBytes_le : headerBytes ≤ maxDatagramBytes := by decide

/-- The outputs so far are those of the queue, and its size is known. -/
structure Inner.Queues (inner : Inner) (outputs : List Output) : Prop where
  replays : Replays (outputs.map Output.batch) inner.pending
  bytes : inner.pendingBytes = headerBytes + recordsLen inner.pending
  fits : inner.pendingBytes ≤ maxDatagramBytes
  proper : ∀ datagram, .datagram datagram ∈ outputs → datagram.Proper

namespace Inner.Queues

variable {inner : Inner} {outputs : List Output} (queues : inner.Queues outputs)

include queues

theorem sealed (now : Nat) (waiting : inner.pending ≠ []) :
    (inner.seal now).1.Queues (outputs ++ [.datagram (inner.seal now).2]) where
  replays := by
    rw [List.map_append]
    exact queues.replays.send
  bytes := by simp [Inner.seal, recordsLen]
  fits := headerBytes_le
  proper := by
    intro datagram sent
    rcases List.mem_append.mp sent with earlier | now
    · exact queues.proper datagram earlier
    · cases List.mem_singleton.mp now
      refine ⟨waiting, ?_⟩
      rw [Datagram.length_encode]
      exact queues.bytes ▸ queues.fits

theorem makeRoom (now size : Nat) :
    (inner.makeRoom now size).1.Queues (outputs ++ (inner.makeRoom now size).2) := by
  unfold Inner.makeRoom
  split_ifs with full
  · exact queues.sealed now full.2
  · rwa [List.append_nil]

theorem makeRoom_fits {now size : Nat} (small : headerBytes + size ≤ maxDatagramBytes) :
    (inner.makeRoom now size).1.pendingBytes + size ≤ maxDatagramBytes := by
  unfold Inner.makeRoom
  split_ifs with full
  · exact small
  · by_cases empty : inner.pending = []
    · rw [queues.bytes, empty]
      exact small
    · exact Nat.le_of_not_lt fun more => full ⟨more, empty⟩

theorem push (now : Nat) {record : Record} (small : headerBytes + record.encodedLen ≤ maxDatagramBytes) :
    (inner.push now record).1.Queues (outputs ++ (inner.push now record).2) := by
  have room := queues.makeRoom now record.encodedLen
  have fits : (inner.makeRoom now record.encodedLen).1.pendingBytes + record.encodedLen ≤
      maxDatagramBytes := queues.makeRoom_fits small
  refine ⟨?_, ?_, fits, ?_⟩
  · rw [Inner.push, ← List.append_assoc, List.map_append]
    exact room.replays.accept record
  · simp only [Inner.push, room.bytes, recordsLen, List.map_append, List.sum_append, List.map_cons,
      List.map_nil, List.sum_singleton, Nat.add_assoc]
  · intro datagram sent
    rw [Inner.push] at sent
    exact room.proper datagram (by simpa using sent)

end Inner.Queues

/-- The numbers are 1, 2, 3 and so on, modulo 2 ^ 32. -/
def Consecutive (numbers : List UInt32) : Prop :=
  ∀ k number, numbers[k]? = some number → number = UInt32.ofNat (k + 1)

/-- Consecutive numbers, with a counter that holds the last one. -/
structure Numbered (last : UInt32) (numbers : List UInt32) : Prop where
  last : last = UInt32.ofNat numbers.length
  consecutive : Consecutive numbers

theorem numbered_nil : Numbered 0 [] := ⟨rfl, by simp [Consecutive]⟩

theorem Numbered.concat {last : UInt32} {numbers : List UInt32} (numbered : Numbered last numbers) :
    Numbered (last + 1) (numbers ++ [last + 1]) := by
  have next : last + 1 = UInt32.ofNat (numbers.length + 1) := by
    rw [numbered.last, UInt32.ofNat_add]
    rfl
  refine ⟨by simpa using next, ?_⟩
  intro k number hf
  rw [List.getElem?_append] at hf
  split_ifs at hf with earlier
  · exact numbered.consecutive k number hf
  · have here : k = numbers.length := by
      have inside := (List.getElem?_eq_some_iff.mp hf).1
      simp only [List.length_singleton] at inside
      omega
    subst here
    simp at hf
    rw [← hf, next]

def datagramNumbers (outputs : List Output) : List UInt32 :=
  outputs.filterMap fun
    | .datagram sealed => some sealed.sequence
    | _ => none

def flowNumbers (source : UInt32) (records : List Record) : List UInt32 :=
  records.filterMap fun
    | .flow sequence sample => if sample.ifIndex = source then some sequence else none
    | _ => none

def counterNumbers (source : UInt32) (records : List Record) : List UInt32 :=
  records.filterMap fun
    | .counters sequence polled => if polled.ifIndex = source then some sequence else none
    | _ => none

def acceptedRecords (outputs : List Output) : List Record :=
  accepted (outputs.map Output.batch)

/-- The counters of the interfaces hold the numbers of the records accepted last. -/
structure Inner.Counts (inner : Inner) (records : List Record) : Prop where
  flows : ∀ source : UInt32,
    Numbered (inner.flowSequences[source]?.getD 0) (flowNumbers source records)
  polls : ∀ source : UInt32,
    Numbered (inner.counterSequences[source]?.getD 0) (counterNumbers source records)

theorem numbered_insert {sequences : IfMap UInt32} {numbers : UInt32 → List UInt32}
    (numbered : ∀ source : UInt32, Numbered (sequences[source]?.getD 0) (numbers source))
    (key source : UInt32) : Numbered ((sequences.insert key (nextSequence sequences key))[source]?.getD 0)
      (numbers source ++ if key = source then [nextSequence sequences key] else []) := by
  rw [getElem?_insert]
  by_cases hs : key = source
  · subst hs
    rw [if_pos (by simp), if_pos rfl]
    exact (numbered key).concat
  · rw [if_neg (by simpa using hs), if_neg hs, List.append_nil]
    exact numbered source

structure Inner.Accounts (inner : Inner) (outputs : List Output) : Prop where
  queues : inner.Queues outputs
  datagrams : Numbered inner.sequence (datagramNumbers outputs)
  counts : inner.Counts (acceptedRecords outputs)

variable {inner : Inner} {outputs : List Output}

theorem acceptedRecords_append (more : List Output) :
    acceptedRecords (outputs ++ more) = acceptedRecords outputs ++ acceptedRecords more := by
  simp [acceptedRecords, accepted]

theorem datagramNumbers_append (more : List Output) :
    datagramNumbers (outputs ++ more) = datagramNumbers outputs ++ datagramNumbers more :=
  List.filterMap_append

theorem acceptedRecords_quiet {output : Output} (quiet : acceptedRecords [output] = []) :
    acceptedRecords (outputs ++ [output]) = acceptedRecords outputs := by
  rw [acceptedRecords_append, quiet, List.append_nil]

theorem datagramNumbers_quiet {output : Output} (quiet : datagramNumbers [output] = []) :
    datagramNumbers (outputs ++ [output]) = datagramNumbers outputs := by
  rw [datagramNumbers_append, quiet, List.append_nil]

theorem Inner.numbered_seal (numbered : Numbered inner.sequence (datagramNumbers outputs)) (now : Nat) :
    Numbered (inner.seal now).1.sequence
      (datagramNumbers (outputs ++ [.datagram (inner.seal now).2])) := by
  rw [datagramNumbers_append]
  exact numbered.concat

/-- Sealing on the way to a push changes no number of a source. -/
theorem Inner.makeRoom_cases (inner : Inner) (now size : Nat) : inner.makeRoom now size = (inner, []) ∨
      inner.makeRoom now size = ((inner.seal now).1, [.datagram (inner.seal now).2]) := by
  unfold Inner.makeRoom
  split_ifs
  · exact .inr rfl
  · exact .inl rfl

theorem Inner.push_accounts (queues : inner.Queues outputs)
    (datagrams : Numbered inner.sequence (datagramNumbers outputs)) (now : Nat) {record : Record}
    (small : headerBytes + record.encodedLen ≤ maxDatagramBytes)
    (counts : inner.Counts (acceptedRecords outputs ++ [record])) :
    (inner.push now record).1.Accounts (outputs ++ (inner.push now record).2) := by
  refine ⟨queues.push now small, ?_, ?_⟩
  · rw [Inner.push, ← List.append_assoc, datagramNumbers_quiet rfl]
    rcases inner.makeRoom_cases now record.encodedLen with kept | sealed
    · rw [kept, List.append_nil]
      exact datagrams
    · rw [sealed]
      exact Inner.numbered_seal datagrams now
  · rw [Inner.push, ← List.append_assoc, acceptedRecords_append]
    rcases inner.makeRoom_cases now record.encodedLen with kept | sealed
    · rw [kept, List.append_nil]
      exact ⟨counts.flows, counts.polls⟩
    · rw [sealed, acceptedRecords_quiet rfl]
      exact ⟨counts.flows, counts.polls⟩

theorem Inner.flowSample_small (inner : Inner) (sample : Sample) (sequence : UInt32) :
    headerBytes + (Record.flow sequence (inner.flowSample sample)).encodedLen ≤ maxDatagramBytes := by
  have short : (inner.flowSample sample).header.length ≤ 128 := List.length_take_le _ _
  have size := encodedLen_flow_le short sequence
  simp only [headerBytes, maxDatagramBytes]
  omega

theorem counters_small (sequence : UInt32) (polled : InterfaceCounters) :
    headerBytes + (Record.counters sequence polled).encodedLen ≤ maxDatagramBytes := by
  rw [encodedLen_counters]
  decide

namespace Inner.Accounts

variable {inner : Inner} {outputs : List Output} (accounts : inner.Accounts outputs)

include accounts

theorem takeSample (now : Nat) (sample : Sample) :
    (inner.takeSample now sample).1.Accounts (outputs ++ (inner.takeSample now sample).2) := by
  unfold Inner.takeSample
  obtain ⟨queues, datagrams, counts⟩ := accounts
  split_ifs
  · apply Inner.push_accounts
    · exact { queues with }
    · exact datagrams
    · exact inner.flowSample_small sample _
    · refine ⟨fun source => ?_, fun source => ?_⟩
      · have numbered := numbered_insert counts.flows sample.ifIndex source
        by_cases hs : sample.ifIndex = source <;> simpa [flowNumbers, Inner.flowSample, hs] using numbered
      · simpa [counterNumbers] using counts.polls source
  · rw [List.append_nil]
    exact ⟨queues, datagrams, counts⟩

theorem takePoll (now : Nat) (polled : InterfaceCounters) :
    (inner.takePoll now polled).1.Accounts (outputs ++ (inner.takePoll now polled).2) := by
  obtain ⟨queues, datagrams, counts⟩ := accounts
  apply Inner.push_accounts
  · exact { queues with }
  · exact datagrams
  · exact counters_small _ polled
  · refine ⟨fun source => ?_, fun source => ?_⟩
    · simpa [flowNumbers] using counts.flows source
    · have numbered := numbered_insert counts.polls polled.ifIndex source
      by_cases hs : polled.ifIndex = source <;> simpa [counterNumbers, hs] using numbered

theorem takeCounters (now : Nat) (polls : List InterfaceCounters) :
    (inner.takeCounters now polls).1.Accounts (outputs ++ (inner.takeCounters now polls).2) := by
  unfold Inner.takeCounters
  split_ifs
  · apply List.foldlRecOn polls _
      (motive := fun (call : Inner × List Output) => call.1.Accounts (outputs ++ call.2))
    · rwa [List.append_nil]
    · intro call held polled _
      rw [← List.append_assoc]
      exact held.takePoll now polled
  · rwa [List.append_nil]

theorem flushDue (now : Nat) : (inner.flushDue now).1.Accounts (outputs ++ (inner.flushDue now).2) := by
  unfold Inner.flushDue
  dsimp only
  split_ifs with due
  · obtain ⟨queues, datagrams, counts⟩ := accounts
    refine ⟨queues.sealed now due.2, Inner.numbered_seal datagrams now, ?_⟩
    rw [acceptedRecords_quiet rfl]
    exact ⟨counts.flows, counts.polls⟩
  · rwa [List.append_nil]

theorem setConfig (config : Config) :
    (inner.setConfig config).1.Accounts (outputs ++ (inner.setConfig config).2) := by
  obtain ⟨queues, datagrams, counts⟩ := accounts
  unfold Inner.setConfig
  split_ifs
  · rw [List.append_nil]
    exact ⟨⟨queues.replays, queues.bytes, queues.fits, queues.proper⟩, datagrams,
      ⟨counts.flows, counts.polls⟩⟩
  · refine ⟨⟨?_, ?_, ?_, ?_⟩, ?_, ?_⟩
    · rw [List.map_append]
      exact queues.replays.discard
    · simp [recordsLen]
    · exact headerBytes_le
    · intro datagram sent
      exact queues.proper datagram (by simpa using sent)
    · rw [datagramNumbers_quiet rfl]
      exact datagrams
    · rw [acceptedRecords_quiet rfl]
      exact ⟨counts.flows, counts.polls⟩

theorem react (input : Input) : (inner.react input).1.Accounts (outputs ++ (inner.react input).2) := by
  obtain ⟨now, event⟩ := input
  cases event with
  | setConfig config => exact accounts.setConfig config
  | takeSample sample => exact accounts.takeSample now sample
  | takeCounters polls => exact accounts.takeCounters now polls
  | flushDue => exact accounts.flushDue now
  | countSend ok =>
    obtain ⟨queues, datagrams, counts⟩ := accounts
    simp only [Inner.react, List.append_nil, Inner.countSend]
    split_ifs <;>
      exact ⟨⟨queues.replays, queues.bytes, queues.fits, queues.proper⟩, datagrams,
        ⟨counts.flows, counts.polls⟩⟩

end Inner.Accounts

theorem accounts_of_run (started : Nat) (inputs : List Input) :
    ((engine started).run inputs).Accounts ((engine started).sent inputs) := by
  induction inputs using List.reverseRecOn with
  | nil =>
    refine ⟨⟨.nil, rfl, headerBytes_le, ?_⟩, numbered_nil, ⟨?_, ?_⟩⟩
    · intro datagram sent
      cases sent
    all_goals exact fun _ => numbered_nil
  | append_singleton inputs input ih =>
    rw [run_concat, sent_concat]
    exact ih.react input

/-- What a call asks to be reported. -/
inductive Report where
  | sample (ifIndex length : UInt32) (header : List UInt8)
  | counters (polled : InterfaceCounters)

def Record.report : Record → Report
  | .flow _ sample => .sample sample.ifIndex sample.frameLength sample.header
  | .counters _ polled => .counters polled

/-- Whether sFlow is on after the call, and what the call asks to be reported. -/
def Event.offer (enabled : Bool) : Event → Bool × List Report
  | .setConfig config => (config.enabled, [])
  | .takeSample sample =>
      (enabled, if enabled then [.sample sample.ifIndex sample.originalLength (sample.bytes.take 128)] else [])
  | .takeCounters polls => (enabled, if enabled then polls.map .counters else [])
  | .flushDue | .countSend _ => (enabled, [])

def offers (inputs : List Input) : Bool × List Report :=
  inputs.foldl
    (fun offered input =>
      let offer := input.event.offer offered.1
      (offer.1, offered.2 ++ offer.2))
    (false, [])

/-- A call accepts the reports and discards nothing. -/
structure Inner.Takes (inner : Inner) (call : Inner × List Output) (reports : List Report) : Prop where
  config : call.1.config = inner.config
  accepts : (acceptedRecords call.2).map Record.report = reports
  keeps : ∀ records, .discarded records ∉ call.2

theorem Inner.takes_nothing (inner : Inner) : inner.Takes (inner, []) [] :=
  ⟨rfl, rfl, fun _ => List.not_mem_nil⟩

theorem Inner.takes_push (inner : Inner) (now : Nat) (record : Record) :
    inner.Takes (inner.push now record) [record.report] := by
  rcases inner.makeRoom_cases now record.encodedLen with kept | sealed
  · have pushed : (inner.push now record).2 = [.accepted record] := by rw [Inner.push, kept]; rfl
    exact ⟨by rw [Inner.push, kept], by rw [pushed]; rfl, by simp [pushed]⟩
  · have pushed : (inner.push now record).2 = [.datagram (inner.seal now).2, .accepted record] := by
      rw [Inner.push, sealed]; rfl
    exact ⟨by rw [Inner.push, sealed]; rfl, by rw [pushed]; rfl, by simp [pushed]⟩

theorem Inner.takes_polls (inner : Inner) (now : Nat) (polls : List InterfaceCounters) :
    inner.Takes (polls.foldl (fun (inner, outputs) polled =>
        let (inner, ready) := inner.takePoll now polled
        (inner, outputs ++ ready)) (inner, [])) (polls.map .counters) := by
  induction polls using List.reverseRecOn with
  | nil => exact inner.takes_nothing
  | append_singleton polls polled ih =>
    rw [List.foldl_concat, List.map_append]
    obtain ⟨config, accepts, keeps⟩ := Inner.takes_push _ now _
    refine ⟨config.trans ih.config, ?_, ?_⟩
    · rw [acceptedRecords_append, List.map_append, ih.accepts]
      exact congrArg _ accepts
    · intro records discards
      exact (List.mem_append.mp discards).elim (ih.keeps records) (keeps records)

theorem Inner.setConfig_discards (inner : Inner) (config : Config) :
    (inner.setConfig config).1.config = config ∧ acceptedRecords (inner.setConfig config).2 = [] ∧
      ∀ records, .discarded records ∈ (inner.setConfig config).2 → config.enabled = false := by
  unfold Inner.setConfig
  split_ifs with enabled
  · exact ⟨rfl, rfl, by simp⟩
  · exact ⟨rfl, rfl, fun _ _ => Bool.eq_false_iff.mpr enabled⟩

theorem Inner.react_takes (inner : Inner) (input : Input) :
    (∃ config, input.event = .setConfig config) ∨
      inner.Takes (inner.react input) (input.event.offer inner.config.enabled).2 ∧
        (input.event.offer inner.config.enabled).1 = inner.config.enabled := by
  obtain ⟨now, event⟩ := input
  unfold Inner.react
  cases event with
  | setConfig config => exact .inl ⟨config, rfl⟩
  | takeSample sample =>
    refine .inr ⟨?_, rfl⟩
    dsimp only [Event.offer, Inner.takeSample]
    split_ifs
    · obtain ⟨config, accepts, keeps⟩ := Inner.takes_push _ now _
      exact ⟨config, accepts, keeps⟩
    · exact inner.takes_nothing
  | takeCounters polls =>
    refine .inr ⟨?_, rfl⟩
    dsimp only [Event.offer, Inner.takeCounters]
    split_ifs
    · exact inner.takes_polls now polls
    · exact inner.takes_nothing
  | flushDue =>
    refine .inr ⟨?_, rfl⟩
    dsimp only [Event.offer, Inner.flushDue]
    split_ifs
    · exact ⟨rfl, rfl, by simp⟩
    · exact inner.takes_nothing
  | countSend ok => cases ok <;> exact .inr ⟨⟨rfl, rfl, fun _ => List.not_mem_nil⟩, rfl⟩

theorem offers_of_run (started : Nat) (inputs : List Input) :
    (((engine started).run inputs).config.enabled,
      (acceptedRecords ((engine started).sent inputs)).map Record.report) = offers inputs := by
  induction inputs using List.reverseRecOn with
  | nil => rfl
  | append_singleton inputs input ih =>
    rw [run_concat, sent_concat, acceptedRecords_append, List.map_append, offers, List.foldl_concat,
      ← offers, ← ih]
    obtain ⟨now, event⟩ := input
    refine Prod.mk.injEq .. |>.mpr ?_
    rcases ((engine started).run inputs).react_takes ⟨now, event⟩ with ⟨config, rfl⟩ | ⟨takes, same⟩
    · obtain ⟨isConfig, none, -⟩ := ((engine started).run inputs).setConfig_discards config
      exact ⟨congrArg Config.enabled isConfig, congrArg (_ ++ List.map Record.report ·) none⟩
    · exact ⟨(congrArg Config.enabled takes.config).trans same.symm, congrArg (_ ++ ·) takes.accepts⟩

end Hemlock.Sflow
