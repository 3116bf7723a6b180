import Hemlock.Lacp.Aggregation
import Hemlock.Lacp.Runs

/-!
# Partners across a link flap

A link-down event forgets the partner, a link-up event does not look at it.  PDUs
come on a channel of their own, so one that was received before the link went down
may be processed after it, and then counts for the next link.
-/

namespace Hemlock.Lacp

open Machine

/-- A PDU of the port was processed, and no link-up of the port after it. -/
def HeardSinceUp (name : String) (inputs : List Input) : Prop :=
  ∃ before time bytes after, inputs = before ++ ⟨time, .frame name bytes⟩ :: after ∧
    (decodePdu bytes).isSome = true ∧
    ∀ input ∈ after, ∀ event, input.event = .link event → event.port = name → event.up = false

/-- When a port comes up, no member of its name has a partner. -/
def Inner.Forgotten (inner : Inner) (input : Input) : Prop :=
  ∀ event, input.event = .link event → event.up = true →
    ∀ group member, inner.Has group event.port member → member.partner = none

variable {name : String} {inputs : List Input} {input : Input}

theorem HeardSinceUp.concat (heard : HeardSinceUp name inputs)
    (noUp : ∀ event, input.event = .link event → event.port = name → event.up = false) :
    HeardSinceUp name (inputs ++ [input]) := by
  obtain ⟨before, time, bytes, after, rfl, decoded, quiet⟩ := heard
  refine ⟨before, time, bytes, after ++ [input], by simp, decoded, ?_⟩
  intro other hl
  rcases List.mem_append.mp hl with earlier | last
  · exact quiet other earlier
  · rw [List.mem_singleton.mp last]
    exact noUp

theorem not_heardSinceUp_of_up {time : Nat} :
    ¬ HeardSinceUp name (inputs ++ [⟨time, .link ⟨name, true⟩⟩]) := by
  rintro ⟨before, time, bytes, after, split, -, quiet⟩
  rcases List.eq_nil_or_concat after with rfl | ⟨middle, last, rfl⟩
  · obtain ⟨-, hs⟩ := List.append_inj' split rfl
    simp at hs
  · rw [List.concat_eq_append, ← List.cons_append, ← List.append_assoc] at split
    obtain ⟨-, hs⟩ := List.append_inj' split rfl
    simp only [List.cons.injEq, and_true] at hs
    exact absurd (quiet last (by simp) ⟨name, true⟩ (by rw [← hs]) rfl) (by simp)

/-- A member's partner was heard since its port came up, when every link-up found it
without one. -/
theorem heardSinceUp_of_partner (systemMac : Mac) (inputs : List Input)
    (forgotten : (engine systemMac).Throughout Inner.Forgotten inputs) {group : UInt16}
    {hm : Member} (hf : ((engine systemMac).run inputs).Has group name hm)
    (hk : hm.partner ≠ none) : HeardSinceUp name inputs := by
  refine @members_induction systemMac
    (fun inputs name hm => (engine systemMac).Throughout Inner.Forgotten inputs →
      hm.partner ≠ none → HeardSinceUp name inputs)
    ?_ inputs group name hm hf forgotten hk
  intro inputs input group name hm change before forgotten hk
  obtain ⟨sofar, last⟩ := throughout_concat.mp forgotten
  -- a member that had this partner before the input
  have kept {earlier : Member} (has : ((engine systemMac).run inputs).Has group name earlier)
      (partner : earlier.partner ≠ none) : HeardSinceUp name (inputs ++ [input]) := by
    apply (before earlier has sofar partner).concat
    rintro event isLink rfl
    cases up : event.up with
    | false => rfl
    | true => exact absurd (last event isLink up group earlier has) partner
  cases change with
  | kept _ _ has | configured _ has => exact kept has hk
  | @linked event earlier _ _ has =>
    cases up : event.up with
    | false => simp [Member.setLink, up] at hk
    | true => exact kept has (by simpa [Member.setLink, up] using hk)
  | @heard bytes partner earlier isFrame decoded has =>
    obtain ⟨now, event⟩ := input
    subst isFrame
    exact ⟨inputs, now, bytes, [], rfl, by simp [decoded], by simp⟩
  | joined _ => exact absurd rfl hk
  | @visited lag earlier _ hp has =>
    rw [(lag.same_visit input.time name earlier).partner] at hk
    exact kept ⟨lag, hp, has⟩ hk

/-- In a run in which no port comes up with a partner, an open gate of a LAG that
runs LACP and is not in fallback rests on a PDU heard since the port came up. -/
theorem heardSinceUp_of_open (systemMac : Mac) (inputs : List Input) (now : Nat)
    (forgotten : (engine systemMac).Throughout Inner.Forgotten inputs) (group : UInt16) (lag : Lag)
    (found : ((engine systemMac).run (inputs ++ [⟨now, .step⟩])).lags[group]? = some lag)
    (lacp : lag.config.lacp = true) (noFallback : lag.fallbackActive = false) (name : String)
    (member : Member) (present : lag.members[name]? = some member)
    (opened : member.bundled = true) : HeardSinceUp name inputs := by
  obtain ⟨before, was, rfl⟩ := exists_of_pass found
  rw [Lag.step_config] at lacp
  have ready := ((Lag.step_bundled_iff lacp noFallback present).mp opened).1
  obtain ⟨-, -, partner, known, -⟩ := (member.ready_iff now).mp ready
  obtain ⟨earlier, wasMember, rfl⟩ := Lag.exists_of_step_members present
  rw [(before.same_visit now name earlier).partner] at known
  exact heardSinceUp_of_partner systemMac inputs forgotten ⟨before, was, wasMember⟩ (by simp [known])

theorem heardSinceUp_of_open_neighbour :
    HeardSinceUp "Ethernet1"
      [⟨0, .setConfigs 32768 [twoPorts]⟩, ⟨0, .link ⟨"Ethernet1", true⟩⟩,
        ⟨secs 1, .frame "Ethernet1" (encodePdu #v[2, 0, 0, 0, 0, 7] (neighbour #v[2, 0, 0, 0, 0, 7])
          none)⟩] := by
  have start : (engine #v[2, 0, 0, 0, 0, 1]).Throughout Inner.Forgotten
      ([] ++ [⟨0, .setConfigs 32768 [twoPorts]⟩]) :=
    throughout_concat.mpr ⟨throughout_nil _ _, by simp [Inner.Forgotten]⟩
  -- before the first frame no member has a partner
  have up : (engine #v[2, 0, 0, 0, 0, 1]).Throughout Inner.Forgotten
      ([] ++ [⟨0, .setConfigs 32768 [twoPorts]⟩] ++ [⟨0, .link ⟨"Ethernet1", true⟩⟩]) := by
    refine throughout_concat.mpr ⟨start, ?_⟩
    intro event _ _ group member has
    by_contra known
    obtain ⟨before, time, bytes, after, split, -⟩ := heardSinceUp_of_partner _ _ start has known
    have frame : (⟨time, .frame event.port bytes⟩ : Input) ∈
        before ++ ⟨time, .frame event.port bytes⟩ :: after := by simp
    rw [← split] at frame
    simp at frame
  obtain ⟨lag, found, lacp, noFallback, member, present, opened⟩ :
      ∃ lag ∈ ((engine #v[2, 0, 0, 0, 0, 1]).run
          ([⟨0, .setConfigs 32768 [twoPorts]⟩, ⟨0, .link ⟨"Ethernet1", true⟩⟩] ++
            [⟨secs 1, .frame "Ethernet1"
              (encodePdu #v[2, 0, 0, 0, 0, 7] (neighbour #v[2, 0, 0, 0, 0, 7]) none)⟩] ++
            [⟨secs 1, .step⟩])).lags[(1 : UInt16)]?,
        lag.config.lacp = true ∧ lag.fallbackActive = false ∧
          ∃ member ∈ lag.members["Ethernet1"]?, member.bundled = true := by
    decide +kernel
  exact heardSinceUp_of_open _ _ _ (throughout_concat.mpr ⟨up, by simp [Inner.Forgotten]⟩) 1 lag found
    lacp noFallback "Ethernet1" member present opened

/-- The second PDU was queued when the link went down, and is processed after that. -/
def flappedRun : List Input :=
  let pdu := encodePdu #v[2, 0, 0, 0, 0, 7] (neighbour #v[2, 0, 0, 0, 0, 7]) none
  [⟨0, .setConfigs 32768 [twoPorts]⟩, ⟨0, .step⟩, ⟨secs 1, .link ⟨"Ethernet1", true⟩⟩,
    ⟨secs 1, .step⟩, ⟨secs 2, .frame "Ethernet1" pdu⟩, ⟨secs 2, .step⟩,
    ⟨secs 3, .link ⟨"Ethernet1", false⟩⟩, ⟨secs 3, .step⟩, ⟨secs 3, .frame "Ethernet1" pdu⟩,
    ⟨secs 3, .step⟩]

/-- The gate opens as soon as the link is back, on the word of the old partner. -/
theorem flapped_gate_open : (∃ lag ∈ ((engine #v[2, 0, 0, 0, 0, 1]).run
        (flappedRun ++ [⟨secs 4, .link ⟨"Ethernet1", true⟩⟩] ++
          [⟨secs 4, .step⟩])).lags[(1 : UInt16)]?,
      lag.config.lacp = true ∧ lag.fallbackActive = false ∧
        ∃ member ∈ lag.members["Ethernet1"]?, member.bundled = true) ∧
      ¬ HeardSinceUp "Ethernet1" (flappedRun ++ [⟨secs 4, .link ⟨"Ethernet1", true⟩⟩]) :=
  ⟨by decide +kernel, not_heardSinceUp_of_up⟩

end Hemlock.Lacp
