import Hemlock.Lacp.Selection

/-!
# When gates of an LACP aggregate are open

A member joins the aggregate on its own partner's word: link, current information
and the SYNC bit, together with enough members for min-links.  The partners of
different members are not compared.
-/

namespace Hemlock.Lacp

open Machine OrderedMap

theorem exists_of_pass {systemMac : Mac} {inputs : List Input} {now : Nat} {group : UInt16} {lag : Lag}
    (hf : ((engine systemMac).run (inputs ++ [⟨now, .step⟩])).lags[group]? = some lag) :
    ∃ before, ((engine systemMac).run inputs).lags[group]? = some before ∧ lag = before.step now := by
  rw [run_concat] at hf
  change (Inner.step _ now).lags[group]? = some lag at hf
  rw [Inner.step, getElem?_map, Option.map_eq_some_iff] at hf
  obtain ⟨before, hp, rfl⟩ := hf
  exact ⟨before, hp, rfl⟩

theorem Member.ready_iff (hm : Member) (now : Nat) : hm.ready now = true ↔
      hm.linkUp = true ∧ hm.partnerCurrent now = true ∧
        ∃ partner, hm.partner = some partner ∧ partner.inSync = true := by
  unfold Member.ready
  cases partner : hm.partner with
  | none => simp
  | some partner => simp [and_assoc]

/-- After every pass, in a LAG that runs LACP and is not in fallback, a gate is open
exactly when the member has link and current partner information with the SYNC bit
set, and at least min-links members have. -/
theorem gate_open_iff_ready (systemMac : Mac) (inputs : List Input) (now : Nat)
    (group : UInt16) (lag : Lag)
    (found : ((engine systemMac).run (inputs ++ [⟨now, .step⟩])).lags[group]? = some lag)
    (lacp : lag.config.lacp = true) (noFallback : lag.fallbackActive = false) (name : String)
    (member : Member) (present : lag.members[name]? = some member) :
    member.bundled = true ↔ member.linkUp = true ∧ member.partnerCurrent now = true ∧
        (∃ partner, member.partner = some partner ∧ partner.inSync = true) ∧ lag.config.minLinks.toNat ≤
          lag.members.toList.countP fun (_, member) => member.ready now := by
  obtain ⟨before, _, rfl⟩ := exists_of_pass found
  rw [Lag.step_config] at lacp ⊢
  rw [Lag.step_bundled_iff lacp noFallback present, Member.ready_iff]
  simp only [and_assoc]

/-- An actor that asks to be bundled. -/
def neighbour (system : Mac) : Partner where
  systemPriority := 32768
  system := system
  key := 1
  portPriority := 32768
  port := 1
  state := 0x3f

def twoPorts : LagConfig where
  group := 1
  minLinks := 0
  fallback := none
  fallbackTimeout := secs 90
  members := (∅ : NameMap MemberConfig).insertMany
    [("Ethernet1", { mode := .active, rateFast := true }),
      ("Ethernet2", { mode := .active, rateFast := true })]

/-- The two members of a LAG are cabled to the switches called `first` and
`second`. -/
def cabledTo (first second : Mac) : List Input :=
  [⟨0, .setConfigs 32768 [twoPorts]⟩, ⟨0, .step⟩,
    ⟨secs 1, .link ⟨"Ethernet1", true⟩⟩, ⟨secs 1, .step⟩,
    ⟨secs 1, .link ⟨"Ethernet2", true⟩⟩, ⟨secs 1, .step⟩,
    ⟨secs 2, .frame "Ethernet1" (encodePdu first (neighbour first) none)⟩, ⟨secs 2, .step⟩,
    ⟨secs 2, .frame "Ethernet2" (encodePdu second (neighbour second) none)⟩]

theorem gate_open_iff_ready_cabled : ∃ lag ∈ ((engine #v[2, 0, 0, 0, 0, 1]).run
        (cabledTo #v[2, 0, 0, 0, 0, 7] #v[2, 0, 0, 0, 0, 7] ++ [⟨secs 2, .step⟩])).lags[(1 : UInt16)]?,
      ∃ member ∈ lag.members["Ethernet2"]?, member.partnerCurrent (secs 2) = true := by
  have opened : ∃ lag ∈ ((engine #v[2, 0, 0, 0, 0, 1]).run
      (cabledTo #v[2, 0, 0, 0, 0, 7] #v[2, 0, 0, 0, 0, 7] ++ [⟨secs 2, .step⟩])).lags[(1 : UInt16)]?,
      lag.config.lacp = true ∧ lag.fallbackActive = false ∧
        ∃ member ∈ lag.members["Ethernet2"]?, member.bundled = true := by
    decide +kernel
  obtain ⟨lag, found, lacp, noFallback, member, present, bundled⟩ := opened
  have ready := (gate_open_iff_ready _ _ _ _ lag found lacp noFallback _ member present).mp bundled
  exact ⟨lag, found, member, present, ready.2.1⟩

/-- Members cabled to different switches are bundled together. -/
theorem bundles_different_partners : ∃ lag ∈ ((engine #v[2, 0, 0, 0, 0, 1]).run
        (cabledTo #v[2, 0, 0, 0, 0, 7] #v[2, 0, 0, 0, 0, 8] ++ [⟨secs 2, .step⟩])).lags[(1 : UInt16)]?,
      lag.config.lacp = true ∧ lag.fallbackActive = false ∧
        (∃ member ∈ lag.members["Ethernet1"]?,
          member.bundled = true ∧ member.partner.map Partner.system = some #v[2, 0, 0, 0, 0, 7]) ∧
        ∃ member ∈ lag.members["Ethernet2"]?,
          member.bundled = true ∧ member.partner.map Partner.system = some #v[2, 0, 0, 0, 0, 8] := by
  decide +kernel

end Hemlock.Lacp
