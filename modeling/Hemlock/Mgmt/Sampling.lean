import Hemlock.Intent.Validation
import Hemlock.Library.Machine

/-!
# Sampled ports

A commit tells syncd which ports to sample when the sFlow part of the configuration has
changed.  The list that it sends depends on more than that part.
-/

namespace Hemlock.Mgmt

open Config Intent Machine

/-- The ports that are to be sampled: all that the configuration names, without those that
turn it off. -/
def sflowSampledPorts (intents : Intents) : List String :=
  if intents.sflow.enabled then
    (intents.ports.toList.filter fun port => !port.2.sflowDisabled).map Prod.fst
  else []

structure SflowState where
  global : SflowIntent
  disabledPorts : List String
  deriving DecidableEq

def sflowState (intents : Intents) : SflowState :=
  ⟨intents.sflow, (intents.ports.toList.filter fun port => port.2.sflowDisabled).map Prod.fst⟩

def diffSflow (running candidate : Intents) : Option SflowState :=
  if sflowState running ≠ sflowState candidate then some (sflowState candidate) else none

structure Sampler where
  running : Intents := {}
  /-- The ports that syncd was told last. -/
  sampled : List String := []

def Sampler.applyAndPersist (sampler : Sampler) (wanted : Intents) : Sampler where
  running := wanted
  sampled := if (diffSflow sampler.running wanted).isSome then sflowSampledPorts wanted else sampler.sampled

/-- The commits of a switch that starts with the empty configuration. -/
def sampling (zoneFiles : Option (String → Bool)) : Machine Sampler ConfigTree Empty where
  init := {}
  next sampler tree :=
    match extract zoneFiles tree with
    | .ok wanted => sampler.applyAndPersist wanted
    | .error _ => sampler
  emit _ _ := []

def Sampler.Follows (sampler : Sampler) : Prop := sampler.sampled = sflowSampledPorts sampler.running

/-- A commit that leaves the sFlow part alone does not change the ports to sample. -/
def Sampler.Gated (zoneFiles : Option (String → Bool)) (sampler : Sampler) (tree : ConfigTree) : Prop :=
  ∀ wanted, extract zoneFiles tree = .ok wanted → sflowState sampler.running = sflowState wanted →
    sflowSampledPorts sampler.running = sflowSampledPorts wanted

theorem follows_applyAndPersist {sampler : Sampler} (follows : sampler.Follows) (wanted : Intents) :
    (sampler.applyAndPersist wanted).Follows ↔ (sflowState sampler.running = sflowState wanted →
      sflowSampledPorts sampler.running = sflowSampledPorts wanted) := by
  by_cases hu : sflowState sampler.running = sflowState wanted
  · simp [Sampler.Follows, Sampler.applyAndPersist, diffSflow, ← follows.symm]
  · simp [Sampler.Follows, Sampler.applyAndPersist, diffSflow, hu]

/-- The sampled ports follow the configuration throughout a run exactly if no commit changes
them without an sFlow edit. -/
theorem follows_iff_gated (zoneFiles : Option (String → Bool)) (trees : List ConfigTree) :
    (sampling zoneFiles).Always Sampler.Follows trees ↔
      (sampling zoneFiles).Throughout (Sampler.Gated zoneFiles) trees := by
  refine always_iff_throughout (by rfl) ?_ trees
  intro earlier tree follows
  change Sampler.Follows (match extract zoneFiles tree with
    | .ok wanted => _
    | .error _ => _) ↔ _
  unfold Sampler.Gated
  cases extract zoneFiles tree with
  | error refusal => simp [follows]
  | ok wanted => simp [follows_applyAndPersist follows]

/-- Sampling is on, and these ports are named. -/
def sampledTree (ports : List String) : ConfigTree :=
  ⟨[.block "services" [] [.block "sflow" [] [.leaf "collector" ["10.42.0.20"]]],
    .block "interfaces" [] (ports.map fun port => .block port [] [])]⟩

/-- A port that a later commit adds is not sampled. -/
theorem added_port_unsampled :
    ((sampling none).run [sampledTree ["Ethernet1"], sampledTree ["Ethernet1", "Ethernet2"]]).sampled =
        ["Ethernet1"] ∧
      ¬ ((sampling none).run [sampledTree ["Ethernet1"], sampledTree ["Ethernet1", "Ethernet2"]]).Follows := by
  unfold Sampler.Follows
  decide +kernel

end Hemlock.Mgmt
