import Hemlock.SnoopSec.Engine

/-!
# Dynamic ARP inspection

What an ARP message must show to be forwarded, and when the engine forwards exactly
such messages: it looks at a static binding only where there is no dynamic one, and
does not look at the clock.
-/

namespace Hemlock.SnoopSec

open Bytes Checked SnoopSec.Inner

def Config.Passes (config : Config) (frame : List UInt8) (arp : ArpMessage) : Prop :=
  (.srcMac ∈ config.checks → arp.sha.toList = (frame.take 12).drop 6) ∧
    (.dstMac ∈ config.checks → arp.isReply = true → arp.tha.toList = frame.take 6) ∧
    (.ip ∈ config.checks → badIp arp = false)

instance (config : Config) (frame : List UInt8) (arp : ArpMessage) :
    Decidable (config.Passes frame arp) := by
  unfold Config.Passes
  infer_instance

/-- A lease that has not expired gives the sender its address. -/
def Inner.leased (inner : Inner) (vlan : UInt16) (arp : ArpMessage) (now : Nat) : Bool :=
  inner.dynamics[(macText arp.sha.toList, vlan)]?.any fun binding =>
    binding.ip = arp.spa && now < binding.expiresAt

/-- The configuration gives the sender its address. -/
def Config.assigned (config : Config) (vlan : UInt16) (arp : ArpMessage) : Bool :=
  config.statics[(macText arp.sha.toList, vlan)]?.any fun binding => binding.ip = arp.spa

/-- The message is forwarded exactly when it should be. -/
def Inner.InspectsRightly (inner : Inner) (port : String) (vlan : UInt16) (frame : List UInt8)
    (arp : ArpMessage) (now : Nat) : Prop :=
  inner.handleArp port vlan frame = .ok (inner.forwardArp port vlan frame) ↔
    inner.config.Passes frame arp ∧
      (inner.leased vlan arp now = true ∨ inner.config.assigned vlan arp = true)

variable {arp : ArpMessage} {vlan : UInt16}

theorem Inner.bound_of_dynamic {inner : Inner} {binding : DynamicBinding}
    (hk : inner.dynamics[(macText arp.sha.toList, vlan)]? = some binding) :
    inner.bound vlan arp = decide (binding.ip = arp.spa) := by
  simp [bound, hk]

theorem Inner.bound_of_no_dynamic {inner : Inner}
    (hu : inner.dynamics[(macText arp.sha.toList, vlan)]? = none) :
    inner.bound vlan arp = inner.config.assigned vlan arp := by
  rw [bound, hu, Config.assigned]
  cases inner.config.statics[(macText arp.sha.toList, vlan)]? <;> rfl

theorem Inner.countArp_ne_forwardArp (inner : Inner) (port : String) (vlan : UInt16)
    (frame : List UInt8) {count : DaiVlanStats → DaiVlanStats}
    (dropped : ∀ stats, (count stats).forwarded = stats.forwarded) :
    ((.ok (inner.countArp vlan count, []) : Checked (Inner × List Output))) ≠
      .ok (inner.forwardArp port vlan frame) := by
  intro hs
  have stats := congrArg (fun result => (result.arpStats[vlan]?.getD {}).forwarded)
    (Prod.mk.inj (Except.ok.inj hs)).1
  simp [countArp, dropped] at stats

theorem length_of_parseArp {frame : List UInt8}
    (isArp : parseArp frame = .ok (some arp)) : 42 ≤ frame.length := by
  by_contra short
  have outside : getRange? frame 14 42 = none := if_neg (by omega)
  rw [parseArp, outside] at isArp
  cases isArp

theorem Inner.handleArp_forwards_iff {inner : Inner} {frame : List UInt8}
    (isArp : parseArp frame = .ok (some arp)) (inspected : vlan ∈ inner.config.arpVlans) (port : String) :
    inner.handleArp port vlan frame = .ok (inner.forwardArp port vlan frame) ↔
      inner.config.Passes frame arp ∧ inner.bound vlan arp = true := by
  have long := length_of_parseArp isArp
  rw [handleArp, isArp, ok_bind]
  simp only [inspected, not_true_eq_false, if_false]
  rw [slice_of_le (by omega), ok_bind, slice_of_le (by omega), ok_bind]
  simp only [macText_inj, ne_eq]
  split_ifs with badSrc badDst badSpa bound
  pick_goal 4
  · refine iff_of_true rfl ⟨⟨?_, ?_, ?_⟩, bound⟩
    · tauto
    · tauto
    · simpa using badSpa
  all_goals refine iff_of_false (inner.countArp_ne_forwardArp port vlan frame fun _ => rfl) fun passes => ?_
  · exact badSrc.2 (passes.1.1 badSrc.1)
  · exact badDst.2.2 (passes.1.2.1 badDst.1 badDst.2.1)
  · rw [passes.1.2.2 badSpa.1] at badSpa
    exact Bool.false_ne_true badSpa.2
  · exact bound passes.2

/-- Inspection is right for a message exactly when the dynamic binding of its sender, if
the checks get that far, neither hides a static binding nor has outlived its lease. -/
theorem inspectsRightly_iff {inner : Inner} {vlan : UInt16} {frame : List UInt8}
    {arp : ArpMessage} (isArp : parseArp frame = .ok (some arp))
    (inspected : vlan ∈ inner.config.arpVlans) (port : String) (now : Nat) :
    inner.InspectsRightly port vlan frame arp now ↔ (inner.config.Passes frame arp → ∀ binding,
        inner.dynamics[(macText arp.sha.toList, vlan)]? = some binding → if binding.ip = arp.spa then
            now < binding.expiresAt ∨ inner.config.assigned vlan arp = true
          else inner.config.assigned vlan arp = false) := by
  rw [Inner.InspectsRightly, Inner.handleArp_forwards_iff isArp inspected]
  by_cases passes : inner.config.Passes frame arp
  · simp only [passes]
    cases known : inner.dynamics[(macText arp.sha.toList, vlan)]? with
    | none => simp [Inner.bound_of_no_dynamic known, Inner.leased, known]
    | some binding =>
      rw [Inner.bound_of_dynamic known, Inner.leased, known]
      by_cases same : binding.ip = arp.spa <;> simp [same]
  · simp [passes]

def switchMac : Mac := #v[0x2c, 0xdd, 0xe9, 0x4a, 0x1b, 0x00]

namespace Stale

def client : Mac := #v[0x00, 0x1c, 0x73, 0x0c, 0xaa, 0x01]

/-- The client asks who has 10.0.0.1, as 10.0.0.5. -/
def request : ArpMessage := ⟨false, client, #v[10, 0, 0, 5], #v[0, 0, 0, 0, 0, 0]⟩

def frame : List UInt8 :=
  List.replicate 6 0xff ++ client.toList ++ [0x08, 0x06, 0, 1, 8, 0, 6, 4, 0, 1] ++
    client.toList ++ [10, 0, 0, 5] ++ List.replicate 6 0 ++ [10, 0, 0, 1]

theorem parseArp_frame : parseArp frame = .ok (some request) := by decide +kernel

/-- VLAN 10 is inspected, and the client has some static and dynamic bindings there. -/
def inner (statics : List StaticBinding) (dynamics : List DynamicBinding) : Inner where
  config :=
    { arpVlans := .ofList [10] compare
      statics := .ofList (statics.map fun binding => (("00:1c:73:0c:aa:01", 10), binding)) _ }
  view := { vlanPorts := .ofList [(10, .ofList ["Ethernet1", "Ethernet2"] compare)] compare }
  dynamics := .ofList (dynamics.map fun binding => (("00:1c:73:0c:aa:01", 10), binding)) _
  systemMac := switchMac

end Stale

/-- A static binding for 10.0.0.5 is hidden by a lease of 10.0.0.9, and a lease that
expired at 100 still admits the client at 103. -/
theorem misleading_bindings :
    ¬ (Stale.inner [⟨#v[10, 0, 0, 5], "Ethernet1"⟩]
        [⟨#v[10, 0, 0, 9], "Ethernet1", 1000⟩]).InspectsRightly
          "Ethernet1" 10 Stale.frame Stale.request 103 ∧
      ¬ (Stale.inner [] [⟨#v[10, 0, 0, 5], "Ethernet1", 100⟩]).InspectsRightly
          "Ethernet1" 10 Stale.frame Stale.request 103 := by
  constructor
  all_goals
    rw [Inner.InspectsRightly, Inner.handleArp_forwards_iff Stale.parseArp_frame (by decide +kernel)]
    decide +kernel

theorem inspectsRightly_iff_leased :
    (Stale.inner [] [⟨#v[10, 0, 0, 5], "Ethernet1", 1000⟩]).InspectsRightly
      "Ethernet1" 10 Stale.frame Stale.request 103 := by
  rw [inspectsRightly_iff Stale.parseArp_frame (by decide +kernel)]
  intro _ binding known
  have lease : binding = ⟨#v[10, 0, 0, 5], "Ethernet1", 1000⟩ :=
    Option.some.inj (known.symm.trans (by decide +kernel))
  subst lease
  decide +kernel

end Hemlock.SnoopSec
