import Hemlock.SnoopSec.Relay

/-!
# What may bind a client

A dynamic binding appears or changes only on the word of a DHCP server.  On the packet
path the engine makes sure of that; on the relay socket it believes any sender.
-/

namespace Hemlock.SnoopSec

open Bytes Checked Machine OrderedMap SnoopSec.Inner

abbrev Table := ClientMap DynamicBinding

/-- A binding that is new or differs from before has a cause. -/
def Grants (before after : Table) (Cause : String × UInt16 → Prop) : Prop :=
  ∀ (client : String × UInt16) binding, after[client]? = some binding →
    before[client]? = some binding ∨ Cause client

/-- No binding is new or differs from before. -/
def Shrinks (before after : Table) : Prop := Grants before after fun _ => False

variable {before after : Table}

theorem Grants.mono {Cause Cause' : String × UInt16 → Prop}
    (grants : Grants before after Cause) (weaker : ∀ client, Cause client → Cause' client) :
    Grants before after Cause' :=
  fun client binding hf => (grants client binding hf).imp_right (weaker client)

theorem Shrinks.grants (shrinks : Shrinks before after)
    (Cause : String × UInt16 → Prop) : Grants before after Cause :=
  Grants.mono shrinks fun _ => False.elim

theorem Shrinks.refl (table : Table) : Shrinks table table := fun _ _ hf => .inl hf

theorem Shrinks.trans {first second third : Table} (earlier : Shrinks first second)
    (later : Shrinks second third) : Shrinks first third := by
  intro client binding hf
  rcases later client binding hf with hk | impossible
  · exact earlier client binding hk
  · exact impossible.elim

theorem shrinks_erase (table : Table) (client : String × UInt16) : Shrinks table (table.erase client) := by
  intro other binding hf
  rw [lookup_erase] at hf
  split_ifs at hf
  exact .inl hf

theorem shrinks_filter (table : Table) (keep : String × UInt16 → DynamicBinding → Bool) :
    Shrinks table (table.filter keep) := by
  intro other binding hf
  rw [getElem?_filter', Option.filter_eq_some_iff] at hf
  exact .inl hf.1

theorem Inner.hearClient_shrinks (inner : Inner) (port : String) (vlan : UInt16)
    (dhcp : DhcpMessage) : Shrinks inner.dynamics (inner.hearClient port vlan dhcp).dynamics := by
  unfold hearClient
  split_ifs
  · exact shrinks_erase inner.dynamics _
  · exact Shrinks.refl inner.dynamics

theorem Inner.learn_grants (inner : Inner) (vlan : UInt16) (now : Nat) (chaddr : Mac)
    (yiaddr : Ipv4) (options : Options) :
    Grants inner.dynamics (inner.learn vlan now chaddr yiaddr options).dynamics fun client =>
      options.messageType = some 5 ∧ client = (macText chaddr.toList, vlan) := by
  unfold learn
  split
  · rename_i ack
    split_ifs
    · exact (Shrinks.refl inner.dynamics).grants _
    · intro client binding hf
      rw [lookup_insert] at hf
      split_ifs at hf with hs
      · exact .inr ⟨ack, hs.symm⟩
      · exact .inl hf
  all_goals exact (Shrinks.refl inner.dynamics).grants _

variable {inner : Inner} {vlan : UInt16} {relay : RelayVlan} {frame : List UInt8}
  {result : Inner × List Output}

theorem Inner.relayRequest_dynamics (ran : inner.relayRequest vlan relay frame = .ok result) :
    result.1.dynamics = inner.dynamics := by
  unfold relayRequest at ran
  split_ifs at ran
  · cases ran
    rfl
  · obtain ⟨payload, -, ran⟩ := bind_eq_ok.mp ran
    cases payload with
    | none =>
      cases ran
      rfl
    | some payload =>
      obtain ⟨relayed, -, ran⟩ := bind_eq_ok.mp ran
      cases ran
      rfl

variable {port : String}

theorem Inner.handleArp_dynamics (ran : inner.handleArp port vlan frame = .ok result) :
    result.1.dynamics = inner.dynamics := by
  obtain ⟨message, hp, ran⟩ := bind_eq_ok.mp ran
  cases message with
  | none =>
    cases ran
    rfl
  | some arp =>
    have long := length_of_parseArp hp
    dsimp only at ran
    rw [slice_of_le (by omega), ok_bind, slice_of_le (by omega), ok_bind] at ran
    split_ifs at ran <;> cases ran <;> rfl

/-- A frame is an acknowledgement for a client of its VLAN, from a trusted port of a
snooped VLAN. -/
def Inner.Acknowledged (inner : Inner) (port : String) (vlan : UInt16) (frame : List UInt8)
    (client : String × UInt16) : Prop :=
  vlan ∈ inner.config.dhcpVlans ∧ inner.trustsDhcp port = true ∧
    ∃ ack, parseDhcp frame = .ok (some ack) ∧ ack.isReply = true ∧
      ack.options.messageType = some 5 ∧ client = (macText ack.chaddr.toList, vlan)

variable {now : Nat}

theorem Inner.handleDhcp_grants (long : 14 ≤ frame.length)
    (ran : inner.handleDhcp port vlan frame now = .ok result) :
    Grants inner.dynamics result.1.dynamics (inner.Acknowledged port vlan frame) := by
  have hu := (Shrinks.refl inner.dynamics).grants (inner.Acknowledged port vlan frame)
  obtain ⟨message, hp, ran⟩ := bind_eq_ok.mp ran
  cases message with
  | none =>
    cases ran
    exact hu
  | some dhcp =>
    dsimp only at ran
    rw [slice_of_le (by omega), ok_bind] at ran
    split_ifs at ran with snooped reply trusted
    · cases ran
      apply (learn_grants _ vlan now dhcp.chaddr dhcp.yiaddr dhcp.options).mono
      rintro client ⟨ack, named⟩
      exact ⟨snooped, trusted, dhcp, hp, reply, ack, named⟩
    all_goals try
      cases ran
      exact hu
    all_goals
      -- a client's message can only take its binding away
      have heard := hearClient_shrinks
        (inner.countDhcp vlan fun stats => { stats with packets := stats.packets + 1 }) port vlan dhcp
      apply Shrinks.grants
      split at ran
      · rw [relayRequest_dynamics ran]
        exact heard
      · cases ran
        exact heard

theorem Inner.handleFrame_grants (ran : inner.handleFrame port vlan frame now = .ok result) :
    Grants inner.dynamics result.1.dynamics (inner.Acknowledged port vlan frame) := by
  have hu := (Shrinks.refl inner.dynamics).grants (inner.Acknowledged port vlan frame)
  unfold handleFrame at ran
  split_ifs at ran with short
  · cases ran
    exact hu
  simp (disch := omega) only [index_of_lt, ok_bind] at ran
  split_ifs at ran
  · rw [handleArp_dynamics ran]
    exact hu
  · exact handleDhcp_grants (by omega) ran
  · cases ran
    exact hu

theorem Inner.handleRelayReply_grants {giaddr : Ipv4} {payload : List UInt8}
    (ran : inner.handleRelayReply giaddr payload now = .ok result) :
    Grants inner.dynamics result.1.dynamics fun client =>
      ∃ relay, inner.config.relayFor giaddr = some (client.2, relay) := by
  unfold handleRelayReply at ran
  split at ran
  · cases ran
    exact (Shrinks.refl inner.dynamics).grants _
  · rename_i vlan relay hk
    obtain ⟨message, -, ran⟩ := bind_eq_ok.mp ran
    cases message with
    | none =>
      cases ran
      exact (Shrinks.refl inner.dynamics).grants _
    | some reply =>
      dsimp only at ran
      split_ifs at ran <;> cases ran
      · exact (Shrinks.refl inner.dynamics).grants _
      · apply (learn_grants inner vlan now reply.chaddr reply.yiaddr reply.options).mono
        rintro client ⟨-, rfl⟩
        exact ⟨relay, hk⟩

/-- What entitles an input to bind a client: it is an acknowledgement from a trusted
port of a snooped VLAN, or it comes from one of the DHCP servers of the VLAN. -/
def Inner.Entitled (inner : Inner) (input : Input) (client : String × UInt16) : Prop :=
  match input.event with
  | .frame port vlan bytes => inner.Acknowledged port vlan bytes client
  | .datagram source giaddr _ =>
    ∃ relay, inner.config.relay[client.2]? = some relay ∧ relay.giaddr = giaddr ∧
      source ∈ relay.servers
  | _ => False

/-- A datagram on a relay socket comes from a server of the VLAN that the engine takes it
for. -/
def Inner.Genuine (inner : Inner) (input : Input) : Prop :=
  match input.event with
  | .datagram source giaddr _ =>
    ∀ vlan relay, inner.config.relayFor giaddr = some (vlan, relay) → source ∈ relay.servers
  | _ => True

theorem Config.relay_of_relayFor {config : Config} {giaddr : Ipv4}
    (hk : config.relayFor giaddr = some (vlan, relay)) :
    config.relay[vlan]? = some relay ∧ relay.giaddr = giaddr := by
  have hf := List.find?_some hk
  have hl := List.mem_of_find?_eq_some hk
  rw [mem_toList_iff_getElem?_eq_some] at hl
  exact ⟨hl, of_decide_eq_true hf⟩

theorem Inner.pushRedirects_dynamics (inner : Inner) : inner.pushRedirects.1.dynamics = inner.dynamics := by
  unfold pushRedirects
  dsimp only
  split_ifs <;> rfl

theorem Inner.next_grants {input : Input} (genuine : inner.Genuine input) :
    Grants inner.dynamics (inner.next input).dynamics (inner.Entitled input) := by
  have hu := (Shrinks.refl inner.dynamics).grants (inner.Entitled input)
  obtain ⟨now, event⟩ := input
  cases event with
  | setConfig _ | setL2View _ =>
    simp only [next, react, setConfig, setL2View]
    split_ifs
    · exact hu
    · exact (pushRedirects_dynamics _).symm ▸ hu
  | frame port vlan bytes =>
    rw [next]
    split
    · rename_i ran
      exact handleFrame_grants ran
    · exact hu
  | datagram source giaddr bytes =>
    rw [next]
    split
    · rename_i ran
      apply (handleRelayReply_grants ran).mono
      rintro client ⟨relay, hk⟩
      obtain ⟨configured, address⟩ := Config.relay_of_relayFor hk
      exact ⟨relay, configured, address, genuine client.2 relay hk⟩
    · exact hu
  | expireLeases => exact (shrinks_filter inner.dynamics _).grants _
  | clearBindings mac =>
    apply Shrinks.grants
    cases mac with
    | none =>
      intro client binding hf
      change (∅ : Table)[client]? = some binding at hf
      simp at hf
    | some mac => exact shrinks_filter inner.dynamics _

def Inner.UntrustedFrame (inner : Inner) (input : Input) : Prop :=
  match input.event with
  | .frame port _ _ => inner.trustsDhcp port = false
  | _ => False

theorem Inner.next_shrinks {input : Input} (untrusted : inner.UntrustedFrame input) :
    Shrinks inner.dynamics (inner.next input).dynamics := by
  obtain ⟨now, event⟩ := input
  cases event with
  | frame port vlan bytes =>
    apply Grants.mono (next_grants (by trivial))
    rintro client ⟨-, trusted, -⟩
    rw [untrusted] at trusted
    cases trusted
  | _ => exact untrusted.elim

/-- The binding table only ever takes the word of a DHCP server, in every run in which the
relay sockets hear none but the configured servers; and frames from untrusted ports
alone never bind anyone, nor change what is bound. -/
theorem bindings_entitled (stored : Table) (systemMac : Mac) (inputs : List Input) :
    let snooping := engine stored systemMac
    (snooping.Throughout Inner.Genuine inputs → snooping.Throughout
        (fun inner input =>
          Grants inner.dynamics (inner.next input).dynamics (inner.Entitled input)) inputs) ∧
    ∀ frames : List Input, (∀ before input after, frames = before ++ input :: after →
        (snooping.run (inputs ++ before)).UntrustedFrame input) →
      Shrinks (snooping.run inputs).dynamics (snooping.run (inputs ++ frames)).dynamics := by
  intro snooping
  refine ⟨?_, ?_⟩
  · intro genuine before input after split
    exact Inner.next_grants (genuine before input after split)
  · intro frames untrusted
    induction frames using List.reverseRecOn with
    | nil =>
      rw [List.append_nil]
      exact Shrinks.refl _
    | append_singleton frames frame ih =>
      have earlier := ih fun before input after split =>
        untrusted before input (after ++ [frame]) (by simp [split])
      rw [← List.append_assoc, run_concat]
      exact earlier.trans (Inner.next_shrinks (untrusted frames frame [] rfl))

namespace Rogue

def config : Config where
  dhcpVlans := .ofList [10] compare
  relay := .ofList [(10, Short.server)] compare

def systemMac : Mac := switchMac

def configured : List Input := [⟨0, .setConfig config⟩]

def reply (source : Ipv4) : Input := ⟨100, .datagram source Short.server.giaddr Short.ack⟩

def binding : DynamicBinding := ⟨Short.lease, "", 86500⟩

theorem binds (source : Ipv4) :
    (((engine ∅ systemMac).run configured).next (reply source)).dynamics[
      ("00:1c:73:0c:aa:01", (10 : UInt16))]? = some binding := by
  -- the engine does not look at the source
  have unread (inner : Inner) : inner.next (reply source) = inner.next (reply unspecified) := rfl
  rw [unread]
  decide +kernel

theorem relay_configured :
    ((engine ∅ systemMac).run configured).config = config := by decide +kernel

end Rogue

/-- 203.0.113.9 is no server of the VLAN, and binds a client there. -/
theorem rogue_server_binds : let snooping := engine ∅ Rogue.systemMac
    let input := Rogue.reply #v[203, 0, 113, 9]
    ¬ snooping.Throughout
      (fun inner input => Grants inner.dynamics (inner.next input).dynamics (inner.Entitled input))
      (Rogue.configured ++ [input]) := by
  intro snooping input entitled
  have last := (throughout_concat.mp entitled).2
  have grants := last ("00:1c:73:0c:aa:01", 10) Rogue.binding (Rogue.binds _)
  rcases grants with known | ⟨relay, configured, -, server⟩
  · exact absurd known (by decide +kernel)
  · rw [Rogue.relay_configured] at configured
    have only : relay = ⟨[#v[192, 0, 2, 1]], #v[10, 0, 0, 1]⟩ :=
      Option.some.inj (configured.symm.trans (by decide +kernel))
    subst only
    exact absurd server (by decide)

/-- A server binds a client; an untrusted port of the snooped VLAN then sends an acknowledgement. -/
theorem bindings_entitled_server : let snooping := engine ∅ Rogue.systemMac
    let inputs := Rogue.configured ++ [Rogue.reply #v[192, 0, 2, 1]]
    snooping.Throughout
        (fun inner input =>
          Grants inner.dynamics (inner.next input).dynamics (inner.Entitled input)) inputs ∧
      Shrinks (snooping.run inputs).dynamics
        (snooping.run (inputs ++ [⟨101, .frame "Ethernet1" 10 Short.ackFrame⟩])).dynamics := by
  intro snooping inputs
  have entitled := bindings_entitled ∅ Rogue.systemMac inputs
  refine ⟨entitled.1 ?_, entitled.2 _ ?_⟩
  · refine throughout_concat.mpr ⟨?_, ?_⟩
    · exact throughout_concat.mpr ⟨throughout_nil snooping _, trivial⟩
    · intro vlan relay known
      have only : ((10 : UInt16), (⟨[#v[192, 0, 2, 1]], #v[10, 0, 0, 1]⟩ : RelayVlan)) = (vlan, relay) :=
        Option.some.inj (Eq.trans (by decide +kernel) known)
      cases only
      decide
  · intro before input after split
    rcases List.append_eq_singleton_iff.mp split.symm with ⟨rfl, same⟩ | ⟨rfl, same⟩
    · cases same
      change Inner.trustsDhcp _ "Ethernet1" = false
      decide +kernel
    · cases same

end Hemlock.SnoopSec
