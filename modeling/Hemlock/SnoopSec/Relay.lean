import Hemlock.SnoopSec.Inspection

/-!
# Relayed requests

What the relay sends on to the servers.  `parseDhcp` reads a frame to its end;
`bootpPayload` cuts the copy that is relayed at the IP total length.
-/

namespace Hemlock.SnoopSec

open Bytes Checked SnoopSec.Inner

def totalLength (frame : List UInt8) : Nat := (be16At frame 16).toNat

theorem bootpPayload_eq {frame : List UInt8} (headers : ToDhcpPort frame) : bootpPayload frame =
      .ok (some ((udpBody frame).take (totalLength frame - (headerLength frame + 8)))) := by
  obtain ⟨long, version, protocol, whole, -⟩ := headers
  have ip : (frame.drop 14).length = frame.length - 14 := List.length_drop
  have start : getFrom? frame 14 = some (frame.drop 14) := if_pos (by omega)
  rw [bootpPayload, start]
  dsimp only
  rw [if_neg (by omega)]
  simp (disch := omega) only [index_of_lt, ok_bind]
  simp only [byteAt_drop]
  rw [if_neg (by tauto), ← headerLength, clamp_of_le (by omega)]
  have inside : getRange? (frame.drop 14) (headerLength frame + 8)
      (max (headerLength frame + 8) (min (totalLength frame) (frame.drop 14).length)) =
        some ((udpBody frame).take (totalLength frame - (headerLength frame + 8))) := by
    rw [getRange?, if_pos (by omega), List.drop_take, List.drop_drop, udpBody, ← Nat.add_assoc]
    congr 1
    simp only [List.take_eq_take_iff, List.length_drop]
    omega
  exact congrArg Except.ok inside

theorem withGiaddr_spec (payload : List UInt8) (giaddr : Ipv4) :
    ∃ relayed, withGiaddr payload giaddr = .ok relayed ∧ relayed.length = payload.length ∧
      ∀ position, position ≠ 3 → ¬ (24 ≤ position ∧ position < 28) →
        byteAt relayed position = byteAt payload position := by
  unfold withGiaddr
  by_cases short : payload.length < 28
  · exact ⟨payload, if_pos short, rfl, fun _ _ _ => rfl⟩
  rw [index_of_lt (by omega), ok_bind]
  generalize saturatingSucc (byteAt payload 3) = hops
  have length : (payload.set 3 hops).length = payload.length := List.length_set
  have others (position : Nat) (notHops : position ≠ 3) :
      byteAt (payload.set 3 hops) position = byteAt payload position := by
    simp [byteAt, List.getElem?_set_ne (Ne.symm notHops)]
  dsimp only
  rw [slice_of_le (by omega), ok_bind]
  split_ifs
  · refine ⟨_, rfl, ?_, ?_⟩
    · simp only [List.length_append, List.length_take, List.length_drop, Vector.length_toList]
      omega
    · intro position notHops outside
      rw [← others position notHops]
      have kept := @byteAt_splice (payload.set 3 hops) giaddr.toList 24 position (by omega) (by
        rw [Vector.length_toList]
        omega)
      rwa [Vector.length_toList, ← List.append_assoc] at kept
  · exact ⟨_, rfl, length, fun position notHops _ => others position notHops⟩

/-- The payload is a BOOTP request of the client with the given hardware address. -/
def RequestFrom (payload source : List UInt8) : Prop :=
  ∃ message, parseBootp payload = .ok (some message) ∧ byteAt payload 0 = 1 ∧
    message.chaddr.toList = source

theorem requestFrom_iff (payload source : List UInt8) : RequestFrom payload source ↔
      240 ≤ payload.length ∧ (payload.take 240).drop 236 = magicCookie ∧ byteAt payload 0 = 1 ∧
        (sixAt payload 28).toList = source := by
  obtain ⟨options, read⟩ := parseOptions_returns 0 (payload.drop 240) {}
  rw [RequestFrom, parseBootp_eq read]
  by_cases message : 240 ≤ payload.length ∧ (payload.take 240).drop 236 = magicCookie
  · simp [message]
  · simp only [if_neg message, Except.ok.injEq]
    tauto

theorem requestFrom_withGiaddr {payload relayed source : List UInt8}
    (length : relayed.length = payload.length)
    (hs : ∀ position, position ≠ 3 → ¬ (24 ≤ position ∧ position < 28) →
      byteAt relayed position = byteAt payload position) :
    RequestFrom relayed source ↔ RequestFrom payload source := by
  have tail : relayed.drop 236 = payload.drop 236 :=
    drop_eq_of_byteAt length fun position later => hs position (by omega) (by omega)
  rw [requestFrom_iff, requestFrom_iff, List.drop_take, List.drop_take, tail, length,
    hs 0 (by omega) (by omega)]
  simp only [sixAt]
  rw [hs 28 (by omega) (by omega), hs 29 (by omega) (by omega), hs 30 (by omega) (by omega),
    hs 31 (by omega) (by omega), hs 32 (by omega) (by omega), hs 33 (by omega) (by omega)]

variable {body source : List UInt8}

theorem requestFrom_take {length : Nat}
    (request : RequestFrom body source) : RequestFrom (body.take length) source ↔ 240 ≤ length := by
  rw [requestFrom_iff] at request ⊢
  rw [List.length_take]
  constructor
  · intro taken
    omega
  · intro enough
    refine ⟨by omega, ?_, ?_, ?_⟩
    · rw [List.take_take, Nat.min_eq_left enough]
      exact request.2.1
    · rw [byteAt_take (by omega)]
      exact request.2.2.1
    · rw [← request.2.2.2]
      simp only [sixAt]
      repeat rw [byteAt_take (by omega)]

/-- Everything that is relayed is a request of the given client. -/
def RelaysRequests (outputs : List Output) (source : List UInt8) : Prop :=
  ∀ datagram, .relay datagram ∈ outputs → RequestFrom datagram.payload source

def etherSource (frame : List UInt8) : List UInt8 := (frame.take 12).drop 6

/-- The frame is a request from a client of a snooped VLAN with a working relay, and
names the client it comes from. -/
structure Inner.Relayable (inner : Inner) (vlan : UInt16) (frame : List UInt8) : Prop where
  snooped : vlan ∈ inner.config.dhcpVlans
  headers : ToDhcpPort frame
  request : RequestFrom (udpBody frame) (etherSource frame)
  relay : ∃ relay, inner.config.relay[vlan]? = some relay ∧ relay.giaddr ≠ unspecified ∧
    relay.servers ≠ []

theorem relaysRequests_packets (ports : List String) (frame source : List UInt8) :
    RelaysRequests (ports.map fun port => .packet port frame) source := by
  intro datagram sent
  simp at sent

theorem Inner.handleArp_returns (inner : Inner) (port : String) (vlan : UInt16)
    (frame source : List UInt8) :
    ∃ result, inner.handleArp port vlan frame = .ok result ∧ RelaysRequests result.2 source := by
  obtain ⟨message, hp⟩ := parseArp_returns frame
  rw [handleArp, hp, ok_bind]
  cases message with
  | none => exact ⟨_, rfl, relaysRequests_packets [] frame source⟩
  | some arp =>
    have long := length_of_parseArp hp
    dsimp only
    rw [slice_of_le (by omega), ok_bind, slice_of_le (by omega), ok_bind]
    -- every outcome but forwarding sends nothing
    split_ifs <;> first
      | exact ⟨_, rfl, relaysRequests_packets [] frame source⟩
      | exact ⟨_, rfl, relaysRequests_packets _ frame source⟩

theorem Inner.relayRequest_spec {inner : Inner} {vlan : UInt16} {relay : RelayVlan}
    {frame : List UInt8} (headers : ToDhcpPort frame)
    (request : RequestFrom (udpBody frame) (etherSource frame)) :
    ∃ result, inner.relayRequest vlan relay frame = .ok result ∧
      (RelaysRequests result.2 (etherSource frame) ↔ (relay.giaddr ≠ unspecified ∧ relay.servers ≠ [] →
          headerLength frame + 8 + 240 ≤ totalLength frame)) := by
  unfold relayRequest
  split_ifs with unusable
  · exact ⟨_, rfl, iff_of_true (relaysRequests_packets [] frame _) (by tauto)⟩
  rw [bootpPayload_eq headers, ok_bind]
  obtain ⟨relayed, ran, length, hs⟩ := withGiaddr_spec
    ((udpBody frame).take (totalLength frame - (headerLength frame + 8))) relay.giaddr
  dsimp only
  rw [ran]
  refine ⟨_, rfl, ?_⟩
  have valid : RelaysRequests (relay.servers.map fun server => .relay ⟨server, relay.giaddr, relayed⟩)
      (etherSource frame) ↔ RequestFrom relayed (etherSource frame) := by
    obtain ⟨server, hk⟩ := List.exists_mem_of_ne_nil relay.servers (by tauto)
    constructor
    · intro valid
      exact valid _ (List.mem_map.mpr ⟨server, hk, rfl⟩)
    · rintro valid datagram sent
      obtain ⟨_, _, rfl⟩ := by simpa using sent
      exact valid
  rw [valid, requestFrom_withGiaddr length hs, requestFrom_take request]
  constructor
  · intro enough _
    omega
  · intro enough
    have bound := enough (by tauto)
    omega

theorem requestFrom_of_isMessage {body source : List UInt8} (message : IsMessage body)
    (op : byteAt body 0 ≠ 2) : RequestFrom body source ↔ (sixAt body 28).toList = source := by
  rw [requestFrom_iff]
  have hk : byteAt body 0 = 1 := by
    rcases message.2.1 with request | reply
    · exact request
    · exact absurd reply op
  simp [message.1, message.2.2, hk]

theorem isMessage_of_requestFrom (request : RequestFrom body source) :
    IsMessage body ∧ byteAt body 0 = 1 := by
  rw [requestFrom_iff] at request
  exact ⟨⟨request.1, Or.inl request.2.2.1, request.2.1⟩, request.2.2.1⟩

theorem Inner.hearClient_config (inner : Inner) (port : String) (vlan : UInt16)
    (dhcp : DhcpMessage) : (inner.hearClient port vlan dhcp).config = inner.config := by
  unfold hearClient
  split_ifs <;> rfl

theorem Inner.handleDhcp_spec (inner : Inner) (port : String) (vlan : UInt16)
    (frame : List UInt8) (now : Nat) (long : 14 ≤ frame.length) :
    ∃ result, inner.handleDhcp port vlan frame now = .ok result ∧
      (RelaysRequests result.2 (etherSource frame) ↔
        (inner.Relayable vlan frame → headerLength frame + 8 + 240 ≤ totalLength frame)) := by
  have quiet {state : Inner} (notRelayed : ¬ inner.Relayable vlan frame) :
      ∃ result, (.ok (state, []) : Checked (Inner × List Output)) = .ok result ∧
        (RelaysRequests result.2 (etherSource frame) ↔
          (inner.Relayable vlan frame → headerLength frame + 8 + 240 ≤ totalLength frame)) :=
    ⟨_, rfl, iff_of_true (relaysRequests_packets [] frame _) fun relayed =>
      absurd relayed notRelayed⟩
  have notReply (relayed : inner.Relayable vlan frame) : byteAt (udpBody frame) 0 ≠ 2 := by
    rw [(isMessage_of_requestFrom relayed.request).2]
    decide
  obtain ⟨options, read⟩ := parseOptions_returns 0 ((udpBody frame).drop 240) {}
  rw [handleDhcp, parseDhcp_eq frame read, ok_bind]
  by_cases isDhcp : ToDhcpPort frame ∧ IsMessage (udpBody frame)
  · rw [if_pos isDhcp]
    dsimp only
    rw [slice_of_le (by omega), ok_bind, ← etherSource]
    by_cases snooped : vlan ∈ inner.config.dhcpVlans
    swap
    · rw [if_pos snooped]
      exact quiet fun relayed => snooped relayed.snooped
    rw [if_neg (not_not.mpr snooped)]
    by_cases reply : byteAt (udpBody frame) 0 = 2
    · rw [if_pos (decide_eq_true reply)]
      split_ifs <;> exact quiet fun relayed => notReply relayed reply
    rw [if_neg (by simpa using reply)]
    have isRequest := @requestFrom_of_isMessage _ (etherSource frame) isDhcp.2 reply
    by_cases named : (sixAt (udpBody frame) 28).toList = etherSource frame
    swap
    · rw [if_pos named]
      exact quiet fun relayed => named (isRequest.mp relayed.request)
    rw [if_neg (not_not.mpr named), hearClient_config, countDhcp]
    cases configured : inner.config.relay[vlan]? with
    | none =>
      refine ⟨_, rfl, iff_of_true ?_ ?_⟩
      · split_ifs
        · exact relaysRequests_packets [] frame _
        · exact relaysRequests_packets _ frame _
      · rintro ⟨-, -, -, relay, hf, -⟩
        rw [configured] at hf
        cases hf
    | some relay =>
      obtain ⟨result, ran, valid⟩ :=
        relayRequest_spec isDhcp.1 (isRequest.mpr named)
      refine ⟨result, ran, valid.trans ?_⟩
      constructor
      · rintro enough ⟨-, -, -, other, hf, usable⟩
        rw [configured] at hf
        cases hf
        exact enough usable
      · intro enough usable
        exact enough ⟨snooped, isDhcp.1, isRequest.mpr named, relay, configured, usable⟩
  · rw [if_neg isDhcp]
    exact quiet fun relayed => isDhcp ⟨relayed.headers, (isMessage_of_requestFrom relayed.request).1⟩

/-- Handling a frame never panics, and everything it relays is a request of the frame's
sender exactly when the IP total length of a frame that is relayed leaves room for the
fixed part of a request. -/
theorem relaysRequests_iff (inner : Inner) (port : String) (vlan : UInt16) (frame : List UInt8)
    (now : Nat) : ∃ result, inner.handleFrame port vlan frame now = .ok result ∧
      (RelaysRequests result.2 (etherSource frame) ↔
        (be16At frame 12 = 0x0800 → inner.Relayable vlan frame →
          headerLength frame + 8 + 240 ≤ totalLength frame)) := by
  unfold Inner.handleFrame
  by_cases short : frame.length < 14
  · rw [if_pos short]
    refine ⟨_, rfl, iff_of_true (relaysRequests_packets [] frame _) ?_⟩
    intro _ relayed
    have long := relayed.headers.1
    omega
  rw [index_of_lt (by omega), ok_bind, index_of_lt (by omega), ok_bind, ← be16At]
  dsimp only
  split_ifs with isArp isIp
  · obtain ⟨result, ran, valid⟩ := inner.handleArp_returns port vlan frame (etherSource frame)
    refine ⟨result, ran, iff_of_true valid ?_⟩
    intro isIp
    rw [isArp] at isIp
    exact absurd isIp (by decide)
  · obtain ⟨result, ran, valid⟩ := inner.handleDhcp_spec port vlan frame now (by omega)
    exact ⟨result, ran, valid.trans ⟨fun within _ => within, fun within => within isIp⟩⟩
  · exact ⟨_, rfl, iff_of_true (relaysRequests_packets [] frame _) fun isIp' => absurd isIp' isIp⟩

namespace Short

def client : List UInt8 := [0x00, 0x1c, 0x73, 0x0c, 0xaa, 0x01]

/-- A DISCOVER whose IP total length covers no more than the two headers. -/
def frame : List UInt8 :=
  List.replicate 6 0xff ++ client ++ [0x08, 0x00] ++
    ([0x45, 0] ++ be16 28 ++ [0, 0, 0, 0, 64, 17, 0, 0, 0, 0, 0, 0, 255, 255, 255, 255]) ++
    (be16 68 ++ be16 67 ++ be16 252 ++ [0, 0]) ++
    ([1, 1, 6, 0] ++ List.replicate 24 0 ++ client ++ List.replicate 202 0 ++ magicCookie ++
      [53, 1, 1, 255])

def server : RelayVlan := ⟨[#v[192, 0, 2, 1]], #v[10, 0, 0, 1]⟩

/-- VLAN 10 is snooped and relayed to 192.0.2.1. -/
def inner : Inner where
  config :=
    { dhcpVlans := .ofList [10] compare
      relay := .ofList [(10, server)] compare }
  dynamics := ∅
  systemMac := switchMac

end Short

/-- The server is sent a datagram without content. -/
theorem empty_request_relayed :
    (Short.inner.handleFrame "Ethernet1" 10 Short.frame 0).map Prod.snd =
        .ok [.relay ⟨#v[192, 0, 2, 1], #v[10, 0, 0, 1], []⟩] ∧
      ¬ RequestFrom [] (etherSource Short.frame) := by
  constructor
  · decide +kernel
  · rw [requestFrom_iff]
    rintro ⟨long, -⟩
    exact absurd long (by decide)

variable {payload : List UInt8}

/-- Where a reply goes: to everyone when the client asked for that or has no address yet. -/
def BootpReply.destination (reply : BootpReply) : List UInt8 × List UInt8 :=
  if reply.broadcastFlag = true ∨ reply.yiaddr = unspecified then
    (List.replicate 6 0xff, List.replicate 4 0xff)
  else (reply.chaddr.toList, reply.yiaddr.toList)

theorem buildClientReply_spec {systemMac : Mac} {giaddr : Ipv4} {reply : BootpReply} {frame : List UInt8}
    (long : 240 ≤ payload.length) (short : payload.length ≤ 1500)
    (built : buildClientReply systemMac giaddr reply payload = frame) :
    ToDhcpPort frame ∧ udpBody frame = payload ∧ headerLength frame = 20 ∧
      totalLength frame = 28 + payload.length ∧
      foldCarries (wordSum ((frame.drop 14).take 20)) = 0xffff ∧
      (frame.take 6, (frame.drop 30).take 4) = reply.destination := by
  rw [buildClientReply, Nat.sub_eq_zero_of_le (by rw [List.length_append]; omega)] at built
  generalize isAll : (reply.broadcastFlag || decide (reply.yiaddr = unspecified)) = toAll at built
  generalize isMac : (if toAll then #v[0xff, 0xff, 0xff, 0xff, 0xff, 0xff] else reply.chaddr) = dstMac at built
  generalize isIp : (if toAll then broadcast else reply.yiaddr) = dstIp at built
  have sum := @foldCarries_checksum ([0x45, 0x00] ++ be16 (UInt16.ofNat (20 + (8 + payload.length))) ++
    [0, 0, 0x40, 0x00] ++ [64, 17]) (by simp [be16]) (Nat.add_pos_left (by decide) _) (giaddr.toList ++ dstIp.toList)
  have goes : (dstMac.toList, dstIp.toList) = reply.destination := by
    rw [← isMac, ← isIp, ← isAll]
    simp only [BootpReply.destination, Bool.or_eq_true, decide_eq_true_eq]
    split_ifs <;> rfl
  have length := congrArg List.length built
  simp only [List.length_append, be16, Vector.length_toList, List.length_cons, List.length_nil,
    List.length_replicate] at length
  obtain ⟨_, _, _, _, _, _, rfl⟩ := exists_six dstMac
  obtain ⟨_, _, _, _, _, _, rfl⟩ := exists_six systemMac
  obtain ⟨_, _, _, _, rfl⟩ := exists_four giaddr
  obtain ⟨_, _, _, _, rfl⟩ := exists_four dstIp
  have built := built.symm.trans (List.append_nil _)
  have version : byteAt frame 14 = 0x45 := congrArg (byteAt · 14) built
  have header : headerLength frame = 20 := by
    rw [headerLength, version]
    rfl
  have total : be16At frame 16 = UInt16.ofNat (20 + (8 + payload.length)) :=
    (congrArg (be16At · 16) built).trans (ofBe16_be16 _)
  have port : be16At frame 36 = 68 := (congrArg (be16At · 36) built).trans (ofBe16_be16 68)
  refine ⟨⟨by omega, by rw [version]; rfl, congrArg (byteAt · 23) built, by omega, .inr ?_⟩, ?_, header,
    ?_, ?_, ?_⟩
  · rw [header]
    exact port
  · rw [udpBody, header]
    exact congrArg (List.drop 42) built
  · rw [totalLength, total, UInt16.toNat_ofNat']
    omega
  · rw [← sum, built]
    rfl
  · rw [← goes, built]
    rfl

/-- A reply is read back from the frame it is relayed in, whole and behind a valid header. -/
theorem buildClientReply_framed {reply : BootpReply} (short : payload.length ≤ 1500)
    (accepted : parseBootp payload = .ok (some reply)) (isReply : reply.isReply = true)
    (systemMac : Mac) (giaddr : Ipv4) :
    let frame := buildClientReply systemMac giaddr reply payload
    parseDhcp frame = .ok (some ⟨true, reply.chaddr, reply.yiaddr, reply.options⟩) ∧
      bootpPayload frame = .ok (some payload) ∧
      foldCarries (wordSum ((frame.drop 14).take 20)) = 0xffff ∧
      (frame.take 6, (frame.drop 30).take 4) = reply.destination := by
  obtain ⟨options, read⟩ := parseOptions_returns 0 (payload.drop 240) {}
  rw [parseBootp_eq read] at accepted
  by_cases message : 240 ≤ payload.length ∧ (payload.take 240).drop 236 = magicCookie
  swap
  · rw [if_neg message] at accepted
    cases accepted
  rw [if_pos message] at accepted
  obtain rfl := Option.some.inj (Except.ok.inj accepted)
  have op : byteAt payload 0 = 2 := of_decide_eq_true isReply
  intro frame
  obtain ⟨headers, body, header, total, sum, goes⟩ :=
    @buildClientReply_spec _ systemMac giaddr _ frame message.1 short rfl
  refine ⟨?_, ?_, sum, goes⟩
  · rw [parseDhcp_eq frame (body ▸ read), body, if_pos ⟨headers, message.1, .inr op, message.2⟩, op]
    rfl
  · rw [bootpPayload_eq headers, body, header, total, List.take_of_length_le (by omega)]

/-- An acknowledgement of 10.0.0.66. -/
def Short.ack : List UInt8 :=
  [2, 1, 6, 0] ++ List.replicate 12 0 ++ [10, 0, 0, 66] ++ List.replicate 8 0 ++ client ++
    List.replicate 202 0 ++ magicCookie ++ [53, 1, 5, 255]

def Short.lease : Ipv4 := #v[10, 0, 0, 66]

def Short.acknowledged : BootpReply := ⟨true, Stale.client, lease, false, { messageType := some 5 }⟩

def Short.ackFrame : List UInt8 := buildClientReply switchMac server.giaddr acknowledged ack

theorem ackFrame_framed :
    parseDhcp Short.ackFrame = .ok (some ⟨true, Stale.client, Short.lease, { messageType := some 5 }⟩) ∧
      bootpPayload Short.ackFrame = .ok (some Short.ack) ∧
      (Short.ackFrame.take 6, (Short.ackFrame.drop 30).take 4) = (Short.client, [10, 0, 0, 66]) := by
  obtain ⟨read, payload, -, goes⟩ := @buildClientReply_framed Short.ack Short.acknowledged
    (by decide +kernel) (by decide +kernel) rfl switchMac Short.server.giaddr
  exact ⟨read, payload, goes⟩

/-- Whatever the relay socket receives, the engine goes on, and a client gets what the server
sent, byte for byte. -/
theorem relay_reply_intact (inner : Inner) (source giaddr : Ipv4) (datagram : List UInt8) (now : Nat) :
    ∃ result, inner.react ⟨now, .datagram source giaddr datagram⟩ = .ok result ∧
      ∀ output ∈ result.2, ∃ target frame, output = .packet target frame ∧
        bootpPayload frame = .ok (some (datagram.take 1500)) := by
  change ∃ result, inner.handleRelayReply giaddr (datagram.take 1500) now = .ok result ∧ _
  unfold handleRelayReply
  obtain ⟨options, read⟩ := parseOptions_returns 0 ((datagram.take 1500).drop 240) {}
  split
  · exact ⟨_, rfl, by simp⟩
  rw [parseBootp_eq read, ok_bind]
  split_ifs with message
  swap
  · exact ⟨_, rfl, by simp⟩
  dsimp only
  split_ifs
  · exact ⟨_, rfl, by simp⟩
  refine ⟨_, rfl, fun output sent => ?_⟩
  obtain ⟨target, -, rfl⟩ := List.mem_map.mp sent
  obtain ⟨headers, body, header, total, -⟩ := buildClientReply_spec message.1 (by simp) rfl
  refine ⟨target, _, rfl, ?_⟩
  rw [bootpPayload_eq headers, body, header, total, List.take_of_length_le (by omega)]

end Hemlock.SnoopSec
