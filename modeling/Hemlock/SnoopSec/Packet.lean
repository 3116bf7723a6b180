import Hemlock.Library.Checked
import Hemlock.Names
import Mathlib.Data.Option.Basic

/-!
# DHCP and ARP packets

The readers of trapped frames and of relay replies, and the frames and datagrams that
the relay builds.  Everything that indexes bytes is `Checked`.
-/

namespace Hemlock.SnoopSec

open Bytes Checked

abbrev Ipv4 := Vector UInt8 4

def unspecified : Ipv4 := four 0 0 0 0

def broadcast : Ipv4 := #v[255, 255, 255, 255]

def isMulticast (addr : Ipv4) : Bool :=
  byteAt addr.toList 0 ≥ 224 && byteAt addr.toList 0 ≤ 239

def isLoopback (addr : Ipv4) : Bool := byteAt addr.toList 0 = 127

def ipv4At (bytes : List UInt8) (start : Nat) : Ipv4 := fourAt bytes start

def copyIpv4 (bytes : List UInt8) (start : Nat) : Checked Ipv4 := do
  return four (← index bytes start) (← index bytes (start + 1)) (← index bytes (start + 2))
    (← index bytes (start + 3))

def hexDigit (digit : Nat) : Char :=
  if digit < 10 then Char.ofNat ('0'.toNat + digit) else Char.ofNat ('a'.toNat + (digit - 10))

def hexByte (byte : UInt8) : List Char :=
  [hexDigit (byte.toNat / 16), hexDigit (byte.toNat % 16)]

def macChars : List UInt8 → List Char
  | [] => []
  | [byte] => hexByte byte
  | byte :: next :: rest => hexByte byte ++ ':' :: macChars (next :: rest)

def macText (bytes : List UInt8) : String := String.ofList (macChars bytes)

example : macText [0x00, 0x1c, 0x73, 0x0c, 0xaa, 0x01] = "00:1c:73:0c:aa:01" := by decide +kernel

theorem hexDigit_injective : ∀ first second : Fin 16,
    hexDigit first.val = hexDigit second.val → first = second := by
  decide

theorem hexByte_injective {first second : UInt8} (hs : hexByte first = hexByte second) :
    first = second := by
  obtain ⟨high, low⟩ := List.cons.inj hs
  have bound := first.toNat_lt
  have bound' := second.toNat_lt
  have highs := hexDigit_injective ⟨first.toNat / 16, by omega⟩ ⟨second.toNat / 16, by omega⟩ high
  have lows := hexDigit_injective ⟨first.toNat % 16, by omega⟩ ⟨second.toNat % 16, by omega⟩
    (List.cons.inj low).1
  apply UInt8.toNat_inj.mp
  simp only [Fin.mk.injEq] at highs lows
  omega

variable {first second : List UInt8}

theorem macChars_injective (hs : macChars first = macChars second) : first = second := by
  induction first generalizing second with
  | nil =>
    match second with
    | [] => rfl
    | [_] => cases hs
    | _ :: _ :: _ => cases hs
  | cons byte first ih =>
    match first, second with
    | [], [other] => rw [hexByte_injective hs]
    | [], other :: other' :: rest' => simp [macChars, hexByte] at hs
    | byte' :: rest, [other] => simp [macChars, hexByte] at hs
    | byte' :: rest, other :: other' :: rest' =>
      obtain ⟨bytes, tails⟩ := List.append_inj hs rfl
      rw [hexByte_injective bytes, ih (List.cons.inj tails).2]

theorem macText_inj : macText first = macText second ↔ first = second := by
  constructor
  · intro hs
    exact macChars_injective (by simpa [macText] using congrArg String.toList hs)
  · rintro rfl
    rfl

def magicCookie : List UInt8 := [99, 130, 83, 99]

/-- The options that are read: the message type and the lease time. -/
structure Options where
  messageType : Option UInt8 := none
  leaseSecs : Option UInt32 := none
  deriving DecidableEq

def Options.read (options : Options) (code length : UInt8) (value : List UInt8) : Checked Options := do
  if code = 53 && length = 1 then
    return { options with messageType := some (← index value 0) }
  else if code = 51 && length = 4 then
    return { options with
      leaseSecs := some (ofBe32 (← index value 0) (← index value 1) (← index value 2)
        (← index value 3)) }
  else
    return options

/-- The options of a message, after `skip` bytes that belong to the one before.  They
end at code 255 or where an option is cut short. -/
def parseOptions : Nat → List UInt8 → Options → Checked Options
  | _, [], options => pure options
  | skip + 1, _ :: rest, options => parseOptions skip rest options
  | 0, code :: rest, options =>
    if code = 0 then parseOptions 0 rest options
    else if code = 255 then pure options
    else
      match rest with
      | [] => pure options
      | length :: value =>
        if value.length < length.toNat then pure options
        else do
          let options ← options.read code length value
          parseOptions (1 + length.toNat) rest options

structure DhcpMessage where
  isReply : Bool
  chaddr : Mac
  yiaddr : Ipv4
  options : Options
  deriving DecidableEq

/-- What follows the UDP header of an IPv4 packet, if it goes to a DHCP port. -/
def udpPayload? (ip : List UInt8) (ihl : Nat) : Option (List UInt8) := do
  let udp ← getFrom? ip ihl
  let dport := ofBe16 (← udp[2]?) (← udp[3]?)
  guard (dport = 67 ∨ dport = 68)
  getFrom? udp 8

section

variable (frame : List UInt8)

/-- What follows the UDP header of an untagged IPv4/UDP frame to a DHCP port. -/
def dhcpOf : Checked (Option (List UInt8)) :=
  if frame.length < 14 + 20 + 8 then pure none
  else do
    let ip ← sliceFrom frame 14
    let versionIhl ← index ip 0
    let protocol ← index ip 9
    if versionIhl >>> 4 ≠ 4 ∨ protocol ≠ 17 then return none
    return udpPayload? ip ((versionIhl &&& 0xf).toNat * 4)

def headerLength : Nat := (byteAt frame 14 &&& 0xf).toNat * 4

def udpBody : List UInt8 := frame.drop (14 + headerLength frame + 8)

/-- The frame carries UDP over IPv4 to a DHCP port, headers whole. -/
def ToDhcpPort : Prop :=
  14 + 20 + 8 ≤ frame.length ∧ byteAt frame 14 >>> 4 = 4 ∧ byteAt frame 23 = 17 ∧
    14 + headerLength frame + 8 ≤ frame.length ∧
    (be16At frame (14 + headerLength frame + 2) = 67 ∨
      be16At frame (14 + headerLength frame + 2) = 68)

instance (frame : List UInt8) : Decidable (ToDhcpPort frame) := by
  unfold ToDhcpPort
  infer_instance

theorem udpPayload?_eq (ip : List UInt8) (ihl : Nat) : udpPayload? ip ihl =
      if ihl + 8 ≤ ip.length ∧ (be16At ip (ihl + 2) = 67 ∨ be16At ip (ihl + 2) = 68) then
        some (ip.drop (ihl + 8)) else none := by
  unfold udpPayload? getFrom?
  by_cases start : ihl ≤ ip.length
  · rw [if_pos start, Option.bind_eq_bind, Option.bind_some]
    by_cases whole : ihl + 8 ≤ ip.length
    · rw [List.getElem?_drop, List.getElem?_drop, getElem?_eq_byteAt (by omega),
        getElem?_eq_byteAt (by omega), List.length_drop, if_pos (by omega)]
      by_cases port : be16At ip (ihl + 2) = 67 ∨ be16At ip (ihl + 2) = 68
      · rw [if_pos ⟨whole, port⟩]
        rw [be16At] at port
        simp [port]
      · rw [if_neg fun headers => port headers.2]
        rw [be16At] at port
        simp [port]
    · have cut : ¬ 8 ≤ (ip.drop ihl).length := by
        rw [List.length_drop]
        omega
      rw [if_neg cut]
      simp [whole]
  · rw [if_neg start, if_neg fun headers => start (by omega)]
    rfl

theorem dhcpOf_eq : dhcpOf frame = .ok (if ToDhcpPort frame then some (udpBody frame) else none) := by
  unfold dhcpOf
  by_cases short : frame.length < 14 + 20 + 8
  · rw [if_pos short, if_neg fun headers => absurd headers.1 (by omega)]
    rfl
  have ip : (frame.drop 14).length = frame.length - 14 := List.length_drop
  simp (disch := omega) only [if_neg short, sliceFrom_of_le, index_of_lt, ok_bind]
  simp only [byteAt_drop]
  by_cases udp : byteAt frame 14 >>> 4 = 4 ∧ byteAt frame 23 = 17
  · rw [if_neg (by tauto)]
    have hs : ToDhcpPort frame ↔ headerLength frame + 8 ≤ (frame.drop 14).length ∧
        (be16At (frame.drop 14) (headerLength frame + 2) = 67 ∨
          be16At (frame.drop 14) (headerLength frame + 2) = 68) := by
      simp only [ToDhcpPort, udp, true_and, be16At, byteAt_drop]
      rw [and_iff_right (by omega : 14 + (20 + 8) ≤ frame.length)]
      exact and_congr_left fun _ => by omega
    rw [udpPayload?_eq, List.drop_drop, if_congr hs rfl rfl]
    rfl
  · rw [if_pos (by tauto), if_neg fun headers => udp ⟨headers.2.1, headers.2.2.1⟩]
    rfl

/-- A DHCP message out of an untagged IPv4/UDP frame. -/
def parseDhcp : Checked (Option DhcpMessage) := do
  match ← dhcpOf frame with
  | none => return none
  | some dhcp =>
    if dhcp.length < 240 then return none
    let op ← index dhcp 0
    if op ≠ 1 ∧ op ≠ 2 then return none
    let chaddr ← copySix dhcp 28
    let yiaddr ← copyIpv4 dhcp 16
    if (← slice dhcp 236 240) ≠ magicCookie then return none
    let options ← parseOptions 0 (← sliceFrom dhcp 240) {}
    return some ⟨op = 2, chaddr, yiaddr, options⟩

theorem Options.read_returns {code length : UInt8} {value : List UInt8}
    (whole : length.toNat ≤ value.length) (options : Options) :
    ∃ result, options.read code length value = .ok result := by
  unfold Options.read
  split_ifs with isType isLease
  · have one : length.toNat = 1 := by simp_all
    rw [index_of_lt (by omega)]
    exact ⟨_, rfl⟩
  · have four : length.toNat = 4 := by simp_all
    simp (disch := omega) only [index_of_lt]
    exact ⟨_, rfl⟩
  · exact ⟨_, rfl⟩

theorem parseOptions_returns (skip : Nat) (bytes : List UInt8) (options : Options) :
    ∃ result, parseOptions skip bytes options = .ok result := by
  fun_induction parseOptions skip bytes options with
  | case1 | case4 | case5 | case6 => exact ⟨_, rfl⟩
  | case2 | case3 => assumption
  | case7 code options _ _ length value whole ih =>
    obtain ⟨read, ran⟩ := Options.read_returns (Nat.le_of_not_lt whole) options
    rw [ran]
    exact ih read

theorem copyIpv4_of_le {bytes : List UInt8} {start : Nat} (inside : start + 4 ≤ bytes.length) :
    copyIpv4 bytes start = .ok (ipv4At bytes start) := by
  simp (disch := omega) only [copyIpv4, index_of_lt]
  rfl

/-- The fixed part of a DHCP message is there, with a known operation and the cookie. -/
def IsMessage (dhcp : List UInt8) : Prop :=
  240 ≤ dhcp.length ∧ (byteAt dhcp 0 = 1 ∨ byteAt dhcp 0 = 2) ∧
    (dhcp.take 240).drop 236 = magicCookie

instance (dhcp : List UInt8) : Decidable (IsMessage dhcp) := by
  unfold IsMessage
  infer_instance

theorem parseDhcp_eq {options : Options}
    (read : parseOptions 0 ((udpBody frame).drop 240) {} = .ok options) : parseDhcp frame =
      .ok (if ToDhcpPort frame ∧ IsMessage (udpBody frame) then
        some ⟨byteAt (udpBody frame) 0 = 2, sixAt (udpBody frame) 28, ipv4At (udpBody frame) 16,
          options⟩ else none) := by
  rw [parseDhcp, dhcpOf_eq, ok_bind]
  by_cases headers : ToDhcpPort frame
  · rw [if_pos headers]
    dsimp only
    generalize udpBody frame = dhcp at read
    by_cases short : dhcp.length < 240
    · rw [if_pos short, if_neg fun message => absurd message.2.1 (by omega)]
      rfl
    · simp (disch := omega) only [if_neg short, index_of_lt, copySix_of_le, copyIpv4_of_le, slice_of_le,
        sliceFrom_of_le, read, ok_bind]
      by_cases hk : byteAt dhcp 0 = 1 ∨ byteAt dhcp 0 = 2
      · rw [if_neg (by tauto)]
        by_cases cookie : (dhcp.take 240).drop 236 = magicCookie
        · rw [if_neg (not_not.mpr cookie), if_pos ⟨headers, by omega, hk, cookie⟩]
          rfl
        · rw [if_pos cookie, if_neg fun message => cookie message.2.2.2]
          rfl
      · rw [if_pos (by tauto), if_neg fun message => hk message.2.2.1]
        rfl
  · rw [if_neg headers, if_neg fun message => headers message.1]
    rfl

structure ArpMessage where
  isReply : Bool
  sha : Mac
  spa : Ipv4
  tha : Mac
  deriving DecidableEq

/-- An Ethernet/IPv4 ARP message out of an untagged frame. -/
def parseArp : Checked (Option ArpMessage) :=
  match getRange? frame 14 42 with
  | none => pure none
  | some arp => do
      if (← slice arp 0 2) ≠ [0, 1] ∨ (← slice arp 2 4) ≠ [8, 0] ∨ (← index arp 4) ≠ 6 ∨
          (← index arp 5) ≠ 4 then
        return none
      let oper := ofBe16 (← index arp 6) (← index arp 7)
      return some ⟨oper = 2, ← copySix arp 8, ← copyIpv4 arp 14, ← copySix arp 18⟩

theorem parseArp_returns : ∃ message, parseArp frame = .ok message := by
  unfold parseArp getRange?
  split_ifs with long
  · have length : ((frame.take 42).drop 14).length = 28 := by
      simp only [List.length_drop, List.length_take]
      omega
    generalize (frame.take 42).drop 14 = arp at length
    simp (disch := omega) only [slice_of_le, index_of_lt, copySix_of_le, copyIpv4_of_le, ok_bind]
    split_ifs <;> exact ⟨_, rfl⟩
  · exact ⟨none, rfl⟩

/-- The BOOTP payload of a trapped DHCP frame: the IP total length bounds it, so that
the padding of a short Ethernet frame stays out. -/
def bootpPayload : Checked (Option (List UInt8)) :=
  match getFrom? frame 14 with
  | none => pure none
  | some ip => do
      if ip.length < 20 then return none
      let versionIhl ← index ip 0
      let protocol ← index ip 9
      if versionIhl >>> 4 ≠ 4 ∨ protocol ≠ 17 then return none
      let ihl := (versionIhl &&& 0xf).toNat * 4
      let total := (ofBe16 (← index ip 2) (← index ip 3)).toNat
      let stop ← clamp total (ihl + 8) ip.length
      return getRange? ip (ihl + 8) stop

end

def saturatingSucc (byte : UInt8) : UInt8 := if byte = 255 then 255 else byte + 1

/-- The relayed copy of a request: one hop more, and the relay's address unless another
relay was before. -/
def withGiaddr (payload : List UInt8) (giaddr : Ipv4) : Checked (List UInt8) :=
  if payload.length < 28 then pure payload
  else do
    let out := payload.set 3 (saturatingSucc (← index payload 3))
    if (← slice out 24 28) = [0, 0, 0, 0] then
      return out.take 24 ++ giaddr.toList ++ out.drop 28
    return out

structure BootpReply where
  isReply : Bool
  chaddr : Mac
  yiaddr : Ipv4
  broadcastFlag : Bool
  options : Options
  deriving DecidableEq

/-- A bare BOOTP payload, as the relay socket receives it. -/
def parseBootp (payload : List UInt8) : Checked (Option BootpReply) :=
  if payload.length < 240 then pure none
  else do
    if (← slice payload 236 240) ≠ magicCookie then return none
    let chaddr ← copySix payload 28
    let options ← parseOptions 0 (← sliceFrom payload 240) {}
    let op ← index payload 0
    let yiaddr ← copyIpv4 payload 16
    let flags ← index payload 10
    return some ⟨op = 2, chaddr, yiaddr, flags &&& 0x80 ≠ 0, options⟩

theorem parseBootp_eq {payload : List UInt8} {options : Options}
    (read : parseOptions 0 (payload.drop 240) {} = .ok options) : parseBootp payload =
      .ok (if 240 ≤ payload.length ∧ (payload.take 240).drop 236 = magicCookie then
        some ⟨byteAt payload 0 = 2, sixAt payload 28, ipv4At payload 16,
          byteAt payload 10 &&& 0x80 ≠ 0, options⟩ else none) := by
  unfold parseBootp
  by_cases short : payload.length < 240
  · rw [if_pos short, if_neg fun message => absurd message.1 (by omega)]
    rfl
  · simp (disch := omega) only [if_neg short, slice_of_le, copySix_of_le, sliceFrom_of_le, read,
      index_of_lt, copyIpv4_of_le, ok_bind]
    by_cases cookie : (payload.take 240).drop 236 = magicCookie
    · rw [if_neg (not_not.mpr cookie), if_pos ⟨by omega, cookie⟩]
      rfl
    · rw [if_pos cookie, if_neg fun message => cookie message.2]
      rfl

/-- A relayed reply in Ethernet, IPv4 and UDP for the client side.  A client that asked
for a broadcast or has no address yet is sent to the broadcast addresses. -/
def buildClientReply (systemMac : Mac) (giaddr : Ipv4) (reply : BootpReply)
    (payload : List UInt8) : List UInt8 :=
  let toAll := reply.broadcastFlag || reply.yiaddr = unspecified
  let dstMac : Mac := if toAll then #v[0xff, 0xff, 0xff, 0xff, 0xff, 0xff] else reply.chaddr
  let dstIp := if toAll then broadcast else reply.yiaddr
  let udpLen := 8 + payload.length
  let totalLen := 20 + udpLen
  let head := [0x45, 0x00] ++ be16 (UInt16.ofNat totalLen) ++ [0, 0, 0x40, 0x00] ++ [64, 17]
  let addresses := giaddr.toList ++ dstIp.toList
  let ip := head ++ be16 (checksum (head ++ [0, 0] ++ addresses)) ++ addresses
  let udp := be16 67 ++ be16 68 ++ be16 (UInt16.ofNat udpLen) ++ [0, 0]
  let frame := dstMac.toList ++ systemMac.toList ++ [0x08, 0x00] ++ ip ++ udp ++ payload
  frame ++ List.replicate (60 - frame.length) 0

end Hemlock.SnoopSec
