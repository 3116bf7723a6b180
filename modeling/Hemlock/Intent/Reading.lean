import Hemlock.Intent.Types
import Hemlock.Routing.Prefix

/-!
# Reading single values

The texts of leaf values: bounded numbers, names, addresses, rates.  Each reader gives
its value or the reason why the text is refused.
-/

namespace Hemlock.Intent

open Net
open Rib (splitOnce)
open Routing (parseCidr canonicalPrefix requireCanonicalPrefix)

/-- A character as Rust's debug format writes it in a string; of the characters that are
not printable only the control characters are told apart. -/
def escapeDebug (ch : Char) : List Char :=
  if ch = '"' then ['\\', '"']
  else if ch = '\\' then ['\\', '\\']
  else if ch = '\n' then ['\\', 'n']
  else if ch = '\r' then ['\\', 'r']
  else if ch = '\t' then ['\\', 't']
  else if ch.toNat = 0 then ['\\', '0']
  else if ch.toNat < 32 ∨ ch.toNat = 127 then
    ['\\', 'u', '{'] ++ Nat.toDigits 16 ch.toNat ++ ['}']
  else [ch]

def debug (text : String) : String :=
  String.ofList ('"' :: text.toList.flatMap escapeDebug ++ ['"'])

/-- A number of a type with `limit` values, within bounds. -/
def parseInt (limit : Nat) (text : String) (low high : Nat) (what : String) : Except String Nat :=
  match (parseUnsigned 10 limit text.toList).filter fun value => low ≤ value && value ≤ high with
  | some value => .ok value
  | none => .error ("bad " ++ what ++ " " ++ debug text)

def parseInt8 (text : String) (low high : Nat) (what : String) : Except String UInt8 :=
  UInt8.ofNat <$> parseInt (2 ^ 8) text low high what

def parseInt16 (text : String) (low high : Nat) (what : String) : Except String UInt16 :=
  UInt16.ofNat <$> parseInt (2 ^ 16) text low high what

def parseInt32 (text : String) (low high : Nat) (what : String) : Except String UInt32 :=
  UInt32.ofNat <$> parseInt (2 ^ 32) text low high what

def parseVlanId (text : String) : Except String UInt16 :=
  match (parseUnsigned 10 (2 ^ 16) text.toList).filter fun id => 1 ≤ id && id ≤ 4094 with
  | some id => .ok (UInt16.ofNat id)
  | none => .error ("bad VLAN id " ++ debug text ++ " (1..4094)")

/-- A letter, then letters, digits, `_` or `-`, at most 32 bytes. -/
def validName (name : String) : Bool :=
  match name.toList with
  | [] => false
  | first :: rest =>
    first.isAlpha && name.utf8ByteSize ≤ 32 &&
      rest.all fun ch => ch.isAlphanum || ch = '_' || ch = '-'

def validAclName (name : String) : Bool := validName name

def validWredName (name : String) : Bool := validName name

def validSnmpName (name : String) : Bool := validName name

def validPoolName (name : String) : Bool := validName name

def validHostnameLabel (label : String) : Bool :=
  label ≠ "" && label.utf8ByteSize ≤ 63 && label.toList.head? ≠ some '-' &&
    label.toList.getLast? ≠ some '-' && label.toList.all fun ch => ch.isAlphanum || ch = '-'

def dottedParts (text : List Char) : List String := (text.splitOn '.').map String.ofList

def stripFinalDot (text : String) : List Char :=
  if text.toList.getLast? = some '.' then text.toList.dropLast else text.toList

/-- A dotted domain name; one trailing dot is accepted. -/
def validDomainName (name : String) : Bool :=
  let stripped := stripFinalDot name
  !stripped.isEmpty && (String.ofList stripped).utf8ByteSize ≤ 253 &&
    (dottedParts stripped).all validHostnameLabel

def validNtpServer (host : String) : Bool :=
  (parseIpAddr host.toList).isSome || validDomainName host

def reservedUsers : List String :=
  ["root", "daemon", "bin", "sys", "sync", "games", "man", "lp", "mail", "news", "uucp",
    "proxy", "www-data", "backup", "list", "irc", "nobody", "systemd-network",
    "systemd-resolve", "sshd", "messagebus", "frr", "snmp", "dnsmasq", "hemlock"]

/-- The account names that `useradd` takes. -/
def validUserName (name : String) : Bool :=
  match name.toList with
  | [] => false
  | first :: rest =>
    name.utf8ByteSize ≤ 32 && (first.isLower || first = '_') &&
      rest.all fun ch => ch.isLower || ch.isDigit || ch = '_' || ch = '-'

def isWhitespace (ch : Char) : Bool :=
  let code := ch.toNat
  (9 ≤ code && code ≤ 13) || code = 0x20 || code = 0x85 || code = 0xa0 || code = 0x1680 ||
    (0x2000 ≤ code && code ≤ 0x200a) || code = 0x2028 || code = 0x2029 || code = 0x202f ||
    code = 0x205f || code = 0x3000

def splitWhitespace (text : String) : List String :=
  ((text.toList.splitOnP isWhitespace).filter fun field => !field.isEmpty).map String.ofList

def trim (text : List Char) : List Char :=
  ((text.dropWhile isWhitespace).reverse.dropWhile isWhitespace).reverse

def sshKeyTypes : List String :=
  ["ssh-ed25519", "ssh-rsa", "ecdsa-sha2-nistp256", "ecdsa-sha2-nistp384",
    "ecdsa-sha2-nistp521", "sk-ssh-ed25519@openssh.com", "sk-ecdsa-sha2-nistp256@openssh.com",
    "rsa-sha2-256", "rsa-sha2-512"]

def validSshKey (key : String) : Bool :=
  match splitWhitespace key with
  | kind :: body :: _ =>
    sshKeyTypes.contains kind && 16 ≤ body.utf8ByteSize &&
      body.toList.all fun ch => ch.isAlphanum || ch = '+' || ch = '/' || ch = '='
  | _ => false

/-- Is this a crypt string that `/etc/shadow` would accept? -/
def validHash (hash : String) : Bool :=
  !hash.toList.any isWhitespace && match (hash.toList.splitOn '$').map String.ofList with
    | "" :: scheme :: rest =>
      ["6", "5", "y", "7", "2b", "2y"].contains scheme && 2 ≤ rest.length &&
        rest.all fun part => part ≠ ""
    | _ => false

def validZoneName (zone : String) : Bool :=
  zone ≠ "" && zone.utf8ByteSize ≤ 64 && zone.toList.head? ≠ some '/' &&
    zone.toList.getLast? ≠ some '/' &&
    ((zone.toList.splitOn '/').map String.ofList).all fun part =>
      part ≠ "" && part ≠ "." && part ≠ ".." &&
        part.toList.all fun ch => ch.isAlphanum || ch = '_' || ch = '+' || ch = '-'

/-- Does the installed database have the zone?  Without a database any name will do. -/
def zoneExists (zoneFiles : Option (String → Bool)) (zone : String) : Bool :=
  validZoneName zone && match zoneFiles with
    | none => true
    | some isFile => isFile zone

def parseIpv4 (text : String) : Option Ipv4Addr :=
  match readIpv4Addr text.toList with
  | some (octets, []) => some octets
  | _ => none

def parseIpv6 (text : String) : Option (Vector UInt16 8) :=
  match readIpv6Addr text.toList with
  | some (segments, []) => some segments
  | _ => none

def ipv4Text (addr : Ipv4Addr) : String := (IpAddr.v4 addr).text

def ipv4Number (addr : Ipv4Addr) : Nat :=
  addr.toList.foldl (fun number octet => number * 256 + octet.toNat) 0

def ipv4OfNumber (number : Nat) : Ipv4Addr :=
  #v[UInt8.ofNat (number / 256 ^ 3), UInt8.ofNat (number / 256 ^ 2), UInt8.ofNat (number / 256),
    UInt8.ofNat number]

/-- Is the address in the network?  The host bits of both are shifted out. -/
def inSubnet (addr base : Ipv4Addr) (length : UInt8) : Bool :=
  let hostBits := 32 - min length.toNat 32
  ipv4Number addr / 2 ^ hostBits = ipv4Number base / 2 ^ hostBits

def subnetsOverlap (left right : Ipv4Addr × UInt8) : Bool :=
  inSubnet right.1 left.1 left.2 || inSubnet left.1 right.1 right.2

/-- A next hop is a plain address of the family of the prefix. -/
def validateNextHop (dest nextHop : String) : Except String Unit := do
  let (addr, _) ← parseCidr dest
  if nextHop.toList.contains '/' then
    throw ("next hop " ++ debug nextHop ++ " must be a plain address, not a prefix")
  match parseIpAddr nextHop.toList with
  | none => throw ("bad next-hop address " ++ debug nextHop)
  | some hop =>
    if addr.isIpv4 ≠ hop.isIpv4 then
      throw ("next hop " ++ hop.text ++ " does not match the address family of " ++ dest)

def canonicalArea (text : String) : Except String String :=
  match parseIpv4 text with
  | some area => .ok (ipv4Text area)
  | none =>
    match parseUnsigned 10 (2 ^ 32) text.toList with
    | some number => .ok (ipv4Text (ipv4OfNumber number))
    | none => .error ("bad area " ++ debug text ++ " (dotted or 0..4294967295)")

def isHexDigit (ch : Char) : Bool := (toDigit 16 ch).isSome

def joinOctets : List Char → List Char
  | high :: low :: next :: rest => high :: low :: ':' :: joinOctets (next :: rest)
  | digits => digits

/-- A MAC address in any of the three usual forms, in colons and lower case. -/
def parseMac (text : String) : Except String String :=
  let hex := text.toList.filter fun ch => !(ch = ':' || ch = '-' || ch = '.')
  if hex.length = 12 ∧ hex.all isHexDigit then
    .ok (String.ofList (joinOctets (hex.map Char.toLower)))
  else .error ("bad MAC address " ++ debug text)

def parseUnicastMac (text : String) : Except String String := do
  let mac ← parseMac text
  let first := (parseUnsigned 16 256 (mac.toList.take 2)).getD 0
  if first % 2 ≠ 0 then throw (mac ++ " is not a unicast MAC address")
  return mac

def parseMacMask (text : String) : Except String String :=
  match parseMac text with
  | .ok mask => .ok mask
  | .error _ => .error ("bad MAC mask " ++ debug text)

example : (parseMac "0050.56BE.ef01").toOption = some "00:50:56:be:ef:01" := by decide +kernel

def splitUnit (text : List Char) : List Char × String :=
  (text.takeWhile Char.isDigit, String.ofList (text.dropWhile Char.isDigit))

def scaleOf : String → Option Nat
  | "" => some 1
  | "k" => some 1000
  | "m" => some 1000000
  | "g" => some 1000000000
  | _ => none

/-- A number with one of the scaling units or the unit that counts packets; is it in packets? -/
def parseScaled (packets : String) (text : String) : Option (Nat × Bool) := do
  let (digits, unit) := splitUnit (text.toList.map Char.toLower)
  let value ← parseUnsigned 10 (2 ^ 64) digits
  let scaled ←
    if unit = packets then some (value, true)
    else do
      let factor ← scaleOf unit
      if value * factor < 2 ^ 64 then some (value * factor, false) else none
  if scaled.1 = 0 then none else some scaled

def parsePoliceRate (text : String) : Except String (UInt64 × Bool) :=
  match parseScaled "pps" text with
  | some (rate, pps) => .ok (UInt64.ofNat rate, pps)
  | none => .error ("bad rate " ++ debug text ++ " (<bps>[k|m|g] or <n>pps)")

def parsePoliceBurst (text : String) : Except String (UInt64 × Bool) :=
  match parseScaled "pkts" text with
  | some (burst, pkts) => .ok (UInt64.ofNat burst, pkts)
  | none => .error ("bad burst " ++ debug text ++ " (<bytes>[k|m|g] or <n>pkts)")

def shapeRateFloorBps : Nat := 64000

def parseShapeRate (text : String) : Except String UInt64 := do
  let bad := "bad rate " ++ debug text ++ " (<bps>[k|m|g])"
  let (digits, unit) := splitUnit (text.toList.map Char.toLower)
  let some value := parseUnsigned 10 (2 ^ 64) digits | throw bad
  let some factor := scaleOf unit | throw bad
  if 2 ^ 64 ≤ value * factor then throw bad
  if value * factor < shapeRateFloorBps then
    throw ("rate " ++ debug text ++ " is below the 64k shaper granularity floor")
  return UInt64.ofNat (value * factor)

/-- A rate with the largest unit that divides it. -/
def formatScaled (value : Nat) : String :=
  if 1000000000 ≤ value ∧ value % 1000000000 = 0 then toString (value / 1000000000) ++ "g"
  else if 1000000 ≤ value ∧ value % 1000000 = 0 then toString (value / 1000000) ++ "m"
  else if 1000 ≤ value ∧ value % 1000 = 0 then toString (value / 1000) ++ "k"
  else toString value

/-- One port, or a range whose low end is below its high end. -/
def parsePortMatch (text : String) : Except String (UInt16 × UInt16) :=
  let bad := "bad port " ++ debug text ++ " (<0-65535> or <a>-<b>)"
  match splitOnce '-' text.toList with
  | none =>
    match parseUnsigned 10 (2 ^ 16) text.toList with
    | some port => .ok (UInt16.ofNat port, UInt16.ofNat port)
    | none => .error bad
  | some (low, high) =>
    match parseUnsigned 10 (2 ^ 16) low, parseUnsigned 10 (2 ^ 16) high with
    | some low, some high =>
      if high ≤ low then .error ("bad port range " ++ debug text ++ " (low must be < high)")
      else .ok (UInt16.ofNat low, UInt16.ofNat high)
    | _, _ => .error bad

def parseStormLevel (text : String) : Except String String := do
  let bad := "bad level " ++ debug text ++ " (0.00..100.00)"
  let (whole, frac) := (splitOnce '.' text.toList).getD (text.toList, [])
  if whole.isEmpty || 3 < whole.length || 2 < frac.length || !whole.all Char.isDigit
      || !frac.all Char.isDigit then throw bad
  let some whole := parseUnsigned 10 (2 ^ 32) whole | throw bad
  let padded := frac ++ List.replicate (2 - frac.length) '0'
  let some hundredths := parseUnsigned 10 (2 ^ 32) padded | throw bad
  if 100 < whole ∨ (whole = 100 ∧ 0 < hundredths) then throw bad
  return toString whole ++ "." ++ String.ofList padded

example : (parseStormLevel "010.5").toOption = some "10.50" := by decide +kernel

def minMtu : Nat := 68

def maxMtu : Nat := 9216

def validMtu (mtu : Nat) : Except String Unit :=
  if minMtu ≤ mtu ∧ mtu ≤ maxMtu then .ok ()
  else .error ("bad MTU " ++ toString mtu ++ " (68..9216)")

def Duplex.word : Duplex → String
  | .full => "full"
  | .half => "half"

def lowercase (text : String) : String := String.ofList (text.toList.map Char.toLower)

def Duplex.parse (word : String) : Option Duplex :=
  match lowercase word with
  | "full" => some .full
  | "half" => some .half
  | _ => none

def parseSpeed (word : String) : Option UInt32 :=
  let word := trim word.toList
  match word.getLast? with
  | some 'G' | some 'g' =>
    ((parseUnsigned 10 (2 ^ 32) word.dropLast).filter fun gbps => gbps * 1000 < 2 ^ 32).map
      fun gbps => UInt32.ofNat (gbps * 1000)
  | last =>
    let digits := if last = some 'M' ∨ last = some 'm' then word.dropLast else word
    ((parseUnsigned 10 (2 ^ 32) digits).filter fun mbps => 0 < mbps).map UInt32.ofNat

def Role.parse : String → Option Role
  | "admin" => some .admin
  | "operator" => some .operator
  | _ => none

end Hemlock.Intent
