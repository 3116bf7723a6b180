import Hemlock.Acl.Service
import Hemlock.Rib.Paging

/-!
# Prefixes and the routes of an address

Texts of prefixes as requests have them, and the destinations that an interface address
stands for: the address itself, and the network it is in.
-/

namespace Hemlock.Routing

open Net
open Acl (quoted)
open Rib (splitOnce)

abbrev IpPrefix := IpAddr × UInt8

def maxLength (addr : IpAddr) : UInt8 := if addr.isIpv4 then 32 else 128

def parseCidr (text : String) : Except String IpPrefix :=
  match splitOnce '/' text.toList with
  | none => .error (quoted text ++ " is not <address>/<prefix-length>")
  | some (addr, length) =>
    match parseIpAddr addr with
    | none => .error ("bad IP address " ++ quoted (String.ofList addr))
    | some addr =>
      match parseUnsigned 10 256 length with
      | none => .error ("bad prefix length " ++ quoted (String.ofList length))
      | some length =>
        if (maxLength addr).toNat < length then
          .error ("prefix length /" ++ toString length ++ " exceeds /"
            ++ toString (maxLength addr).toNat)
        else .ok (addr, UInt8.ofNat length)

def prefixText (dest : IpPrefix) : String := dest.1.text ++ "/" ++ toString dest.2.toNat

def canonicalPrefix (text : String) : Except String String := do
  let (addr, length) ← parseCidr text
  return prefixText (network length.toNat addr, length)

def requireCanonicalPrefix (text : String) : Except String String := do
  let canonical ← canonicalPrefix text
  if canonical ≠ text then throw ("host bits set; did you mean " ++ canonical ++ "?")
  return canonical

theorem requireCanonicalPrefix_eq_ok {text canonical : String} :
    requireCanonicalPrefix text = .ok canonical ↔ canonical = text ∧ ∃ dest, parseCidr text = .ok dest ∧
        prefixText (network dest.2.toNat dest.1, dest.2) = text := by
  unfold requireCanonicalPrefix canonicalPrefix
  cases hp : parseCidr text with
  | error failure => simp [bind, Except.bind]
  | ok dest =>
    by_cases hs : prefixText (network dest.2.toNat dest.1, dest.2) = text
    · simp [bind, Except.bind, pure, Except.pure, hs, eq_comm]
    · simp [bind, Except.bind, pure, Except.pure, hs]

theorem canonical_unique {text text' : String} {dest : IpPrefix}
    (canonical : requireCanonicalPrefix text = .ok text)
    (canonical' : requireCanonicalPrefix text' = .ok text') (hp : parseCidr text = .ok dest)
    (hp' : parseCidr text' = .ok dest) : text = text' := by
  obtain ⟨-, other, isOther, isText⟩ := requireCanonicalPrefix_eq_ok.mp canonical
  obtain ⟨-, other', isOther', isText'⟩ := requireCanonicalPrefix_eq_ok.mp canonical'
  rw [hp] at isOther
  rw [hp'] at isOther'
  cases isOther
  cases isOther'
  exact isText.symm.trans isText'

/-- The host route of an address, and the route of its network unless that is the same. -/
def routesFor (addr : IpAddr) (length : UInt8) : IpPrefix × Option IpPrefix :=
  let host := (addr, maxLength addr)
  let subnet := (network length.toNat addr, length)
  (host, if subnet ≠ host then some subnet else none)

def destsOf (addr : IpAddr) (length : UInt8) : List IpPrefix :=
  let (host, subnet) := routesFor addr length
  host :: subnet.toList

def routeDests (address : String) : List IpPrefix :=
  match parseCidr address with
  | .error _ => []
  | .ok (addr, length) => destsOf addr length

example : routeDests "10.0.0.1/24" =
    [(.v4 #v[10, 0, 0, 1], 32), (.v4 #v[10, 0, 0, 0], 24)] := by decide +kernel

example : routeDests "10.0.0.1/32" = [(.v4 #v[10, 0, 0, 1], 32)] := by decide +kernel

end Hemlock.Routing
