import Hemlock.Library.Bytes
import Mathlib.Data.List.TakeWhile
import Std.Data.ExtTreeMap.Lemmas

/-!
# Textual IP addresses

The reader of IPv4 and IPv6 addresses that the Rust standard library has: it
reads numbers greedily, rejects leading zeros in IPv4, and in IPv6 accepts one `::`
and a trailing IPv4 address.
-/

namespace Net

open Bytes

inductive IpAddr where
  | v4 (octets : Vector UInt8 4)
  | v6 (segments : Vector UInt16 8)
  deriving DecidableEq

def toDigit (radix : Nat) (c : Char) : Option Nat :=
  let digit :=
    if '0' ≤ c ∧ c ≤ '9' then some (c.toNat - '0'.toNat)
    else if 'a' ≤ c ∧ c ≤ 'z' then some (c.toNat - 'a'.toNat + 10)
    else if 'A' ≤ c ∧ c ≤ 'Z' then some (c.toNat - 'A'.toNat + 10)
    else none
  digit.filter (· < radix)

/-- A number below `limit` of at most `maxDigits` digits, as many as there are. -/
def readNumber (radix maxDigits : Nat) (allowZeroPrefix : Bool) (limit : Nat)
    (input : List Char) : Option (Nat × List Char) :=
  let digits := input.takeWhile fun c => (toDigit radix c).isSome
  let value := digits.foldl (fun value c => value * radix + (toDigit radix c).getD 0) 0
  if maxDigits < digits.length then none
  else if digits.length = 0 then none
  else if !allowZeroPrefix && input.head? = some '0' && 1 < digits.length then none
  else if limit ≤ value then none
  else some (value, input.drop digits.length)

def readGivenChar (expected : Char) : List Char → Option (List Char)
  | c :: rest => if c = expected then some rest else none
  | [] => none

/-- All elements but the first follow a separator. -/
def readSeparator {Value : Type} (separator : Char) (index : Nat)
    (inner : List Char → Option (Value × List Char)) (input : List Char) : Option (Value × List Char) :=
  if 0 < index then (readGivenChar separator input).bind inner else inner input

def readOctet (input : List Char) : Option (UInt8 × List Char) :=
  (readNumber 10 3 false 256 input).map fun (value, rest) => (UInt8.ofNat value, rest)

def readIpv4Addr (input : List Char) : Option (Vector UInt8 4 × List Char) := do
  let (first, input) ← readSeparator '.' 0 readOctet input
  let (second, input) ← readSeparator '.' 1 readOctet input
  let (third, input) ← readSeparator '.' 2 readOctet input
  let (fourth, input) ← readSeparator '.' 3 readOctet input
  return (four first second third fourth, input)

def readGroup (input : List Char) : Option (UInt16 × List Char) :=
  (readNumber 16 4 true 65536 input).map fun (value, rest) => (UInt16.ofNat value, rest)

/-- A series of groups with an optional trailing IPv4 address, which takes the place
of two groups; whether there was one is part of the result. -/
def readGroups (index : Nat) : Nat → List Char → List UInt16 × Bool × List Char
  | 0, input => ([], false, input)
  | slots + 1, input =>
    match (if 0 < slots then readSeparator ':' index readIpv4Addr input else none) with
    | some (octets, rest) =>
      ([ofBe16 octets[0] octets[1], ofBe16 octets[2] octets[3]], true, rest)
    | none =>
      match readSeparator ':' index readGroup input with
      | some (group, rest) =>
        let (groups, ipv4, rest) := readGroups (index + 1) slots rest
        (group :: groups, ipv4, rest)
      | none => ([], false, input)

/-- Eight segments: `head` from the front and `tail` at the back, zeros between. -/
def assemble (head tail : List UInt16) : Vector UInt16 8 :=
  Vector.ofFn fun i =>
    if 8 - tail.length ≤ i then tail.getD (i - (8 - tail.length)) 0 else head.getD i 0

def readIpv6Addr (input : List Char) : Option (Vector UInt16 8 × List Char) :=
  let (head, headIpv4, input) := readGroups 0 8 input
  if head.length = 8 then some (assemble head [], input)
  else if headIpv4 then none
  else do
    let input ← readGivenChar ':' input
    let input ← readGivenChar ':' input
    let (tail, _, input) := readGroups 0 (8 - (head.length + 1)) input
    return (assemble head tail, input)

def readIpAddr (input : List Char) : Option (IpAddr × List Char) :=
  ((readIpv4Addr input).map fun (octets, rest) => (IpAddr.v4 octets, rest)).orElse fun _ =>
    (readIpv6Addr input).map fun (segments, rest) => (IpAddr.v6 segments, rest)

def parseIpAddr (text : List Char) : Option IpAddr :=
  match readIpAddr text with
  | some (addr, []) => some addr
  | _ => none

/-- An unsigned number below `limit`, in digits that a plus sign may precede. -/
def parseUnsigned (radix limit : Nat) (text : List Char) : Option Nat :=
  let digits :=
    match text with
    | '+' :: rest => rest
    | _ => text
  if digits.isEmpty || !digits.all fun c => (toDigit radix c).isSome then none
  else
    let value := digits.foldl (fun value c => value * radix + (toDigit radix c).getD 0) 0
    if value < limit then some value else none

example : parseIpAddr "fe80::1:10.0.0.1".toList =
    some (.v6 #v[0xfe80, 0, 0, 0, 0, 1, 0x0a00, 1]) := by decide +kernel

example : parseIpAddr "10.0.0.01".toList = none := by decide +kernel

example : parseUnsigned 10 256 "+032".toList = some 32 := by decide +kernel

theorem digitChar_of_toDigit {c : Char} {digit : Nat} (read : toDigit 10 c = some digit) :
    digit < 10 ∧ digit.digitChar = c := by
  simp only [toDigit, Option.filter_eq_some_iff, decide_eq_true_eq] at read
  obtain ⟨value, small⟩ := read
  refine ⟨small, Char.toNat_inj.mp ?_⟩
  rw [Nat.toNat_digitChar_of_lt_ten small]
  split_ifs at value with isDigit
  · cases value
    have least : 48 ≤ c.toNat := isDigit.1
    exact Nat.add_sub_cancel' least
  all_goals
    cases value
    omega

theorem toDigits_foldl {text : List Char} (digits : ∀ c ∈ text, (toDigit 10 c).isSome) {value : Nat}
    (pos : 0 < value) :
    Nat.toDigits 10 (text.foldl (fun value c => value * 10 + (toDigit 10 c).getD 0) value) =
      Nat.toDigits 10 value ++ text := by
  induction text generalizing value with
  | nil => simp
  | cons c rest ih =>
    obtain ⟨digit, hd⟩ := Option.isSome_iff_exists.mp (digits c (by simp))
    obtain ⟨small, isChar⟩ := digitChar_of_toDigit hd
    rw [List.foldl_cons, hd, Option.getD_some, ih (fun c hc => digits c (by simp [hc])) (by omega),
      Nat.mul_comm, ← Nat.toDigits_append_toDigits (by decide) pos small, Nat.toDigits_of_lt_base small,
      isChar, List.append_assoc]
    rfl

/-- Without a sign or a leading zero there is one way to write a number. -/
theorem toDigits_of_parseUnsigned {limit value : Nat} {text : List Char}
    (read : parseUnsigned 10 limit text = some value) (unsigned : text.head? ≠ some '+')
    (unpadded : text.head? ≠ some '0') : Nat.toDigits 10 value = text := by
  unfold parseUnsigned at read
  split at read
  · simp at unsigned
  · dsimp only at read
    split_ifs at read with isText below
    cases read
    simp only [Bool.or_eq_true, not_or, Bool.not_eq_true', Bool.not_eq_false, List.all_eq_true] at isText
    obtain ⟨ne, digits⟩ := isText
    cases text with
    | nil => simp at ne
    | cons c rest =>
      obtain ⟨digit, hd⟩ := Option.isSome_iff_exists.mp (digits c (by simp))
      obtain ⟨small, rfl⟩ := digitChar_of_toDigit hd
      have pos : digit ≠ 0 := by
        rintro rfl
        exact unpadded rfl
      rw [List.foldl_cons, hd, Option.getD_some, Nat.zero_add,
        toDigits_foldl (fun c hc => digits c (by simp [hc])) (Nat.pos_of_ne_zero pos),
        Nat.toDigits_of_lt_base small]
      rfl

/-- IPv4 addresses come before IPv6 addresses. -/
def IpAddr.key : IpAddr → List Nat
  | .v4 octets => 4 :: octets.toList.map UInt8.toNat
  | .v6 segments => 6 :: segments.toList.map UInt16.toNat

instance : Ord IpAddr := ⟨compareOn IpAddr.key⟩

theorem IpAddr.key_injective {first second : IpAddr} (hs : first.key = second.key) : first = second := by
  cases first with
  | v4 octets =>
    cases second with
    | v4 octets' =>
      simp only [key, List.cons.injEq, true_and] at hs
      have equal := List.map_inj_right (fun _ _ => UInt8.toNat_inj.mp) |>.mp hs
      rw [Vector.toList_inj.mp equal]
    | v6 segments => simp [key] at hs
  | v6 segments =>
    cases second with
    | v4 octets => simp [key] at hs
    | v6 segments' =>
      simp only [key, List.cons.injEq, true_and] at hs
      have equal := List.map_inj_right (fun _ _ => UInt16.toNat_inj.mp) |>.mp hs
      rw [Vector.toList_inj.mp equal]

instance : Std.TransOrd IpAddr := inferInstanceAs (Std.TransCmp (compareOn IpAddr.key))

instance : Std.LawfulEqOrd IpAddr where
  compare_self := Std.ReflCmp.compare_self
  eq_of_compare same := IpAddr.key_injective (Std.LawfulEqCmp.eq_of_compare same)

def dotted (octets : Vector UInt8 4) : List Char :=
  Nat.toDigits 10 octets[0].toNat ++ '.' :: (Nat.toDigits 10 octets[1].toNat ++
    '.' :: (Nat.toDigits 10 octets[2].toNat ++ '.' :: Nat.toDigits 10 octets[3].toNat))

theorem digits_octet : ∀ octet < 256,
    (Nat.toDigits 10 octet).all (fun c => (toDigit 10 c).isSome) = true := by
  decide +kernel

theorem mem_dotted {octets : Vector UInt8 4} {c : Char} (hl : c ∈ dotted octets) :
    c = '.' ∨ (toDigit 10 c).isSome = true := by
  have digits (octet : UInt8) (isDigit : c ∈ Nat.toDigits 10 octet.toNat) :
      (toDigit 10 c).isSome = true :=
    List.all_eq_true.mp (digits_octet octet.toNat octet.toNat_lt) c isDigit
  simp only [dotted, List.mem_append, List.mem_cons] at hl
  rcases hl with first | rfl | second | rfl | third | rfl | fourth
  · exact .inr (digits _ first)
  · exact .inl rfl
  · exact .inr (digits _ second)
  · exact .inl rfl
  · exact .inr (digits _ third)
  · exact .inl rfl
  · exact .inr (digits _ fourth)

/-- The groups of an IPv6 address in hexadecimal, with colons between them. -/
def groupsText (groups : List UInt16) : List Char :=
  [':'].intercalate (groups.map fun group => Nat.toDigits 16 group.toNat)

/-- Where the first of the longest runs of zeros starts, and its length. -/
def longestZeros (segments : List UInt16) : Nat × Nat :=
  let runs := (List.range segments.length).map fun start =>
    (start, ((segments.drop start).takeWhile (· = 0)).length)
  runs.foldl (fun longest run => if longest.2 < run.2 then run else longest) (0, 0)

/-- The usual text of an IPv6 address: one run of at least two zeros is left out, and
addresses that stand for an IPv4 address end in it. -/
def colonHex (segments : Vector UInt16 8) : List Char :=
  if segments.toList.take 6 = [0, 0, 0, 0, 0, 0xffff] then
    let high := segments[6].toNat
    let low := segments[7].toNat
    "::ffff:".toList ++ dotted #v[UInt8.ofNat (high / 256), UInt8.ofNat (high % 256),
      UInt8.ofNat (low / 256), UInt8.ofNat (low % 256)]
  else
    let (start, length) := longestZeros segments.toList
    if 1 < length then
      groupsText (segments.toList.take start) ++
        "::".toList ++ groupsText (segments.toList.drop (start + length))
    else groupsText segments.toList

def IpAddr.text : IpAddr → String
  | .v4 octets => String.ofList (dotted octets)
  | .v6 segments => String.ofList (colonHex segments)

example : (IpAddr.v6 #v[0x2001, 0xdb8, 0, 0, 1, 0, 0, 1]).text = "2001:db8::1:0:0:1" := by
  decide +kernel

example : (IpAddr.v6 #v[0, 0, 0, 0, 0, 0xffff, 0x0a00, 1]).text = "::ffff:10.0.0.1" := by
  decide +kernel

/-- The high bits of a part of an address, the others cleared. -/
def keepHigh (width kept part : Nat) : Nat := part / 2 ^ (width - kept) * 2 ^ (width - kept)

/-- The address with the bits behind a length cleared. -/
def network (length : Nat) : IpAddr → IpAddr
  | .v4 octets => .v4 (Vector.ofFn fun i =>
    UInt8.ofNat (keepHigh 8 (length - 8 * i) octets[i].toNat))
  | .v6 segments => .v6 (Vector.ofFn fun i =>
    UInt16.ofNat (keepHigh 16 (length - 16 * i) segments[i].toNat))

example : (network 20 (.v4 #v[10, 42, 255, 9])).text = "10.42.240.0" := by decide +kernel

def IpAddr.isIpv4 : IpAddr → Bool
  | .v4 _ => true
  | .v6 _ => false

def IpAddr.isMulticast : IpAddr → Bool
  | .v4 octets => (224 : UInt8) ≤ octets[0] && octets[0] ≤ (239 : UInt8)
  | .v6 segments => segments[0] &&& 0xff00 = 0xff00

/-- Unicast addresses that are not routed. -/
def IpAddr.isLinkLocal : IpAddr → Bool
  | .v4 octets => octets[0] = (169 : UInt8) && octets[1] = (254 : UInt8)
  | .v6 segments => segments[0] &&& 0xffc0 = 0xfe80

end Net
