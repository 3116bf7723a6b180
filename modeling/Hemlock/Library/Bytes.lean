import Mathlib.Algebra.Ring.Nat
import Mathlib.Tactic.Common

/-!
# Big-endian fields of byte strings
-/

namespace Bytes

def be16 (value : UInt16) : List UInt8 :=
  [UInt8.ofNat (value.toNat / 256), UInt8.ofNat (value.toNat % 256)]

def be32 (value : UInt32) : List UInt8 :=
  [UInt8.ofNat (value.toNat / 16777216), UInt8.ofNat (value.toNat / 65536 % 256),
    UInt8.ofNat (value.toNat / 256 % 256), UInt8.ofNat (value.toNat % 256)]

def be64 (value : UInt64) : List UInt8 :=
  be32 (UInt32.ofNat (value.toNat / 4294967296)) ++ be32 (UInt32.ofNat (value.toNat % 4294967296))

def ofBe16 (high low : UInt8) : UInt16 := UInt16.ofNat (high.toNat * 256 + low.toNat)

def ofBe32 (first second third fourth : UInt8) : UInt32 :=
  UInt32.ofNat
    (((first.toNat * 256 + second.toNat) * 256 + third.toNat) * 256 + fourth.toNat)

/-- The byte at an index; callers have checked the length. -/
def byteAt (bytes : List UInt8) (index : Nat) : UInt8 := bytes.getD index 0

def be16At (bytes : List UInt8) (index : Nat) : UInt16 :=
  ofBe16 (byteAt bytes index) (byteAt bytes (index + 1))

def be32At (bytes : List UInt8) (index : Nat) : UInt32 :=
  ofBe32 (byteAt bytes index) (byteAt bytes (index + 1)) (byteAt bytes (index + 2))
    (byteAt bytes (index + 3))

theorem byteAt_drop (bytes : List UInt8) (start position : Nat) :
    byteAt (bytes.drop start) position = byteAt bytes (start + position) := by
  simp [byteAt]

variable {bytes : List UInt8}

theorem byteAt_take {length position : Nat} (inside : position < length) :
    byteAt (bytes.take length) position = byteAt bytes position := by
  simp [byteAt, List.getElem?_take_of_lt inside]

theorem getElem?_eq_byteAt {position : Nat}
    (inside : position < bytes.length) : bytes[position]? = some (byteAt bytes position) := by
  simp [byteAt, inside]

theorem drop_eq_of_byteAt {first second : List UInt8} {start : Nat} (length : first.length = second.length)
    (hs : ∀ position, start ≤ position → byteAt first position = byteAt second position) :
    first.drop start = second.drop start := by
  apply List.ext_getElem?
  intro position
  rw [List.getElem?_drop, List.getElem?_drop]
  rcases Nat.lt_or_ge (start + position) first.length with inside | outside
  · rw [getElem?_eq_byteAt inside, getElem?_eq_byteAt (by omega),
      hs (start + position) (Nat.le_add_right _ _)]
  · rw [List.getElem?_eq_none outside, List.getElem?_eq_none (by omega)]

/-- Bytes outside a part that is overwritten stay. -/
theorem byteAt_splice {bytes new : List UInt8} {start position : Nat}
    (inside : start ≤ bytes.length) (outside : position < start ∨ start + new.length ≤ position) :
    byteAt (bytes.take start ++ (new ++ bytes.drop (start + new.length))) position =
      byteAt bytes position := by
  have head : (bytes.take start).length = start := by rw [List.length_take, Nat.min_eq_left inside]
  simp only [byteAt, List.getD_eq_getElem?_getD]
  rcases outside with before | after
  · rw [List.getElem?_append_left (by omega), List.getElem?_take_of_lt before]
  · rw [List.getElem?_append_right (by omega), List.getElem?_append_right (by omega),
      List.getElem?_drop]
    congr 3
    omega

def four (first second third fourth : UInt8) : Vector UInt8 4 := #v[first, second, third, fourth]

def fourAt (bytes : List UInt8) (index : Nat) : Vector UInt8 4 :=
  four (byteAt bytes index) (byteAt bytes (index + 1)) (byteAt bytes (index + 2)) (byteAt bytes (index + 3))

def sixAt (bytes : List UInt8) (index : Nat) : Vector UInt8 6 :=
  #v[byteAt bytes index, byteAt bytes (index + 1), byteAt bytes (index + 2),
    byteAt bytes (index + 3), byteAt bytes (index + 4), byteAt bytes (index + 5)]

/-- The sum of the 16-bit words, an odd last byte being the high one. -/
def wordSum : List UInt8 → Nat
  | high :: low :: rest => high.toNat * 256 + low.toNat + wordSum rest
  | [high] => high.toNat * 256
  | [] => 0

def foldCarries (sum : Nat) : Nat :=
  if 0xffff < sum then foldCarries (sum % 65536 + sum / 65536) else sum
  decreasing_by omega

/-- The RFC 1071 checksum. -/
def checksum (bytes : List UInt8) : UInt16 := UInt16.ofNat (65535 - foldCarries (wordSum bytes))

theorem exists_four (bytes : Vector UInt8 4) : ∃ a b c d, bytes = #v[a, b, c, d] := by
  refine ⟨bytes[0], bytes[1], bytes[2], bytes[3], ?_⟩
  ext index inside
  match index with
  | 0 | 1 | 2 | 3 => rfl

theorem exists_six (bytes : Vector UInt8 6) : ∃ a b c d e f, bytes = #v[a, b, c, d, e, f] := by
  refine ⟨bytes[0], bytes[1], bytes[2], bytes[3], bytes[4], bytes[5], ?_⟩
  ext index inside
  match index with
  | 0 | 1 | 2 | 3 | 4 | 5 => rfl

theorem exists_eight (words : Vector UInt16 8) : ∃ a b c d e f g h, words = #v[a, b, c, d, e, f, g, h] := by
  refine ⟨words[0], words[1], words[2], words[3], words[4], words[5], words[6], words[7], ?_⟩
  ext index inside
  match index with
  | 0 | 1 | 2 | 3 | 4 | 5 | 6 | 7 => rfl

theorem ofBe16_be16 (value : UInt16) :
    ofBe16 (UInt8.ofNat (value.toNat / 256)) (UInt8.ofNat (value.toNat % 256)) = value := by
  have bound := value.toNat_lt
  apply UInt16.toNat_inj.mp
  simp only [ofBe16, UInt16.toNat_ofNat', UInt8.toNat_ofNat']
  omega

theorem ofBe32_be32 (value : UInt32) :
    ofBe32 (UInt8.ofNat (value.toNat / 16777216)) (UInt8.ofNat (value.toNat / 65536 % 256))
      (UInt8.ofNat (value.toNat / 256 % 256)) (UInt8.ofNat (value.toNat % 256)) = value := by
  have bound := value.toNat_lt
  apply UInt32.toNat_inj.mp
  simp only [ofBe32, UInt32.toNat_ofNat', UInt8.toNat_ofNat']
  omega

theorem wordSum_append {first : List UInt8} (even : first.length % 2 = 0) (rest : List UInt8) :
    wordSum (first ++ rest) = wordSum first + wordSum rest := by
  fun_induction wordSum first with
  | case1 high low first ih =>
    rw [List.cons_append, List.cons_append, wordSum, ih (by simp at even; omega)]
    omega
  | case2 => simp at even
  | case3 => simp

theorem foldCarries_spec (sum : Nat) : foldCarries sum ≤ 65535 ∧
    foldCarries sum % 65535 = sum % 65535 ∧ (0 < sum → 0 < foldCarries sum) := by
  fun_induction foldCarries sum <;> omega

/-- A header with its checksum in place sums up to all ones. -/
theorem foldCarries_checksum {head : List UInt8} (even : head.length % 2 = 0)
    (nonzero : 0 < wordSum head) (tail : List UInt8) :
    foldCarries (wordSum (head ++ be16 (checksum (head ++ [0, 0] ++ tail)) ++ tail)) = 65535 := by
  have whole (value : UInt16) :
      wordSum (head ++ be16 value ++ tail) = wordSum head + (value.toNat + wordSum tail) := by
    have bound := value.toNat_lt
    rw [List.append_assoc, wordSum_append even]
    simp only [be16, List.cons_append, List.nil_append, wordSum, UInt8.toNat_ofNat']
    omega
  have blank := foldCarries_spec (wordSum (head ++ [0, 0] ++ tail))
  have filled := foldCarries_spec (wordSum (head ++ be16 (checksum (head ++ [0, 0] ++ tail)) ++ tail))
  rw [whole, checksum, UInt16.toNat_ofNat'] at filled ⊢
  have sum := whole 0
  simp only [UInt16.toNat_zero] at sum
  change wordSum (head ++ [0, 0] ++ tail) = _ at sum
  omega

end Bytes
