import Hemlock.Library.OrderedMap

/-!
# Shared objects and their reference counts

A table holds, for each key that is in use, an object and how many references there are
to it.  Taking a reference makes an entry or raises its count, dropping one lowers the
count and takes the last entry away.  A table is balanced for a demand when the counts are
what is demanded and only what is demanded has an entry.
-/

namespace RefCount

universe u v
variable {κ : Type u} {ο : Type v} {cmp : κ → κ → Ordering} [Std.TransCmp cmp]

structure Shared (ο : Type v) where
  object : ο
  refs : Nat
  deriving DecidableEq

abbrev Table (κ : Type u) (ο : Type v) (cmp : κ → κ → Ordering) := Std.ExtTreeMap κ (Shared ο) cmp

def Table.object (table : Table κ ο cmp) (key : κ) : Option ο := table[key]?.map Shared.object

def Table.retain (key : κ) (table : Table κ ο cmp) : Table κ ο cmp :=
  table.modify key fun shared => { shared with refs := shared.refs + 1 }

def Table.publish (key : κ) (object : ο) (table : Table κ ο cmp) : Table κ ο cmp :=
  table.insert key ⟨object, 1⟩

/-- One reference less; the object if it was the last one. -/
def Table.drop (key : κ) (table : Table κ ο cmp) : Option ο × Table κ ο cmp :=
  match table[key]? with
  | some shared =>
    if shared.refs ≤ 1 then (some shared.object, table.erase key)
    else (none, table.insert key { shared with refs := shared.refs - 1 })
  | none => (none, table)

/-- Each key has as many references as the demand for it. -/
structure Balanced (table : Table κ ο cmp) (demand : κ → Nat) : Prop where
  refs : ∀ {key : κ} {shared : Shared ο}, table[key]? = some shared → shared.refs = demand key
  present : ∀ {key : κ}, key ∈ table ↔ 0 < demand key

variable {table : Table κ ο cmp} {demand demand' : κ → Nat} {key other : κ} {object : ο}

theorem balanced_empty : Balanced (∅ : Table κ ο cmp) (fun _ => 0) where
  refs := fun hf => by simp at hf
  present := by simp

variable (hi : Balanced table demand)
include hi

theorem Balanced.congr (hs : ∀ key, demand' key = demand key) : Balanced table demand' := by
  rwa [funext hs]

theorem Balanced.exists_of_pos (demanded : 0 < demand key) :
    ∃ object, table[key]? = some ⟨object, demand key⟩ := by
  obtain ⟨⟨object, refs⟩, hf⟩ := Std.ExtTreeMap.exists_of_mem (hi.present.mpr demanded)
  exact ⟨object, by rw [hf, ← hi.refs hf]⟩

theorem Balanced.pos {shared : Shared ο} (hf : table[key]? = some shared) : 0 < demand key :=
  hi.present.mp (Std.ExtTreeMap.mem_of_lookup hf)

theorem Balanced.eq_zero (ha : table[key]? = none) : demand key = 0 := by
  by_contra demanded
  obtain ⟨object, hf⟩ := hi.exists_of_pos (Nat.pos_of_ne_zero demanded)
  rw [ha] at hf
  cases hf

omit hi

theorem Balanced.of_lookup {table' : Table κ ο cmp} (key : κ) (hi : Balanced table demand)
    (elsewhere : ∀ other, other ≠ key → table'[other]? = table[other]? ∧ demand' other = demand other)
    (here : match table'[key]? with
      | some shared => shared.refs = demand' key ∧ 0 < demand' key
      | none => demand' key = 0) : Balanced table' demand' := by
  constructor
  · intro other shared hf
    by_cases hs : other = key
    · subst hs
      rw [hf] at here
      exact here.1
    · rw [(elsewhere other hs).1] at hf
      rw [(elsewhere other hs).2]
      exact hi.refs hf
  · intro other
    by_cases hs : other = key
    · subst hs
      rw [Std.ExtTreeMap.mem_iff_isSome_getElem?]
      cases hf : table'[other]? with
      | none =>
        rw [hf] at here
        simp [here]
      | some shared =>
        rw [hf] at here
        simp [here.2]
    · rw [Std.ExtTreeMap.mem_iff_isSome_getElem?, (elsewhere other hs).1, (elsewhere other hs).2,
        ← Std.ExtTreeMap.mem_iff_isSome_getElem?]
      exact hi.present

variable [Std.LawfulEqCmp cmp]

theorem getElem?_drop_ne (ne : other ≠ key) : (table.drop key).2[other]? = table[other]? := by
  have hd : ¬ cmp key other = .eq := by
    rw [Std.LawfulEqCmp.compare_eq_iff_eq]
    exact Ne.symm ne
  unfold Table.drop
  split
  · split_ifs
    · rw [Std.ExtTreeMap.getElem?_erase, if_neg hd]
    · rw [Std.ExtTreeMap.getElem?_insert, if_neg hd]
  · rfl

variable [DecidableEq κ]

def more (key : κ) (demand : κ → Nat) : κ → Nat := fun other =>
  if other = key then demand other + 1 else demand other

theorem getElem?_retain : (table.retain key)[other]? =
    if key = other then table[other]?.map fun shared => { shared with refs := shared.refs + 1 }
    else table[other]? := by
  rw [Table.retain, Std.ExtTreeMap.getElem?_modify]
  simp only [Std.LawfulEqCmp.compare_eq_iff_eq]
  split_ifs with hs
  · rw [hs]
  · rfl

theorem Balanced.retain (hi : Balanced table demand) (hk : key ∈ table) :
    Balanced (table.retain key) (more key demand) := by
  refine hi.of_lookup key (fun other ne => ?_) ?_
  · rw [getElem?_retain, if_neg (Ne.symm ne), more, if_neg ne]
    exact ⟨rfl, rfl⟩
  · obtain ⟨shared, hf⟩ := Std.ExtTreeMap.exists_of_mem hk
    rw [getElem?_retain, if_pos rfl, hf, more, if_pos rfl]
    exact ⟨congrArg (· + 1) (hi.refs hf), Nat.succ_pos _⟩

theorem object_retain : (table.retain key).object other = table.object other := by
  rw [Table.object, getElem?_retain]
  split_ifs
  · rw [Option.map_map]
    rfl
  · rfl

theorem Balanced.publish (hi : Balanced table demand) (ha : table[key]? = none) :
    Balanced (table.publish key object) (more key demand) := by
  refine hi.of_lookup key (fun other ne => ?_) ?_
  · rw [Table.publish, Std.ExtTreeMap.getElem?_insert, if_neg, more, if_neg ne]
    · exact ⟨rfl, rfl⟩
    · rw [Std.LawfulEqCmp.compare_eq_iff_eq]
      exact Ne.symm ne
  · rw [Table.publish, Std.ExtTreeMap.getElem?_insert_self, more, if_pos rfl, hi.eq_zero ha]
    exact ⟨rfl, Nat.one_pos⟩

theorem object_publish : (table.publish key object).object other =
    if key = other then some object else table.object other := by
  rw [Table.object, Table.publish, Std.ExtTreeMap.getElem?_insert]
  simp only [Std.LawfulEqCmp.compare_eq_iff_eq]
  split_ifs <;> rfl

theorem Balanced.drop (hi : Balanced table (more key demand)) : Balanced (table.drop key).2 demand := by
  have demanded : more key demand key = demand key + 1 := if_pos rfl
  obtain ⟨object, hf⟩ := hi.exists_of_pos (by rw [demanded]; exact Nat.succ_pos _)
  rw [demanded] at hf
  refine hi.of_lookup key (fun other ne => ?_) ?_
  · rw [getElem?_drop_ne ne, more, if_neg ne]
    exact ⟨rfl, rfl⟩
  · simp only [Table.drop, hf]
    split_ifs with last
    · rw [Std.ExtTreeMap.getElem?_erase_self]
      exact Nat.le_zero.mp (Nat.le_of_succ_le_succ last)
    · rw [Std.ExtTreeMap.getElem?_insert_self]
      exact ⟨Nat.add_sub_cancel _ _, by omega⟩

omit [Std.LawfulEqCmp cmp] in
/-- What the last reference to is dropped is no longer demanded. -/
theorem Balanced.drop_eq_some (hi : Balanced table (more key demand))
    (gone : (table.drop key).1 = some object) : table.object key = some object ∧ demand key = 0 := by
  have demanded : more key demand key = demand key + 1 := if_pos rfl
  obtain ⟨object', hf⟩ := hi.exists_of_pos (by rw [demanded]; exact Nat.succ_pos _)
  rw [demanded] at hf
  simp only [Table.drop, hf] at gone
  split_ifs at gone with last
  cases gone
  exact ⟨by rw [Table.object, hf, Option.map_some], Nat.le_zero.mp (Nat.le_of_succ_le_succ last)⟩

/-- The object goes with the last reference. -/
theorem object_drop_of_gone (gone : (table.drop key).1 = some object) :
    (table.drop key).2.object other = if key = other then none else table.object other := by
  cases hf : table[key]? with
  | none => simp [Table.drop, hf] at gone
  | some shared =>
    simp only [Table.drop, hf] at gone ⊢
    split_ifs at gone with last
    rw [if_pos last, Table.object, Std.ExtTreeMap.getElem?_erase]
    simp only [Std.LawfulEqCmp.compare_eq_iff_eq]
    split_ifs <;> rfl

theorem object_drop_of_kept (kept : (table.drop key).1 = none) :
    (table.drop key).2.object other = table.object other := by
  cases hf : table[key]? with
  | none => simp [Table.drop, hf]
  | some shared =>
    simp only [Table.drop, hf] at kept ⊢
    split_ifs at kept with last
    rw [if_neg last, Table.object, Std.ExtTreeMap.getElem?_insert]
    simp only [Std.LawfulEqCmp.compare_eq_iff_eq]
    split_ifs with hs
    · rw [Table.object, ← hs, hf]
      rfl
    · rfl

/-- Objects that are still demanded stay. -/
theorem Balanced.object_drop (hi : Balanced table (more key demand)) (demanded : 0 < demand other) :
    (table.drop key).2.object other = table.object other := by
  cases gone : (table.drop key).1 with
  | none => exact object_drop_of_kept gone
  | some object =>
    have ne : key ≠ other := by
      rintro rfl
      exact absurd (hi.drop_eq_some gone).2 (Nat.pos_iff_ne_zero.mp demanded)
    rw [object_drop_of_gone gone, if_neg ne]

end RefCount
