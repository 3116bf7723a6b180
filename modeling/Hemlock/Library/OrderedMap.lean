import Std.Data.ExtTreeMap.Lemmas
import Mathlib.Data.List.Induction

/-!
# Ordered maps

Pairs as keys, and lists of entries written into a map: the last entry for a key
wins, and when all entries for a key agree, their value is what the map holds
afterwards.
-/

/-- The order of pairs: by the first components, then by the second ones. -/
abbrev comparePair {α β : Type} [Ord α] [Ord β] : α × β → α × β → Ordering :=
  compareLex (compareOn Prod.fst) (compareOn Prod.snd)

instance comparePair.transCmp {α β : Type} [Ord α] [Ord β] [Std.TransOrd α] [Std.TransOrd β] :
    Std.TransCmp (@comparePair α β _ _) := inferInstance

instance comparePair.lawfulEqCmp {α β : Type} [Ord α] [Ord β] [Std.LawfulEqOrd α]
    [Std.LawfulEqOrd β] : Std.LawfulEqCmp (@comparePair α β _ _) where
  compare_self := by simp [compareLex, compareOn]
  eq_of_compare := by
    rintro ⟨first, second⟩ ⟨first', second'⟩ same
    simpa [compareLex, compareOn, Ordering.then_eq_eq] using same

namespace Std.ExtTreeMap

universe u v
variable {κ : Type u} {ν : Type v} {cmp : κ → κ → Ordering} [TransCmp cmp]
variable {map : ExtTreeMap κ ν cmp} {key : κ} {value : ν}

theorem mem_of_lookup (hf : map[key]? = some value) : key ∈ map := by
  rw [mem_iff_isSome_getElem?, hf, Option.isSome_some]

theorem exists_of_mem (hk : key ∈ map) : ∃ value, map[key]? = some value :=
  Option.isSome_iff_exists.mp (mem_iff_isSome_getElem?.mp hk)

theorem erase_of_absent [LawfulEqCmp cmp] (ha : map[key]? = none) : map.erase key = map := by
  refine ext_getElem? fun other => ?_
  rw [getElem?_erase]
  split_ifs with hs
  · rw [← LawfulEqCmp.compare_eq_iff_eq.mp hs, ha]
  · rfl

theorem insertMany_concat (map : ExtTreeMap κ ν cmp) (entries : List (κ × ν)) (key : κ) (value : ν) :
    map.insertMany (entries ++ [(key, value)]) = (map.insertMany entries).insert key value := by
  rw [insertMany_append, insertMany_list_singleton]

theorem map_snd_toList (map : ExtTreeMap κ ν cmp) : map.toList.map Prod.snd = map.values := by
  obtain ⟨⟨inner⟩⟩ := map
  induction inner using Quotient.ind with
  | _ tree =>
    change (DTreeMap.Internal.Impl.Const.toList tree.inner).map Prod.snd = tree.inner.values
    rw [DTreeMap.Internal.Impl.Const.toList_eq_toListModel_map,
      DTreeMap.Internal.Impl.values_eq_map_snd, List.map_map]
    rfl

theorem mem_values_iff [LawfulEqCmp cmp] : value ∈ map.values ↔ ∃ key : κ, map[key]? = some value := by
  rw [← map_snd_toList, List.mem_map]
  constructor
  · rintro ⟨⟨key, _⟩, hl, rfl⟩
    exact ⟨key, mem_toList_iff_getElem?_eq_some.mp hl⟩
  · rintro ⟨key, hf⟩
    exact ⟨(key, value), mem_toList_iff_getElem?_eq_some.mpr hf, rfl⟩

variable [LawfulEqCmp cmp]
variable {entries : List (κ × ν)}

/-- A key without an entry keeps its value. -/
theorem getElem?_insertMany_of_unwritten (unwritten : ∀ value, (key, value) ∉ entries) :
    (map.insertMany entries)[key]? = map[key]? := by
  classical
  refine getElem?_insertMany_list_of_contains_eq_false ?_
  simpa using unwritten

/-- An entry that no other entry for its key contradicts is found in the map. -/
theorem getElem?_insertMany_of_agreed (written : (key, value) ∈ entries)
    (agreed : ∀ other, (key, other) ∈ entries → other = value) :
    (map.insertMany entries)[key]? = some value := by
  induction entries using List.reverseRecOn with
  | nil => simp at written
  | append_singleton entries entry ih =>
    obtain ⟨key', value'⟩ := entry
    rw [insertMany_concat, getElem?_insert]
    split_ifs with hs
    · rw [LawfulEqCmp.compare_eq_iff_eq] at hs
      subst hs
      rw [agreed value' (by simp)]
    · apply ih
      · rcases List.mem_append.mp written with earlier | isLast
        · exact earlier
        · rw [List.mem_singleton, Prod.mk.injEq] at isLast
          simp [isLast.1] at hs
      · intro other hm
        exact agreed other (List.mem_append_left _ hm)

/-- One value for many keys. -/
theorem getElem?_insertMany_const {keys : List κ} [Decidable (key ∈ keys)] :
    (map.insertMany (keys.map (·, value)))[key]? = if key ∈ keys then some value else map[key]? := by
  split_ifs with written
  · apply getElem?_insertMany_of_agreed
    · exact List.mem_map.mpr ⟨key, written, rfl⟩
    · intro other agreed
      obtain ⟨_, -, hs⟩ := List.mem_map.mp agreed
      exact (Prod.mk.inj hs).2.symm
  · apply getElem?_insertMany_of_unwritten
    intro other agreed
    obtain ⟨_, hm, hs⟩ := List.mem_map.mp agreed
    rw [(Prod.mk.inj hs).1] at hm
    exact written hm

/-- What is found was written or was there before. -/
theorem written_of_getElem?_insertMany (hf : (map.insertMany entries)[key]? = some value) :
    (key, value) ∈ entries ∨ map[key]? = some value := by
  induction entries using List.reverseRecOn with
  | nil =>
    exact .inr hf
  | append_singleton entries entry ih =>
    obtain ⟨key', value'⟩ := entry
    rw [insertMany_concat, getElem?_insert] at hf
    split_ifs at hf with hs
    · rw [LawfulEqCmp.compare_eq_iff_eq] at hs
      cases hf
      exact .inl (by simp [hs])
    · rcases ih hf with written | before
      · exact .inl (List.mem_append_left _ written)
      · exact .inr before

/-- The values of a map are the one under a key and those without the key. -/
theorem values_perm_erase {map : ExtTreeMap κ ν cmp} {key : κ} {value : ν}
    (hf : map[key]? = some value) : map.values.Perm (value :: (map.erase key).values) := by
  have nodup (map : ExtTreeMap κ ν cmp) : map.toList.Nodup := by
    refine map.distinct_keys_toList.imp ?_
    rintro first _ ne rfl
    exact ne ReflCmp.compare_self
  have ha : (key, value) ∉ (map.erase key).toList := by
    rw [mem_toList_iff_getElem?_eq_some, getElem?_erase, if_pos ReflCmp.compare_self]
    exact fun none => by cases none
  have perm : map.toList.Perm ((key, value) :: (map.erase key).toList) := by
    refine (List.perm_ext_iff_of_nodup (nodup map) (List.nodup_cons.mpr ⟨ha, nodup _⟩)).mpr ?_
    rintro ⟨other, value'⟩
    rw [List.mem_cons, mem_toList_iff_getElem?_eq_some, mem_toList_iff_getElem?_eq_some, getElem?_erase]
    by_cases hs : cmp key other = .eq
    · rw [if_pos hs]
      rw [LawfulEqCmp.compare_eq_iff_eq] at hs
      subst hs
      simp [hf, eq_comm]
    · rw [if_neg hs]
      rw [LawfulEqCmp.compare_eq_iff_eq] at hs
      simp [Ne.symm hs]
  have values := perm.map Prod.snd
  rwa [List.map_cons, map_snd_toList, map_snd_toList] at values

theorem values_perm_insert
    (ha : map[key]? = none) : (map.insert key value).values.Perm (value :: map.values) := by
  have erased : (map.insert key value).erase key = map := by
    refine ext_getElem? fun other => ?_
    rw [getElem?_erase, getElem?_insert]
    split_ifs with hs
    · rw [LawfulEqCmp.compare_eq_iff_eq] at hs
      rw [← hs, ha]
    · rfl
  have perm := @values_perm_erase κ ν cmp _ _ (map.insert key value) key value getElem?_insert_self
  rwa [erased] at perm

/-- The entries of a map, each changed in its value, make the changed map. -/
theorem insertMany_map_toList {ν' : Type v} (map : ExtTreeMap κ ν cmp) (change : κ → ν → ν') :
    (∅ : ExtTreeMap κ ν' cmp).insertMany
      (map.toList.map fun entry => (entry.1, change entry.1 entry.2)) = map.map change := by
  apply ext_getElem?
  intro key
  rw [getElem?_map]
  cases hf : map[key]? with
  | none =>
    rw [getElem?_insertMany_of_unwritten, getElem?_empty, Option.map_none]
    intro value written
    obtain ⟨entry, hl, hs⟩ := List.mem_map.mp written
    rw [Prod.mk.injEq] at hs
    rw [mem_toList_iff_getElem?_eq_some, hs.1, hf] at hl
    simp at hl
  | some value =>
    apply getElem?_insertMany_of_agreed
    · exact List.mem_map.mpr ⟨(key, value), mem_toList_iff_getElem?_eq_some.mpr hf, rfl⟩
    · intro other written
      obtain ⟨entry, hl, hs⟩ := List.mem_map.mp written
      rw [Prod.mk.injEq] at hs
      rw [mem_toList_iff_getElem?_eq_some, hs.1, hf, Option.some.injEq] at hl
      rw [← hs.2, hs.1, hl]

end Std.ExtTreeMap

namespace OrderedMap

section

/-! Lookups, for an order under which only equal keys are the same. -/

universe u v
variable {κ : Type u} {ν : Type v} {cmp : κ → κ → Ordering} [Std.TransCmp cmp] [Std.LawfulEqCmp cmp]
  [DecidableEq κ] {map : Std.ExtTreeMap κ ν cmp} {key other : κ} {value : ν}

theorem lookup_insert :
    (map.insert key value)[other]? = if key = other then some value else map[other]? := by
  simp only [Std.ExtTreeMap.getElem?_insert, Std.LawfulEqCmp.compare_eq_iff_eq]

theorem lookup_erase : (map.erase key)[other]? = if key = other then none else map[other]? := by
  simp only [Std.ExtTreeMap.getElem?_erase, Std.LawfulEqCmp.compare_eq_iff_eq]

theorem lookup_modify {change : ν → ν} : (map.modify key change)[other]? =
    if key = other then map[key]?.map change else map[other]? := by
  simp only [Std.ExtTreeMap.getElem?_modify, Std.LawfulEqCmp.compare_eq_iff_eq]

omit [DecidableEq κ]

theorem member_insert : other ∈ map.insert key value ↔ key = other ∨ other ∈ map := by
  rw [Std.ExtTreeMap.mem_insert, Std.LawfulEqCmp.compare_eq_iff_eq]

theorem member_erase : other ∈ map.erase key ↔ key ≠ other ∧ other ∈ map := by
  rw [Std.ExtTreeMap.mem_erase, ne_eq, Std.LawfulEqCmp.compare_eq_iff_eq]

end

export Std.ExtTreeMap (contains_eq_isSome_getElem? contains_iff_mem contains_insert
  erase_of_absent exists_of_mem ext_getElem? getElem?_empty getElem?_eq_none
  getElem?_eq_none_of_contains_eq_false getElem?_erase getElem?_erase_self getElem?_filter'
  getElem?_insert getElem?_insertMany_const getElem?_insertMany_of_agreed getElem?_insert_self
  getElem?_map getElem?_modify getElem?_modify_self insertMany_cons isEmpty_iff length_toList
  mem_erase mem_iff_isSome_getElem? mem_insert mem_insert_self mem_keys mem_of_lookup
  mem_toList_iff_getElem?_eq_some mem_values_iff toList_map)

end OrderedMap
