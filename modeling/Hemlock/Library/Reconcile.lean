import Hemlock.Library.OrderedMap
import Mathlib.Data.List.Basic

/-!
# Reconciling keyed stores

`writes` and `stale` are the entries to write and the keys to remove that turn one
keyed store into another.  `Throughout` speaks about the states on the way.
-/

namespace Reconcile

universe u v

section Throughout

variable {State : Type u} {Op : Type v}

/-- `Safe` holds before the first operation and after each one. -/
def Throughout (apply : State → Op → State) (Safe : State → Prop) (state : State) (ops : List Op) : Prop :=
  ∀ done, done <+: ops → Safe (done.foldl apply state)

variable {apply : State → Op → State} {Safe Invariant : State → Prop} {state : State}
  {ops first second : List Op}

theorem Throughout.append (before : Throughout apply Safe state first)
    (after : Throughout apply Safe (first.foldl apply state) second) :
    Throughout apply Safe state (first ++ second) := by
  intro done reached
  rcases List.prefix_or_prefix_of_prefix reached (List.prefix_append first second) with
    within | beyond
  · exact before done within
  · obtain ⟨rest, rfl⟩ := beyond
    rw [List.foldl_append]
    exact after rest ((List.prefix_append_right_inj first).mp reached)

/-- An invariant that each of the operations keeps. -/
theorem throughout_of_invariant (init : Invariant state)
    (keeps : ∀ op ∈ ops, ∀ state, Invariant state → Invariant (apply state op))
    (safe : ∀ state, Invariant state → Safe state) : Throughout apply Safe state ops := by
  intro done reached
  apply safe
  apply List.foldlRecOn done apply init
  intro state held op applied
  exact keeps op (reached.subset applied) state held

end Throughout

section Store

variable {κ : Type u} {ν : Type v} {cmp : κ → κ → Ordering} [Std.TransCmp cmp]

open Std (ExtTreeMap LawfulEqCmp)

def writes [DecidableEq ν] (current wanted : ExtTreeMap κ ν cmp) : List (κ × ν) :=
  wanted.toList.filter fun entry => current[entry.1]? ≠ some entry.2

def stale (current wanted : ExtTreeMap κ ν cmp) : List κ :=
  current.keys.filter fun key => !wanted.contains key

/-- What `current` says about wanted entries is true of `actual`: an entry that seems
to be there is there. -/
def Trusted (current actual wanted : ExtTreeMap κ ν cmp) : Prop :=
  ∀ (key : κ) value, wanted[key]? = some value → current[key]? = some value →
    actual[key]? = some value

theorem trusted_self (current wanted : ExtTreeMap κ ν cmp) : Trusted current current wanted :=
  fun _ _ _ hp => hp

variable [LawfulEqCmp cmp] {current wanted actual : ExtTreeMap κ ν cmp}

variable {key : κ} {value : ν}

theorem mem_writes [DecidableEq ν] : (key, value) ∈ writes current wanted ↔
      wanted[key]? = some value ∧ current[key]? ≠ some value := by
  simp [writes]

theorem mem_stale : key ∈ stale current wanted ↔ key ∈ current ∧ key ∉ wanted := by
  simp [stale, ← ExtTreeMap.contains_iff_mem]

/-- After the writes the store has every wanted entry, and the others as before. -/
theorem getElem?_written [DecidableEq ν] (trusted : Trusted current actual wanted) (key : κ) :
    (actual.insertMany (writes current wanted))[key]? = wanted[key]?.or actual[key]? := by
  cases isWanted : wanted[key]? with
  | none =>
    rw [ExtTreeMap.getElem?_insertMany_of_unwritten, Option.none_or]
    intro value written
    rw [mem_writes, isWanted] at written
    simp at written
  | some value =>
    rw [Option.some_or]
    by_cases hp : current[key]? = some value
    · rw [ExtTreeMap.getElem?_insertMany_of_unwritten, trusted key value isWanted hp]
      intro other written
      rw [mem_writes, isWanted, hp] at written
      exact written.2 written.1
    · apply ExtTreeMap.getElem?_insertMany_of_agreed (mem_writes.mpr ⟨isWanted, hp⟩)
      intro other written
      rw [mem_writes, isWanted, Option.some.injEq] at written
      exact written.1.symm

theorem getElem?_foldl_erase {keys : List κ} {map : ExtTreeMap κ ν cmp} :
    (keys.foldl ExtTreeMap.erase map)[key]? = some value ↔ key ∉ keys ∧ map[key]? = some value := by
  induction keys generalizing map with
  | nil => simp
  | cons first keys ih =>
    rw [List.foldl_cons, ih, ExtTreeMap.getElem?_erase, List.mem_cons, not_or]
    by_cases hs : first = key
    · simp [hs]
    · have other : cmp first key ≠ .eq := by
        rwa [ne_eq, LawfulEqCmp.compare_eq_iff_eq]
      rw [if_neg other]
      constructor
      · intro ⟨kept, hf⟩
        exact ⟨⟨Ne.symm hs, kept⟩, hf⟩
      · intro ⟨⟨_, kept⟩, hf⟩
        exact ⟨kept, hf⟩

/-- Writing and then removing what is stale makes the wanted store, also of a store
that the writer knows only in part: it need not know the values, but must know every
key. -/
theorem reconciled_of_trusted [DecidableEq ν] (trusted : Trusted current actual wanted)
    (known : ∀ key ∈ actual, key ∈ current) :
    (stale current wanted).foldl ExtTreeMap.erase (actual.insertMany (writes current wanted)) =
      wanted := by
  apply ExtTreeMap.ext_getElem?
  intro key
  apply Option.ext
  intro value
  rw [getElem?_foldl_erase, getElem?_written trusted, mem_stale, not_and, not_not]
  cases isWanted : wanted[key]? with
  | none =>
    have unwanted : key ∉ wanted := by
      rw [ExtTreeMap.mem_iff_isSome_getElem?, isWanted]
      simp
    simp only [reduceCtorEq, iff_false, not_and]
    intro kept hp
    exact unwanted (kept (known key (ExtTreeMap.mem_of_lookup hp)))
  | some entry =>
    have hl := ExtTreeMap.mem_of_lookup isWanted
    simp [hl]

/-- The updates that tell a mirror of `current` about `wanted`: the writes, then the
removals. -/
def changes [DecidableEq ν] (current wanted : ExtTreeMap κ ν cmp) : List (κ × Option ν) :=
  (writes current wanted).map (fun entry => (entry.1, some entry.2)) ++
    (stale current wanted).map fun key => (key, none)

/-- What a mirror knows of one key: the last update of it wins. -/
def latest [DecidableEq κ] (key : κ) (known : Option ν) (updates : List (κ × Option ν)) : Option ν :=
  updates.foldl (fun known update => if update.1 = key then update.2 else known) known

variable {known : Option ν} {updates : List (κ × Option ν)}

omit [Std.TransCmp cmp] [LawfulEqCmp cmp] in
theorem latest_of_untouched [DecidableEq κ] (untouched : ∀ value, (key, value) ∉ updates) :
    latest key known updates = known := by
  apply List.foldlRecOn updates (motive := fun out => out = known) _ rfl
  rintro out rfl ⟨other, value⟩ hl
  rw [if_neg]
  rintro rfl
  exact untouched value hl

theorem latest_of_agreed [DecidableEq κ] {value : Option ν} (touched : (key, value) ∈ updates)
    (agreed : ∀ other, (key, other) ∈ updates → other = value) : latest key known updates = value := by
  induction updates using List.reverseRecOn with
  | nil => simp at touched
  | append_singleton updates update ih =>
    obtain ⟨key', value'⟩ := update
    rw [latest, List.foldl_append, List.foldl_cons]
    split_ifs with hs
    · exact agreed value' (by simp [← hs])
    · apply ih
      · rcases List.mem_append.mp touched with earlier | isLast
        · exact earlier
        · rw [List.mem_singleton, Prod.mk.injEq] at isLast
          exact absurd isLast.1.symm hs
      · intro other hl
        exact agreed other (List.mem_append_left _ hl)

theorem mem_changes [DecidableEq ν] {value : Option ν} : (key, value) ∈ changes current wanted ↔
      value = wanted[key]? ∧ current[key]? ≠ wanted[key]? := by
  have hl : (key, value) ∈ changes current wanted ↔
      (∃ entry, (key, entry) ∈ writes current wanted ∧ some entry = value) ∨
        key ∈ stale current wanted ∧ none = value := by
    simp [changes]
  rw [hl]
  cases isWanted : wanted[key]? with
  | none =>
    simp only [mem_writes, mem_stale, isWanted, ExtTreeMap.mem_iff_isSome_getElem?]
    cases current[key]? <;> simp [eq_comm]
  | some entry =>
    simp only [mem_writes, mem_stale, isWanted, ExtTreeMap.mem_iff_isSome_getElem?]
    constructor
    · rintro (⟨other, ⟨hs, differs⟩, rfl⟩ | ⟨⟨-, unwanted⟩, -⟩)
      · cases hs
        exact ⟨rfl, differs⟩
      · simp at unwanted
    · rintro ⟨rfl, differs⟩
      exact .inl ⟨entry, ⟨rfl, differs⟩, rfl⟩

/-- A mirror that knows what the writer knows is brought up to date. -/
theorem latest_changes [DecidableEq κ] [DecidableEq ν] (current wanted : ExtTreeMap κ ν cmp)
    (key : κ) : latest key current[key]? (changes current wanted) = wanted[key]? := by
  by_cases hs : current[key]? = wanted[key]?
  · rw [latest_of_untouched, hs]
    intro value hl
    exact (mem_changes.mp hl).2 hs
  · apply latest_of_agreed (mem_changes.mpr ⟨rfl, hs⟩)
    intro other hl
    exact (mem_changes.mp hl).1

end Store

section Shadow

open Std (ExtTreeMap LawfulEqCmp)

variable {κ : Type u} {ν : Type v} {cmp : κ → κ → Ordering} [Std.TransCmp cmp]

/-- `shadow` has the entries of `actual`, some of them with the value `unknown` instead
of their own. -/
def Shadows (unknown : ν) (shadow actual : ExtTreeMap κ ν cmp) : Prop :=
  ∀ key : κ, shadow[key]? = actual[key]? ∨ shadow[key]? = some unknown ∧ key ∈ actual

variable {unknown : ν} {shadow actual wanted : ExtTreeMap κ ν cmp}

theorem shadows_map [LawfulEqCmp cmp] (unknown : ν) (actual : ExtTreeMap κ ν cmp) :
    Shadows unknown (actual.map fun _ _ => unknown) actual := by
  intro key
  rw [ExtTreeMap.getElem?_map]
  cases hf : actual[key]? with
  | none => exact .inl rfl
  | some value => exact .inr ⟨rfl, ExtTreeMap.mem_of_lookup hf⟩

variable (shadows : Shadows unknown shadow actual)
include shadows

theorem Shadows.known : ∀ key ∈ actual, key ∈ shadow := by
  intro key hl
  rw [ExtTreeMap.mem_iff_isSome_getElem?] at hl ⊢
  rcases shadows key with hi | ⟨isUnknown, -⟩
  · rwa [hi]
  · rw [isUnknown, Option.isSome_some]

/-- A shadow can be trusted about values other than `unknown`. -/
theorem Shadows.trusted
    (concrete : ∀ key : κ, wanted[key]? ≠ some unknown) : Trusted shadow actual wanted := by
  intro key value isWanted hp
  rcases shadows key with hi | ⟨isUnknown, -⟩
  · rw [← hi, hp]
  · rw [isUnknown] at hp
    exact absurd (hp ▸ isWanted) (concrete key)

omit shadows

end Shadow

end Reconcile
