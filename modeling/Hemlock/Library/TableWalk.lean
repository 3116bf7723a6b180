import Mathlib.Data.List.Basic
import Mathlib.Data.List.Lex
import Mathlib.Data.List.Sort
import Mathlib.Logic.Function.Iterate
import Mathlib.Order.Basic

/-!
# Walking a sorted table

A reader that knows no more than the key it was given last finds its place in a sorted
table again and is given the next entry.  Starting from a range, it gets the entries
of the range one after the other.
-/

universe u v

namespace TableWalk

variable {Key : Type u} {Value : Type v} [LinearOrder Key]

/-- Where a reader stands: behind `start`, or at it, and before `stop`. -/
structure Range (Key : Type u) where
  start : Key
  inclusive : Bool
  stop : Option Key

def Range.after (range : Range Key) (key : Key) : Bool :=
  if range.inclusive then range.start ≤ key else range.start < key

def Range.before (range : Range Key) (key : Key) : Bool := range.stop.all fun stop => key < stop

/-- The first entry behind the start, unless it is past the end. -/
def nextAfter (table : List (Key × Value)) (range : Range Key) : Option (Key × Value) :=
  (table.find? fun entry => range.after entry.1).filter fun entry => range.before entry.1

def advance (table : List (Key × Value)) (range : Range Key) : Range Key :=
  match nextAfter table range with
  | some (key, _) => { range with start := key, inclusive := false }
  | none => range

def entries (table : List (Key × Value)) (range : Range Key) : List (Key × Value) :=
  table.filter fun entry => range.after entry.1 && range.before entry.1

/-- Strictly increasing keys. -/
def Ascending (table : List (Key × Value)) : Prop :=
  table.Pairwise fun first second => first.1 < second.1

variable {first second : Key} {range : Range Key}

theorem Range.after_of_lt
    (behind : range.after first = true) (later : first < second) : range.after second = true := by
  unfold Range.after at behind ⊢
  split_ifs at behind ⊢ with inclusive
  · exact decide_eq_true ((of_decide_eq_true behind).trans later.le)
  · exact decide_eq_true ((of_decide_eq_true behind).trans later)

theorem Range.before_of_lt
    (inside : range.before second = true) (later : first < second) : range.before first = true := by
  unfold Range.before at inside ⊢
  cases hk : range.stop with
  | none => rfl
  | some stop =>
    rw [hk] at inside
    exact decide_eq_true (later.trans (of_decide_eq_true inside))

variable {table : List (Key × Value)}

/-- Sorting a table with distinct keys makes it ascending. -/
theorem ascending_insertionSort (hd : (table.map Prod.fst).Nodup) :
    Ascending (table.insertionSort fun first second => first.1 ≤ second.1) := by
  have sorted := List.pairwise_insertionSort (fun first second => first.1 ≤ second.1) table
  have perm := List.perm_insertionSort (fun first second => first.1 ≤ second.1) table
  have apart := List.pairwise_map.mp ((perm.map Prod.fst).nodup_iff.mpr hd)
  exact (sorted.and apart).imp fun both => lt_of_le_of_ne both.1 both.2

variable (ascending : Ascending table)
include ascending

/-- The next entry is the first one of the range. -/
theorem nextAfter_eq_head? (range : Range Key) : nextAfter table range = (entries table range).head? := by
  induction table with
  | nil => rfl
  | cons entry table ih =>
    obtain ⟨first, rest⟩ := List.pairwise_cons.mp ascending
    unfold nextAfter entries
    by_cases behind : range.after entry.1 = true
    · by_cases inside : range.before entry.1 = true
      · simp [behind, inside]
      · have outside : table.filter (fun entry => range.after entry.1 && range.before entry.1) = [] := by
          apply List.filter_eq_nil_iff.mpr
          intro later hl
          have past : ¬ range.before later.1 = true := fun within =>
            inside (Range.before_of_lt within (first later hl))
          simp [past]
        simp [behind, inside, outside]
    · have skipped := ih rest
      unfold nextAfter entries at skipped
      simpa [behind] using skipped

theorem entries_advance (range : Range Key) :
    entries table (advance table range) = (entries table range).tail := by
  have next := nextAfter_eq_head? ascending range
  cases hf : (entries table range) with
  | nil =>
    rw [hf] at next
    rw [advance, next]
    exact hf
  | cons entry others =>
    rw [hf] at next
    rw [advance, next, List.head?_cons]
    have hl : entry ∈ entries table range := by simp [hf]
    have behind : range.after entry.1 = true :=
      ((Bool.and_eq_true _ _).mp (List.mem_filter.mp hl).2).1
    have later : Ascending (entry :: others) := hf ▸ ascending.filter _
    -- what is behind the entry was behind the start
    have narrowed : entries table { range with start := entry.1, inclusive := false } =
        (entries table range).filter fun other => entry.1 < other.1 := by
      rw [entries, entries, List.filter_filter]
      apply List.filter_congr
      intro other _
      by_cases more : entry.1 < other.1
      · rw [Range.after_of_lt behind more]
        simp [Range.after, Range.before]
      · simp [Range.after, more]
    rw [narrowed, hf, List.filter_cons_of_neg (by simp)]
    apply List.filter_eq_self.mpr
    intro other hm
    exact decide_eq_true ((List.pairwise_cons.mp later).1 other hm)

theorem entries_iterate (range : Range Key) (steps : Nat) :
    entries table ((advance table)^[steps] range) = (entries table range).drop steps := by
  induction steps with
  | zero => rfl
  | succ steps ih =>
    rw [Function.iterate_succ_apply', entries_advance ascending, ih, List.tail_drop]

/-- Step by step, the reader is given the entries of its range. -/
theorem nextAfter_iterate (range : Range Key) (steps : Nat) :
    nextAfter table ((advance table)^[steps] range) = (entries table range)[steps]? := by
  rw [nextAfter_eq_head? ascending, entries_iterate ascending, List.head?_drop]

omit ascending

end TableWalk
