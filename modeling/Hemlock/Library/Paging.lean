import Mathlib.Data.List.Basic
import Mathlib.Tactic.Common

/-!
# Paging by key

A server hands out a list of rows page by page.  The token of the next page is the
key of the last row handed out, so the server resumes behind the first row that
has this key.  Read to the end, the pages give the whole list exactly when the last
row of every full page is the first one of its key.
-/

namespace Paging

variable {Row Key : Type} [DecidableEq Key] (key : Row → Key) (blank : Key)

/-- The rows a token asks for. -/
def resume (token : Key) (rows : List Row) : List Row :=
  if token = blank then rows
  else
    match rows.findIdx? fun row => key row = token with
    | some position => rows.drop (position + 1)
    | none => rows

/-- One page and the token of the next; size zero asks for everything. -/
def page (size : Nat) (token : Key) (rows : List Row) : List Row × Key :=
  let rows := resume key blank token rows
  if 0 < size ∧ size < rows.length then
    let rows := rows.take size
    (rows, (rows.getLast?.map key).getD blank)
  else (rows, blank)

/-- The pages up to the one with a blank token, in at most so many calls. -/
def walk (size : Nat) (rows : List Row) : Nat → Key → Option (List Row)
  | 0, _ => none
  | calls + 1, token =>
    let (rows', next) := page key blank size token rows
    if next = blank then some rows'
    else (walk size rows calls next).map fun behind => rows' ++ behind

/-- The last row of every full page is the first one of its key. -/
def Resumable (size : Nat) (rows : List Row) : Prop :=
  ∀ pages last, 0 < pages → pages * size < rows.length → rows[pages * size - 1]? = some last →
    ∀ row ∈ rows.take (pages * size - 1), key row ≠ key last

variable {key blank} {size : Nat} {rows : List Row}

theorem resume_blank (rows : List Row) : resume key blank blank rows = rows := if_pos rfl

section Map

variable {Source : Type} (convert : Source → Row)

theorem resume_map (token : Key) (sources : List Source) : resume key blank token (sources.map convert) =
      (resume (key ∘ convert) blank token sources).map convert := by
  unfold resume
  rw [List.findIdx?_map]
  split_ifs
  · rfl
  · have hs : ((fun row => decide (key row = token)) ∘ convert) =
        fun source => decide ((key ∘ convert) source = token) := rfl
    rw [hs]
    split
    · rw [List.map_drop]
    · rfl

/-- Rows that are converted after paging could be converted before. -/
theorem page_map (token : Key) (sources : List Source) : page key blank size token (sources.map convert) =
      ((page (key ∘ convert) blank size token sources).1.map convert,
        (page (key ∘ convert) blank size token sources).2) := by
  simp only [page, resume_map, List.length_map]
  split_ifs
  · rw [← List.map_take, List.getLast?_map, Option.map_map]
  · rfl

omit [DecidableEq Key] in
theorem resumable_map_iff (sources : List Source) :
    Resumable key size (sources.map convert) ↔ Resumable (key ∘ convert) size sources := by
  simp only [Resumable, List.length_map, List.getElem?_map, ← List.map_take, List.mem_map,
    Option.map_eq_some_iff]
  constructor
  · intro resumable pages last some inside hf row hl
    exact resumable pages _ some inside ⟨last, hf, rfl⟩ _ ⟨row, hl, rfl⟩
  · rintro resumable pages _ some inside ⟨last, hf, rfl⟩ _ ⟨row, hl, rfl⟩
    exact resumable pages last some inside hf row hl

end Map

/-- The token of a row resumes behind that row or earlier. -/
theorem resume_key {position : Nat} {last : Row} (hf : rows[position]? = some last)
    (named : key last ≠ blank) :
    ∃ first ≤ position, resume key blank (key last) rows = rows.drop (first + 1) ∧
      (first = position ↔ ∀ row ∈ rows.take position, key row ≠ key last) := by
  obtain ⟨inside, rfl⟩ := List.getElem?_eq_some_iff.mp hf
  have exists_row : ∃ row ∈ rows, decide (key row = key rows[position]) = true :=
    ⟨rows[position], List.getElem_mem inside, decide_eq_true rfl⟩
  have hk : (rows.findIdx? fun row => key row = key rows[position]) =
      some (rows.findIdx fun row => key row = key rows[position]) :=
    List.findIdx?_eq_some_of_exists exists_row
  refine ⟨rows.findIdx fun row => key row = key rows[position], ?_, ?_, ?_⟩
  · by_contra later
    have before := List.not_of_lt_findIdx (Nat.lt_of_not_le later)
    simp at before
  · rw [resume, if_neg named, hk]
  · rw [List.findIdx_eq inside]
    constructor
    · intro ⟨_, earlier⟩ row hl
      obtain ⟨index, before, rfl⟩ := List.mem_take_iff_getElem.mp hl
      have differs := earlier index (by omega)
      simpa using differs
    · intro unseen
      refine ⟨decide_eq_true rfl, ?_⟩
      intro index before
      have differs := unseen _ (List.mem_take_iff_getElem.mpr ⟨index, by omega, rfl⟩)
      exact decide_eq_false differs

section Named

variable (named : ∀ row ∈ rows, key row ≠ blank) (positive : 0 < size)

include named positive

variable {token : Key} {start : Nat}
variable (starts : resume key blank token rows = rows.drop start)
include starts

/-- A full page, and what its token resumes with. -/
theorem page_full (more : start + size < rows.length) :
    ∃ last first, rows[start + size - 1]? = some last ∧ first ≤ start + size - 1 ∧
      page key blank size token rows = ((rows.drop start).take size, key last) ∧
      key last ≠ blank ∧ resume key blank (key last) rows = rows.drop (first + 1) ∧
      (first = start + size - 1 ↔ ∀ row ∈ rows.take (start + size - 1), key row ≠ key last) := by
  have inside : start + size - 1 < rows.length := by omega
  have hf : rows[start + size - 1]? = some rows[start + size - 1] :=
    List.getElem?_eq_getElem inside
  have nonblank := named rows[start + size - 1] (List.getElem_mem inside)
  obtain ⟨first, before, resumed, isFirst⟩ := resume_key hf nonblank
  refine ⟨_, first, hf, before, ?_, nonblank, resumed, isFirst⟩
  have lastRow : ((rows.drop start).take size).getLast? = some rows[start + size - 1] := by
    have length : ((rows.drop start).take size).length = size := by
      rw [List.length_take, List.length_drop]
      omega
    rw [List.getLast?_eq_getElem?, List.getElem?_take_of_lt (by omega), List.getElem?_drop, ← hf]
    congr 1
    omega
  have full : 0 < size ∧ size < (rows.drop start).length := by
    rw [List.length_drop]
    omega
  simp only [page, starts, if_pos full, lastRow, Option.map_some, Option.getD_some]

omit named positive in
/-- The last page. -/
theorem page_rest
    (last : rows.length ≤ start + size) : page key blank size token rows = (rows.drop start, blank) := by
  have rest : ¬ (0 < size ∧ size < (rows.drop start).length) := by
    rw [List.length_drop]
    omega
  simp only [page, starts, if_neg rest]

/-- Whatever the walk skips back to, it returns at least the rows it was to resume
with. -/
theorem le_length_of_walk {calls : Nat} {out : List Row} 
    (walked : walk key blank size rows calls token = some out) : rows.length - start ≤ out.length := by
  induction calls generalizing token start out with
  | zero => simp [walk] at walked
  | succ calls ih =>
    by_cases more : start + size < rows.length
    · obtain ⟨last, first, -, before, isPage, nonblank, resumed, -⟩ :=
        page_full named positive starts more
      simp only [walk, isPage, if_neg nonblank, Option.map_eq_some_iff] at walked
      obtain ⟨behind, walked, rfl⟩ := walked
      have rest := ih resumed walked
      rw [List.length_append, List.length_take, List.length_drop]
      omega
    · simp only [walk, page_rest starts (Nat.le_of_not_lt more), if_true, Option.some.injEq] at walked
      exact Nat.le_of_eq (by rw [← walked, List.length_drop])

omit starts

theorem resumable_of_walk {calls : Nat} {pages : Nat}
    (starts : resume key blank token rows = rows.drop (pages * size))
    (walked : walk key blank size rows calls token = some (rows.drop (pages * size))) :
    ∀ later last, pages < later → later * size < rows.length → rows[later * size - 1]? = some last →
      ∀ row ∈ rows.take (later * size - 1), key row ≠ key last := by
  induction calls generalizing token pages with
  | zero => simp [walk] at walked
  | succ calls ih =>
    intro later last after inside hf
    have next : (pages + 1) * size ≤ later * size := Nat.mul_le_mul_right size after
    rw [Nat.succ_mul] at next
    obtain ⟨last', first, hf', before, isPage, nonblank, resumed, isFirst⟩ :=
      page_full named positive starts (by omega)
    simp only [walk, isPage, if_neg nonblank, Option.map_eq_some_iff] at walked
    obtain ⟨behind, walked, whole⟩ := walked
    have rest : behind = rows.drop ((pages + 1) * size) := by
      rw [Nat.succ_mul, ← List.drop_drop]
      apply List.append_cancel_left
      rw [whole, List.take_append_drop]
    -- resuming earlier would return more rows than are left
    have enough := le_length_of_walk named positive resumed walked
    rw [rest, List.length_drop, Nat.succ_mul] at enough
    have reached : first = pages * size + size - 1 := by omega
    by_cases hs : later = pages + 1
    · subst hs
      rw [Nat.succ_mul] at hf ⊢
      rw [hf', Option.some.injEq] at hf
      rw [← hf]
      exact isFirst.mp reached
    · have resumesNext : resume key blank (key last') rows = rows.drop ((pages + 1) * size) := by
        rw [resumed, Nat.succ_mul]
        congr 1
        omega
      exact ih resumesNext (rest ▸ walked) later last (by omega) inside hf

theorem exists_walk {pages : Nat} (resumable : Resumable key size rows)
    (starts : resume key blank token rows = rows.drop (pages * size)) :
    ∃ calls, walk key blank size rows calls token = some (rows.drop (pages * size)) := by
  -- every full page brings the end nearer
  induction left : rows.length - pages * size using Nat.strongRecOn generalizing token pages with
  | _ left ih =>
    by_cases more : pages * size + size < rows.length
    · obtain ⟨last, first, hf, before, isPage, nonblank, resumed, isFirst⟩ :=
        page_full named positive starts more
      have unseen := resumable (pages + 1) last (Nat.succ_pos pages)
        (by rw [Nat.succ_mul]; exact more) (by rw [Nat.succ_mul]; exact hf)
      rw [Nat.succ_mul] at unseen
      have reached := isFirst.mpr unseen
      have resumesNext : resume key blank (key last) rows = rows.drop ((pages + 1) * size) := by
        rw [resumed, Nat.succ_mul]
        congr 1
        omega
      obtain ⟨calls, walked⟩ := ih (rows.length - (pages + 1) * size)
        (by rw [Nat.succ_mul]; omega) resumesNext rfl
      refine ⟨calls + 1, ?_⟩
      simp only [walk, isPage, if_neg nonblank, walked, Option.map_some]
      rw [Nat.succ_mul, ← List.drop_drop, List.take_append_drop]
    · refine ⟨1, ?_⟩
      simp only [walk, page_rest starts (Nat.le_of_not_lt more), if_true]

/-- Paging ends with the whole list exactly when it resumes where it stopped. -/
theorem walk_complete_iff :
    (∃ calls, walk key blank size rows calls blank = some rows) ↔ Resumable key size rows := by
  have starts : resume key blank blank rows = rows.drop (0 * size) := by
    rw [resume_blank, Nat.zero_mul, List.drop_zero]
  constructor
  · intro ⟨calls, walked⟩
    have whole : walk key blank size rows calls blank = some (rows.drop (0 * size)) := by
      rwa [Nat.zero_mul, List.drop_zero]
    exact resumable_of_walk named positive starts whole
  · intro resumable
    obtain ⟨calls, walked⟩ := exists_walk named positive resumable starts
    rw [Nat.zero_mul] at walked
    exact ⟨calls, walked⟩

end Named

end Paging
