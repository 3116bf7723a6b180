import Hemlock.Library.OrderedMap
import Mathlib.Data.List.Basic
import Mathlib.Logic.Function.Basic

/-!
# Plans of changes

A plan is a list of changes, each of which names one key and acts on the state at that
key.  What a plan does at a key depends on the changes that name the key only, so a diff
is judged key by key.  The diffs of two maps go over the entries that are wanted and then
over those that are wanted no more.
-/

namespace Plan

open Std

section

variable {Key Change State : Type} [DecidableEq Key]

/-- The changes, one after the other, each at its key. -/
def apply (key : Change → Key) (act : Change → State → State) (changes : List Change)
    (states : Key → State) : Key → State :=
  changes.foldl (fun states change =>
    Function.update states (key change) (act change (states (key change)))) states

theorem apply_at (key : Change → Key) (act : Change → State → State) (changes : List Change)
    (states : Key → State) (place : Key) : apply key act changes states place =
      (changes.filter (key · = place)).foldl (fun state change => act change state) (states place) := by
  induction changes generalizing states with
  | nil => rfl
  | cons change rest ih =>
    refine (ih _).trans ?_
    by_cases here : key change = place
    · simp [here]
    · simp [here, Function.update_of_ne (Ne.symm here)]

end

/-- A family of configured entries: how two configurations are compared, and what the
changes do to the states that the entries stand for. -/
structure Family (Config Change Key Entry State : Type) where
  diff : Config → Config → List Change
  key : Change → Key
  act : Change → State → State
  entry : Config → Key → Entry
  effective : Config → Key → State

namespace Family

variable {Config Change Key Entry State : Type} [DecidableEq Key]
  (family : Family Config Change Key Entry State)

/-- The diff leads from the states of one configuration to those of the other, touches
only entries that differ, and is empty where nothing does. -/
structure Correct : Prop where
  reaches : ∀ running candidate, apply family.key family.act (family.diff running candidate)
    (family.effective running) = family.effective candidate
  differs : ∀ running candidate, ∀ change ∈ family.diff running candidate,
    family.entry running (family.key change) ≠ family.entry candidate (family.key change)
  idle : ∀ config, family.diff config config = []

def changesAt (running candidate : Config) (place : Key) : List Change :=
  (family.diff running candidate).filter (family.key · = place)

/-- A family is judged key by key. -/
theorem correct_of_changesAt (reaches : ∀ running candidate place,
      (family.changesAt running candidate place).foldl (fun state change => family.act change state)
        (family.effective running place) = family.effective candidate place)
    (quiet : ∀ running candidate place, family.entry running place = family.entry candidate place →
        family.changesAt running candidate place = []) : family.Correct := by
  have differs : ∀ running candidate, ∀ change ∈ family.diff running candidate,
      family.entry running (family.key change) ≠ family.entry candidate (family.key change) := by
    intro running candidate change hl hs
    have hf : change ∈ family.changesAt running candidate (family.key change) :=
      List.mem_filter.mpr ⟨hl, by simp⟩
    rw [quiet running candidate _ hs] at hf
    exact List.not_mem_nil hf
  refine ⟨fun running candidate => ?_, differs, fun config => ?_⟩
  · funext place
    exact (apply_at _ _ _ _ _).trans (reaches running candidate place)
  · refine List.eq_nil_iff_forall_not_mem.mpr fun change hl => ?_
    exact differs config config change hl rfl

end Family

section

variable {Key Entry Change : Type} {order : Key → Key → Ordering} [TransCmp order]

def changed (change : Key → Option Entry → Entry → List Change)
    (running candidate : ExtTreeMap Key Entry order) : List Change :=
  candidate.toList.flatMap fun (place, wanted) => change place running[place]? wanted

def removed (change : Key → Entry → List Change)
    (running candidate : ExtTreeMap Key Entry order) : List Change :=
  running.toList.flatMap fun (place, had) =>
    if candidate.contains place then [] else change place had

/-- The diff of entries that are replaced as a whole. -/
def diffMaps [DecidableEq Entry] (change : Key → Option Entry → Option Entry → Change)
    (running candidate : ExtTreeMap Key Entry order) : List Change :=
  changed (fun place current wanted =>
      if current = some wanted then [] else [change place current (some wanted)]) running candidate ++
    removed (fun place had => [change place (some had) none]) running candidate

theorem exists_of_mem_diffMaps [DecidableEq Entry] {change : Key → Option Entry → Option Entry → Change}
    {running candidate : ExtTreeMap Key Entry order} {made : Change}
    (hl : made ∈ diffMaps change running candidate) :
    ∃ place current wanted, made = change place current wanted := by
  simp only [diffMaps, changed, removed, List.mem_append, List.mem_flatMap] at hl
  obtain ⟨entry, -, hl⟩ | ⟨entry, -, hl⟩ := hl
  all_goals
    split at hl
    · cases hl
    · exact ⟨_, _, _, List.mem_singleton.mp hl⟩

variable [LawfulEqCmp order]

theorem flatMap_toList_at [DecidableEq Key] (map : ExtTreeMap Key Entry order) (place : Key)
    (make : Entry → List Change) :
    (map.toList.flatMap fun entry => if entry.1 = place then make entry.2 else []) =
      map[place]?.elim [] make := by
  cases hf : map[place]? with
  | none =>
    refine List.flatMap_eq_nil_iff.mpr fun entry hl => if_neg ?_
    rintro rfl
    have given := ExtTreeMap.mem_toList_iff_getElem?_eq_some.mp hl
    rw [hf] at given
    cases given
  | some value =>
    have hl : (place, value) ∈ map.toList :=
      ExtTreeMap.mem_toList_iff_getElem?_eq_some.mpr hf
    obtain ⟨before, after, split⟩ := List.append_of_mem hl
    have hd := map.distinct_keys_toList
    rw [split, List.pairwise_append, List.pairwise_cons] at hd
    -- no other entry has this key
    have ahead : ∀ entry ∈ before, entry.1 ≠ place := by
      intro entry hl hs
      refine hd.2.2 entry hl (place, value) (by simp) ?_
      rw [hs]
      exact ReflCmp.compare_self
    have behind : ∀ entry ∈ after, entry.1 ≠ place := by
      intro entry hl hs
      refine hd.2.1.1 entry hl ?_
      rw [hs]
      exact ReflCmp.compare_self
    have nothing : ∀ entries : List (Key × Entry), (∀ entry ∈ entries, entry.1 ≠ place) →
        (entries.flatMap fun entry => if entry.1 = place then make entry.2 else []) = [] :=
      fun entries other => List.flatMap_eq_nil_iff.mpr fun entry hl => if_neg (other entry hl)
    rw [split, List.flatMap_append, List.flatMap_cons, nothing before ahead, nothing after behind]
    simp

variable [DecidableEq Key] {key : Change → Key}

/-- Of the changes made entry by entry, those of one entry name its key. -/
theorem filter_flatMap_toList {make : Key → Entry → List Change}
    (names : ∀ place entry, ∀ change ∈ make place entry, key change = place)
    (map : ExtTreeMap Key Entry order) (place : Key) :
    (map.toList.flatMap fun entry => make entry.1 entry.2).filter (key · = place) =
      map[place]?.elim [] (make place) := by
  rw [List.filter_flatMap, ← flatMap_toList_at]
  refine congrArg (map.toList.flatMap ·) (funext fun entry => ?_)
  by_cases here : entry.1 = place
  · rw [if_pos here, ← here, List.filter_eq_self]
    exact fun change hl => decide_eq_true (names _ _ change hl)
  · rw [if_neg here, List.filter_eq_nil_iff]
    intro change hl named
    exact here ((names _ _ change hl).symm.trans (of_decide_eq_true named))

variable {change : Key → Option Entry → Entry → List Change}

theorem filter_changed
    (names : ∀ place current wanted, ∀ made ∈ change place current wanted, key made = place)
    (running candidate : ExtTreeMap Key Entry order) (place : Key) :
    (changed change running candidate).filter (key · = place) =
      candidate[place]?.elim [] (change place running[place]?) :=
  filter_flatMap_toList (fun place wanted => names place running[place]? wanted) candidate place

theorem filter_removed {change : Key → Entry → List Change}
    (names : ∀ place had, ∀ made ∈ change place had, key made = place)
    (running candidate : ExtTreeMap Key Entry order) (place : Key) :
    (removed change running candidate).filter (key · = place) =
      if candidate[place]?.isSome then [] else running[place]?.elim [] (change place) := by
  have named : ∀ place had, ∀ made ∈ (if candidate.contains place then [] else change place had),
      key made = place := by
    intro place had made hl
    split at hl
    · cases hl
    · exact names place had made hl
  refine (filter_flatMap_toList named running place).trans ?_
  rw [← ExtTreeMap.contains_eq_isSome_getElem?]
  cases running[place]? with
  | none => simp
  | some had => rfl

/-- Where an entry that goes away is treated as one with nothing in it. -/
theorem filter_changed_append_removed {drop : Key → Entry → List Change} (empty : Entry)
    (names : ∀ place current wanted, ∀ made ∈ change place current wanted, key made = place)
    (drops : ∀ place had, drop place had = change place (some had) empty)
    (nothing : ∀ place, change place none empty = [])
    (running candidate : ExtTreeMap Key Entry order) (place : Key) :
    (changed change running candidate ++ removed drop running candidate).filter (key · = place) =
      change place running[place]? (candidate[place]?.getD empty) := by
  have dropNames : ∀ place had, ∀ made ∈ drop place had, key made = place := by
    intro place had made hl
    rw [drops] at hl
    exact names _ _ _ made hl
  rw [List.filter_append, filter_changed names, filter_removed dropNames]
  cases candidate[place]? with
  | some wanted => simp
  | none =>
    cases running[place]? with
    | some had => simp [drops]
    | none => simp [nothing]

theorem filter_diffMaps [DecidableEq Entry] {change : Key → Option Entry → Option Entry → Change}
    (names : ∀ place current wanted, key (change place current wanted) = place)
    (running candidate : ExtTreeMap Key Entry order) (place : Key) :
    (diffMaps change running candidate).filter (key · = place) =
      if running[place]? = candidate[place]? then []
      else [change place running[place]? candidate[place]?] := by
  rw [diffMaps, List.filter_append, filter_changed, filter_removed]
  · cases candidate[place]? with
    | none =>
      cases running[place]? with
      | none | some had => rfl
    | some wanted => simp
  · intro place had made hl
    rw [List.mem_singleton.mp hl]
    exact names _ _ _
  · intro place current wanted made hl
    split at hl
    · cases hl
    · rw [List.mem_singleton.mp hl]
      exact names _ _ _

/-- A family whose entries are replaced as a whole. -/
def Family.ofMap {Config State : Type} (diff : Config → Config → List Change)
    (maps : Config → ExtTreeMap Key Entry order) (key : Change → Key)
    (act : Change → State → State) (view : Key → Option Entry → State) :
    Family Config Change Key (Option Entry) State where
  diff := diff
  key := key
  act := act
  entry config place := (maps config)[place]?
  effective config place := view place (maps config)[place]?

theorem Family.ofMap_correct [DecidableEq Entry] {Config State : Type}
    {diff : Config → Config → List Change} {maps : Config → ExtTreeMap Key Entry order}
    {change : Key → Option Entry → Option Entry → Change}
    {act : Change → State → State} {view : Key → Option Entry → State}
    (diffs : ∀ running candidate,
      diff running candidate = diffMaps change (maps running) (maps candidate) := by intros; rfl)
    (names : ∀ place current wanted, key (change place current wanted) = place := by intros; rfl)
    (acts : ∀ place current wanted, current ≠ wanted →
      act (change place current wanted) (view place current) = view place wanted := by intros; rfl) :
    (Family.ofMap diff maps key act view).Correct := by
  have at_place : ∀ running candidate place,
      (Family.ofMap diff maps key act view).changesAt running candidate place =
        if (maps running)[place]? = (maps candidate)[place]? then []
        else [change place (maps running)[place]? (maps candidate)[place]?] := by
    intro running candidate place
    exact (congrArg (List.filter _) (diffs running candidate)).trans (filter_diffMaps names _ _ place)
  refine Family.correct_of_changesAt _ (fun running candidate place => ?_)
    fun running candidate place hs => ?_
  · rw [at_place]
    split
    · next hs => exact congrArg (view place) hs
    · next other => exact acts place _ _ other
  · rw [at_place]
    exact if_pos hs

end

end Plan
