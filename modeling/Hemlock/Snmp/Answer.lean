import Hemlock.Snmp.Mib

/-!
# Retrieval

The answers to Get, GetNext and GetBulk requests over a snapshot of the MIB.  A walk by
GetNext visits the whole table in order; GetBulk is many steps of GetNext at once.
-/

namespace Hemlock.Snmp

open TableWalk

inductive PduType where
  | open
  | close
  | register
  | unregister
  | get
  | getNext
  | getBulk
  | testSet
  | commitSet
  | undoSet
  | cleanupSet
  | notify
  | ping
  | response
  | other (code : UInt8)
  deriving DecidableEq

/-- Where a search starts and ends; the empty identifier is no end. -/
structure SearchRange where
  start : Oid
  inclusive : Bool
  stop : Oid
  deriving DecidableEq

structure Request where
  pduType : PduType
  ranges : List SearchRange
  nonRepeaters : UInt16 := 0
  maxRepetitions : UInt16 := 0

structure VarBind where
  name : Oid
  value : Value
  deriving DecidableEq

section

variable (mib : Mib) (range : SearchRange)

/-- The next entry at or after the start, bounded by the end if there is one. -/
def nextAfter : Option (Oid × Value) := do
  let found ← mib.find? fun (oid, _) =>
    if range.inclusive then range.start ≤ oid else range.start < oid
  if range.stop ≠ [] ∧ range.stop ≤ found.1 then none else some found

def bindOrEnd (found : Option (Oid × Value)) (start : Oid) : VarBind :=
  match found with
  | some (oid, value) => ⟨oid, value⟩
  | none => ⟨start, .endOfMibView⟩

/-- The column of an identifier is there, whether or not the instance is. -/
def namesAColumn (oid : Oid) : Bool :=
  let column := oid.dropLast
  !oid.isEmpty && !column.isEmpty && mib.any fun (entry, _) => column.isPrefixOf entry

def getOne : VarBind :=
  match mib.find? fun (oid, _) => oid = range.start with
  | some (oid, value) => ⟨oid, value⟩
  | none =>
    ⟨range.start, if namesAColumn mib range.start then .noSuchInstance else .noSuchObject⟩

def getNext : VarBind :=
  bindOrEnd (nextAfter mib range) range.start

def SearchRange.advance : SearchRange :=
  match nextAfter mib range with
  | some (oid, _) => { range with start := oid, inclusive := false }
  | none => range

/-- The repetitions of GetBulk: a row of steps, and more rows while one of them found
something. -/
def repetitions (mib : Mib) : Nat → List SearchRange → List VarBind
  | 0, _ => []
  | count + 1, cursors =>
    let progressed := cursors.any fun cursor => (nextAfter mib cursor).isSome
    cursors.map (getNext mib) ++
      if progressed then repetitions mib count (cursors.map (SearchRange.advance mib)) else []

def answer (request : Request) : List VarBind :=
  match request.pduType with
  | .get => request.ranges.map (getOne mib)
  | .getNext => request.ranges.map (getNext mib)
  | .getBulk =>
    let nonRepeaters := min request.nonRepeaters.toNat request.ranges.length
    (request.ranges.take nonRepeaters).map (getNext mib) ++
      repetitions mib request.maxRepetitions.toNat (request.ranges.drop nonRepeaters)
  | _ => []

def SearchRange.covered : Mib :=
  mib.filter fun entry =>
    (if range.inclusive then range.start ≤ entry.1 else range.start < entry.1) ∧
      (range.stop ≠ [] → entry.1 < range.stop)

def SearchRange.toRange : Range Oid :=
  ⟨range.start, range.inclusive, if range.stop = [] then none else some range.stop⟩

theorem SearchRange.after_toRange (oid : Oid) : range.toRange.after oid =
      decide (if range.inclusive then range.start ≤ oid else range.start < oid) := by
  unfold Range.after SearchRange.toRange
  cases range.inclusive <;> simp

theorem SearchRange.before_toRange (oid : Oid) :
    range.toRange.before oid = decide (range.stop ≠ [] → oid < range.stop) := by
  unfold Range.before SearchRange.toRange
  by_cases unbounded : range.stop = [] <;> simp [unbounded]

theorem SearchRange.covered_eq : range.covered mib = entries mib range.toRange := by
  unfold SearchRange.covered entries
  congr 1
  funext entry
  rw [range.after_toRange, range.before_toRange, Bool.decide_and]

theorem nextAfter_eq : nextAfter mib range = TableWalk.nextAfter mib range.toRange := by
  have search : (mib.find? fun (oid, _) =>
        if range.inclusive then range.start ≤ oid else range.start < oid) =
      mib.find? fun entry => range.toRange.after entry.1 := by
    congr 1
    funext entry
    rw [range.after_toRange]
    split_ifs <;> rfl
  rw [nextAfter, TableWalk.nextAfter, search]
  cases mib.find? fun entry => range.toRange.after entry.1 with
  | none => rfl
  | some hf =>
    rw [Option.bind_eq_bind, Option.bind_some, Option.filter_some, range.before_toRange]
    by_cases unbounded : range.stop = []
    · simp [unbounded]
    · simp only [unbounded, ne_eq, not_false_eq_true, true_and, forall_const, decide_eq_true_eq,
        ← not_le, ite_not]

theorem SearchRange.toRange_advance :
    (range.advance mib).toRange = TableWalk.advance mib range.toRange := by
  rw [SearchRange.advance, TableWalk.advance, nextAfter_eq]
  cases TableWalk.nextAfter mib range.toRange <;> rfl

end

variable {mib : Mib}

theorem nextAfter_step (ascending : Ascending mib) (range : SearchRange) (step : Nat) :
    nextAfter mib ((SearchRange.advance mib)^[step] range) = (range.covered mib)[step]? := by
  have moved : ((SearchRange.advance mib)^[step] range).toRange =
      (TableWalk.advance mib)^[step] range.toRange :=
    (Function.Semiconj.iterate_right (SearchRange.toRange_advance mib) step) range
  rw [nextAfter_eq, moved, nextAfter_iterate ascending, range.covered_eq]

theorem nextAfter_iterate_none {range : SearchRange} (ended : nextAfter mib range = none) (step : Nat) :
    nextAfter mib ((SearchRange.advance mib)^[step] range) = none := by
  have stays : range.advance mib = range := by rw [SearchRange.advance, ended]
  rw [Function.iterate_fixed stays, ended]

/-- The rows of a GetBulk are steps of its ranges; it stops before the last repetition
only when no range has an entry left. -/
theorem repetitions_eq (mib : Mib) (count : Nat) (cursors : List SearchRange) : ∃ rows ≤ count,
      repetitions mib count cursors = ((List.range rows).flatMap fun step =>
          cursors.map fun cursor => getNext mib ((SearchRange.advance mib)^[step] cursor)) ∧
      (rows < count → ∀ cursor ∈ cursors, ∀ step, rows ≤ step →
        nextAfter mib ((SearchRange.advance mib)^[step] cursor) = none) := by
  induction count generalizing cursors with
  | zero => exact ⟨0, le_rfl, rfl, fun impossible => absurd impossible (by omega)⟩
  | succ count ih =>
    rw [repetitions]
    by_cases progressed : (cursors.any fun cursor => (nextAfter mib cursor).isSome) = true
    · obtain ⟨rows, few, hs, stopped⟩ :=
        ih (cursors.map (SearchRange.advance mib))
      refine ⟨rows + 1, by omega, ?_, ?_⟩
      · simp only [progressed]
        rw [hs, List.range_succ_eq_map, List.flatMap_cons, List.flatMap_map]
        simp only [List.map_map]
        rfl
      · intro fewer cursor hm step late
        obtain ⟨earlier, rfl⟩ : ∃ earlier, step = earlier + 1 := ⟨step - 1, by omega⟩
        exact stopped (by omega) _ (List.mem_map_of_mem hm) earlier (by omega)
    · refine ⟨1, by omega, ?_, ?_⟩
      · simp [progressed]
      · intro _ cursor hm step _
        have ended : nextAfter mib cursor = none := by
          by_contra found
          exact progressed (List.any_eq_true.mpr ⟨cursor, hm, Option.isSome_iff_ne_none.mpr found⟩)
        exact nextAfter_iterate_none ended step

/-- A walk over the whole table: the answers to GetNext requests, the first one from the empty
identifier, and each other from the name that the answer before it has. -/
def walk (mib : Mib) : Nat → List VarBind
  | 0 => answer mib { pduType := .getNext, ranges := [⟨[], false, []⟩] }
  | step + 1 =>
    let ranges := (walk mib step).map fun found => ⟨found.name, false, []⟩
    answer mib { pduType := .getNext, ranges }

theorem SearchRange.advance_eq (mib : Mib) (start stop : Oid) :
    SearchRange.advance mib ⟨start, false, stop⟩ =
      ⟨(getNext mib ⟨start, false, stop⟩).name, false, stop⟩ := by
  rw [SearchRange.advance, getNext]
  cases nextAfter mib ⟨start, false, stop⟩ <;> rfl

theorem walk_eq (mib : Mib) (step : Nat) : ∃ start,
    (SearchRange.advance mib)^[step] ⟨[], false, []⟩ = ⟨start, false, []⟩ ∧
      walk mib step = [getNext mib ⟨start, false, []⟩] := by
  induction step with
  | zero => exact ⟨[], rfl, rfl⟩
  | succ step ih =>
    obtain ⟨start, reached, walked⟩ := ih
    refine ⟨(getNext mib ⟨start, false, []⟩).name, ?_, by rw [walk, walked]; rfl⟩
    rw [Function.iterate_succ_apply', reached, SearchRange.advance_eq]

theorem covered_of_buildMib (interfaces : List InterfaceState) :
    SearchRange.covered (buildMib interfaces) ⟨[], false, []⟩ = buildMib interfaces := by
  refine List.filter_eq_self.mpr fun entry hm => ?_
  obtain ⟨first, rest, named⟩ := List.exists_cons_of_ne_nil (oid_ne_nil hm)
  simp [named]

/-- The table is strictly increasing; a walk visits each entry once, in order, and then
finds the end; and GetBulk returns the first steps of every repeating range, each step the
next entry that the range asks for. -/
theorem walk_complete {interfaces : List InterfaceState}
    (distinct : (interfaces.filterMap InterfaceState.ifIndex).Nodup) :
    let mib := buildMib interfaces
    (mib.Pairwise fun first second => first.1 < second.1) ∧
    (∀ step oid value, mib[step]? = some (oid, value) → walk mib step = [⟨oid, value⟩]) ∧
    (∀ step, mib.length ≤ step → (walk mib step).map VarBind.value = [.endOfMibView]) ∧
    (∀ (range : SearchRange) (step : Nat) oid value, (range.covered mib)[step]? = some (oid, value) →
        getNext mib ((SearchRange.advance mib)^[step] range) = ⟨oid, value⟩) ∧
    (∀ (range : SearchRange) (step : Nat), (range.covered mib).length ≤ step →
      (getNext mib ((SearchRange.advance mib)^[step] range)).value = .endOfMibView) ∧
    ∀ request : Request, request.pduType = .getBulk →
      let single := request.ranges.take request.nonRepeaters.toNat
      let repeating := request.ranges.drop request.nonRepeaters.toNat
      ∃ rows ≤ request.maxRepetitions.toNat, answer mib request = single.map (getNext mib) ++
          ((List.range rows).flatMap fun step =>
            repeating.map fun range => getNext mib ((SearchRange.advance mib)^[step] range)) ∧
        (rows < request.maxRepetitions.toNat → ∀ range ∈ repeating,
          (range.covered mib).length ≤ rows) := by
  intro mib
  have ascending : Ascending mib := buildMib_ascending distinct
  have whole : SearchRange.covered mib ⟨[], false, []⟩ = mib := covered_of_buildMib interfaces
  have finds (range : SearchRange) (step : Nat) : getNext mib ((SearchRange.advance mib)^[step] range) =
      bindOrEnd (range.covered mib)[step]? ((SearchRange.advance mib)^[step] range).start := by
    rw [getNext, nextAfter_step ascending]
  refine ⟨ascending, ?_, ?_, ?_, ?_, ?_⟩
  · intro step oid value entry
    obtain ⟨start, reached, walked⟩ := walk_eq mib step
    rw [walked, ← reached, finds, whole, entry, bindOrEnd]
  · intro step past
    obtain ⟨start, reached, walked⟩ := walk_eq mib step
    rw [walked, ← reached, finds, whole, List.getElem?_eq_none past, bindOrEnd, List.map_singleton]
  · intro range step oid value covered
    rw [finds, covered, bindOrEnd]
  · intro range step exhausted
    rw [finds, List.getElem?_eq_none exhausted, bindOrEnd]
  · intro request bulk
    obtain ⟨rows, few, same, stopped⟩ := repetitions_eq mib request.maxRepetitions.toNat
      (request.ranges.drop request.nonRepeaters.toNat)
    refine ⟨rows, few, ?_, ?_⟩
    · rw [← same, answer, bulk, List.take_eq_take_min, List.drop_eq_drop_min]
    · intro fewer range member
      have ended := stopped fewer range member rows le_rfl
      rw [nextAfter_step ascending] at ended
      exact List.getElem?_eq_none_iff.mp ended

def frontPanel : List InterfaceState :=
  [{ name := "Vlan10", kind := "vlan" }, { name := "Ethernet1", kind := "ethernet", index := 1 }]

theorem walk_complete_frontPanel :
    walk (buildMib frontPanel) 0 = [⟨[1, 3, 6, 1, 2, 1, 2, 1, 0], .integer 2⟩] ∧
      walk (buildMib frontPanel) 1 = [⟨[1, 3, 6, 1, 2, 1, 2, 2, 1, 1, 1], .integer 1⟩] ∧
      ∀ step, (buildMib frontPanel).length ≤ step →
        (walk (buildMib frontPanel) step).map VarBind.value = [.endOfMibView] := by
  obtain ⟨-, visits, ends, -⟩ := @walk_complete frontPanel (by decide +kernel)
  exact ⟨visits 0 _ _ (by decide +kernel), visits 1 _ _ (by decide +kernel), ends⟩

end Hemlock.Snmp
