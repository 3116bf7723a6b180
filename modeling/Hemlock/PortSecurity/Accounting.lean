import Hemlock.PortSecurity.Requests

/-!
# Accounting for learned addresses

In a run whose inputs the engine can follow, the addresses that count on a secured port
are those of the forwarding table.  Two inputs that it cannot follow are a move between
ports and the ageing of an address that another VLAN still has.
-/

namespace Hemlock.PortSecurity

open Machine OrderedMap

/-- Apart from addresses that a report still waits for, the addresses that count on a
secured port are those that have an entry on it. -/
def Accounted (w : World) : Prop :=
  ∀ (port : String) state, w.portSecurity[port]? = some state →
    ∀ mac, (∀ note ∈ w.fdbEvents, note.port = some port → note.mac ≠ mac) →
      (mac ∈ state.learned ↔ OnPort w.dynamics port mac)

variable {w : World}

theorem Books.accounted (books : Books w) : Accounted w := by
  intro port state hf mac settled
  rw [← books.settles port state hf mac, Mailbox.settled_of_silent]
  intro note waits
  exact if_neg fun isNews => settled note waits isNews.1 isNews.2

theorem not_accounted (port mac : String) (state : PortSecurityState)
    (hf : w.portSecurity[port]? = some state) (idle : w.fdbEvents = [])
    (differ : ¬ (mac ∈ state.learned ↔ OnPort w.dynamics port mac)) : ¬ Accounted w := by
  intro accounted
  refine differ (accounted port state hf mac ?_)
  simp [idle]

instance (dynamics : FdbMap) (port mac : String) : Decidable (OnPort dynamics port mac) :=
  decidable_of_iff _ mem_seed

theorem Books.init (ports : NameMap PortState) : Books { ports } where
  settles port state found := by simp at found
  formatted note waits := by cases waits

theorem Books.next {board : Board} {input : Timed Input} (books : Books w)
    (regular : Regular board w input) : Books (next board w input) := by
  obtain ⟨now, event⟩ := input
  cases event with
  | fdb event => exact books.pumpFdb regular
  | violation port mac =>
    refine books.unaffected ?_
    change Unaffected w (pumpViolation port mac w)
    unfold pumpViolation
    cases nameFor w.ports port with
    | none => exact .refl w
    | some name => exact ⟨rfl, rfl, (Unaffected.refl w).learned, fun _ => id⟩
  | takeFdb backend => exact books.takeFdb regular
  | takeViolation backend =>
    change Books (takeViolation board backend now w)
    unfold takeViolation
    cases w.violations with
    | nil => exact books
    | cons note rest =>
      have read : Unaffected w { w with violations := rest } :=
        ⟨rfl, rfl, (Unaffected.refl w).learned, fun _ => id⟩
      exact books.unaffected (read.trans applyViolation_unaffected)
  | setPortSecurity req backend =>
    -- A failed request stops before it secures the port; both cases keep the two facts.
    have kept : (setPortSecurityImpl backend req now).Keeps fun w =>
        Books w ∧ (req.port ∈ w.portSecurity ∨ ∀ note ∈ w.fdbEvents, note.port ≠ some req.port) := by
      refine setPortSecurityImpl_keeps backend req now fun w holds => ?_
      exact ⟨holds.1.secure holds.2, .inl mem_insert_self⟩
    exact (kept w ⟨books, regular⟩).1
  | clearPortSecurity port backend =>
    exact books.unaffected (clearPortSecurityImpl_unaffected backend port w)
  | resetPortSecurity filter backend => exact books.resetPortSecurityImpl regular

/-- In every run of regular inputs the books are right. -/
theorem learned_accounted (board : Board) (ports : NameMap PortState) (inputs : List (Timed Input))
    (regular : (system board ports).Throughout (Regular board) inputs) :
    Accounted ((system board ports).run inputs) := by
  refine Books.accounted ?_
  refine @run_induction _ _ _ (system board ports) _ (fun _ w => Books w)
    (Books.init ports) ?_ ?_ inputs regular
  · intro inputs input regular
    exact (throughout_concat.mp regular).1
  · intro inputs input regular books
    exact books.next (throughout_concat.mp regular).2

namespace Lost

def ports : NameMap PortState :=
  (∅ : NameMap PortState).insert "Ethernet1/1" { saiId := 1 } |>.insert "Ethernet1/2" { saiId := 2 }

def board : Board where
  defaultVlanOid := 7
  vlans := (∅ : VlanMap (Option Nat)).insert 10 (some 8)

def station : Mac := Bytes.sixAt [0, 0, 0, 0, 0, 1] 0

/-- Security on the first port, which learns the address. -/
def learns : List (Timed Input) :=
  [⟨0, .setPortSecurity ⟨"Ethernet1/1", 2, false⟩ {}⟩,
    ⟨1, .fdb ⟨.learned, 7, station, some 1⟩⟩, ⟨1, .takeFdb {}⟩]

/-- The address moves to the second port. -/
def moves : List (Timed Input) :=
  learns ++ [⟨2, .fdb ⟨.moved, 7, station, some 2⟩⟩, ⟨2, .takeFdb {}⟩]

/-- The address comes up in another VLAN as well, and is aged there. -/
def ages : List (Timed Input) :=
  learns ++ [⟨2, .fdb ⟨.learned, 8, station, some 1⟩⟩, ⟨2, .takeFdb {}⟩,
    ⟨3, .fdb ⟨.aged, 8, station, some 1⟩⟩, ⟨3, .takeFdb {}⟩]

theorem learns_regular : (system board ports).Throughout (Regular board) learns := by
  have secured : (system board ports).Throughout (Regular board) (learns.take 1) := by
    refine (@throughout_concat _ _ _ _ _ [] _).mpr ⟨throughout_nil _ _, .inr fun note waits => ?_⟩
    cases waits
  have learned : (system board ports).Throughout (Regular board) (learns.take 2) := by
    refine (@throughout_concat _ _ _ _ _ (learns.take 1) _).mpr ⟨secured, fun note isNote => ?_⟩
    have report : notifyFor board ((system board ports).run (learns.take 1)).ports
        ⟨.learned, 7, station, some 1⟩ =
          some ⟨.learned, 1, formatMac station, some "Ethernet1/1"⟩ := by decide +kernel
    have empty : ((system board ports).run (learns.take 1)).dynamics = ∅ := by decide +kernel
    obtain rfl := Option.some.inj (report.symm.trans isNote)
    refine ⟨by decide +kernel, fun _ entry hf => ?_, fun ha => ?_⟩
    · simp [empty] at hf
    · cases ha
  refine (@throughout_concat _ _ _ _ _ (learns.take 2) _).mpr ⟨learned, ?_⟩
  intro note rest port state waits _ named hf _ full
  have queue : ((system board ports).run (learns.take 2)).fdbEvents =
      [⟨.learned, 1, formatMac station, some "Ethernet1/1"⟩] := by decide +kernel
  have secured : ((system board ports).run (learns.take 2)).portSecurity["Ethernet1/1"]? =
      some ⟨2, false, ∅, 0, none⟩ := by decide +kernel
  obtain ⟨rfl, -⟩ := List.cons.inj (queue.symm.trans waits)
  cases named
  obtain rfl := Option.some.inj (secured.symm.trans hf)
  exact absurd (by decide) full

end Lost

/-- A run that the engine follows. -/
theorem learned_accounted_learns :
    (system Lost.board Lost.ports).Throughout (Regular Lost.board) Lost.learns ∧
      Accounted ((system Lost.board Lost.ports).run Lost.learns) :=
  ⟨Lost.learns_regular, learned_accounted Lost.board Lost.ports Lost.learns Lost.learns_regular⟩

/-- The engine has read everything; still an address that has moved away counts on the port
that it left, and one that is aged in one of two VLANs does not count. -/
theorem learned_not_accounted : ¬ Accounted ((system Lost.board Lost.ports).run Lost.moves) ∧
      ¬ Accounted ((system Lost.board Lost.ports).run Lost.ages) := by
  constructor
  · refine not_accounted "Ethernet1/1" (formatMac Lost.station)
      ⟨2, false, (∅ : NameMap Nat).insert (formatMac Lost.station) 1, 0, none⟩ ?_ ?_ ?_
    all_goals decide +kernel
  · refine not_accounted "Ethernet1/1" (formatMac Lost.station) ⟨2, false, ∅, 0, none⟩ ?_ ?_ ?_
    all_goals decide +kernel

end Hemlock.PortSecurity
