import Hemlock.PortSecurity.Books

/-!
# The mirror of the forwarding table

What the mirror shows for an address follows from the last report for it, as long as the
event pump can put a name to the port of that report.  It looks for the name among the
physical ports only, so a report for a Port-Channel leaves the mirror as it was.
-/

namespace Hemlock.PortSecurity

open OrderedMap FdbDynamicEntry
open Acl (portChannel)
open Machine

/-- The identifiers of the Port-Channels. -/
abbrev LagIds := Std.ExtTreeMap UInt16 Nat compare

def nameOf (ports : NameMap PortState) (lags : LagIds) (id : Nat) : Option String :=
  (nameFor ports id).or
    ((lags.toList.find? fun lag => lag.2 = id).map fun lag => portChannel lag.1)

section

variable (board : Board)

def FdbEvent.Concerns (vlan : UInt16) (mac : String) (event : FdbEvent) : Prop :=
  vlanFor board event.bvId = some vlan ∧ formatMac event.mac = mac

instance (vlan : UInt16) (mac : String) (event : FdbEvent) :
    Decidable (event.Concerns board vlan mac) := inferInstanceAs (Decidable (_ ∧ _))

def lastReport (vlan : UInt16) (mac : String) (reports : List (Timed FdbEvent)) : Option FdbEvent :=
  ((reports.map Timed.event).filter fun event => event.Concerns board vlan mac).getLast?

/-- The reports, and nothing else, since the switch was started. -/
def reported (ports : NameMap PortState) (reports : List (Timed FdbEvent)) : World :=
  (system board ports).run (reports.map fun report => ⟨report.time, .fdb report.event⟩)

/-- The port that the mirror shows for an address. -/
def World.shown (w : World) (vlan : UInt16) (mac : String) : Option String :=
  w.dynamics[(vlan, mac)]?.map FdbDynamicEntry.port

/-- The mirror shows an address exactly if the last report for it says that it is there,
and on the port or Port-Channel of that report. -/
def Mirrors (ports : NameMap PortState) (lags : LagIds) (reports : List (Timed FdbEvent)) : Prop :=
  ∀ vlan mac, (reported board ports reports).shown vlan mac =
    (lastReport board vlan mac reports).bind fun event =>
      if event.kind.present then event.port.bind (nameOf ports lags) else none

variable {board} {ports : NameMap PortState} {lags : LagIds} {reports : List (Timed FdbEvent)}
  {report : Timed FdbEvent} {vlan : UInt16} {mac name : String} {id : Nat}

theorem lastReport_concat : lastReport board vlan mac (reports ++ [report]) =
      if report.event.Concerns board vlan mac then some report.event
      else lastReport board vlan mac reports := by
  rw [lastReport]
  split_ifs with concerns
  · simp [concerns]
  · simp [concerns, lastReport]

theorem mem_of_lastReport {event : FdbEvent} (last : lastReport board vlan mac reports = some event) :
    ∃ report ∈ reports, report.event = event := by
  have hl := List.mem_of_getLast? last
  rw [List.mem_filter, List.mem_map] at hl
  exact hl.1

theorem mem_of_nameFor (named : nameFor ports id = some name) : name ∈ ports := by
  obtain ⟨⟨_, state⟩, hf, rfl⟩ := Option.map_eq_some_iff.mp named
  have hl := List.mem_of_find?_eq_some hf
  exact mem_iff_isSome_getElem?.mpr (by rw [mem_toList_iff_getElem?_eq_some.mp hl]; rfl)

theorem nameOf_of_port (named : nameFor ports id = some name) : nameOf ports lags id = some name := by
  rw [nameOf, named, Option.some_or]

theorem exists_group_of_nameOf (unnamed : nameFor ports id = none)
    (named : nameOf ports lags id = some name) : ∃ group, name = portChannel group := by
  rw [nameOf, unnamed] at named
  obtain ⟨lag, -, rfl⟩ := Option.map_eq_some_iff.mp named
  exact ⟨lag.1, rfl⟩

theorem reported_concat : reported board ports (reports ++ [report]) =
      pumpFdb board report.event report.time (reported board ports reports) := by
  rw [reported, List.map_append, List.map_singleton, run_concat]
  rfl

theorem reported_ports : (reported board ports reports).ports = ports := by
  induction reports using List.reverseRecOn with
  | nil => rfl
  | append_singleton reports report ih =>
    rw [reported_concat, pumpFdb]
    split <;> exact ih

theorem shown_insert (dynamics : FdbMap) (note : FdbNotify) (port : String) (now : Nat) :
    (dynamics.insert (note.vlan, note.mac)
        (.heard port now dynamics[(note.vlan, note.mac)]?))[(vlan, mac)]?.map FdbDynamicEntry.port =
      if note.vlan = vlan ∧ note.mac = mac then some port
      else dynamics[(vlan, mac)]?.map FdbDynamicEntry.port := by
  simp only [lookup_insert, Prod.mk.injEq]
  split_ifs with hs
  · rw [Option.map_some, heard_port]
  · rfl

theorem shown_erase (dynamics : FdbMap) (note : FdbNotify) :
    (dynamics.erase (note.vlan, note.mac))[(vlan, mac)]?.map port =
      if note.vlan = vlan ∧ note.mac = mac then none
      else dynamics[(vlan, mac)]?.map port := by
  simp only [lookup_erase, Prod.mk.injEq]
  split_ifs with hs <;> rfl

/-- What a report changes: an address that is heard on a port without a name stays where
it was. -/
theorem shown_mirror (dynamics : FdbMap) (note : FdbNotify) (now : Nat) :
    (mirror dynamics note now)[(vlan, mac)]?.map port =
      if note.vlan = vlan ∧ note.mac = mac then if note.kind.present then
          note.port.or (dynamics[(vlan, mac)]?.map port) else none
      else dynamics[(vlan, mac)]?.map port := by
  unfold mirror
  cases kind : note.kind
  case learned | moved =>
    cases note.port with
    | none => exact (ite_self _).symm
    | some port => exact shown_insert dynamics note port now
  case aged | flushed => exact shown_erase dynamics note

theorem shown_concat : (reported board ports (reports ++ [report])).shown vlan mac =
      if report.event.Concerns board vlan mac then if report.event.kind.present then
          (report.event.port.bind (nameFor ports)).or ((reported board ports reports).shown vlan mac)
        else none else (reported board ports reports).shown vlan mac := by
  rw [reported_concat, pumpFdb, notifyFor, reported_ports]
  cases isVlan : vlanFor board report.event.bvId with
  | none =>
    rw [if_neg fun concerns => by simp [FdbEvent.Concerns, isVlan] at concerns]
    rfl
  | some vlan' =>
    rw [Option.map_some, World.shown, shown_mirror]
    simp only [FdbEvent.Concerns, isVlan, Option.some.injEq]
    rfl

theorem mem_of_shown (shows : (reported board ports reports).shown vlan mac = some name) :
    name ∈ ports := by
  induction reports using List.reverseRecOn with
  | nil => simp [reported, World.shown, system] at shows
  | append_singleton reports report ih =>
    rw [shown_concat] at shows
    split_ifs at shows
    · rcases Option.or_eq_some_iff.mp shows with named | ⟨-, earlier⟩
      · obtain ⟨id, -, named⟩ := Option.bind_eq_some_iff.mp named
        exact mem_of_nameFor named
      · exact ih earlier
    · exact ih shows

/-- The last report decides unless it is for a port without a name. -/
theorem shown_of_last
    (named : ∀ event, lastReport board vlan mac reports = some event → event.kind.present = true →
      (event.port.bind (nameFor ports)).isSome) : (reported board ports reports).shown vlan mac =
      (lastReport board vlan mac reports).bind fun event =>
        if event.kind.present then event.port.bind (nameFor ports) else none := by
  induction reports using List.reverseRecOn with
  | nil => simp [reported, World.shown, system, lastReport]
  | append_singleton reports report ih =>
    rw [lastReport_concat] at named ⊢
    rw [shown_concat]
    split_ifs at named ⊢ with concerns hp
    · rw [Option.or_of_isSome (named report.event rfl hp), Option.bind_some, if_pos hp]
    · rw [Option.bind_some, if_neg hp]
    · exact ih named

/-- The mirror is right exactly if no address was last heard on a Port-Channel. -/
theorem mirrors_iff_heard_on_port (board : Board) (ports : NameMap PortState) (lags : LagIds)
    (reports : List (Timed FdbEvent)) (located : ∀ report ∈ reports, ∃ id, report.event.port = some id ∧
      (nameOf ports lags id).isSome) (apart : ∀ group, portChannel group ∉ ports) :
    Mirrors board ports lags reports ↔ ∀ vlan mac event, lastReport board vlan mac reports = some event →
        event.kind.present = true → ∃ id, event.port = some id ∧ (nameFor ports id).isSome := by
  constructor
  · intro mirrors vlan mac event last present
    obtain ⟨report, listed, rfl⟩ := mem_of_lastReport last
    obtain ⟨id, isPort, located⟩ := located report listed
    refine ⟨id, isPort, ?_⟩
    by_contra unnamed
    rw [Option.not_isSome_iff_eq_none] at unnamed
    obtain ⟨name, named⟩ := Option.isSome_iff_exists.mp located
    obtain ⟨group, rfl⟩ := exists_group_of_nameOf unnamed named
    have shows := mirrors vlan mac
    rw [last, Option.bind_some, if_pos present, isPort, Option.bind_some, named] at shows
    exact apart group (mem_of_shown shows)
  · intro onPort vlan mac
    rw [shown_of_last]
    · cases last : lastReport board vlan mac reports with
      | none => rfl
      | some event =>
        rw [Option.bind_some, Option.bind_some]
        split_ifs with present
        · obtain ⟨id, isPort, named⟩ := onPort vlan mac event last present
          obtain ⟨name, named⟩ := Option.isSome_iff_exists.mp named
          rw [isPort, Option.bind_some, Option.bind_some, named, nameOf_of_port named]
        · rfl
    · intro event last present
      obtain ⟨id, isPort, named⟩ := onPort vlan mac event last present
      rwa [isPort, Option.bind_some]

end

namespace Roaming

def ports : NameMap PortState := (∅ : NameMap PortState).insert "Ethernet1/1" { saiId := 1 }

def lags : LagIds := (∅ : LagIds).insert 1 9

def board : Board where
  defaultVlanOid := 7

def station : Mac := #v[0, 0, 0, 0, 0, 1]

def learned : List (Timed FdbEvent) := [⟨0, ⟨.learned, 7, station, some 1⟩⟩]

def moved : List (Timed FdbEvent) := learned ++ [⟨1, ⟨.moved, 7, station, some 9⟩⟩]

theorem ports_apart (group : UInt16) : portChannel group ∉ ports := by
  intro hk
  rw [ports, member_insert] at hk
  rcases hk with hs | hk
  · have first := congrArg (fun name => name.toList.head?) hs
    simp [portChannel] at first
  · simp at hk

end Roaming

/-- As long as the address is on the port, the mirror is right. -/
theorem mirrors_iff_learned : Mirrors Roaming.board Roaming.ports Roaming.lags Roaming.learned := by
  refine (mirrors_iff_heard_on_port Roaming.board Roaming.ports Roaming.lags Roaming.learned ?_
    Roaming.ports_apart).mpr ?_
  · intro report listed
    obtain rfl := List.mem_singleton.mp listed
    exact ⟨1, rfl, by decide +kernel⟩
  · intro vlan mac event last present
    obtain ⟨report, listed, rfl⟩ := mem_of_lastReport last
    obtain rfl := List.mem_singleton.mp listed
    exact ⟨1, rfl, by decide +kernel⟩

/-- Once it has moved to the Port-Channel, the mirror still shows it on the port. -/
theorem not_mirrors_moved : ¬ Mirrors Roaming.board Roaming.ports Roaming.lags Roaming.moved ∧
      (reported Roaming.board Roaming.ports Roaming.moved).shown 1 (formatMac Roaming.station) =
        some "Ethernet1/1" := by
  have shown : (reported Roaming.board Roaming.ports Roaming.moved).shown 1
      (formatMac Roaming.station) = some "Ethernet1/1" := by decide +kernel
  refine ⟨fun mirrors => ?_, shown⟩
  have expected := mirrors 1 (formatMac Roaming.station)
  revert expected
  decide +kernel

end Hemlock.PortSecurity
