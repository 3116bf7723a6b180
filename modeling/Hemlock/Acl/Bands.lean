import Hemlock.Acl.Program
import Hemlock.Library.Priority

/-!
# Bands of priorities

The table of a port has one space of priorities.  The internal entries come first, then
the user's rules, then the implicit denial, and the priorities fall in this order: looking
a packet up by the highest priority reads the entries from the first to the last.
-/

namespace Hemlock.Acl

open Priority OrderedMap DesiredEntry

section

variable {Packet : Type} (hits : AclFields → Packet → Bool)

/-- The verdict of a table: a packet that no entry matches is forwarded. -/
def tableVerdict (entries : List DesiredEntry) (packet : Packet) : AclPacketAction :=
  ((highest (fun entry => entry.priority.toNat) (fun entry => hits entry.fields packet) entries).map
    DesiredEntry.action).getD .forward

/-- The verdict of a port: without a table everything is forwarded. -/
def portVerdict (desired : Option Desired) (packet : Packet) : AclPacketAction :=
  (desired.map fun desired => tableVerdict hits desired.entries packet).getD .forward

/-- The sequential reading: the first internal entry that matches, then the first rule by
number, then denial if there are rules at all. -/
def sequentialVerdict (user : Option (String × AclProgram)) (internal : Option InternalAcl)
    (packet : Packet) : AclPacketAction :=
  match (internalEntries internal).find? fun entry => hits entry.fields packet with
  | some entry => entry.action
  | none =>
    match user with
    | none => .forward
    | some (_, program) =>
      match program.rules.toList.find? fun numbered => hits numbered.2.fields packet with
      | some (_, rule) => userAction rule.permit rule.log
      | none => .drop

end

theorem toNat_sub_ofNat {top : UInt32} {number : Nat} (bound : number ≤ top.toNat) :
    (top - UInt32.ofNat number).toNat = top.toNat - number := by
  have small : (UInt32.ofNat number).toNat = number :=
    UInt32.toNat_ofNat_of_lt' (lt_of_le_of_lt bound top.toNat_lt_size)
  rw [UInt32.toNat_sub_of_le _ _ (UInt32.le_iff_toNat_le.mpr (by rwa [small])), small]

theorem internal_priority (entry : InternalAclEntry) {seq : Nat} (bound : seq ≤ 2000000000) :
    (ofInternal entry seq).priority.toNat = 2000000000 - seq :=
  toNat_sub_ofNat bound

theorem rule_priority (number : UInt32) (rule : AclRuleState) {ordinal : Nat}
    (bound : ordinal ≤ 1000000000) :
    (ofRule number rule ordinal).priority.toNat = 1000000000 - ordinal :=
  toNat_sub_ofNat bound

abbrev Falling (entries : List DesiredEntry) : Prop :=
  Descending (fun entry => entry.priority.toNat) entries

variable {entries : List InternalAclEntry}

theorem internalBand_falling (few : entries.length ≤ 2000000001) : Falling (internalBand entries) := by
  apply descending_map_zipIdx
  intro first second seq seq' later bound
  rw [internal_priority _ (by omega), internal_priority _ (by omega)]
  omega

variable {program : AclProgram}

theorem userBand_falling (few : program.rules.size ≤ 1000000001) : Falling (userBand program) := by
  apply descending_map_zipIdx
  intro first second ordinal ordinal' later bound
  rw [length_toList] at bound
  rw [rule_priority _ _ (by omega), rule_priority _ _ (by omega)]
  omega

variable {entry : DesiredEntry}

theorem internalBand_above (few : entries.length ≤ 1000000000)
    (hm : entry ∈ internalBand entries) : 1000000000 < entry.priority.toNat := by
  obtain ⟨⟨source, seq⟩, numbered, rfl⟩ := List.mem_map.mp hm
  have bound := (List.mem_zipIdx numbered).2.1
  rw [internal_priority _ (by omega)]
  omega

theorem userBand_between (few : program.rules.size < 1000000000)
    (hm : entry ∈ userBand program) : 1 < entry.priority.toNat ∧ entry.priority.toNat ≤ 1000000000 := by
  obtain ⟨⟨⟨number, rule⟩, ordinal⟩, numbered, rfl⟩ := List.mem_map.mp hm
  have bound := (List.mem_zipIdx numbered).2.1
  rw [length_toList] at bound
  rw [rule_priority _ _ (by omega)]
  omega

theorem bands_falling (fewEntries : entries.length ≤ 1000000000)
    (fewRules : program.rules.size < 1000000000) :
    Falling (internalBand entries ++ userBand program ++ [.implicitDeny]) := by
  refine List.pairwise_append.mpr ⟨List.pairwise_append.mpr ⟨?_, ?_, ?_⟩, ?_, ?_⟩
  · exact internalBand_falling (by omega)
  · exact userBand_falling (by omega)
  · intro first inFront second rule
    exact lt_of_le_of_lt (userBand_between fewRules rule).2 (internalBand_above fewEntries inFront)
  · exact List.pairwise_singleton _ _
  · intro first hm second isDenial
    rw [List.mem_singleton.mp isDenial]
    rcases List.mem_append.mp hm with inFront | rule
    · exact lt_trans (by decide) (internalBand_above fewEntries inFront)
    · exact (userBand_between fewRules rule).1

section

variable {Packet : Type} (hits : AclFields → Packet → Bool)

theorem tableVerdict_of_falling {entries : List DesiredEntry} (falling : Falling entries)
    (packet : Packet) : tableVerdict hits entries packet =
      ((entries.find? fun entry => hits entry.fields packet).map action).getD .forward := by
  rw [tableVerdict, highest_of_descending falling]

theorem internalBand_find? (entries : List InternalAclEntry) (packet : Packet) :
    ((internalBand entries).find? fun entry => hits entry.fields packet).map action =
      (entries.find? fun entry => hits entry.fields packet).map InternalAclEntry.action :=
  map_find?_zipIdx entries (fun _ => rfl) (fun _ => rfl)

theorem userBand_find? (program : AclProgram) (packet : Packet) :
    ((userBand program).find? fun entry => hits entry.fields packet).map action =
      (program.rules.toList.find? fun numbered => hits numbered.2.fields packet).map
        fun numbered => userAction numbered.2.permit numbered.2.log :=
  map_find?_zipIdx program.rules.toList (fun _ => rfl) (fun _ => rfl)

/-- The table of a port gives the verdict of the sequential reading. -/
theorem desiredEntries_refines_sequential (wildcard : ∀ packet, hits {} packet = true)
    {user : Option (String × AclProgram)} {internal : Option InternalAcl} {desired : Option Desired}
    (fewEntries : (internalEntries internal).length ≤ 1000000000 ∨
      user = none ∧ (internalEntries internal).length ≤ 2000000001)
    (fewRules : ∀ name program, user = some (name, program) → program.rules.size < 1000000000 - 1)
    (produced : desiredEntries user internal = .ok desired) (packet : Packet) :
    portVerdict hits desired packet = sequentialVerdict hits user internal packet := by
  unfold desiredEntries at produced
  unfold sequentialVerdict
  have inFront := internalBand_find? hits (internalEntries internal) packet
  cases user with
  | none =>
    have falling : Falling (internalBand (internalEntries internal)) :=
      internalBand_falling (by omega)
    dsimp only at produced
    split_ifs at produced with nothing
    · cases produced
      rw [List.isEmpty_iff.mp nothing]
      rfl
    · cases produced
      rw [portVerdict, Option.map_some, tableVerdict_of_falling hits falling, inFront]
      cases (internalEntries internal).find? fun entry => hits entry.fields packet <;> rfl
  | some named =>
    obtain ⟨name, program⟩ := named
    have few := fewRules name program rfl
    have falling := bands_falling (fewEntries.resolve_right (by simp)) (by omega : program.rules.size < _)
    have rules := userBand_find? hits program packet
    have denial : ([DesiredEntry.implicitDeny].find? fun entry => hits entry.fields packet) =
        some .implicitDeny := by
      rw [List.find?_singleton, show DesiredEntry.implicitDeny.fields = {} from rfl, wildcard,
        if_pos rfl]
    dsimp only at produced
    split_ifs at produced
    cases produced
    rw [portVerdict, Option.map_some, tableVerdict_of_falling hits falling,
      List.find?_append, List.find?_append, denial, Option.map_or, Option.map_or, inFront, rules]
    cases (internalEntries internal).find? fun entry => hits entry.fields packet with
    | some entry => rfl
    | none =>
      dsimp only
      cases program.rules.toList.find? fun numbered => hits numbered.2.fields packet <;> rfl

end

/-- Matching by the type of the frame only. -/
def ethertypeHits (fields : AclFields) (ethertype : UInt16) : Bool :=
  fields.ethertype.all (· = ethertype)

def arp : UInt16 := 0x0806

/-- Lets ARP through and nothing else. -/
def permitArp : AclProgram where
  family := .ipv4
  rules := (∅ : Std.ExtTreeMap UInt32 AclRuleState compare).insert 10
    { permit := true, log := false, fields := { ethertype := some arp } }

/-- Frames of one type go to the processor. -/
def punt (ethertype : UInt16) : InternalAclEntry := ⟨{ ethertype := some ethertype }, .trap⟩

theorem desiredEntries_refines_sequential_arp :
    ∃ desired, desiredEntries (some ("arp", permitArp)) (some ⟨[], [punt arp]⟩) = .ok desired ∧
      portVerdict ethertypeHits desired arp =
        sequentialVerdict ethertypeHits (some ("arp", permitArp)) (some ⟨[], [punt arp]⟩) arp :=
  have produced := desiredEntries_of_fits "arp" fun _ _ => rfl
  ⟨_, produced, desiredEntries_refines_sequential ethertypeHits (fun _ => rfl) (.inl (by decide))
    (by rintro _ _ ⟨⟩; decide +kernel) produced arp⟩

/-- Many entries for EAPOL before one for ARP. -/
def crowded (count : Nat) : InternalAcl where
  dot1x := List.replicate count (punt 0x888e)
  snoop := [punt arp]

theorem crowded_silent (count : Nat) :
    ∀ entry ∈ (crowded count).dot1x, ethertypeHits entry.fields arp = false := by
  intro entry hm
  rw [List.eq_of_mem_replicate hm]
  decide

theorem crowded_sequentialVerdict (user : Option (String × AclProgram)) (count : Nat) :
    sequentialVerdict ethertypeHits user (some (crowded count)) arp = .trap := by
  have inFront : internalEntries (some (crowded count)) = (crowded count).dot1x ++ [punt arp] := rfl
  have silent : ((crowded count).dot1x.find? fun entry => ethertypeHits entry.fields arp) = none :=
    List.find?_eq_none.mpr (by simpa using crowded_silent count)
  unfold sequentialVerdict
  rw [inFront, List.find?_append, silent]
  rfl

theorem crowded_tableVerdict (rest : List DesiredEntry) (count : Nat) :
    tableVerdict ethertypeHits (internalBand (internalEntries (some (crowded count))) ++ rest) arp =
      tableVerdict ethertypeHits (.ofInternal (punt arp) count :: rest) arp := by
  have numbered : internalBand (internalEntries (some (crowded count))) =
      internalBand (crowded count).dot1x ++ [.ofInternal (punt arp) count] := by
    rw [internalEntries, Option.map_some, Option.getD_some, InternalAcl.ordered, internalBand,
      List.zipIdx_append, internalBand]
    simp [crowded]
  have silent : ((internalBand (crowded count).dot1x).filter fun entry =>
      ethertypeHits entry.fields arp) = [] := by
    refine List.filter_eq_nil_iff.mpr fun entry hm => ?_
    obtain ⟨source, hl, rfl⟩ := List.mem_map.mp hm
    exact Bool.eq_false_iff.mp (crowded_silent count source.1 (List.fst_mem_of_mem_zipIdx hl))
  rw [tableVerdict, tableVerdict, highest, highest, numbered, List.append_assoc, List.filter_append,
    silent, List.nil_append, List.singleton_append]

/-- With so many internal entries the last one has a lower priority than the first rule. -/
theorem crowded_shadowed : permitArp.rules.size < 1000000000 - 1 ∧ ∃ desired,
        desiredEntries (some ("arp", permitArp)) (some (crowded 1000000001)) = .ok desired ∧
        portVerdict ethertypeHits desired arp = .forward ∧
        sequentialVerdict ethertypeHits (some ("arp", permitArp)) (some (crowded 1000000001)) arp =
          .trap := by
  refine ⟨by decide +kernel, _, desiredEntries_of_fits "arp" fun _ _ => rfl, ?_,
    crowded_sequentialVerdict _ _⟩
  rw [portVerdict, Option.map_some, List.append_assoc, crowded_tableVerdict]
  decide +kernel

end Hemlock.Acl
