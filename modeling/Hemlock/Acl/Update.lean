import Hemlock.Acl.Targets
import Hemlock.Library.Contracts

/-!
# Changing an access list

The request that defines an access list stores it first and then applies it wherever it is
bound.  A port that cannot have it ends the request, and the new list stays stored: the next
request about the port, whatever it is for, works with it.
-/

namespace Hemlock.Acl

open Faults OrderedMap AclWorld

/-- Each rule comes as what it reads as. -/
structure EnsureAclRequest where
  name : String
  family : Int32
  rules : List (Except Status (UInt32 × AclRuleState))

def familyFromProto (value : Int32) : Except Status AclFamily :=
  if value = 1 then .ok .ipv4
  else if value = 2 then .ok .ipv6
  else if value = 3 then .ok .mac
  else .error ⟨.invalidArgument, "ACL family required"⟩

def readRules (name : String) : List (Except Status (UInt32 × AclRuleState)) →
    Std.ExtTreeMap UInt32 AclRuleState compare → Except Status (Std.ExtTreeMap UInt32 AclRuleState compare)
  | [], rules => .ok rules
  | rule :: rest, rules => do
      let (number, state) ← rule
      if number ∈ rules then
        throw ⟨.invalidArgument, "duplicate rule " ++ toString number.toNat ++ " in ACL " ++ name⟩
      else readRules name rest (rules.insert number state)

/-- Where an access list is in force. -/
def AclWorld.boundTargets (w : AclWorld) (name : String) : List (String × AclStage) :=
  (w.bindings.toList.filter fun binding => binding.2 = name).map Prod.fst

def AclWorld.store (name : String) (program : AclProgram) (w : AclWorld) : AclWorld :=
  { w with acls := w.acls.insert name program }

section

variable (switch : Switch)

def checkEnsure (w : AclWorld) (req : EnsureAclRequest) : Except Status AclProgram := do
  if req.name.isEmpty then throw ⟨.invalidArgument, "ACL name required"⟩
  let family ← familyFromProto req.family
  let rules ← readRules req.name req.rules ∅
  if !(w.boundTargets req.name).isEmpty ∧ (rules.toList.any fun numbered => numbered.2.police.isSome) ∧
      !switch.aclEntryPolicer then
    throw ⟨.failedPrecondition, "per-rule policers are not supported by this platform's SAI"⟩
  return ⟨family, rules⟩

def applyBound (bound : String × AclStage) : Rpc Unit := do
  let targets ← settle (physicalTargets switch bound.1)
  applyTargets switch bound.2 targets

def ensureAclImpl (req : EnsureAclRequest) : Rpc Unit := do
  let w ← retrieve
  let program ← settle (checkEnsure switch w req)
  remember (AclWorld.store req.name program)
  each (applyBound switch) (w.boundTargets req.name)

def AclWorld.authorize (port : String) (authorized : Bool) (w : AclWorld) : AclWorld :=
  let internal : InternalAcl :=
    { w.internal[(port, AclStage.ingress)]?.getD {} with
      dot1x :=
        if authorized then []
        else [⟨{ ethertype := some 0x888e }, .trap⟩, ⟨{}, .drop⟩] }
  { w with
    internal :=
      if internal.isEmpty then w.internal.erase (port, .ingress)
      else w.internal.insert (port, .ingress) internal }

def setPortAuthorizedImpl (port : String) (authorized : Bool) : Rpc Unit := do
  if !switch.aclIngress then
    throw ⟨.failedPrecondition, "ACLs are not supported by this platform's SAI"⟩
  else
    let _ ← settle (portSaiId switch port)
    remember (AclWorld.authorize port authorized)
    applyPortStage switch .ingress port

/-- The stored program is the same, and so is what a later request for the authorization of a
port asks for. -/
def Untouched (name : String) (before after : AclWorld) : Prop :=
  after.acls[name]? = before.acls[name]? ∧
    ∀ port authorized, prepare switch (after.authorize port authorized) port .ingress =
      prepare switch (before.authorize port authorized) port .ingress

/-- The checks refuse the request, or it asks for the program that is stored. -/
def Idle (req : EnsureAclRequest) (w : AclWorld) : Prop :=
  ∀ program, checkEnsure switch w req = .ok program → w.acls[req.name]? = some program

/-- Lists, bindings and internal entries stay, also when a call fails. -/
def Modest {Value : Type} (program : Rpc Value) : Prop :=
  ∀ w : AclWorld, Contracts.Keeps (fun s => SameIntent w s.memory) program fun s => SameIntent w s.memory

end

section

variable {switch : Switch} {Value Value' : Type} {w w' : AclWorld} {stage : AclStage} {port : String} {table : Oid}

theorem Modest.bind {program : Rpc Value} {next : Value → Rpc Value'} (first : Modest program)
    (second : ∀ value, Modest (next value)) : Modest (program >>= next) :=
  fun w => (first w).bind fun value => second value w

theorem modest_pure (value : Value) : Modest (pure value : Rpc Value) := fun _ => Contracts.contract_done

theorem modest_throw (status : Status) : Modest (throw status : Rpc Value) :=
  fun _ => Contracts.contract_throw fun _ => id

theorem modest_sai (effect : Hardware → Value × Hardware) : Modest (sai switch effect) := by
  rintro w ⟨memory, hw, _ | _ | left⟩ hs <;> exact hs

theorem modest_remember {change : AclWorld → AclWorld} (hs : ∀ w, SameIntent w (change w)) :
    Modest (remember change) :=
  fun _ s intent => intent.trans (hs s.memory)

theorem modest_each {Item : Type} {visit : Item → Rpc Unit} (items : List Item)
    (visits : ∀ item, Modest (visit item)) : Modest (each visit items) := by
  induction items with
  | nil => exact modest_pure _
  | cons first rest ih => exact (visits first).bind fun _ => ih

theorem modest_freshPolicer (police : Option PolicerSpec) : Modest (freshPolicer switch police) := by
  cases police with
  | none => exact modest_pure _
  | some spec => exact (modest_sai _).bind fun _ => modest_pure _

theorem modest_createEntryObjs (want : DesiredEntry) : Modest (createEntryObjs switch table want) := by
  refine Modest.bind ?_ fun counter => (modest_freshPolicer _).bind fun policer =>
    (modest_sai _).bind fun _ => modest_pure _
  unfold freshCounter
  split
  · exact (modest_sai _).bind fun _ => modest_pure _
  · exact modest_pure _

theorem modest_updateEntryObjs (held : AclEntryObjs) (want : DesiredEntry) :
    Modest (updateEntryObjs switch table held want) := by
  refine Modest.bind ?_ fun policer => Modest.bind ?_ fun entry => Modest.bind ?_ fun _ => modest_pure _
  · unfold settlePolicer
    split
    · split
      · exact modest_pure _
      · exact (modest_sai _).bind fun _ => modest_pure _
    · exact modest_freshPolicer _
    · exact modest_pure _
  · unfold settleEntry
    split
    · exact (modest_sai _).bind fun _ => modest_pure _
    · exact (modest_sai _).bind fun _ => modest_sai _
  · unfold retirePolicer
    split
    · exact modest_sai _
    · exact modest_pure _

theorem modest_destroyEntryObjs (objs : AclEntryObjs) : Modest (destroyEntryObjs switch objs) := by
  refine (modest_sai _).bind fun _ => ?_
  have uncounts (counter : Oid) : Modest (do
      sai switch (Hardware.removeAclCounter counter)
      remember (forgetBase counter)) :=
    (modest_sai _).bind fun _ => modest_remember fun _ => ⟨rfl, rfl, rfl⟩
  cases objs.policer <;> cases objs.counter
  · exact modest_pure _
  · exact uncounts _
  · exact (modest_sai _).bind fun _ => modest_pure _
  · exact (modest_sai _).bind fun _ => uncounts _

theorem modest_destroyAll (objs : List AclEntryObjs) : Modest (destroyAll switch objs) :=
  modest_each objs modest_destroyEntryObjs

theorem modest_reconcile (wants : List DesiredEntry) (existing entries : EntryMap) :
    Modest (reconcile switch table wants existing entries) := by
  induction wants generalizing existing entries with
  | nil => exact modest_pure _
  | cons want rest ih =>
    refine Modest.bind ?_ fun objs => ih _ _
    unfold reconcileEntry
    split
    · exact modest_createEntryObjs _
    · split
      · exact modest_pure _
      · exact modest_updateEntryObjs _ _

theorem modest_materialize (portId : PortId) (current : Option PortAclTable) (desired : Option Desired) :
    Modest (materialize switch port portId stage current desired) := by
  have drops (record : PortAclTable) : Modest (dropTable switch port portId stage record) :=
    (modest_sai _).bind fun _ => (modest_destroyAll _).bind fun _ => (modest_sai _).bind fun _ =>
      modest_remember fun _ => ⟨rfl, rfl, rfl⟩
  have fills (desired : Desired) (table : Oid) (existing : EntryMap) (bindNeeded : Bool) :
      Modest (fillTable switch port portId stage desired table existing bindNeeded) := by
    refine (modest_destroyAll _).bind fun _ => (modest_reconcile _ _ _).bind fun entries => ?_
    have records := @modest_remember (recordTable port stage ⟨table, desired.family, desired.userAcl, entries⟩)
      fun _ => ⟨rfl, rfl, rfl⟩
    cases bindNeeded with
    | false => exact records
    | true => exact (modest_sai _).bind fun _ => records
  have makes (desired : Desired) : Modest (newTable switch port portId stage desired) :=
    (modest_sai _).bind fun table => fills _ _ _ _
  cases desired with
  | none =>
    cases current with
    | none => exact modest_pure _
    | some record => exact drops record
  | some desired =>
    cases current with
    | none => exact makes desired
    | some record =>
      unfold materialize
      dsimp only
      split
      · exact fills _ _ _ _
      · exact (drops record).bind fun _ => makes desired

theorem modest_applyPortStage (stage : AclStage) (port : String) :
    Modest (applyPortStage switch stage port) := by
  rintro w ⟨memory, hw, countdown⟩ hs
  cases prepared : prepare switch memory port stage with
  | error failure =>
    have refused : applyPortStage switch stage port ⟨memory, hw, countdown⟩ = .error failure ⟨memory, hw, countdown⟩ := by
      simp only [applyPortStage, retrieve, bind, EStateM.bind, prepared]
      rfl
    rw [refused]
    exact hs
  | ok result =>
    rw [applyPortStage_eq prepared]
    exact modest_materialize _ _ _ w _ hs

theorem modest_applyBound (bound : String × AclStage) : Modest (applyBound switch bound) := by
  unfold applyBound
  cases physicalTargets switch bound.1 with
  | error failure => exact (modest_throw failure).bind fun _ => modest_each _ (modest_applyPortStage _)
  | ok ports => exact (modest_pure ports).bind fun ports => modest_each ports (modest_applyPortStage _)

variable {req : EnsureAclRequest} {start : Session AclWorld Hardware} {program : AclProgram}

theorem ensureAclImpl_eq (hc : checkEnsure switch start.memory req = .ok program) :
    ensureAclImpl switch req start = each (applyBound switch) (start.memory.boundTargets req.name)
      { start with memory := start.memory.store req.name program } := by
  simp only [ensureAclImpl, retrieve, bind, EStateM.bind, hc]
  rfl

/-- What a request leaves that fails once the list is stored. -/
theorem sameIntent_of_error {status : Status} {after : Session AclWorld Hardware}
    (hc : checkEnsure switch start.memory req = .ok program)
    (failed : ensureAclImpl switch req start = .error status after) :
    SameIntent (start.memory.store req.name program) after.memory := by
  rw [ensureAclImpl_eq hc] at failed
  exact (modest_each _ modest_applyBound _).error (.refl _) failed

theorem prepare_authorize (hs : SameIntent w w') (authorized : Bool) :
    prepare switch (w'.authorize port authorized) port stage = prepare switch (w.authorize port authorized) port stage := by
  have intent : SameIntent (w.authorize port authorized) (w'.authorize port authorized) := by
    refine ⟨hs.acls, hs.bindings, ?_⟩
    simp only [authorize, hs.internal]
  exact prepare_congr intent port stage

theorem store_stored {name : String} (stored : w.acls[name]? = some program) : w.store name program = w := by
  have hs : w.acls.insert name program = w.acls := by
    refine Std.ExtTreeMap.ext_getElem? fun other => ?_
    rw [lookup_insert]
    split_ifs with hs
    · rw [← hs, stored]
    · rfl
  rw [store, hs]

end

/-- A request that fails leaves everything exactly if its checks refuse it or it asks for what
is stored. -/
theorem untouched_iff_idle (switch : Switch) (req : EnsureAclRequest) {start after : Session AclWorld Hardware}
    {status : Status} (failed : ensureAclImpl switch req start = .error status after) :
    Untouched switch req.name start.memory after.memory ↔ Idle switch req start.memory := by
  cases hc : checkEnsure switch start.memory req with
  | error failure =>
    have refused : ensureAclImpl switch req start = .error failure start := by
      simp only [ensureAclImpl, retrieve, bind, EStateM.bind, hc]
      rfl
    cases refused.symm.trans failed
    refine iff_of_true ⟨rfl, fun _ _ => rfl⟩ fun program passes => ?_
    cases hc.symm.trans passes
  | ok program =>
    have hs := sameIntent_of_error hc failed
    constructor
    · intro same program' passes
      cases hc.symm.trans passes
      rw [← same.1, hs.acls, AclWorld.store, lookup_insert, if_pos rfl]
    · intro idle
      rw [store_stored (idle program hc)] at hs
      exact ⟨by rw [hs.acls], fun port authorized => prepare_authorize hs authorized⟩

/-- An IPv4 list on a port where DHCP messages go to the processor. -/
def snooped : Session AclWorld Hardware where
  memory := {
    acls := {("guard", ⟨.ipv4, ∅⟩)}
    bindings := {(("Ethernet1", .ingress), "guard")}
    internal := {(("Ethernet1", .ingress), { snoop := [⟨{ protocol := some 17 }, .trap⟩] })} }
  device := ⟨0, fun _ => none, fun _ => none, fun _ => none, fun _ => none, fun _ => none⟩
  countdown := none

/-- The list is asked for as it is stored, and the first call fails. -/
theorem untouched_iff_idle_repeated :
    ∃ status after, ensureAclImpl { ports := {("Ethernet1", 1)} } ⟨"guard", 1, []⟩
        { snooped with countdown := some 0 } = .error status after ∧
      Untouched { ports := {("Ethernet1", 1)} } "guard" snooped.memory after.memory := by
  cases ran : ensureAclImpl { ports := {("Ethernet1", 1)} } ⟨"guard", 1, []⟩
      { snooped with countdown := some 0 } with
  | ok value after =>
    have succeeded := Contracts.succeeds_iff.mpr ⟨value, after, ran⟩
    exact absurd succeeded (by decide +kernel)
  | error status after =>
    refine ⟨status, after, rfl, (untouched_iff_idle _ _ ran).mpr ?_⟩
    rintro program ⟨⟩
    simp [snooped]

/-- The port cannot have the list as an IPv6 one, and yet that is what stays stored. -/
theorem refused_family_stays_stored :
    ∃ status after, ensureAclImpl { ports := {("Ethernet1", 1)} } ⟨"guard", 2, []⟩ snooped =
        .error status after ∧
      ¬ Untouched { ports := {("Ethernet1", 1)} } "guard" snooped.memory after.memory := by
  cases ran : ensureAclImpl { ports := {("Ethernet1", 1)} } ⟨"guard", 2, []⟩ snooped with
  | ok value after =>
    have succeeded := Contracts.succeeds_iff.mpr ⟨value, after, ran⟩
    exact absurd succeeded (by decide +kernel)
  | error status after =>
    refine ⟨status, after, rfl, fun same => ?_⟩
    have hs := @sameIntent_of_error _ ⟨"guard", 2, []⟩ snooped ⟨.ipv6, ∅⟩ _ _ rfl ran
    have stored := same.1
    rw [hs.acls] at stored
    exact absurd (congrArg (Option.map AclProgram.family) stored) (by decide +kernel)

end Hemlock.Acl
