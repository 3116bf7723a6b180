import Hemlock.Acl.Backend

/-!
# Binding access lists

The request that binds an access list to a port or a Port-Channel: it materialises the
table of every physical port behind the name, and on a failure takes the binding back
and tries to restore the ports.
-/

namespace Hemlock.Acl

open Net Faults Hardware

inductive Code where
  | invalidArgument
  | failedPrecondition
  | notFound
  | internal
  deriving DecidableEq

structure Status where
  code : Code
  message : String
  deriving DecidableEq

/-- What the requests read of the switch, and the text of a call that fails. -/
structure Switch where
  aclIngress : Bool := true
  aclEgress : Bool := true
  aclEntryPolicer : Bool := true
  ports : NameMap PortId
  lags : Std.ExtTreeMap UInt16 (Std.ExtTreeSet String compare) compare := ∅
  failure : String := ""

abbrev Rpc (Value : Type) := Program Status AclWorld Hardware Value

def saiErr (text : String) : Status := ⟨.internal, "SAI: " ++ text⟩

section

variable (switch : Switch)

def sai {Value : Type} (effect : Hardware → Value × Hardware) : Rpc Value :=
  call (saiErr switch.failure) effect

def lagGroupOf (name : String) : Option UInt16 := do
  let digits ← name.toList.dropPrefix? "Port-Channel".toList
  let group ← parseUnsigned 10 65536 digits
  if 1 ≤ group ∧ group ≤ 64 ∧ digits.head? ≠ some '0' then some (UInt16.ofNat group) else none

def portChannel (group : UInt16) : String := "Port-Channel" ++ toString group.toNat

def quoted (name : String) : String := "\"" ++ name ++ "\""

def physicalTargets (name : String) : Except Status (List String) :=
  match lagGroupOf name with
  | some group =>
    match switch.lags[group]? with
    | some members => .ok members.toList
    | none => .error ⟨.failedPrecondition, portChannel group ++ " not created"⟩
  | none =>
    if name ∈ switch.ports then .ok [name]
    else .error ⟨.notFound, "no such interface " ++ quoted name⟩

/-- The access list of a port: its own, or that of its Port-Channel. -/
def resolvedUserAcl (bindings : StageMap String) (port : String) (stage : AclStage) : Option String :=
  match bindings[(port, stage)]? with
  | some acl => some acl
  | none =>
    switch.lags.toList.findSome? fun (group, members) =>
      if port ∈ members then bindings[(portChannel group, stage)]? else none

def portSaiId (port : String) : Except Status PortId :=
  match switch.ports[port]? with
  | some portId => .ok portId
  | none => .error ⟨.notFound, "no port " ++ quoted port⟩

/-- What a port should have, and the number that the hardware knows it by. -/
def prepare (w : AclWorld) (port : String) (stage : AclStage) :
    Except Status (Option Desired × PortId) := do
  let user ←
    match resolvedUserAcl switch w.bindings port stage with
    | none => pure none
    | some name =>
      match w.acls[name]? with
      | some program => pure (some (name, program))
      | none => throw ⟨.failedPrecondition, "no such ACL " ++ quoted name⟩
  let desired ← (desiredEntries user w.internal[(port, stage)]?).mapError
    fun message => ⟨.failedPrecondition, message⟩
  let portId ← portSaiId switch port
  return (desired, portId)

def freshCounter (table : Oid) (want : DesiredEntry) : Rpc (Option Oid) :=
  if want.wantsCounter then do
    let counter ← sai switch (Hardware.createAclCounter table)
    return some counter
  else pure none

def freshPolicer (police : Option PolicerSpec) : Rpc (Option Oid) :=
  match police with
  | some spec => do
      let policer ← sai switch (Hardware.createPolicer spec)
      return some policer
  | none => pure none

def createEntryObjs (table : Oid) (want : DesiredEntry) : Rpc AclEntryObjs := do
  let counter ← freshCounter switch table want
  let policer ← freshPolicer switch want.police
  let entry ← sai switch
    (Hardware.createAclEntry table want.priority want.fields ⟨want.action, counter, policer⟩)
  return ⟨entry, counter, policer, want.priority, want.fields, want.action, want.police⟩

/-- The policer of a changed entry: kept, with the wanted rate, when there is one. -/
def settlePolicer (held : AclEntryObjs) (want : DesiredEntry) : Rpc (Option Oid) :=
  match held.policer, want.police with
  | some policer, some spec =>
    if held.police = some spec then pure (some policer)
    else do
      sai switch (Hardware.setPolicer policer spec)
      return some policer
  | none, some spec => freshPolicer switch (some spec)
  | _, none => pure none

/-- Priority and fields are fixed when an entry is created; the action can be set. -/
def settleEntry (table : Oid) (held : AclEntryObjs) (want : DesiredEntry) (action : AclAction) : Rpc Oid :=
  if held.priority = want.priority ∧ held.fields = want.fields then do
    sai switch (Hardware.setAclEntryAction held.entry action)
    return held.entry
  else do
    sai switch (Hardware.removeAclEntry held.entry)
    sai switch (Hardware.createAclEntry table want.priority want.fields action)

/-- A policer that is no longer wanted goes after the entry has let go of it. -/
def retirePolicer (held : AclEntryObjs) (want : DesiredEntry) : Rpc Unit :=
  match want.police, held.policer with
  | none, some policer => sai switch (Hardware.removePolicer policer)
  | _, _ => pure ()

def updateEntryObjs (table : Oid) (held : AclEntryObjs) (want : DesiredEntry) : Rpc AclEntryObjs := do
  let policer ← settlePolicer switch held want
  let entry ← settleEntry switch table held want ⟨want.action, held.counter, policer⟩
  retirePolicer switch held want
  return ⟨entry, held.counter, policer, want.priority, want.fields, want.action, want.police⟩

def forgetBase (counter : Oid) (w : AclWorld) : AclWorld :=
  { w with counterBase := w.counterBase.erase counter }

def destroyEntryObjs (objs : AclEntryObjs) : Rpc Unit := do
  sai switch (Hardware.removeAclEntry objs.entry)
  match objs.policer with
  | some policer => sai switch (Hardware.removePolicer policer)
  | none => pure ()
  match objs.counter with
  | some counter => do
      sai switch (Hardware.removeAclCounter counter)
      remember (forgetBase counter)
  | none => pure ()

def destroyAll : List AclEntryObjs → Rpc Unit := each (destroyEntryObjs switch)

def AclEntryObjs.unchanged (held : AclEntryObjs) (want : DesiredEntry) : Bool :=
  held.priority = want.priority && held.fields = want.fields && held.action = want.action &&
    held.police = want.police

def reconcileEntry (table : Oid) (held : Option AclEntryObjs) (want : DesiredEntry) : Rpc AclEntryObjs :=
  match held with
  | none => createEntryObjs switch table want
  | some held => if held.unchanged want then pure held else updateEntryObjs switch table held want

def reconcile (table : Oid) : List DesiredEntry → EntryMap → EntryMap → Rpc EntryMap
  | [], _, entries => pure entries
  | want :: rest, existing, entries => do
      let objs ← reconcileEntry switch table existing[want.key]? want
      reconcile table rest (existing.erase want.key) (entries.insert want.key objs)

section

variable (port : String) (portId : PortId) (stage : AclStage)

def forgetTable (w : AclWorld) : AclWorld :=
  { w with tables := w.tables.erase (port, stage) }

def recordTable (record : PortAclTable) (w : AclWorld) : AclWorld :=
  { w with tables := w.tables.insert (port, stage) record }

def dropTable (record : PortAclTable) : Rpc Unit := do
  sai switch (Hardware.bindPortAcl portId stage none)
  destroyAll switch (record.entries.toList.map Prod.snd)
  sai switch (Hardware.removeAclTable record.table)
  remember (forgetTable port stage)

def Desired.wants (desired : Desired) (key : AclEntryKey) : Bool :=
  desired.entries.any fun want => want.key = key

def staleObjs (existing : EntryMap) (desired : Desired) : List AclEntryObjs :=
  (existing.toList.filter fun entry => !desired.wants entry.1).map Prod.snd

def fillTable (desired : Desired) (table : Oid) (existing : EntryMap) (bindNeeded : Bool) : Rpc Unit := do
  destroyAll switch (staleObjs existing desired)
  let entries ← reconcile switch table desired.entries
    (existing.filter fun key _ => desired.wants key) ∅
  if bindNeeded then sai switch (Hardware.bindPortAcl portId stage (some table)) else pure ()
  remember (recordTable port stage ⟨table, desired.family, desired.userAcl, entries⟩)

def newTable (desired : Desired) : Rpc Unit := do
  let table ← sai switch (Hardware.createAclTable stage desired.family)
  fillTable switch port portId stage desired table ∅ true

/-- Makes the table of a port what is desired.  A table of another family is built anew. -/
def materialize (current : Option PortAclTable) (desired : Option Desired) : Rpc Unit :=
  match desired, current with
  | none, none => pure ()
  | none, some record => dropTable switch port portId stage record
  | some desired, none => newTable switch port portId stage desired
  | some desired, some record =>
    if record.family = desired.family then
      fillTable switch port portId stage desired record.table record.entries false
    else do
      dropTable switch port portId stage record
      newTable switch port portId stage desired

end

def applyPortStage (stage : AclStage) (port : String) : Rpc Unit := do
  let w ← retrieve
  let (desired, portId) ← settle (prepare switch w port stage)
  materialize switch port portId stage w.tables[(port, stage)]? desired

def applyTargets (stage : AclStage) : List String → Rpc Unit := each (applyPortStage switch stage)

structure BindPortAclRequest where
  port : String
  stage : Int32
  acl : String

def stageFromProto (value : Int32) : Except Status AclStage :=
  if value = 1 then .ok .ingress
  else if value = 2 then .ok .egress
  else .error ⟨.invalidArgument, "ACL stage required"⟩

/-- The checks before anything changes; they give the stage and the ports. -/
def checkBind (w : AclWorld) (req : BindPortAclRequest) : Except Status (AclStage × List String) := do
  let stage ← stageFromProto req.stage
  if !switch.aclIngress then
    throw ⟨.failedPrecondition, "ACLs are not supported by this platform's SAI"⟩
  if stage = .egress ∧ !switch.aclEgress then
    throw ⟨.failedPrecondition, "egress ACLs are not supported by this platform's SAI"⟩
  let some program := w.acls[req.acl]?
    | throw ⟨.failedPrecondition, "no such ACL " ++ quoted req.acl⟩
  if (program.rules.toList.any fun numbered => numbered.2.police.isSome) ∧
      !switch.aclEntryPolicer then
    throw ⟨.failedPrecondition, "per-rule policers are not supported by this platform's SAI"⟩
  let targets ← physicalTargets switch req.port
  return (stage, targets)

def bindTo (key : String × AclStage) (acl : Option String) (w : AclWorld) : AclWorld :=
  match acl with
  | some acl => { w with bindings := w.bindings.insert key acl }
  | none => { w with bindings := w.bindings.erase key }

/-- Applies what is bound to every port again, whether or not that fails. -/
def restore (stage : AclStage) : List String → Rpc Unit :=
  each fun port => attempt (applyPortStage switch stage port)

def bindPortAclImpl (req : BindPortAclRequest) : Rpc Unit := do
  let w ← retrieve
  let (stage, targets) ← settle (checkBind switch w req)
  let key := (req.port, stage)
  let previous := w.bindings[key]?
  remember (bindTo key (some req.acl))
  recover (applyTargets switch stage targets) do
    remember (bindTo key previous)
    restore switch stage targets

end

end Hemlock.Acl
