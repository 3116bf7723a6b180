import Hemlock.Config.Parser
import Hemlock.Mgmt.Timers

/-!
# Edits of the web console

A web request reads the running configuration, edits it, sends the result as the candidate
and commits, in three calls of their own.  There is one candidate for all clients, and the
commit takes what it finds there.
-/

namespace Hemlock.Mgmt

open Config Machine Engine

def normalizeAdminLeaf : Item → Item
  | .leaf "no-shutdown" _ => .leaf "no" ["shutdown"]
  | .leaf "admin-state" ("enabled" :: _) => .leaf "no" ["shutdown"]
  | .leaf "admin-state" ("disabled" :: _) => .leaf "shutdown" []
  | item => item

def normalizeSwitchportLeaf : Item → Item
  | .leaf "access-vlan" values => .leaf "access" ("vlan" :: values)
  | .leaf "trunk-vlans" values => .leaf "trunk" ("vlans" :: values)
  | .leaf "native-vlan" values => .leaf "native" ("vlan" :: values)
  | item => item

def normalizeSwitchport : Item → Item
  | .block "switchport" keys children => .block "switchport" keys (children.map normalizeSwitchportLeaf)
  | item => item

def normalizeInterface : Item → Item
  | .leaf name values => .leaf name values
  | .block name keys children =>
    let children := (children.map normalizeAdminLeaf).map normalizeSwitchport
    match name, keys with
    | "ethernet", [key] | "management", [key] => .block key [] children
    | _, _ => .block name keys children

/-- Legacy spellings inside the interfaces blocks are replaced. -/
def normalizeInterfaces (tree : ConfigTree) : ConfigTree where
  items := tree.items.map fun item => match item with
    | .block "interfaces" keys children => .block "interfaces" keys (children.map normalizeInterface)
    | _ => item

/-- The text that `commit_edit` sends for the running text it has read, if it sends one. -/
def editText (apply : ConfigTree → Except String ConfigTree) (text : String) : Option String := do
  let tree ← (parse text).toOption
  let edited ← (apply (normalizeInterfaces tree)).toOption
  return edited.toText

/-- The calls of a request in a run.  After `before` it has read the running text, and it
sends `sent`; what other clients and guards do comes in between. -/
structure WebRequest where
  apply : ConfigTree → Except String ConfigTree
  before : List (Timed Event)
  reading : List (Timed Event)
  sent : String
  sentAt : Nat
  sending : List (Timed Event)
  committedAt : Nat
  answers : Answers

namespace WebRequest

variable (store : Store) (req : WebRequest)

def readText : String := ((system store).run req.before).store.running

def untilCommit : List (Timed Event) :=
  req.before ++ req.reading ++ [⟨req.sentAt, .setCandidate req.sent true⟩] ++ req.sending

/-- The commit makes of the text that is running just before it what the request is for. -/
def Kept : Prop :=
  editText req.apply ((system store).run req.untilCommit).store.running =
    some ((system store).run (req.untilCommit ++
      [⟨req.committedAt, .commit ⟨0⟩ req.answers⟩])).store.running

end WebRequest

/-- The event does not get as far as the stored texts. -/
def Event.Idle : Event → Prop
  | .setCandidate _ valid => valid = false
  | .commit _ answers =>
    (answers.readsCandidate && answers.valid && answers.readsRunning) = false ∨
      answers.applied = .failed
  | .confirmCommit | .wake _ | .quit _ => True
  | .rollBack _ applied => applied = .failed

/-- The event leaves the running text; the candidate it may replace. -/
def Event.Sparing (event : Event) : Prop :=
  event.Idle ∨ ∃ text valid, event = .setCandidate text valid

variable {engine : Engine} {input : Timed Event}

theorem next_store_of_idle (idle : input.event.Idle) : (next engine input).store = engine.store := by
  obtain ⟨now, event⟩ := input
  cases event with
  | setCandidate text valid => simp [next, setCandidate, show valid = false from idle]
  | commit req answers =>
    simp only [next, commit, applyAndPersist]
    rcases idle with refused | failed
    · split_ifs <;> simp_all [takePending]
    · split_ifs <;> simp_all [takePending]
  | confirmCommit | wake id | quit id => rfl
  | rollBack id applied =>
    simp only [next, rollBack, show applied = .failed from idle, applyAndPersist]
    split
    · split_ifs <;> rfl
    · rfl

theorem next_running_of_sparing (sparing : input.event.Sparing) :
    (next engine input).store.running = engine.store.running := by
  rcases sparing with idle | ⟨text, valid, event⟩
  · rw [next_store_of_idle idle]
  · simp only [next, event, setCandidate]
    split_ifs <;> rfl

/-- A request whose commit succeeds is kept when nobody else changes the running text after it
was read, nor any stored text after the candidate was sent. -/
theorem webRequest_kept_of_idle (store : Store) (req : WebRequest)
    (sends : editText req.apply (req.readText store) = some req.sent) (succeed : req.answers.Succeed)
    (sparing : ∀ input ∈ req.reading, input.event.Sparing)
    (idle : ∀ input ∈ req.sending, input.event.Idle) : req.Kept store := by
  have read : ((system store).run (req.before ++ req.reading)).store.running = req.readText store :=
    run_append_of store (·.store.running = _)
      (fun input listed _ same => (next_running_of_sparing (sparing input listed)).trans same) rfl
  have sent : ((system store).run req.untilCommit).store = ⟨req.readText store, some req.sent⟩ := by
    refine run_append_of store (·.store = _)
      (fun input listed _ same => (next_store_of_idle (idle input listed)).trans same) ?_
    rw [run_concat, ← read]
    rfl
  have committed : ((system store).run (req.untilCommit ++
      [⟨req.committedAt, .commit ⟨0⟩ req.answers⟩])).store.running = req.sent := by
    rw [run_concat]
    exact (commit_running succeed).trans (by rw [sent]; rfl)
  rw [WebRequest.Kept, committed, sent]
  exact sends

def addVlan (id : String) (tree : ConfigTree) : Except String ConfigTree :=
  .ok ⟨tree.items ++ [.block "vlan" [id] []]⟩

def onlyVlan (id : String) : String := ConfigTree.toText ⟨[.block "vlan" [id] []]⟩

/-- A request for VLAN 20 on an empty switch. -/
def addsTwenty (reading sending : List (Timed Event)) : WebRequest where
  apply := addVlan "20"
  before := []
  reading := reading
  sent := onlyVlan "20"
  sentAt := 2
  sending := sending
  committedAt := 3
  answers := {}

/-- Another client has a candidate of its own before this one sends its candidate. -/
theorem webRequest_kept_of_idle_candidate : (addsTwenty [⟨1, .setCandidate (onlyVlan "10") true⟩] []).Kept {} :=
  webRequest_kept_of_idle {} _ (by decide +kernel) (by decide) (by simp [addsTwenty, Event.Sparing])
    (by simp [addsTwenty])

/-- Another request adds VLAN 10: its commit comes after this one has read the running text,
and is lost; or its candidate comes before this one's commit, and is committed instead. -/
theorem webRequest_loses : editText (addVlan "20") "" = some (onlyVlan "20") ∧
    ¬ (addsTwenty [⟨1, .setCandidate (onlyVlan "10") true⟩, ⟨1, .commit ⟨0⟩ {}⟩] []).Kept {} ∧
      ¬ (addsTwenty [] [⟨2, .setCandidate (onlyVlan "10") true⟩]).Kept {} := by
  unfold WebRequest.Kept
  decide +kernel

end Hemlock.Mgmt
