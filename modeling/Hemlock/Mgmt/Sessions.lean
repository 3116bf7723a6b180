import Hemlock.Config.Parser
import Hemlock.Intent.Validation
import Hemlock.Mgmt.Confirmation

/-!
# Roles of sessions

Sessions keep the role that their user had when they were opened.  A commit brings the
sessions in line with its configuration; an automatic rollback puts a configuration in force
and leaves the sessions as they are.
-/

namespace Hemlock.Mgmt

open Config Machine OrderedMap
open Intent (Role)

/-- The roles that the login block of a configuration gives; the time-zone database has no
say in them. -/
def accounts (text : String) : NameMap Role :=
  match parse text with
  | .ok tree =>
    match Intent.extract none tree with
    | .ok intents => intents.login.map fun _ user => user.role
    | .error _ => ∅
  | .error _ => ∅

structure Session (Rest : Type) where
  user : String
  role : Role
  rest : Rest
  deriving DecidableEq

section

variable {Key Rest : Type} [Ord Key] [Std.TransOrd Key] [Std.LawfulEqOrd Key]

def setRole (user : String) (role : Role) (sessions : Std.ExtTreeMap Key (Session Rest) compare) :
    Std.ExtTreeMap Key (Session Rest) compare :=
  sessions.map fun _ session => if session.user = user then { session with role } else session

def setRoles (roles : List (String × Role)) (sessions : Std.ExtTreeMap Key (Session Rest) compare) :
    Std.ExtTreeMap Key (Session Rest) compare :=
  roles.foldl (fun sessions (user, role) => setRole user role sessions) sessions

theorem setRoles_cases {roles : List (String × Role)} {key : Key} {session : Session Rest}
    {sessions : Std.ExtTreeMap Key (Session Rest) compare}
    (hf : (setRoles roles sessions)[key]? = some session) : ((session.user, session.role) ∈ roles ∧
        ∃ before, sessions[key]? = some before ∧ before.user = session.user) ∨
      sessions[key]? = some session ∧ ∀ role, (session.user, role) ∉ roles := by
  induction roles generalizing sessions with
  | nil => exact .inr ⟨hf, by simp⟩
  | cons entry roles ih =>
    obtain ⟨user, role⟩ := entry
    rcases ih hf with ⟨hl, before, hk, hs⟩ | ⟨hk, unlisted⟩
    · simp only [setRole, getElem?_map, Option.map_eq_some_iff] at hk
      obtain ⟨earlier, hk, rfl⟩ := hk
      refine .inl ⟨List.mem_cons_of_mem _ hl, earlier, hk, ?_⟩
      rw [← hs]
      split_ifs <;> rfl
    · simp only [setRole, getElem?_map, Option.map_eq_some_iff] at hk
      obtain ⟨earlier, hk, rfl⟩ := hk
      split_ifs at unlisted ⊢ with named
      · exact .inl ⟨by simp [named], earlier, hk, rfl⟩
      · refine .inr ⟨hk, fun other hl => ?_⟩
        rcases List.mem_cons.mp hl with isFirst | later
        · exact named (congrArg Prod.fst isFirst)
        · exact unlisted other later

end

/-- What `show system users` prints besides; the time of the login is left out. -/
structure Live where
  client : String
  origin : String
  lastActive : Nat

def staleAfter : Nat := secs (36 * 60 * 60)

structure Daemon where
  engine : Engine
  nextId : Nat := 0
  sessions : Std.ExtTreeMap Nat (Session Live) compare := ∅

def Daemon.reap (now : Nat) (daemon : Daemon) : Daemon :=
  { daemon with
    sessions := daemon.sessions.filter fun _ session => now - session.rest.lastActive < staleAfter }

/-- A user the configuration does not name has the role of the operating system's account. -/
def Engine.roleOf (user : String) (readsRunning : Bool) (osRole : Role) (engine : Engine) : Role :=
  (if readsRunning then accounts engine.store.running else ∅)[user]?.getD osRole

inductive DaemonEvent where
  | engine (event : Event)
  | whoAmI (user client origin : String) (readsRunning : Bool) (osRole : Role)
  | touchSession (id : Nat)
  | closeSession (id : Nat)
  | listSessions

def Daemon.next (daemon : Daemon) (input : Timed DaemonEvent) : Daemon :=
  match input.event with
  | .engine event =>
    let sessions := match event with
      | .commit _ answers =>
        if answers.Succeed then
          setRoles (accounts daemon.engine.store.candidateText).toList daemon.sessions
        else daemon.sessions
      | _ => daemon.sessions
    { daemon with engine := Mgmt.next daemon.engine ⟨input.time, event⟩, sessions }
  | .whoAmI user client origin readsRunning osRole =>
    -- without a client the caller asks for the role only
    if user = "" ∨ client = "" then daemon
    else
      let id := daemon.nextId + 1
      let role := daemon.engine.roleOf user readsRunning osRole
      let origin := if origin = "" then "console" else origin
      { daemon with
        nextId := id
        sessions := (daemon.reap input.time).sessions.insert id ⟨user, role, client, origin, input.time⟩ }
  | .touchSession id =>
    { daemon with
      sessions := (daemon.reap input.time).sessions.modify id fun session =>
        { session with rest.lastActive := input.time } }
  | .closeSession id => { daemon with sessions := daemon.sessions.erase id }
  | .listSessions => daemon.reap input.time

def mgmtd (store : Store) : Machine Daemon (Timed DaemonEvent) Empty where
  init := { engine := { store } }
  next := Daemon.next
  emit _ _ := []

/-- The sessions have the roles that a configuration gives to the users it names. -/
def Daemon.Gives (daemon : Daemon) (text : String) : Prop :=
  ∀ (id : Nat) session role, daemon.sessions[id]? = some session →
    (accounts text)[session.user]? = some role → session.role = role

def Daemon.InLine (daemon : Daemon) : Prop := daemon.Gives daemon.engine.store.running

/-- The event puts the text in force: it is the candidate of a commit that gets as far as the
store, or the text of a woken guard that finds a confirmation pending. -/
def Engine.Enforces (engine : Engine) (text : String) : Event → Prop
  | .commit _ answers => (answers.readsCandidate && answers.valid && answers.readsRunning) = true ∧
    answers.applied ≠ .failed ∧ text = engine.store.candidateText
  | .rollBack id applied => applied ≠ .failed ∧ engine.pendingConfirm ≠ none ∧
    ∃ guard, engine.guards[id]? = some guard ∧ guard.woken = true ∧ text = guard.preCommitRunning
  | _ => False

/-- The running configuration can be read when a session is opened.  The text of a guard, and
the candidate of a commit that does not succeed, give users the roles that their sessions
have. -/
def Daemon.Agrees (daemon : Daemon) (input : Timed DaemonEvent) : Prop :=
  match input.event with
  | .engine event => (∃ req answers, event = .commit req answers ∧ answers.Succeed) ∨
    ∀ text, daemon.engine.Enforces text event → daemon.Gives text
  | .whoAmI _ _ _ readsRunning _ => readsRunning = true
  | _ => True

variable {daemon : Daemon} {input : Timed DaemonEvent} {now id : Nat} {session : Session Live}

theorem Daemon.sessions_of_reap (hf : (daemon.reap now).sessions[id]? = some session) :
    daemon.sessions[id]? = some session := by
  rw [Daemon.reap, getElem?_filter'] at hf
  exact (Option.filter_eq_some_iff.mp hf).1

theorem next_running (engine : Engine) (now : Nat) (event : Event) :
    (next engine ⟨now, event⟩).store.running = engine.store.running ∨
      engine.Enforces (next engine ⟨now, event⟩).store.running event := by
  cases event with
  | setCandidate text valid =>
    left
    simp only [Mgmt.next, Engine.setCandidate]
    split_ifs <;> rfl
  | commit req answers =>
    simp only [Mgmt.next, Engine.Enforces, Engine.commit]
    split_ifs with reads valid running done
    · exact .inl rfl
    · exact .inl rfl
    · exact .inl rfl
    · refine .inr ⟨by simp_all, by simp [done], ?_⟩
      rw [Engine.arm, done]
      split_ifs <;> rfl
    · cases isApplied : answers.applied with
      | done => exact absurd isApplied done
      | failed => exact .inl rfl
      | torn => exact .inr ⟨by simp_all, by decide, rfl⟩
  | confirmCommit | wake id | quit id => exact .inl rfl
  | rollBack id applied =>
    simp only [Mgmt.next]
    rcases @rollBack_cases engine id applied with hs | ⟨guard, hk, woken, ⟨-, hs⟩ | ⟨pending, hs⟩⟩
    · exact .inl (by rw [hs])
    · exact .inl (by rw [hs])
    · rw [hs]
      cases applied with
      | failed => exact .inl rfl
      | done | torn => exact .inr ⟨by decide, pending, guard, hk, woken, rfl⟩

theorem Daemon.InLine.engine (inLine : daemon.InLine) {event : Event}
    (hi : daemon.Agrees ⟨now, .engine event⟩) : (daemon.next ⟨now, .engine event⟩).InLine := by
  intro id session role hf given
  by_cases commits : ∃ req answers, event = .commit req answers ∧ answers.Succeed
  · obtain ⟨req, answers, rfl, succeed⟩ := commits
    have running : (daemon.next ⟨now, .engine (.commit req answers)⟩).engine.store.running =
        daemon.engine.store.candidateText := commit_running succeed
    rw [running] at given
    simp only [Daemon.next, if_pos succeed] at hf
    rcases setRoles_cases hf with ⟨hl, -⟩ | ⟨-, unlisted⟩
    · rw [mem_toList_iff_getElem?_eq_some, given] at hl
      exact (Option.some.inj hl).symm
    · exact absurd (mem_toList_iff_getElem?_eq_some.mpr given) (unlisted role)
  · have same : (daemon.next ⟨now, .engine event⟩).sessions = daemon.sessions := by
      cases event with
      | commit req answers => exact if_neg fun succeed => commits ⟨req, answers, rfl, succeed⟩
      | _ => rfl
    rw [same] at hf
    rcases next_running daemon.engine now event with unchanged | enforced
    · exact inLine id session role hf (unchanged ▸ given)
    · exact hi.resolve_left commits _ enforced id session role hf given

theorem Daemon.InLine.next (inLine : daemon.InLine) (hi : daemon.Agrees input) :
    (daemon.next input).InLine := by
  obtain ⟨now, event⟩ := input
  cases event with
  | engine event => exact inLine.engine hi
  | whoAmI user client origin readsRunning osRole =>
    intro id session role hf given
    by_cases asks : user = "" ∨ client = ""
    · simp only [Daemon.next, if_pos asks] at hf given
      exact inLine id session role hf given
    · simp only [Daemon.next, if_neg asks, getElem?_insert] at hf given
      by_cases isNew : compare (daemon.nextId + 1) id = .eq
      · rw [if_pos isNew] at hf
        cases hf
        simp only [Engine.roleOf, show readsRunning = true from hi, if_true]
        rw [given, Option.getD_some]
      · rw [if_neg isNew] at hf
        exact inLine id session role (Daemon.sessions_of_reap hf) given
  | touchSession other =>
    intro id session role hf given
    simp only [Daemon.next, getElem?_modify] at hf
    split_ifs at hf
    · obtain ⟨before, hk, rfl⟩ := Option.map_eq_some_iff.mp hf
      exact inLine _ before role (Daemon.sessions_of_reap hk) given
    · exact inLine id session role (Daemon.sessions_of_reap hf) given
  | closeSession other =>
    intro id session role hf given
    simp only [Daemon.next, getElem?_erase] at hf
    split_ifs at hf
    exact inLine id session role hf given
  | listSessions =>
    intro id session role hf given
    exact inLine id session role (Daemon.sessions_of_reap hf) given

/-- In a run that meets the condition at each step, the sessions are always in line. -/
theorem inLine_of_agrees (store : Store) (inputs : List (Timed DaemonEvent))
    (agrees : (mgmtd store).Throughout Daemon.Agrees inputs) :
    (mgmtd store).Always Daemon.InLine inputs := by
  refine always_of_throughout ?_ (fun _ _ inLine => inLine.next) inputs agrees
  intro id session role found
  simp [mgmtd] at found

/-- A configuration with two users, of which the second has this role. -/
def eveHas (role : String) : String :=
  let user (name role : String) : Item :=
    .block "user" [name] [.leaf "role" [role], .leaf "password-hash" ["$6$a$b"]]
  ConfigTree.toText ⟨[.block "system" [] [.block "login" [] [user "adam" "admin", user "eve" role]]]⟩

def eveStore : Store := ⟨eveHas "operator", some (eveHas "admin")⟩

def eveOpens : Timed DaemonEvent := ⟨0, .whoAmI "eve" "web" "" true .operator⟩

/-- A commit with a time limit makes eve an administrator. -/
def evePromoted : Timed DaemonEvent := ⟨0, .engine (.commit ⟨60⟩ {})⟩

def eveRolledBack : List (Timed DaemonEvent) :=
  [eveOpens, evePromoted, ⟨secs 60, .engine (.wake 0)⟩, ⟨secs 60, .engine (.rollBack 0 .done)⟩]

def eveTries : Machine Daemon (Timed DaemonEvent) Empty := mgmtd ⟨eveHas "operator", some ""⟩

/-- A configuration without accounts is tried for a minute, and then the old one is back. -/
theorem inLine_of_agrees_eve : eveTries.Always Daemon.InLine eveRolledBack := by
  have opened : (eveTries.run (eveRolledBack.take 3)).sessions.toList.map
        (fun entry => (entry.2.user, entry.2.role)) = [("eve", .operator)] ∧
      (eveTries.run (eveRolledBack.take 3)).engine.guards[0]?.map Guard.preCommitRunning =
        some (eveHas "operator") ∧
      (accounts (eveHas "operator"))["eve"]? = some .operator := by
    decide +kernel
  obtain ⟨isSession, isGuard, isOperator⟩ := opened
  refine inLine_of_agrees _ ([] ++ [eveOpens] ++ [evePromoted] ++ [⟨secs 60, .engine (.wake 0)⟩] ++
    [⟨secs 60, .engine (.rollBack 0 .done)⟩]) ?_
  simp only [throughout_concat]
  refine ⟨⟨⟨⟨throughout_nil _ _, rfl⟩, .inl ⟨_, _, rfl, by decide⟩⟩, .inr fun _ wakes => wakes.elim⟩, .inr ?_⟩
  rintro text ⟨-, -, guard, hf, -, rfl⟩ id session role found given
  rw [show guard.preCommitRunning = eveHas "operator" from
    Option.some.inj ((congrArg (Option.map Guard.preCommitRunning) hf).symm.trans isGuard)] at given
  have listed : (session.user, session.role) ∈ [("eve", Role.operator)] :=
    isSession ▸ List.mem_map.mpr ⟨(id, session), mem_toList_iff_getElem?_eq_some.mpr found, rfl⟩
  obtain ⟨isEve, hasRole⟩ := Prod.mk.inj (List.mem_singleton.mp listed)
  rw [isEve, isOperator] at given
  exact hasRole.trans (Option.some.inj given)

/-- The commit is not confirmed.  The old configuration is back, and eve's session is still an
administrator's. -/
theorem rollback_keeps_role : ¬ ((mgmtd eveStore).run eveRolledBack).InLine := by
  intro inLine
  have kept : ∃ session ∈ ((mgmtd eveStore).run eveRolledBack).sessions[1]?,
      (accounts ((mgmtd eveStore).run eveRolledBack).engine.store.running)[session.user]? =
        some .operator ∧ session.role = .admin := by
    decide +kernel
  obtain ⟨session, found, given, admin⟩ := kept
  rw [inLine 1 session .operator found given] at admin
  cases admin

end Hemlock.Mgmt
