import Hemlock.Config.Redaction
import Hemlock.Mgmt.Sessions

/-!
# The web console

A gate in front of the handlers keeps operators from the paths of administrators.  It asks
for the role that the console remembers of the session, not for the configuration.  The role
comes from the management daemon at the sign-in, and the console's own commits bring it up to
date.  The gate lets everybody read the configuration as it stands, secrets included.
-/

namespace Hemlock.Web

open Config Machine OrderedMap Mgmt
open Intent (Role)
open Mgmt (Session accounts setRoles setRoles_cases)

def adminWebPaths : List String :=
  ["/api/acls/bindings/edit", "/api/acls/clear", "/api/acls/edit", "/api/arp/edit",
    "/api/arp/flush", "/api/bgp/edit", "/api/config/restore", "/api/copp/clear", "/api/copp/edit",
    "/api/dhcp/leases/clear", "/api/dhcp/relay/edit", "/api/dhcp/server/edit", "/api/dot1x/edit",
    "/api/dot1x/reauth", "/api/interfaces/edit", "/api/lags/edit", "/api/lldp/edit",
    "/api/mac-table/edit", "/api/mac-table/flush", "/api/mirror/edit", "/api/ntp/edit",
    "/api/ospf/edit", "/api/port-security/clear", "/api/port-security/edit", "/api/qos/maps/edit",
    "/api/qos/ports/edit", "/api/qos/wred/edit", "/api/reboot", "/api/reboot/cancel",
    "/api/routes/static/edit", "/api/sflow/edit", "/api/snmp/edit",
    "/api/snooping-sec/bindings/clear", "/api/snooping-sec/edit", "/api/snooping/edit",
    "/api/spanning-tree/clear-errdisable", "/api/spanning-tree/edit", "/api/storm-control/edit",
    "/api/svis/edit", "/api/system/certificate/regenerate", "/api/system/diag/cable",
    "/api/system/diag/ping", "/api/system/diag/traceroute", "/api/system/identity/edit",
    "/api/system/logging/edit", "/api/system/rollback", "/api/system/tech-support",
    "/api/system/users/edit", "/api/system/web/edit", "/api/upgrade/apply", "/api/upgrade/discard",
    "/api/upgrade/upload", "/api/users/add", "/api/vlans/edit", "/api/vrrp/edit"]

def webRequiresAdmin (path : String) : Bool := adminWebPaths.contains path

/-- The refusal of a request, if there is one.  Without a session the handler answers. -/
def roleGate (path : String) (role : Option Role) : Option String :=
  if webRequiresAdmin path then
    match role with
    | some .operator => some "% permission denied (operator role)"
    | _ => none
  else none

inductive Answer where
  | unauthorized (reason : String)
  | forbidden (reason : String)
  | badGateway (reason : String)
  | text (body : String)
  deriving DecidableEq

def config (role : Option Role) (running : Except String String) : Answer :=
  match role, running with
  | none, _ => .unauthorized "not signed in"
  | some _, .ok text => .text text
  | some _, .error reason => .badGateway reason

def getConfig (role : Option Role) (running : Except String String) : Answer :=
  match roleGate "/api/config" role with
  | some reason => .forbidden reason
  | none => config role running

def redactedConfig (text : String) : Except ParseError String :=
  (parse text).map fun tree => tree.redactSecrets.toText

/-- Two texts whose configurations differ in secrets alone: operators are shown the same only if
the texts are the same.  The file of the bundle is the same if each secret is where the
redaction looks for it, and otherwise some secret decides what the redacted configuration is. -/
theorem exports_of_sameButSecrets {text : String} {tree : ConfigTree} (parsed : parse text = .ok tree) :
    (∀ text' tree', parse text' = .ok tree' → SameButSecrets tree tree' →
      (getConfig (some .operator) (.ok text') = getConfig (some .operator) (.ok text) ↔ text' = text) ∧
      (tree.covered = true → redactedConfig text' = redactedConfig text)) ∧
    (tree.covered = false → ∃ tree', SameButSecrets tree tree' ∧ tree'.redactSecrets ≠ tree.redactSecrets) := by
  have hides := hides_editFirst_iff [] tree.items
  refine ⟨fun text' tree' parsed' same => ⟨⟨Answer.text.inj, by rintro rfl; rfl⟩, fun covered => ?_⟩, fun uncovered => ?_⟩
  · have redacted : tree'.redactSecrets = tree.redactSecrets := by
      rw [redactSecrets_eq_editFirst, redactSecrets_eq_editFirst, hides.mpr covered tree'.items same]
    simp only [redactedConfig, parsed, parsed', Except.map, redacted]
  · by_contra! hidden
    refine absurd (hides.mp fun items same => ?_) (by simpa [ConfigTree.covered] using uncovered)
    simpa [redactSecrets_eq_editFirst] using hidden ⟨items⟩ same

def withKey (key : String) : ConfigTree :=
  ⟨[.block "security" [] [.block "dot1x" [] [.block "radius-server" ["10.0.0.1"] [.leaf "key" [key]]]]]⟩

theorem parse_withKey : parse (withKey "alpha").toText = .ok (withKey "alpha") ∧
    parse (withKey "beta").toText = .ok (withKey "beta") := by
  decide +kernel

theorem sameButSecrets_withKey (key key' : String) : SameButSecrets (withKey key) (withKey key') := by
  refine .cons (.block ?_) .nil
  refine .cons (.block ?_) .nil
  refine .cons (.block ?_) .nil
  exact .cons (.secret trivial) .nil

theorem exports_of_sameButSecrets_withKey :
    redactedConfig (withKey "beta").toText = redactedConfig (withKey "alpha").toText :=
  ((exports_of_sameButSecrets parse_withKey.1).1 _ _ parse_withKey.2 (sameButSecrets_withKey _ _)).2 (by decide)

/-- Two configurations that differ in the key of a server alone. -/
theorem key_shown : parse (withKey "alpha").toText = .ok (withKey "alpha") ∧
    parse (withKey "beta").toText = .ok (withKey "beta") ∧
    SameButSecrets (withKey "alpha") (withKey "beta") ∧
    getConfig (some .operator) (.ok (withKey "alpha").toText) ≠
      getConfig (some .operator) (.ok (withKey "beta").toText) :=
  ⟨parse_withKey.1, parse_withKey.2, sameButSecrets_withKey _ _, by decide +kernel⟩

/-- Every configured account and its role: of the first `login` block of the first `system`
block. -/
def configuredRoles (tree : ConfigTree) : List (String × Role) :=
  match tree.block "system" with
  | none => []
  | some (_, system) =>
    match (ConfigTree.blocksNamed system "login").head? with
    | none => []
    | some (_, login) =>
      (ConfigTree.blocksNamed login "user").filterMap fun (keys, children) =>
        keys.head?.map fun name =>
          (name, ((ConfigTree.leafValue children "role").bind Role.parse).getD .operator)

/-- The roles that a commit of the console puts into its sessions. -/
def consoleRoles (text : String) : List (String × Role) :=
  match parse text with
  | .ok tree => configuredRoles tree
  | .error _ => []

/-- The handle of the session at the management daemon is left out. -/
structure Life where
  ttl : Nat
  expires : Nat
  deriving DecidableEq

/-- The console and the management daemon that it asks. -/
structure Console where
  daemon : Daemon
  sessions : NameMap (Session Life) := ∅

def Console.running (console : Console) : String := console.daemon.engine.store.running

inductive Event where
  /-- A call of any client at the management daemon, or a guard. -/
  | mgmtd (event : DaemonEvent)
  /-- A sign-in with the right password. -/
  | login (token user origin : String) (reached readsRunning : Bool) (osRole : Role) (timeoutMins : Nat)
  /-- A commit of the console itself is over. -/
  | committed (text : String)
  | request (token path : String)
  | logout (token : String)

/-- The session of a token, if it has not expired. -/
def Console.resolve (now : Nat) (token : String) (console : Console) : Option (Session Life) :=
  console.sessions[token]?.filter fun session => now < session.rest.expires

/-- The default is half an hour. -/
def sessionTtl (timeoutMins : Nat) : Nat :=
  secs ((if timeoutMins = 0 then 30 else timeoutMins) * 60)

def Console.create (token user : String) (role : Role) (timeoutMins now : Nat) (console : Console) : Console :=
  let live := console.sessions.filter fun _ session => now < session.rest.expires
  let life := ⟨sessionTtl timeoutMins, now + sessionTtl timeoutMins⟩
  { console with sessions := live.insert token ⟨user, role, life⟩ }

def Console.next (console : Console) (input : Timed Event) : Console :=
  match input.event with
  | .mgmtd event => { console with daemon := console.daemon.next ⟨input.time, event⟩ }
  | .login token user origin reached readsRunning osRole timeoutMins =>
    if reached then
      let role := console.daemon.engine.roleOf user readsRunning osRole
      let daemon := console.daemon.next ⟨input.time, .whoAmI user "web" origin readsRunning osRole⟩
      { console with daemon }.create token user role timeoutMins input.time
    else console.create token user .operator 0 input.time
  | .committed text => { console with sessions := setRoles (consoleRoles text) console.sessions }
  | .request token _ =>
    match console.resolve input.time token with
    | some session =>
      let life := { session.rest with expires := input.time + session.rest.ttl }
      { console with sessions := console.sessions.insert token { session with rest := life } }
    | none => { console with sessions := console.sessions.erase token }
  | .logout token => { console with sessions := console.sessions.erase token }

def webd (store : Store) : Machine Console (Timed Event) Empty where
  init := { daemon := (mgmtd store).init }
  next := Console.next
  emit _ _ := []

/-- A request of the user at this time reaches the handler of a path of administrators. -/
def Console.Admits (console : Console) (now : Nat) (token path user : String) : Prop :=
  webRequiresAdmin path = true ∧ ∃ session, console.resolve now token = some session ∧
    session.user = user ∧ roleGate path (some session.role) = none

/-- Users that the configuration names get there as administrators only.  Users that were named
while they were signed in do not get there any more when they are not. -/
def Follows (store : Store) (inputs : List (Timed Event)) : Prop :=
  ∀ before between after now token path user,
    inputs = before ++ between ++ ⟨now, .request token path⟩ :: after →
    ((webd store).run (before ++ between)).Admits now token path user →
    let role := (accounts ((webd store).run (before ++ between)).running)[user]?
    role ≠ some .operator ∧
      ((∃ session ∈ ((webd store).run before).sessions[token]?, session.user = user) →
        user ∈ accounts ((webd store).run before).running →
        (∀ input ∈ between, ∀ user origin reached readsRunning osRole timeoutMins,
          input.event ≠ .login token user origin reached readsRunning osRole timeoutMins) →
        role = some .admin)

/-- All users have the accounts they had, or become administrators. -/
def Spares (text text' : String) : Prop :=
  ∀ user : String, (accounts text')[user]? = (accounts text)[user]? ∨ (accounts text')[user]? = some .admin

/-- What comes into force spares the accounts, the running configuration can be read at a
sign-in, and those whom a commit of the console makes administrators are so in the
configuration in force. -/
def Console.Agrees (console : Console) (input : Timed Event) : Prop :=
  match input.event with
  | .mgmtd (.engine event) =>
    ∀ text, console.daemon.engine.Enforces text event → Spares console.running text
  | .login _ _ _ _ readsRunning _ _ => readsRunning = true
  | .committed text => ∀ entry ∈ consoleRoles text, entry.2 = .admin →
    (accounts console.running)[entry.1]? = some .admin
  | _ => True

/-- The accounts of the administrators' sessions that `Which` selects are as `May` says. -/
def Console.Fits (Which : String → String → Prop) (May : Option Role → Prop) (console : Console) : Prop :=
  ∀ (token : String) session, console.sessions[token]? = some session → Which token session.user →
    session.role = .admin → May (accounts console.running)[session.user]?

variable {console : Console} {input : Timed Event} {now : Nat} {token user : String}
  {Which : String → String → Prop} {May : Option Role → Prop}

theorem whoAmI_engine {daemon : Daemon} {client origin : String} {readsRunning : Bool} {osRole : Role} :
    (daemon.next ⟨now, .whoAmI user client origin readsRunning osRole⟩).engine = daemon.engine := by
  simp only [Daemon.next]
  split_ifs <;> rfl

/-- What administrators may be, they stay, if those who sign in are it. -/
theorem Console.Fits.next (fits : console.Fits Which May) (may : May (some .admin)) (hi : console.Agrees input)
    (opened : ∀ token user origin reached osRole timeoutMins,
      input.event = .login token user origin reached true osRole timeoutMins → Which token user →
        (accounts console.running)[user]?.getD osRole = .admin → May (accounts console.running)[user]?) :
    (console.next input).Fits Which May := by
  obtain ⟨now, event⟩ := input
  intro token session hf which admin
  cases event with
  | mgmtd event =>
    have before := fits token session hf which admin
    cases event with
    | engine event =>
      simp only [Console.next, Console.running, Daemon.next]
      rcases next_running console.daemon.engine now event with same | enforced
      · rwa [same]
      · rcases hi _ enforced session.user with same | isAdmin
        · rwa [same]
        · rwa [isAdmin]
    | whoAmI =>
      simp only [Console.next, Console.running, whoAmI_engine]
      exact before
    | touchSession | closeSession | listSessions => exact before
  | login token' user origin reached readsRunning osRole timeoutMins =>
    obtain rfl : readsRunning = true := hi
    have running : (console.next ⟨now, .login token' user origin reached true osRole timeoutMins⟩).running =
        console.running := by
      cases reached with
      | true => exact congrArg (·.store.running) whoAmI_engine
      | false => rfl
    rw [running]
    have opens (role : Role) (mins : Nat) (isRole : role = .admin → (accounts console.running)[user]?.getD osRole = .admin)
        (hf : (console.create token' user role mins now).sessions[token]? = some session) :
        May (accounts console.running)[session.user]? := by
      simp only [create, lookup_insert, getElem?_filter'] at hf
      split_ifs at hf with same
      · cases hf
        exact opened token' user origin reached osRole timeoutMins rfl (same ▸ which) (isRole admin)
      · exact fits token session (Option.filter_eq_some_iff.mp hf).1 which admin
    cases reached with
    | true => exact opens _ timeoutMins (fun isRole => isRole) hf
    | false => exact opens .operator 0 (fun isRole => by cases isRole) hf
  | committed text =>
    rcases setRoles_cases hf with ⟨hl, -⟩ | ⟨hk, -⟩
    · exact (hi _ hl admin).symm ▸ may
    · exact fits token session hk which admin
  | request token' path =>
    simp only [Console.next] at hf ⊢
    split at hf
    case h_1 before resolved =>
      simp only [lookup_insert] at hf
      split_ifs at hf with same
      · cases hf
        exact fits token before (same ▸ (Option.filter_eq_some_iff.mp resolved).1) which admin
      · exact fits token session hf which admin
    case h_2 =>
      simp only [lookup_erase] at hf
      split_ifs at hf
      exact fits token session hf which admin
  | logout token' =>
    simp only [Console.next, lookup_erase] at hf
    split_ifs at hf
    exact fits token session hf which admin

theorem fits_of_agrees {store : Store} {before between : List (Timed Event)}
    (agrees : (webd store).Throughout Console.Agrees (before ++ between))
    (fits : ((webd store).run before).Fits Which May) (may : May (some .admin))
    (opened : ∀ input ∈ between, ∀ token user origin reached osRole timeoutMins,
      input.event = .login token user origin reached true osRole timeoutMins → Which token user →
        ∀ role : Option Role, role.getD osRole = .admin → May role) :
    ((webd store).run (before ++ between)).Fits Which May := by
  induction between using List.reverseRecOn with
  | nil => rwa [List.append_nil]
  | append_singleton between input ih =>
    rw [← List.append_assoc] at agrees ⊢
    obtain ⟨earlier, last⟩ := throughout_concat.mp agrees
    rw [run_concat]
    refine (ih earlier fun input listed => opened input (List.mem_append_left _ listed)).next may last ?_
    intro token user origin reached osRole timeoutMins isLogin which isRole
    exact opened input (by simp) token user origin reached osRole timeoutMins isLogin which _ isRole

theorem Console.Admits.signedIn {path : String} (admits : console.Admits now token path user) :
    ∃ session, console.sessions[token]? = some session ∧ session.user = user ∧ session.role = .admin := by
  obtain ⟨guarded, session, hf, isUser, passes⟩ := admits
  refine ⟨session, (Option.filter_eq_some_iff.mp hf).1, isUser, ?_⟩
  cases isRole : session.role with
  | admin => rfl
  | operator =>
    rw [isRole, roleGate, if_pos guarded] at passes
    cases passes

/-- The operating system has eve as an administrator. -/
def eveSignsIn : Timed Event := ⟨0, .login "token" "eve" "" true true .admin 0⟩

def othersCommit : Timed Event := ⟨0, .mgmtd (.engine (.commit ⟨0⟩ {}))⟩

def eveAsks : Timed Event := ⟨1, .request "token" "/api/vlans/edit"⟩

end Hemlock.Web
