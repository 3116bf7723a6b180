import Hemlock.Config.Access
import Hemlock.Intent.Reading

/-!
# The system block

Identity, login users, remote logging, the SSH service and the web console.  A reader of
a block goes through its statements in their order; the first one it refuses ends it.
-/

namespace Hemlock.Intent

open Config Net ConfigTree

def insertNew {Key Value : Type} {order : Key → Key → Ordering} [Std.TransCmp order]
    (map : Std.ExtTreeMap Key Value order) (key : Key) (value : Value) (refusal : IntentError) :
    Except IntentError (Std.ExtTreeMap Key Value order) :=
  if map.contains key then .error refusal else .ok (map.insert key value)

def pushNew {Value : Type} [DecidableEq Value] (values : List Value) (value : Value) : List Value :=
  if value ∈ values then values else values ++ [value]

def maxSshKeys : Nat := 8

def noLoginAuthentication : String := "RADIUS/TACACS+ login authentication is not supported"

def userStatement (account : String) (intent : UserIntent) : Item → Except IntentError UserIntent
  | .block name _ _ => .error (.badLoginUser account ("unrecognized block " ++ debug name))
  | .leaf name values =>
    match name, values with
    | "aaa", _ | "radius", _ | "tacacs", _ | "tacacs+", _ =>
      .error (.badLoginUser account noLoginAuthentication)
    | "role", [role] =>
      match Role.parse role with
      | some role => .ok { intent with role }
      | none =>
        .error (.badLoginUser account ("bad role " ++ debug role ++ " (admin or operator)"))
    | "role", _ => .error (.badLoginUser account "expected `role <admin|operator>`")
    | "password-hash", [hash] =>
      if validHash hash then .ok { intent with passwordHash := some hash }
      else .error (.badLoginUser account "password-hash is not a crypt string")
    | "password-hash", _ => .error (.badLoginUser account "expected `password-hash <crypt>`")
    | "password", _ =>
      .error (.badLoginUser account ("plaintext passwords are never stored; use "
        ++ "`set ... password <plain>`, which hashes at the prompt"))
    | "ssh-key", [key] =>
      if validSshKey key then .ok { intent with sshKeys := pushNew intent.sshKeys key }
      else .error (.badLoginUser account
        "ssh-key must be `<type> <base64> [comment]` with a known key type")
    | "ssh-key", _ => .error (.badLoginUser account "expected `ssh-key <\"key\">`")
    | other, _ => .error (.badLoginUser account ("unrecognized statement " ++ debug other))

def user (account : String) (items : List Item) : Except IntentError UserIntent := do
  let intent ← items.foldlM (userStatement account) {}
  if maxSshKeys < intent.sshKeys.length then
    throw (.badLoginUser account
      ("at most 8 ssh-keys (" ++ toString intent.sshKeys.length ++ " configured)"))
  if intent.passwordHash.isNone && intent.sshKeys.isEmpty then
    throw (.badLoginUser account "needs a password or at least one ssh-key")
  return intent

def loginStatement (users : NameMap UserIntent) : Item → Except IntentError (NameMap UserIntent)
  | .leaf name _ => .error (.badLogin ("unrecognized statement " ++ debug name))
  | .block name keys children =>
    if name ≠ "user" then .error (.badLogin ("unrecognized block " ++ debug name))
    else
      match keys with
      | [account] =>
        if !validUserName account then .error (.badLoginUser account
          "bad name (a-z, 0-9, _ and -, starting with a letter or _, max 32)")
        else if reservedUsers.contains account then
          .error (.badLoginUser account "reserved account name")
        else do
          let intent ← user account children
          insertNew users account intent (.badLoginUser account "duplicate user block")
      | _ => .error (.badLogin "expected `user <name> \x7b ... \x7d`")

/-- The login block; it has to leave an administrator who can log in. -/
def login (items : List Item) : Except IntentError (NameMap UserIntent) := do
  let users ← items.foldlM loginStatement ∅
  if !users.values.any fun user => user.role = .admin && user.passwordHash.isSome then
    throw (.badLogin "at least one admin user with a password is required")
  return users

def logLevels : List (String × String) :=
  [("emergencies", "emerg"), ("alerts", "alert"), ("critical", "crit"), ("errors", "err"),
    ("warnings", "warning"), ("notifications", "notice"), ("informational", "info"),
    ("debugging", "debug")]

def maxLogHosts : Nat := 4

def logLevelSeverity (level : String) : Option String :=
  (logLevels.find? fun entry => entry.1 = level).map Prod.snd

/-- The settings behind a host's address: pairs of a keyword and a value, in any order. -/
def hostSettings (host : LogHost) : List String → Except IntentError LogHost
  | [] => .ok host
  | [keyword] => .error (.badLogging ("host " ++ host.address ++ ": " ++ keyword ++ " takes a value"))
  | keyword :: value :: rest => do
      let host ←
        match keyword, value with
        | "port", value => do
            let port ← (parseInt16 value 1 65535 "port").mapError .badLogging
            pure { host with port }
        | "protocol", "udp" => pure { host with protocol := "udp" }
        | "protocol", "tcp" => pure { host with protocol := "tcp" }
        | "protocol", other => throw (.badLogging ("bad protocol " ++ debug other ++ " (udp or tcp)"))
        | "tls", _ => throw (.badLogging "syslog over TLS is not supported")
        | other, _ => throw (.badLogging ("unrecognized host setting " ++ debug other))
      hostSettings host rest

def loggingStatement (intent : LoggingIntent) : Item → Except IntentError LoggingIntent
  | .block name _ _ => .error (.badLogging ("unrecognized block " ++ debug name))
  | .leaf name values =>
    match name, values with
    | "host", [] => .error (.badLogging "expected `host <ip> [port <n>] [protocol <udp|tcp>]`")
    | "host", address :: rest =>
      match parseIpAddr address.toList with
      | none => .error (.badLogging ("bad host " ++ debug address))
      | some address => do
          let host ← hostSettings ⟨address.text, 514, "udp"⟩ rest
          if intent.hosts.any fun existing => existing.address = host.address then
            throw (.badLogging ("duplicate host " ++ host.address))
          return { intent with hosts := intent.hosts ++ [host] }
    | "level", [level] =>
      if (logLevelSeverity level).isNone then
        .error (.badLogging ("bad level " ++ debug level ++ " (one of: "
          ++ ", ".intercalate (logLevels.map Prod.fst) ++ ")"))
      else .ok { intent with level := some level }
    | "level", _ => .error (.badLogging "expected `level <keyword>`")
    | other, _ => .error (.badLogging ("unrecognized statement " ++ debug other))

def logging (items : List Item) : Except IntentError LoggingIntent := do
  let intent ← items.foldlM loggingStatement {}
  if maxLogHosts < intent.hosts.length then
    throw (.badLogging ("at most 4 hosts (" ++ toString intent.hosts.length ++ " configured)"))
  return intent

def webStatement : Item → Except IntentError Unit
  | .block name _ _ => .error (.badWeb ("unrecognized block " ++ debug name))
  | .leaf name _ =>
    if name ≠ "session-timeout" then .error (.badWeb ("unrecognized statement " ++ debug name))
    else .ok ()

def webSessionTimeout (items : List Item) : Except IntentError (Option UInt32) := do
  items.forM webStatement
  match ConfigTree.leafValue items "session-timeout" with
  | some value => some <$> (parseInt32 value 5 1440 "session-timeout").mapError .badWeb
  | none => pure none

/-- The SSH service is on when its block exists. -/
def ssh (tree : ConfigTree) : Except IntentError SshIntent :=
  match tree.block "system" with
  | none => .ok {}
  | some (_, system) =>
    match (ConfigTree.blocksNamed system "ssh").head? with
    | none => .ok {}
    | some (_, ssh) =>
      match ConfigTree.leafValue ssh "authentication" with
      | some "local" => .ok { enabled := true, authLocal := true }
      | some other =>
        .error (.badSsh ("authentication must be `local`, got " ++ debug other))
      | none => .ok { enabled := true }

/-- Each listener of the console is on when its block exists. -/
def web (tree : ConfigTree) : WebIntent :=
  match tree.block "system" with
  | none => {}
  | some (_, system) =>
    { http := !(ConfigTree.blocksNamed system "http").isEmpty
      https := !(ConfigTree.blocksNamed system "https").isEmpty }

def maxNameServers : Nat := 3

/-- A block inside the system block.  The listeners and SSH are read by `web` and `ssh`. -/
def systemBlock (name : String) (children : List Item) (intents : Intents) : Except IntentError Intents :=
  match name with
  | "login" => do
      let login ← login children
      return { intents with login }
  | "logging" => do
      let logging ← logging children
      return { intents with logging }
  | "aaa" | "radius" | "tacacs" | "tacacs+" => .error (.badSystem noLoginAuthentication)
  | "archive" => .error (.badSystem "scheduled config archives are not supported")
  | "boot" | "image" => .error (.badSystem
      "dual-partition image selection is not supported (single image slot)")
  | "web" => do
      let sessionTimeout ← webSessionTimeout children
      return { intents with web := { intents.web with sessionTimeout } }
  | "ssh" | "http" | "https" => .ok intents
  | other => .error (.badSystem ("unrecognized block " ++ debug other))

/-- A leaf of the system block; `zoneFiles` is the installed time-zone database. -/
def identityStatement (zoneFiles : Option (String → Bool)) (name : String) (values : List String)
    (identity : IdentityIntent) : Except IntentError IdentityIntent :=
  match name, values with
  | "hostname", [name] =>
    if validHostnameLabel name then .ok { identity with hostname := some name }
    else .error (.badSystem
      ("bad hostname " ++ debug name ++ " (letters, digits and hyphens, max 63)"))
  | "hostname", _ => .error (.badSystem "expected `hostname <name>`")
  | "timezone", [zone] =>
    if zoneExists zoneFiles zone then .ok { identity with timezone := some zone }
    else .error (.unknownTimezone zone)
  | "timezone", _ => .error (.badSystem "expected `timezone <tz>`")
  | "name-server", [address] =>
    match parseIpAddr address.toList with
    | none => .error (.badSystem ("bad name-server " ++ debug address))
    | some address =>
      .ok { identity with nameServers := pushNew identity.nameServers address.text }
  | "name-server", _ => .error (.badSystem "expected `name-server <ip>`")
  | "domain-name", [name] =>
    if validDomainName name then .ok { identity with domainName := some name }
    else .error (.badSystem ("bad domain-name " ++ debug name))
  | "domain-name", _ => .error (.badSystem "expected `domain-name <name>`")
  | "banner", [kind, text] =>
    if kind = "motd" then .error (.badSystem "only `banner login` is supported")
    else if kind ≠ "login" then .error (.badSystem ("unrecognized banner " ++ debug kind))
    else .ok { identity with bannerLogin := some text }
  | "banner", _ => .error (.badSystem "expected `banner login <text>`")
  | other, _ => .error (.badSystem ("unrecognized statement " ++ debug other))

def systemStatement (zoneFiles : Option (String → Bool)) (state : Intents × IdentityIntent) :
    Item → Except IntentError (Intents × IdentityIntent)
  | .block name keys children =>
    if keys ≠ [] then .error (.badSystem ("unrecognized block " ++ debug name))
    else do
      let intents ← systemBlock name children state.1
      return (intents, state.2)
  | .leaf name values => do
      let identity ← identityStatement zoneFiles name values state.2
      return (state.1, identity)

def system (zoneFiles : Option (String → Bool)) (tree : ConfigTree) (intents : Intents) :
    Except IntentError Intents :=
  match tree.block "system" with
  | none => .ok intents
  | some (_, items) => do
      let (intents, identity) ← items.foldlM (systemStatement zoneFiles) (intents, {})
      if maxNameServers < identity.nameServers.length then
        throw (.badSystem
          ("at most 3 name-servers (" ++ toString identity.nameServers.length ++ " configured)"))
      return { intents with identity }

end Hemlock.Intent
