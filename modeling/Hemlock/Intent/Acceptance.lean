import Hemlock.Intent.Validation
import Hemlock.Library.Refusal
import Hemlock.Switching.Service

/-!
# What extraction accepts

Facts about every accepted configuration: who can log in, and how the VLAN interfaces are
named.  The readers are followed only as far as they write the accounts or the interfaces;
the others leave both alone.
-/

namespace Hemlock.Intent

open Config Refusal Net Switching
open OrderedMap

def verify (yescrypt shaCrypt : String → String → Bool) (plaintext hash : String) : Bool :=
  if hash = "" ∨ hash.toList.head? = some '!' ∨ hash.toList.head? = some '*' then false
  else if "$y$".toList.isPrefixOf hash.toList then yescrypt plaintext hash
  else if "$6$".toList.isPrefixOf hash.toList ∨ "$5$".toList.isPrefixOf hash.toList then
    shaCrypt plaintext hash
  else false

/-- Some verifiers take some password for it. -/
def Acceptable (hash : String) : Prop := ∃ yescrypt shaCrypt plaintext, verify yescrypt shaCrypt plaintext hash

/-- What stands between the first two dollar signs. -/
def scheme (hash : String) : String := ((hash.toList.splitOn '$').map String.ofList).getD 1 ""

theorem acceptable_iff {hash : String} (valid : validHash hash) :
    Acceptable hash ↔ scheme hash ∉ ["7", "2b", "2y"] := by
  have whole : ['$'].intercalate (hash.toList.splitOn '$') = hash.toList := List.intercalate_splitOn '$'
  have accepts : ∃ (verifies : String → String → Bool) (plaintext : String), verifies plaintext hash = true :=
    ⟨fun _ _ => true, "", rfl⟩
  unfold scheme
  simp only [validHash, Bool.and_eq_true] at valid
  obtain ⟨-, valid⟩ := valid
  split at valid
  · next name rest parts =>
    rw [parts]
    simp only [List.map_eq_cons_iff] at parts
    obtain ⟨first, -, hl, isEmpty, second, later, rfl, rfl, rfl⟩ := parts
    rw [hl, String.ofList_eq_empty_iff.mp isEmpty] at whole
    cases later with
    | nil => simp at valid
    | cons part later =>
      have spelt : hash.toList = '$' :: (second ++ '$' :: ['$'].intercalate (part :: later)) := by simp [← whole]
      have ne : hash ≠ "" := by
        rintro rfl
        cases spelt
      simp only [Bool.and_eq_true, List.contains_iff_mem, List.mem_cons, List.not_mem_nil, or_false] at valid
      rcases valid.1.1 with known | known | known | known | known | known
      all_goals
        obtain rfl := String.ofList_injective known
        simp [Acceptable, verify, spelt, ne, accepts]
  · cases valid

def adminHashes (users : NameMap UserIntent) : List String :=
  (users.values.filter fun user => user.role = .admin).filterMap UserIntent.passwordHash

def leafOf (name : String) : Item → Option String
  | .leaf name' [value] => if name' = name then some value else none
  | _ => none

/-- The last statement of a name is the one that counts. -/
def lastLeaf (name : String) (items : List Item) : Option String := items.reverse.findSome? (leafOf name)

/-- The hash in the block of an administrator. -/
def adminBlock : Item → Option String
  | .leaf _ _ => none
  | .block name _ children =>
    if name = "user" ∧ lastLeaf "role" children = some "admin" then lastLeaf "password-hash" children else none

/-- The last `login` block is the one that counts. -/
def lastLogin (items : List Item) : List Item :=
  (ConfigTree.blocksNamed items "login").getLast?.elim [] Prod.snd

def loginItems (tree : ConfigTree) : List Item :=
  match tree.block "system" with
  | none => []
  | some (_, items) => lastLogin items

/-- The name of a block that is a VLAN interface. -/
def sviBlock : Item → Option String
  | .leaf _ _ => none
  | .block name keys _ =>
    match kindOf name keys with
    | .ok (.vlan, name) => some name
    | _ => none

def sviNames (tree : ConfigTree) : List String :=
  match tree.block "interfaces" with
  | none => []
  | some (_, items) => items.filterMap sviBlock

/-- The account is the one of a block with these statements. -/
structure UserIntent.Reads (items : List Item) (user : UserIntent) : Prop where
  hashed : ∀ hash ∈ user.passwordHash, validHash hash
  role : user.role = .admin ↔ lastLeaf "role" items = some "admin"
  hash : user.passwordHash = lastLeaf "password-hash" items

/-- The accounts are those of a block with these statements. -/
structure Accounts (items : List Item) (users : NameMap UserIntent) : Prop where
  hashed : ∀ hash ∈ adminHashes users, validHash hash
  listed : ∀ hash, hash ∈ adminHashes users ↔ hash ∈ items.filterMap adminBlock

/-- The accounts can be logged in to, and the VLAN interfaces are the named ones. -/
def Admitted (items : List Item) (names : List String) (intents : Intents) : Prop :=
  (Accounts items intents.login ∧ ∀ name ∈ intents.login, adminHashes intents.login ≠ []) ∧
    (∀ name ∈ names, (sviVlan name).isSome) ∧ ∀ name, name ∈ intents.svis ↔ name ∈ names

theorem insertNew_eq_ok {Key Value : Type} {order : Key → Key → Ordering} [Std.TransCmp order]
    {map map' : Std.ExtTreeMap Key Value order} {key : Key} {value : Value} {refusal : IntentError} :
    insertNew map key value refusal = .ok map' ↔ ¬ map.contains key ∧ map' = map.insert key value := by
  unfold insertNew
  split
  · next taken => simp [taken]
  · next free => simp [free, eq_comm]

section

variable {intents : Intents} {names : List String} {items children : List Item} {tree : ConfigTree}
  {zoneFiles : Option (String → Bool)}

theorem lastLeaf_concat (name : String) (item : Item) :
    lastLeaf name (items ++ [item]) = (leafOf name item).or (lastLeaf name items) := by
  rw [lastLeaf, List.reverse_concat, List.findSome?_cons]
  cases leafOf name item <;> rfl

theorem user_reads {account : String} : Gives (user account items) (UserIntent.Reads items) := by
  refine Gives.bind (P := UserIntent.Reads items) (gives_foldlM_append
    ⟨by rintro _ ⟨⟩, by decide, rfl⟩ (fun before item user reads => ?_) items) fun user reads => ?_
  · unfold userStatement
    split
    · exact gives_error _
    split
    all_goals try exact gives_error _
    · next role =>
      have isAdmin : ∀ {read}, Role.parse role = some read → (read = .admin ↔ role = "admin") := by
        intro read
        unfold Role.parse
        split <;> rintro ⟨⟩ <;> simp
      cases parsed : Role.parse role with
      | none => exact gives_error _
      | some read =>
        refine gives_ok ⟨reads.hashed, ?_, ?_⟩
        · simp [lastLeaf_concat, leafOf, isAdmin parsed]
        · simpa [lastLeaf_concat, leafOf] using reads.hash
    · split
      · next valid =>
        refine gives_ok ⟨by rintro _ ⟨⟩; exact valid, ?_, ?_⟩
        · simpa [lastLeaf_concat, leafOf] using reads.role
        · simp [lastLeaf_concat, leafOf]
      · exact gives_error _
    · split
      · refine gives_ok ⟨reads.hashed, ?_, ?_⟩
        · simpa [lastLeaf_concat, leafOf] using reads.role
        · simpa [lastLeaf_concat, leafOf] using reads.hash
      · exact gives_error _
  · repeat' first | exact gives_error _ | exact gives_ok reads | split

theorem mem_adminHashes {users : NameMap UserIntent} {hash : String} : hash ∈ adminHashes users ↔
    ∃ (name : String) (user : UserIntent), users[name]? = some user ∧ user.role = .admin ∧
      user.passwordHash = some hash := by
  simp only [adminHashes, List.mem_filterMap, List.mem_filter, decide_eq_true_eq, mem_values_iff]
  constructor
  · rintro ⟨user, ⟨⟨name, hf⟩, admin⟩, hashes⟩
    exact ⟨name, user, hf, admin, hashes⟩
  · rintro ⟨name, user, hf, admin, hashes⟩
    exact ⟨user, ⟨⟨name, hf⟩, admin⟩, hashes⟩

theorem accounts_insert {users : NameMap UserIntent} {account : String} {user : UserIntent} {keys : List String}
    (accounts : Accounts items users) (reads : user.Reads children) (new : ¬ users.contains account) :
    Accounts (items ++ [.block "user" keys children]) (users.insert account user) := by
  have added hash : hash ∈ adminHashes (users.insert account user) ↔
      hash ∈ adminHashes users ∨ user.role = .admin ∧ user.passwordHash = some hash := by
    simp only [mem_adminHashes, lookup_insert]
    constructor
    · rintro ⟨name, found, hf, admin, hashes⟩
      split_ifs at hf
      · cases hf
        exact .inr ⟨admin, hashes⟩
      · exact .inl ⟨name, found, hf, admin, hashes⟩
    · rintro (⟨name, found, hf, admin, hashes⟩ | ⟨admin, hashes⟩)
      · refine ⟨name, found, ?_, admin, hashes⟩
        rw [if_neg]
        · exact hf
        · rintro rfl
          exact new (mem_of_lookup hf)
      · exact ⟨account, user, if_pos rfl, admin, hashes⟩
  refine ⟨fun hash hl => ?_, fun hash => ?_⟩
  · rcases (added hash).mp hl with earlier | ⟨-, hashes⟩
    · exact accounts.hashed hash earlier
    · exact reads.hashed hash hashes
  · rw [added, accounts.listed, List.filterMap_append, List.mem_append, reads.role, reads.hash]
    simp [adminBlock]

theorem login_admitted : Gives (login items) fun users =>
    Accounts items users ∧ ∀ name ∈ users, adminHashes users ≠ [] := by
  refine Gives.bind (P := Accounts items) (gives_foldlM_append ⟨by simp [mem_adminHashes], by simp [mem_adminHashes]⟩
    (fun before item users accounts => ?_) items) fun users accounts => ?_
  · cases item with
    | leaf name values => exact gives_error _
    | block name keys children =>
      dsimp only [loginStatement]
      repeat' first | exact gives_error _ | split
      obtain rfl : name = "user" := not_not.mp ‹¬ name ≠ "user"›
      refine user_reads.bind fun user reads users' read => ?_
      obtain ⟨new, rfl⟩ := insertNew_eq_ok.mp read
      exact accounts_insert accounts reads new
  · split_ifs with admin
    · exact gives_error _
    · simp only [Bool.not_eq_true', Bool.not_eq_false, List.any_eq_true, Bool.and_eq_true,
        decide_eq_true_eq, Option.isSome_iff_exists] at admin
      obtain ⟨user, hm, isAdmin, hash, hashes⟩ := admin
      have listed : hash ∈ adminHashes users :=
        List.mem_filterMap.mpr ⟨user, List.mem_filter.mpr ⟨hm, decide_eq_true isAdmin⟩, hashes⟩
      exact gives_ok ⟨accounts, fun _ _ => List.ne_nil_of_mem listed⟩

theorem lastLogin_concat (name : String) (keys : List String) :
    lastLogin (items ++ [.block name keys children]) = if name = "login" then children else lastLogin items := by
  by_cases isLogin : name = "login" <;> simp [lastLogin, ConfigTree.blocksNamed, isLogin]

theorem system_admitted (hi : Admitted [] names intents) :
    Gives (system zoneFiles tree intents) (Admitted (loginItems tree) names) := by
  unfold system loginItems
  rcases tree.block "system" with _ | ⟨-, items⟩
  · exact gives_ok hi
  refine Gives.bind (gives_foldlM_append (P := fun items state => Admitted (lastLogin items) names state.1) ?_
    (fun before item state hi => ?_) items) fun state hi => ?_
  · exact hi
  · cases item with
    | leaf name values =>
      have same : lastLogin (before ++ [.leaf name values]) = lastLogin before := by
        simp [lastLogin, ConfigTree.blocksNamed]
      rw [same]
      exact gives_bind fun _ _ => gives_ok hi
    | block name keys children =>
      dsimp only [systemStatement]
      split_ifs
      · exact gives_error _
      refine Gives.bind (P := Admitted (lastLogin (before ++ [.block name keys children])) names) ?_
        fun _ hi => gives_ok hi
      rw [lastLogin_concat]
      by_cases isLogin : name = "login"
      · subst isLogin
        exact gives_bind fun users read => gives_ok ⟨login_admitted users read, hi.2⟩
      · rw [if_neg isLogin]
        unfold systemBlock
        repeat' first | exact gives_error _ | exact gives_ok hi | split | refine gives_bind fun _ _ => ?_
        exact absurd rfl isLogin
  · repeat' first | exact gives_error _ | exact gives_ok hi | split

variable (hi : Admitted items names intents)
include hi

theorem section_admitted : ∀ read ∈ [routing, protocols, switching, security, services, qos],
    Gives (read tree intents) (Admitted items names) := by
  simp only [List.forall_mem_cons, List.not_mem_nil, false_implies, implies_true, and_true]
  refine ⟨?_, ?_, ?_, ?_, ?_, ?_⟩
  all_goals
    first
    | unfold routing | unfold protocols | unfold switching | unfold security | unfold services | unfold qos
    split
    · exact gives_ok hi
    refine gives_foldlM (fun _ _ hi => ?_) hi _
    first
    | unfold routingStatement routingBlock | unfold protocolsStatement protocolsBlock
    | unfold switchingStatement switchingBlock | unfold securityStatement securityBlock
    | unfold servicesStatement servicesBlock | unfold qosStatement
    repeat' first | exact gives_error _ | exact gives_ok hi | refine gives_bind fun _ _ => ?_ | split
  -- The blocks that are read statement by statement.
  all_goals
    refine gives_foldlM (fun _ _ hi => ?_) hi _
    first
    | unfold aclsStatement | unfold coppStatement | unfold snoopingStatement | unfold inspectionStatement
    | unfold mapStatement
    repeat' first | exact gives_error _ | exact gives_ok hi | refine gives_bind fun _ _ => ?_ | split

theorem addSvi_admitted {name : String} {address : Option String} :
    Gives (addSvi name children address intents) (Admitted items (names ++ [name])) := by
  unfold addSvi
  split
  · next id isVlan =>
    repeat' first | exact gives_error _ | split | refine gives_bind fun _ _ => ?_
    all_goals
      next svis read =>
      refine gives_ok ⟨hi.1, fun other hl => ?_, fun other => ?_⟩
      · rcases List.mem_append.mp hl with earlier | last
        · exact hi.2.1 other earlier
        · simp [List.mem_singleton.mp last, isVlan]
      · simp only [(insertNew_eq_ok.mp read).2, member_insert, List.mem_append, List.mem_singleton, ← hi.2.2]
        tauto
  · exact gives_error _

theorem addVrrp_admitted {kind : Kind} {name : String} :
    Gives (addVrrp kind name children intents) (Admitted items names) := by
  refine gives_bind fun groups _ => gives_foldlM (fun _ _ hi => ?_) hi groups
  repeat' first | exact gives_error _ | exact gives_ok hi | split

theorem interfaceStatement_admitted {item : Item} :
    Gives (interfaceStatement intents item) (Admitted items (names ++ (sviBlock item).toList)) := by
  unfold interfaceStatement
  split
  · simpa [sviBlock] using gives_ok hi
  refine gives_bind fun block kinded => gives_bind fun _ _ => gives_bind fun _ _ =>
    (addVrrp_admitted hi).bind fun intents hi => ?_
  obtain ⟨kind, name⟩ := block
  simp only [sviBlock, kinded]
  cases kind
  all_goals simp only [Option.toList_none, List.append_nil]
  · unfold addPort
    repeat' first | exact gives_error _ | exact gives_ok hi | split | refine gives_bind fun _ _ => ?_ | dsimp only
  · unfold addManagement
    repeat' first | exact gives_error _ | exact gives_ok hi | split | refine gives_bind fun _ _ => ?_
  · exact addSvi_admitted hi
  · unfold addLag
    repeat' first | exact gives_error _ | exact gives_ok hi | split | refine gives_bind fun _ _ => ?_

omit hi

theorem interfaces_admitted (hi : Admitted items [] intents) :
    Gives (interfaces tree intents) (Admitted items (sviNames tree)) := by
  unfold interfaces sviNames
  rcases tree.block "interfaces" with _ | ⟨-, blocks⟩
  · exact gives_ok hi
  · refine gives_foldlM_append (P := fun blocks => Admitted items (blocks.filterMap sviBlock)) hi
      (fun before item _ hi => ?_) _
    rw [List.filterMap_append]
    exact interfaceStatement_admitted hi

/-- Validation adds nothing but warnings. -/
theorem finishValidation_admitted (hi : Admitted items names intents) :
    Gives (finishValidation intents) (Admitted items names) := by
  have groups : Gives (validateGroups intents) (Admitted items names) :=
    gives_bind fun _ _ => gives_bind fun _ _ => gives_ok hi
  have mirrors intents (hi : Admitted items names intents) : Gives (validateMirrors intents) (Admitted items names) :=
    gives_bind fun _ _ => gives_bind fun _ _ => gives_ok hi
  refine gives_bind fun _ _ => gives_bind fun _ _ => gives_bind fun _ _ => gives_bind fun _ _ =>
    gives_bind fun _ _ => gives_bind fun _ _ => groups.bind fun _ hi => (mirrors _ hi).bind fun _ hi => ?_
  repeat' first | exact gives_ok hi | refine gives_bind fun _ _ => ?_

theorem extract_admitted : Gives (extract zoneFiles tree) (Admitted (loginItems tree) (sviNames tree)) := by
  have start (ssh : SshIntent) (vlans) : Admitted [] [] { ssh, web := web tree, vlans } :=
    ⟨⟨⟨by simp [mem_adminHashes], by simp [mem_adminHashes]⟩, by simp⟩, by simp⟩
  refine gives_bind fun ssh _ => gives_bind fun vlans _ => (system_admitted (start ssh vlans)).bind fun _ hi => ?_
  iterate 6 refine (section_admitted hi _ (by simp)).bind fun _ hi => ?_
  exact (interfaces_admitted hi).bind fun _ hi => finishValidation_admitted hi

/-- The name has a number without a sign or leading zeros. -/
def Plain (name : String) : Prop := (name.toList.drop 4).head? ≠ some '+' ∧ (name.toList.drop 4).head? ≠ some '0'

theorem canonical_iff {name : String} {id : UInt16} (read : sviVlan name = some id) :
    (name = sviName id ∧ sviVlanId name = some id) ↔ Plain name := by
  simp only [sviVlan, Option.bind_eq_some_iff, Option.map_eq_some_iff, Option.filter_eq_some_iff,
    Bool.and_eq_true, decide_eq_true_eq] at read
  obtain ⟨digits, behind, number, ⟨parsed, inRange⟩, rfl⟩ := read
  obtain ⟨vlan, spelt, isVlan⟩ := List.dropPrefix?_eq_some_iff.mp behind
  rw [beq_iff_eq.mp isVlan] at spelt
  have resolved : sviVlanId name = some (.ofNat number) ↔ digits.head? ≠ some '0' := by
    change parseUnsigned 10 65536 digits = some number at parsed
    simp only [sviVlanId, behind, parsed, Option.bind_eq_bind, Option.bind_some]
    simp [inRange]
  have canonical : name = sviName (.ofNat number) ↔ Nat.toDigits 10 number = digits := by
    rw [← String.toList_inj, spelt, sviName, String.toList_append, List.append_right_inj,
      UInt16.toNat_ofNat', Nat.mod_eq_of_lt (by omega), Nat.toString_eq_repr, Nat.toList_repr, eq_comm]
  rw [resolved, canonical, Plain, spelt]
  refine and_congr_left fun unpadded => ⟨?_, fun unsigned => toDigits_of_parseUnsigned parsed unsigned unpadded⟩
  rintro rfl signed
  have isDigit := Nat.isDigit_of_mem_toDigits (by decide) (by decide) (List.mem_of_head? signed)
  cases isDigit

/-- Each VLAN interface has the name that is resolved to its VLAN, and no other has the VLAN. -/
def Intents.Canonical (intents : Intents) : Prop :=
  (∀ name ∈ intents.svis, ∃ id, sviVlan name = some id ∧ name = sviName id ∧
    Switching.sviVlanId name = some id) ∧
  ∀ first ∈ intents.svis, ∀ second ∈ intents.svis, sviVlan first = sviVlan second → first = second

theorem svis_canonical_iff (read : extract zoneFiles tree = .ok intents) :
    intents.Canonical ↔ ∀ name ∈ sviNames tree, Plain name := by
  obtain ⟨-, valid, listed⟩ := extract_admitted intents read
  have canonical name (hl : name ∈ sviNames tree) :
      (∃ id, sviVlan name = some id ∧ name = sviName id ∧ Switching.sviVlanId name = some id) ↔ Plain name := by
    obtain ⟨id, isVlan⟩ := Option.isSome_iff_exists.mp (valid name hl)
    simp [isVlan, ← canonical_iff isVlan]
  simp only [Intents.Canonical, listed]
  constructor
  · intro spelt name hl
    exact (canonical name hl).mp (spelt.1 name hl)
  · intro plain
    refine ⟨fun name hl => (canonical name hl).mpr (plain name hl), fun first hf second hs same => ?_⟩
    obtain ⟨id, isVlan, spelt, -⟩ := (canonical first hf).mpr (plain first hf)
    obtain ⟨id', isVlan', spelt', -⟩ := (canonical second hs).mpr (plain second hs)
    rw [isVlan, isVlan', Option.some.injEq] at same
    rw [spelt, spelt', same]

/-- There is an administrator, and a login works just if the block of an administrator has a
hash of a scheme that is verified. -/
theorem admin_acceptable_iff (read : extract zoneFiles tree = .ok intents) {name : String}
    (named : name ∈ intents.login) : adminHashes intents.login ≠ [] ∧
      ((∃ hash ∈ adminHashes intents.login, Acceptable hash) ↔
        ∃ hash ∈ (loginItems tree).filterMap adminBlock, scheme hash ∉ ["7", "2b", "2y"]) := by
  obtain ⟨⟨accounts, administered⟩, -⟩ := extract_admitted intents read
  refine ⟨administered name named, exists_congr fun hash => ?_⟩
  rw [← accounts.listed]
  exact and_congr_right fun hm => acceptable_iff (accounts.hashed hash hm)

end

/-- An administrator with a hash, and two VLAN interfaces. -/
def withAdmin (hash second : String) : ConfigTree :=
  ⟨[.block "system" [] [.block "login" [] [.block "user" ["netadmin"]
      [.leaf "role" ["admin"], .leaf "password-hash" [hash]]]],
    .block "interfaces" [] [.block "Vlan10" [] [], .block second [] []]]⟩

/-- A hash that is not verified, and two spellings of one VLAN. -/
def legacy : ConfigTree := withAdmin "$7$salt$hash" "Vlan010"

theorem legacy_accepted : ∃ intents, extract none legacy = .ok intents ∧
    ("netadmin" ∈ intents.login ∧ adminHashes intents.login = ["$7$salt$hash"]) ∧
      "Vlan10" ∈ intents.svis ∧ "Vlan010" ∈ intents.svis :=
  exists_of_toOption (by decide +kernel)

def modern : ConfigTree := withAdmin "$6$salt$hash" "Vlan20"

theorem modern_accepted : ∃ intents, extract none modern = .ok intents ∧ "netadmin" ∈ intents.login :=
  exists_of_toOption (by decide +kernel)

theorem modern_canonical : ∃ intents, extract none modern = .ok intents ∧ intents.Canonical := by
  obtain ⟨intents, read, -⟩ := modern_accepted
  refine ⟨intents, read, (svis_canonical_iff read).mpr ?_⟩
  unfold Plain
  decide +kernel

theorem legacy_not_canonical : ∃ intents, extract none legacy = .ok intents ∧ ¬ intents.Canonical := by
  obtain ⟨intents, read, -, first, second⟩ := legacy_accepted
  refine ⟨intents, read, fun canonical => ?_⟩
  have same := canonical.2 _ first _ second (by decide +kernel)
  exact absurd same (by decide)

theorem legacy_login : ∃ intents, extract none legacy = .ok intents ∧ "netadmin" ∈ intents.login ∧
    ¬ ∃ hash ∈ adminHashes intents.login, Acceptable hash := by
  obtain ⟨intents, read, ⟨named, hashes⟩, -⟩ := legacy_accepted
  refine ⟨intents, read, named, ?_⟩
  rw [hashes]
  simp [Acceptable, verify]

theorem modern_login : ∃ intents, extract none modern = .ok intents ∧
    ∃ hash ∈ adminHashes intents.login, Acceptable hash := by
  obtain ⟨intents, read, named⟩ := modern_accepted
  refine ⟨intents, read, (admin_acceptable_iff read named).2.mpr ⟨"$6$salt$hash", ?_⟩⟩
  decide +kernel

end Hemlock.Intent
