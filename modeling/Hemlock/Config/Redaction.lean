import Hemlock.Config.Parser
import Hemlock.Library.Masking

/-!
# Redaction of stored secrets

`redactSecrets` hides RADIUS keys, login password hashes and SNMP passphrases by
three passes over the tree.  Each pass descends into the first top-level block of
its name only, and the SNMP pass touches only `user` statements of seven values.
A tree is redacted completely exactly when it has no secret anywhere else.
-/

namespace Hemlock.Config

open Masking Item

def modifyFirstBlock (name : String) (edit : List Item → List Item) : List Item → List Item
  | [] => []
  | .leaf leafName values :: rest => .leaf leafName values :: modifyFirstBlock name edit rest
  | .block blockName keys children :: rest =>
    if blockName = name then .block blockName keys (edit children) :: rest
    else .block blockName keys children :: modifyFirstBlock name edit rest

/-- What a loop over `children.iter_mut()` does that skips all but the blocks
called `name`. -/
def Item.modifyBlock (name : String) (edit : List Item → List Item) : Item → Item
  | .leaf leafName values => .leaf leafName values
  | .block blockName keys children =>
    .block blockName keys (if blockName = name then edit children else children)

def Item.modifyLeaf (name : String) (edit : List String → List String) : Item → Item
  | .leaf leafName values => .leaf leafName (if leafName = name then edit values else values)
  | .block blockName keys children => .block blockName keys children

def hidden : String := "<hidden>"

def hideValues (_values : List String) : List String := [hidden]

/-- The two passwords sit at index 3 and 6. -/
def hidePassphrases (values : List String) : List String :=
  if values.length = 7 then (values.set 3 hidden).set 6 hidden else values

def redactRadius (security : List Item) : List Item :=
  security.map <| Item.modifyBlock "dot1x" <| List.map <|
    Item.modifyBlock "radius-server" <| List.map <| Item.modifyLeaf "key" hideValues

def redactLogin (system : List Item) : List Item :=
  system.map <| Item.modifyBlock "login" <| List.map <|
    Item.modifyBlock "user" <| List.map <| Item.modifyLeaf "password-hash" hideValues

def redactSnmp (services : List Item) : List Item :=
  services.map <| Item.modifyBlock "snmp" <| List.map <| Item.modifyLeaf "user" hidePassphrases

def redactLoginHashes (tree : ConfigTree) : ConfigTree :=
  ⟨modifyFirstBlock "system" redactLogin tree.items⟩

def redactSnmpUsers (tree : ConfigTree) : ConfigTree :=
  ⟨modifyFirstBlock "services" redactSnmp tree.items⟩

def redactSecretsImpl (tree : ConfigTree) : ConfigTree :=
  let tree := redactSnmpUsers tree
  let tree := redactLoginHashes tree
  ⟨modifyFirstBlock "security" redactRadius tree.items⟩

def ConfigTree.redactSecrets (tree : ConfigTree) : ConfigTree := redactSecretsImpl tree

/-- The same statement, except that the children of a block may differ as `Same`
allows for its name. -/
inductive SameChildren (Same : String → List Item → List Item → Prop) : Item → Item → Prop where
  | leaf (name values) : SameChildren Same (.leaf name values) (.leaf name values)
  | block {name keys children children'} : Same name children children' →
      SameChildren Same (.block name keys children) (.block name keys children')

/-- The same statement, except that the values of a leaf called `name` may differ
as `Same` allows. -/
inductive SameLeaf (name : String) (Same : List String → List String → Prop) :
    Item → Item → Prop where
  | secret {values values'} : Same values values' →
      SameLeaf name Same (.leaf name values) (.leaf name values')
  | refl (item) : SameLeaf name Same item item

/-- Only blocks called `name` may differ, as `Same` allows. -/
def Within (name : String) (Same : List Item → List Item → Prop) (blockName : String) :
    List Item → List Item → Prop :=
  if blockName = name then Same else Eq

def SameBlock (name : String) (Same : List Item → List Item → Prop) : Item → Item → Prop :=
  SameChildren (Within name Same)

/-- The values agree outside the places of the two passphrases. -/
def SamePassphrases (values values' : List String) : Prop :=
  values'.length = values.length ∧ ∀ i, i ≠ 3 → i ≠ 6 → values'[i]? = values[i]?

/-- The differences allowed below a top-level block. -/
def SameBelow (name : String) : List Item → List Item → Prop :=
  if name = "security" then
    List.Forall₂ <| SameBlock "dot1x" <| List.Forall₂ <| SameBlock "radius-server" <|
      List.Forall₂ <| SameLeaf "key" fun _ _ => True
  else if name = "system" then
    List.Forall₂ <| SameBlock "login" <| List.Forall₂ <| SameBlock "user" <|
      List.Forall₂ <| SameLeaf "password-hash" fun _ _ => True
  else if name = "services" then
    List.Forall₂ <| SameBlock "snmp" <| List.Forall₂ <| SameLeaf "user" SamePassphrases
  else Eq

/-- Two trees that differ only in the values of secret leaves. -/
def SameButSecrets (tree tree' : ConfigTree) : Prop :=
  List.Forall₂ (SameChildren SameBelow) tree.items tree'.items

def hasBlock (name : String) (test : List Item → Bool) (items : List Item) : Bool :=
  items.any fun
    | .leaf _ _ => false
    | .block blockName _ children => blockName = name && test children

def hasLeaf (name : String) (test : List String → Bool) (items : List Item) : Bool :=
  items.any fun
    | .leaf leafName values => leafName = name && test values
    | .block _ _ _ => false

def holdsSecret (name : String) (children : List Item) : Bool :=
  if name = "security" then
    hasBlock "dot1x" (hasBlock "radius-server" (hasLeaf "key" fun _ => true)) children
  else if name = "system" then
    hasBlock "login" (hasBlock "user" (hasLeaf "password-hash" fun _ => true)) children
  else if name = "services" then
    hasBlock "snmp" (hasLeaf "user" fun values => 3 < values.length) children
  else false

/-- Is there a passphrase below this block in a `user` statement that does not
have seven values? -/
def holdsOddUser (name : String) (children : List Item) : Bool :=
  if name = "services" then
    hasBlock "snmp" (hasLeaf "user" fun values => 3 < values.length && values.length ≠ 7) children
  else false

/-- Walk the top level with the names of the blocks already passed. -/
def coveredFrom (seen : List String) : List Item → Bool
  | [] => true
  | .leaf _ _ :: rest => coveredFrom seen rest
  | .block name _ children :: rest =>
    !(if name ∈ seen then holdsSecret name children else holdsOddUser name children) &&
      coveredFrom (name :: seen) rest

/-- Every secret sits in the first top-level block of its name, and every SNMP
passphrase in a statement of seven values. -/
def ConfigTree.covered (tree : ConfigTree) : Bool := coveredFrom [] tree.items

/-- The three passes, as what they do to the first block of each name. -/
def redactBelow (name : String) : List Item → List Item :=
  if name = "security" then redactRadius
  else if name = "system" then redactLogin
  else if name = "services" then redactSnmp
  else id

/-- Apply an edit to the first block of each name that is not among `seen`. -/
def editFirst (edit : String → List Item → List Item) (seen : List String) : List Item → List Item
  | [] => []
  | .leaf name values :: rest => .leaf name values :: editFirst edit seen rest
  | .block name keys children :: rest =>
    .block name keys (if name ∈ seen then children else edit name children) ::
      editFirst edit (name :: seen) rest

def only (name : String) (edit : List Item → List Item) (blockName : String) : List Item → List Item :=
  if blockName = name then edit else id

variable {name : String} {seen : List String}

theorem editFirst_only_of_mem (passed : name ∈ seen) (edit : List Item → List Item)
    (items : List Item) : editFirst (only name edit) seen items = items := by
  induction items generalizing seen with
  | nil => rfl
  | cons item rest ih =>
    cases item with
    | leaf leafName values => rw [editFirst, ih passed]
    | block blockName keys children =>
      rw [editFirst, ih (List.mem_cons_of_mem _ passed)]
      by_cases hs : blockName = name
      · simp [hs, passed]
      · simp [only, hs]

theorem modifyFirstBlock_eq_editFirst (unseen : name ∉ seen) (edit : List Item → List Item)
    (items : List Item) : modifyFirstBlock name edit items = editFirst (only name edit) seen items := by
  induction items generalizing seen with
  | nil => rfl
  | cons item rest ih =>
    cases item with
    | leaf leafName values => rw [modifyFirstBlock, editFirst, ih unseen]
    | block blockName keys children =>
      rw [modifyFirstBlock, editFirst]
      by_cases hs : blockName = name
      · subst hs
        rw [editFirst_only_of_mem List.mem_cons_self]
        simp [only, unseen]
      · rw [ih (List.not_mem_cons_of_ne_of_not_mem (Ne.symm hs) unseen)]
        simp [only, hs]

theorem editFirst_editFirst (first second : String → List Item → List Item)
    (seen : List String) (items : List Item) : editFirst second seen (editFirst first seen items) =
      editFirst (fun name => second name ∘ first name) seen items := by
  induction items generalizing seen with
  | nil => rfl
  | cons item rest ih =>
    cases item with
    | leaf name values => simp only [editFirst, ih]
    | block name keys children =>
      simp only [editFirst, ih]
      split_ifs <;> rfl

theorem redactSecrets_eq_editFirst (tree : ConfigTree) :
    tree.redactSecrets = ⟨editFirst redactBelow [] tree.items⟩ := by
  have fused : redactBelow = fun name =>
      only "security" redactRadius name ∘ only "system" redactLogin name ∘
        only "services" redactSnmp name := by
    funext name
    by_cases security : name = "security"
    · simp [redactBelow, only, security]
    · by_cases system : name = "system"
      · simp [redactBelow, only, system]
      · simp [redactBelow, only, security, system]
  have pass (name : String) (edit : List Item → List Item) (items : List Item) :
      modifyFirstBlock name edit items = editFirst (only name edit) [] items :=
    modifyFirstBlock_eq_editFirst List.not_mem_nil edit items
  simp only [ConfigTree.redactSecrets, redactSecretsImpl, redactSnmpUsers, redactLoginHashes,
    pass, editFirst_editFirst, fused]

variable {Same : String → List Item → List Item → Prop}

theorem SameChildren.refl (same_refl : ∀ name children, Same name children children) (item : Item) :
    SameChildren Same item item := by
  cases item with
  | leaf name values => exact .leaf name values
  | block name keys children => exact .block (same_refl name children)

theorem SameBlock.refl {Same : List Item → List Item → Prop}
    (same_refl : ∀ children, Same children children) (item : Item) : SameBlock name Same item item := by
  apply SameChildren.refl
  intro blockName children
  unfold Within
  split_ifs
  · exact same_refl children
  · rfl

theorem forall₂_refl {Same : Item → Item → Prop} (same_refl : ∀ item, Same item item)
    (items : List Item) : List.Forall₂ Same items items :=
  List.forall₂_same.mpr fun item _ => same_refl item

theorem SameBelow.refl (name : String) (children : List Item) : SameBelow name children children := by
  unfold SameBelow
  split_ifs
  · exact forall₂_refl (SameBlock.refl (forall₂_refl (SameBlock.refl (forall₂_refl .refl)))) _
  · exact forall₂_refl (SameBlock.refl (forall₂_refl (SameBlock.refl (forall₂_refl .refl)))) _
  · exact forall₂_refl (SameBlock.refl (forall₂_refl .refl)) _
  · rfl

theorem hides_children_iff {keys : List String} {children : List Item}
    (edit : List Item → List Item) (mask : Item → Item)
    (acts : ∀ children, mask (.block name keys children) = .block name keys (edit children)) :
    Hides (SameChildren Same) mask (.block name keys children) ↔ Hides (Same name) edit children := by
  constructor
  · intro hides children' hs
    have equal := hides (.block name keys children') (.block hs)
    simpa [acts] using equal
  · intro hides item hs
    cases hs with
    | block hs => rw [acts, acts, hides _ hs]

theorem hides_leaf (mask : Item → Item) (name : String) (values : List String) :
    Hides (SameChildren Same) mask (.leaf name values) := by
  intro item hs
  cases hs
  rfl

section Parts

variable {name : String} {edit : List Item → List Item} {Same : List Item → List Item → Prop}
  {test : List Item → Bool}

theorem hides_blocks_iff (same_refl : ∀ children, Same children children)
    (part : ∀ children, Hides Same edit children ↔ test children = false) (items : List Item) :
    Hides (List.Forall₂ (SameBlock name Same)) (List.map (modifyBlock name edit)) items ↔
      hasBlock name test items = false := by
  rw [hides_map_iff (SameBlock.refl same_refl), hasBlock, List.any_eq_false]
  apply forall₂_congr
  intro item _
  cases item with
  | leaf leafName values => simp [SameBlock, hides_leaf]
  | block blockName keys children =>
    rw [SameBlock, hides_children_iff (if blockName = name then edit else id) _
      (by intro children; simp only [modifyBlock]; split_ifs <;> rfl)]
    by_cases hs : blockName = name
    · simp [Within, hs, part]
    · simp [Within, hs, hides_eq]

theorem modifyBlock_id (name : String) : List.map (modifyBlock name id) = id := by
  funext items
  have each : modifyBlock name id = id := by
    funext item
    cases item <;> simp [modifyBlock]
  simp [each]

theorem modifyLeaf_id (name : String) : List.map (modifyLeaf name id) = id := by
  funext items
  have each : modifyLeaf name id = id := by
    funext item
    cases item <;> simp [modifyLeaf]
  simp [each]

theorem hides_leaves_iff {edit : List String → List String}
    {Same : List String → List String → Prop} {test : List String → Bool}
    (part : ∀ values, Hides Same edit values ↔ test values = false) (items : List Item) :
    Hides (List.Forall₂ (SameLeaf name Same)) (List.map (modifyLeaf name edit)) items ↔
      hasLeaf name test items = false := by
  rw [hides_map_iff .refl, hasLeaf, List.any_eq_false]
  apply forall₂_congr
  intro item _
  cases item with
  | block blockName keys children =>
    simp only [Bool.false_eq_true, not_false_eq_true, iff_true]
    rintro other ⟨⟩
    rfl
  | leaf leafName values =>
    by_cases hs : leafName = name
    · subst hs
      simp only [decide_true, Bool.true_and, Bool.not_eq_true, ← part]
      constructor
      · intro hides values' secret
        have equal := hides (.leaf leafName values') (.secret secret)
        simpa [modifyLeaf] using equal
      · rintro hides other (secret | _)
        · simp [modifyLeaf, hides _ secret]
        · rfl
    · simp only [hs, decide_false, Bool.false_and, Bool.false_eq_true, not_false_eq_true, iff_true]
      rintro other (secret | _)
      · exact absurd rfl hs
      · rfl

end Parts

theorem hasLeaf_false (name : String) : hasLeaf name (fun _ => false) = fun _ => false := by
  funext items
  rw [hasLeaf, List.any_eq_false]
  intro item _
  cases item <;> simp

theorem hasBlock_false (name : String) : hasBlock name (fun _ => false) = fun _ => false := by
  funext items
  rw [hasBlock, List.any_eq_false]
  intro item _
  cases item <;> simp

theorem hides_hideValues (values : List String) :
    Hides (fun _ _ => True) hideValues values ↔ false = false := by
  simp [Hides, hideValues]

theorem hides_any_id (values : List String) : Hides (fun _ _ => True) id values ↔ true = false := by
  simp only [Bool.true_eq_false, iff_false]
  intro hides
  have equal := hides ("" :: values) trivial
  simp at equal

theorem exists_other_passphrase {values : List String} (long : 3 < values.length) :
    ∃ values', SamePassphrases values values' ∧ values' ≠ values := by
  refine ⟨values.set 3 (values[3] ++ "x"), ⟨by simp, ?_⟩, ?_⟩
  · intro i notThree _
    rw [List.getElem?_set_ne (Ne.symm notThree)]
  · intro equal
    have third := congrArg (·[3]?) equal
    simp [long] at third

theorem eq_of_samePassphrases {values values' : List String} (short : ¬ 3 < values.length)
    (hs : SamePassphrases values values') : values' = values := by
  obtain ⟨lengths, agree⟩ := hs
  apply List.ext_getElem?
  intro i
  by_cases inside : i < 3
  · exact agree i (by omega) (by omega)
  · rw [List.getElem?_eq_none (by omega), List.getElem?_eq_none (by omega)]

theorem hides_passphrases_id (values : List String) :
    Hides SamePassphrases id values ↔ decide (3 < values.length) = false := by
  rw [decide_eq_false_iff_not]
  constructor
  · intro hides long
    obtain ⟨values', hs, ne⟩ := exists_other_passphrase long
    exact ne (hides values' hs)
  · intro short values' hs
    exact eq_of_samePassphrases short hs

theorem hides_hidePassphrases (values : List String) : Hides SamePassphrases hidePassphrases values ↔
      (decide (3 < values.length) && decide (values.length ≠ 7)) = false := by
  by_cases seven : values.length = 7
  · simp only [seven, ne_eq, not_true_eq_false, decide_false, Bool.and_false, iff_true]
    rintro values' ⟨lengths, agree⟩
    rw [hidePassphrases, hidePassphrases, if_pos seven, if_pos (lengths.trans seven)]
    apply List.ext_getElem?
    intro i
    by_cases third : i = 3
    · simp [third, seven, lengths]
    · by_cases sixth : i = 6
      · simp [sixth, seven, lengths]
      · simp [Ne.symm third, Ne.symm sixth, agree i third sixth]
  · have hu (values' : List String) (hs : SamePassphrases values values') :
        hidePassphrases values' = id values' := by
      rw [hidePassphrases, if_neg (hs.1 ▸ seven), id]
    simp only [ne_eq, seven, not_false_eq_true, decide_true, Bool.and_true]
    rw [← hides_passphrases_id]
    apply forall₂_congr
    intro values' hs
    rw [hu values' hs, hu values ⟨rfl, fun _ _ _ => rfl⟩]

section Families

variable {outer inner leaf : String} {edit : List String → List String}
  {Same : List String → List String → Prop} {test : List String → Bool}

theorem hides_twoBlocks_iff (part : ∀ values, Hides Same edit values ↔ test values = false)
    (items : List Item) : Hides (List.Forall₂ <| SameBlock outer <| List.Forall₂ <| SameBlock inner <|
          List.Forall₂ <| SameLeaf leaf Same)
        (List.map <| modifyBlock outer <| List.map <| modifyBlock inner <|
          List.map <| modifyLeaf leaf edit) items ↔
      hasBlock outer (hasBlock inner (hasLeaf leaf test)) items = false := by
  apply hides_blocks_iff (forall₂_refl (SameBlock.refl (forall₂_refl .refl)))
  apply hides_blocks_iff (forall₂_refl .refl)
  exact hides_leaves_iff part

theorem hides_oneBlock_iff (part : ∀ values, Hides Same edit values ↔ test values = false)
    (items : List Item) : Hides (List.Forall₂ <| SameBlock outer <| List.Forall₂ <| SameLeaf leaf Same)
        (List.map <| modifyBlock outer <| List.map <| modifyLeaf leaf edit) items ↔
      hasBlock outer (hasLeaf leaf test) items = false := by
  apply hides_blocks_iff (forall₂_refl .refl)
  exact hides_leaves_iff part

end Families

theorem hides_redactBelow_iff (name : String) (children : List Item) :
    Hides (SameBelow name) (redactBelow name) children ↔ holdsOddUser name children = false := by
  unfold SameBelow redactBelow
  split_ifs with security system services
  · exact (hides_twoBlocks_iff hides_hideValues children).trans
      (by simp [holdsOddUser, security, hasBlock_false, hasLeaf_false])
  · exact (hides_twoBlocks_iff hides_hideValues children).trans
      (by simp [holdsOddUser, system, hasBlock_false, hasLeaf_false])
  · rw [holdsOddUser, if_pos services]
    exact hides_oneBlock_iff hides_hidePassphrases children
  · simp only [holdsOddUser, services, if_false, hides_eq]

theorem hides_id_iff (name : String) (children : List Item) :
    Hides (SameBelow name) id children ↔ holdsSecret name children = false := by
  unfold SameBelow holdsSecret
  split_ifs
  · have part := @hides_twoBlocks_iff "dot1x" "radius-server" "key" _ _ _ hides_any_id children
    rwa [modifyLeaf_id, modifyBlock_id, modifyBlock_id] at part
  · have part := @hides_twoBlocks_iff "login" "user" "password-hash" _ _ _ hides_any_id children
    rwa [modifyLeaf_id, modifyBlock_id, modifyBlock_id] at part
  · have part := @hides_oneBlock_iff "snmp" "user" _ _ _ hides_passphrases_id children
    rwa [modifyLeaf_id, modifyBlock_id] at part
  · simp [hides_eq]

/-- One step of the walk: a block hides its secrets by being edited or by having
none. -/
theorem hides_editFirst_iff (seen : List String) (items : List Item) :
    Hides (List.Forall₂ (SameChildren SameBelow)) (editFirst redactBelow seen) items ↔
      coveredFrom seen items = true := by
  induction items generalizing seen with
  | nil => simp [hides_nil, coveredFrom]
  | cons item rest ih =>
    cases item with
    | leaf name values =>
      rw [coveredFrom, ← ih seen,
        @hides_cons_iff _ _ _ (SameChildren.refl SameBelow.refl) _ _ _ (editFirst redactBelow seen) id
          (by rintro other others ⟨⟩; rfl)]
      exact and_iff_right (hides_leaf id name values)
    | block name keys children =>
      have split (other : Item) (others : List Item)
          (hs : SameChildren SameBelow (.block name keys children) other) :
          editFirst redactBelow seen (other :: others) =
            other.modifyBlock name (if name ∈ seen then id else redactBelow name) ::
              editFirst redactBelow (name :: seen) others := by
        cases hs
        simp only [editFirst, modifyBlock]
        split_ifs <;> rfl
      rw [coveredFrom, hides_cons_iff (SameChildren.refl SameBelow.refl) split, ih (name :: seen),
        hides_children_iff (if name ∈ seen then id else redactBelow name) _
          (by simp [modifyBlock]), Bool.and_eq_true, Bool.not_eq_true']
      apply and_congr_left'
      split_ifs
      · exact hides_id_iff name children
      · exact hides_redactBelow_iff name children

/-- Redaction hides every secret of a tree exactly when the tree keeps its secrets
where the three passes look for them. -/
theorem redactSecrets_hides_iff_covered (tree : ConfigTree) :
    (∀ tree', SameButSecrets tree tree' → tree'.redactSecrets = tree.redactSecrets) ↔
      tree.covered = true := by
  rw [ConfigTree.covered, ← hides_editFirst_iff]
  simp only [redactSecrets_eq_editFirst, ConfigTree.mk.injEq]
  constructor
  · intro hides items same
    exact hides ⟨items⟩ same
  · intro hides tree' same
    exact hides tree'.items same

/-- A configuration with a RADIUS key in a second `security` block. -/
def splitSecurity (key : String) : ConfigTree :=
  ⟨[.block "security" [] [.leaf "snooping" []],
    .block "security" []
      [.block "dot1x" [] [.block "radius-server" ["10.0.0.2"] [.leaf "key" [key]]]]]⟩

/-- The key in the second block decides what the redacted tree looks like. -/
theorem redactSecrets_shows_second_block :
    parse "security { snooping }\nsecurity { dot1x { radius-server 10.0.0.2 { key alpha } } }" =
        .ok (splitSecurity "alpha") ∧
      SameButSecrets (splitSecurity "alpha") (splitSecurity "beta") ∧
      (splitSecurity "alpha").redactSecrets ≠ (splitSecurity "beta").redactSecrets := by
  refine ⟨by decide +kernel, ?_, by decide +kernel⟩
  refine .cons (.block (SameBelow.refl _ _)) (.cons (.block ?_) .nil)
  refine .cons (.block ?_) .nil
  refine .cons (.block ?_) .nil
  exact .cons (.secret trivial) .nil

end Hemlock.Config
