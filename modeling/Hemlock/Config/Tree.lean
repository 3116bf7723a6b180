import Hemlock.Config.Lexer

/-!
# The configuration tree and its canonical text

`Item` is one statement, a `ConfigTree` a list of them.  `toText` renders the
canonical form: four spaces per level, one statement per line, values quoted
where `atom` thinks they need it.  Names are written as they are.
-/

namespace Hemlock.Config

/-- One statement in a configuration. -/
inductive Item where
  | leaf (name : String) (values : List String)
  | block (name : String) (keys : List String) (children : List Item)
  deriving Repr

structure ConfigTree where
  items : List Item
  deriving Repr

mutual

def Item.decEq : (first second : Item) → Decidable (first = second)
  | .leaf name values, .leaf name' values' =>
    decidable_of_iff (name = name' ∧ values = values') (by simp)
  | .block name keys children, .block name' keys' children' =>
    match Item.decEqList children children' with
    | isTrue equal => decidable_of_iff (name = name' ∧ keys = keys') (by simp [equal])
    | isFalse unequal => isFalse (by simp [unequal])
  | .leaf _ _, .block _ _ _ => isFalse (by simp)
  | .block _ _ _, .leaf _ _ => isFalse (by simp)

def Item.decEqList : (first second : List Item) → Decidable (first = second)
  | [], [] => isTrue rfl
  | [], _ :: _ => isFalse (by simp)
  | _ :: _, [] => isFalse (by simp)
  | item :: rest, item' :: rest' =>
    match Item.decEq item item', Item.decEqList rest rest' with
    | isTrue same, isTrue equal => isTrue (by rw [same, equal])
    | isFalse ne, _ => isFalse (by simp [ne])
    | _, isFalse unequal => isFalse (by simp [unequal])

end

instance : DecidableEq Item := Item.decEq

instance : DecidableEq ConfigTree := fun first second =>
  decidable_of_iff (first.items = second.items) (by cases first; cases second; simp)

/-- Induction over a list of statements: a block may use the hypothesis for its
children. -/
theorem Item.list_induction {motive : List Item → Prop} (nil : motive [])
    (leaf : ∀ name values rest, motive rest → motive (.leaf name values :: rest))
    (block : ∀ name keys children rest, motive children → motive rest →
      motive (.block name keys children :: rest)) (items : List Item) : motive items := by
  refine @Item.rec_1 (fun item => ∀ rest, motive rest → motive (item :: rest)) motive ?_ ?_ nil ?_ items
  · exact leaf
  · intro name keys children childrenHold rest restHold
    exact block name keys children rest childrenHold restHold
  · intro item rest itemHolds restHolds
    exact itemHolds rest restHolds

/-- The two `replace` calls of `atom`, in their order. -/
def escape (word : List Char) : List Char :=
  (word.flatMap fun ch => if ch = '\\' then ['\\', '\\'] else [ch]).flatMap
    fun ch => if ch = '"' then ['\\', '"'] else [ch]

/-- The test `atom` applies before it writes a word without quotes. -/
def isBare (word : List Char) : Bool := !word.isEmpty && word.all isWordChar

/-- Quote a word unless it is safe as a bare token. -/
def atom (word : String) : List Char :=
  if isBare word.toList then word.toList
  else '"' :: escape word.toList ++ ['"']

def indent (depth : Nat) : List Char := List.replicate (4 * depth) ' '

def renderWords (words : List String) : List Char :=
  words.flatMap fun word => ' ' :: atom word

mutual

def render (depth : Nat) : Item → List Char
  | .leaf name values => indent depth ++ name.toList ++ renderWords values ++ ['\n']
  | .block name keys children =>
    indent depth ++ name.toList ++ renderWords keys ++ [' ', '{', '\n'] ++
      renderAll (depth + 1) children ++ indent depth ++ ['}', '\n']

def renderAll (depth : Nat) : List Item → List Char
  | [] => []
  | item :: rest => render depth item ++ renderAll depth rest

end

/-- Canonical text: newline-terminated statements, no trailing semicolons. -/
def ConfigTree.toText (tree : ConfigTree) : String := String.ofList (renderAll 0 tree.items)

end Hemlock.Config
