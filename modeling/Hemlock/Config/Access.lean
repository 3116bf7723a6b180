import Hemlock.Config.Tree

/-!
# Reading a configuration tree

What the readers of a tree ask for: the first block of a name, the values of the first
leaf of a name.  Later blocks and leaves of the same name are not seen by these.
-/

namespace Hemlock.Config

def Item.name : Item → String
  | .leaf name _ => name
  | .block name _ _ => name

namespace ConfigTree

def blocksNamed (items : List Item) (name : String) : List (List String × List Item) :=
  items.filterMap fun
    | .leaf _ _ => none
    | .block blockName keys children => if blockName = name then some (keys, children) else none

def block (tree : ConfigTree) (name : String) : Option (List String × List Item) :=
  (blocksNamed tree.items name).head?

/-- Value of a single-valued leaf; leaves without a value are passed over. -/
def leafValue (items : List Item) (name : String) : Option String :=
  items.findSome? fun
    | .leaf leafName values => if leafName = name then values.head? else none
    | .block _ _ _ => none

def leafValues (items : List Item) (name : String) : Option (List String) :=
  items.findSome? fun
    | .leaf leafName values => if leafName = name then some values else none
    | .block _ _ _ => none

def hasLeaf (items : List Item) (name : String) : Bool :=
  items.any fun
    | .leaf leafName _ => leafName = name
    | .block _ _ _ => false

/-- The values after a phrase of two words. -/
def phraseValues (items : List Item) (first second : String) : Option (List String) :=
  items.findSome? fun
    | .leaf leafName (value :: rest) =>
      if leafName = first ∧ value = second then some rest else none
    | _ => none

def hasPhrase (items : List Item) (first second : String) : Bool :=
  (phraseValues items first second).isSome

end ConfigTree

end Hemlock.Config
