/-
The nodes that exist: files with a text and directories with children, in trees of their own or
in the one tree that starts at the root.

A node is known by a number that is never given out again, so a renamed copy or a second node of
the same name is never mistaken for it. A directory holds its children under the lower case of
their names, and a child remembers the directory that holds it. Only what is kept needs to exist:
`reclaim` lets go of every node that is neither wanted nor below a node that is wanted, and what is
left forgets a parent that is gone.
-/
import StoryShell.NameMap
import StoryShell.Text.LetterCase

set_option autoImplicit false

namespace StoryShell

/-- The number of a node. -/
abbrev NodeId := Nat

/-- What a node holds: a text, or children under the keys of their names. -/
inductive Body where
  | file (text : String)
  | directory (children : NameMap NodeId)
deriving DecidableEq, Repr

/-- **A node**, with the directory that holds it, if any. -/
structure Node where
  name : String
  parent : Option NodeId
  body : Body
deriving DecidableEq, Repr

namespace Node

/-- The key under which a directory holds a node: names are the same if they differ in case only. -/
def key (node : Node) : String := Text.lower node.name

/-- Whether a node is a directory. -/
def isDirectory (node : Node) : Bool :=
  match node.body with
  | .file _ => false
  | .directory _ => true

/-- The children of a node; a file has none. -/
def children (node : Node) : NameMap NodeId :=
  match node.body with
  | .file _ => NameMap.empty
  | .directory children => children

/-- The text of a node; a directory has none. -/
def text (node : Node) : String :=
  match node.body with
  | .file text => text
  | .directory _ => ""

/-- The name of a node in a listing: a directory ends in a slash. -/
def displayName (node : Node) : String :=
  if node.isDirectory then node.name ++ "/" else node.name

/-- A node with other children, if it is a directory. -/
def withChildren (node : Node) (f : NameMap NodeId → NameMap NodeId) : Node :=
  match node.body with
  | .file _ => node
  | .directory children => { node with body := .directory (f children) }

end Node

/-- **The nodes that exist**, each in the slot of its number. -/
structure Forest where
  slots : Array (Option Node)
deriving DecidableEq, Repr

namespace Forest

/-! ## Nodes -/

/-- The number of the root. -/
def root : NodeId := 0

/-- The forest of an empty root. -/
def initial : Forest := ⟨#[some ⟨"/", none, .directory NameMap.empty⟩]⟩

/-- The node of a number, if it exists. -/
def node? (forest : Forest) (id : NodeId) : Option Node :=
  (forest.slots[id]?).join

/-- Puts a node of its own into the forest; its number is new. -/
def create (forest : Forest) (name : String) (body : Body) : NodeId × Forest :=
  (forest.slots.size, ⟨forest.slots.push (some ⟨name, none, body⟩)⟩)

/-- Changes a node, if it exists. -/
def modify (forest : Forest) (id : NodeId) (f : Node → Node) : Forest :=
  ⟨forest.slots.modify id (Option.map f)⟩

/-- The name of a node. -/
def nameOf (forest : Forest) (id : NodeId) : String :=
  ((forest.node? id).map Node.name).getD ""

/-- Whether a node is a directory. -/
def isDirectory (forest : Forest) (id : NodeId) : Bool :=
  ((forest.node? id).map Node.isDirectory).getD false

/-- The text of a file. -/
def textOf (forest : Forest) (id : NodeId) : String :=
  ((forest.node? id).map Node.text).getD ""

/-- The name of a node in a listing. -/
def displayName (forest : Forest) (id : NodeId) : String :=
  ((forest.node? id).map Node.displayName).getD ""

/-! ## Links -/

/-- The directory that holds a node. -/
def parentOf (forest : Forest) (id : NodeId) : Option NodeId :=
  (forest.node? id).bind Node.parent

/-- The children of a node by their keys. -/
def childrenOf (forest : Forest) (id : NodeId) : NameMap NodeId :=
  ((forest.node? id).map Node.children).getD NameMap.empty

/-- The child of a directory by its name, whatever its case. -/
def child? (forest : Forest) (directory : NodeId) (name : String) : Option NodeId :=
  (forest.childrenOf directory).get? (Text.lower name)

/-- The children of a directory in the order of their keys. -/
def listing (forest : Forest) (directory : NodeId) : List NodeId :=
  (forest.childrenOf directory).values

/-- A node and at most `steps` directories above it, each holding the one before. -/
def climb (forest : Forest) : Nat → NodeId → List NodeId
  | 0, id => [id]
  | steps + 1, id =>
    match forest.parentOf id with
    | none => [id]
    | some parent => id :: forest.climb steps parent

/-- **The lineage of a node**: the node, the directory that holds it, the one that holds that, and
so on to the last. There are never more of them than nodes. -/
def lineage (forest : Forest) (id : NodeId) : List NodeId :=
  forest.climb forest.slots.size id

/-- Whether a node has a parent, and the parent holds it under its key. -/
def isHeld (forest : Forest) (id : NodeId) : Bool :=
  match forest.parentOf id with
  | none => false
  | some parent => forest.child? parent (forest.nameOf id) == some id

/-- Whether a node belongs to the tree of the root: each node on the way up to the root is held by
the next. -/
def isAttached (forest : Forest) (id : NodeId) : Bool :=
  ((forest.lineage id).takeWhile (· ≠ root)).all forest.isHeld

/-! ## Reclaiming -/

/-- Whether a node is wanted or below one that is. -/
def isKept (forest : Forest) (wanted : List NodeId) (id : NodeId) : Bool :=
  (forest.lineage id).any wanted.contains

/-- **Lets go of all nodes but those at or below a wanted one.** A node that stays forgets a parent
that does not. -/
def reclaim (forest : Forest) (wanted : List NodeId) : Forest :=
  ⟨forest.slots.mapIdx fun id slot =>
    if forest.isKept wanted id then
      slot.map fun node => { node with parent := node.parent.filter (forest.isKept wanted) }
    else none⟩

end Forest

end StoryShell
