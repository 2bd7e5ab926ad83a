/-
Paths: the names on the way from the root to a node, or from the top of its tree if that is
another.
-/
import StoryShell.Tree.Forest
import StoryShell.Text.Blank

set_option autoImplicit false

namespace StoryShell.Forest

/-- The names from below the root, or from the top of a detached tree, down to a node. -/
def segments (forest : Forest) (id : NodeId) : List String :=
  (((forest.lineage id).takeWhile (· ≠ root)).map forest.nameOf).reverse

/-- The path of a directory without a slash at its end. -/
def barePath (forest : Forest) (id : NodeId) : String :=
  "/" ++ String.intercalate "/" (forest.segments id)

/-- **The path of a node.** The path of a directory ends in a slash. -/
def pathOf (forest : Forest) (id : NodeId) : String :=
  if id = root then "/"
  else if forest.isDirectory id then forest.barePath id ++ "/"
  else forest.barePath id

/-- The segments of a written path: its non-empty pieces between slashes. -/
def segmentsOf (path : String) : List String :=
  Text.pieces (· = '/') path

/-- **The node at the end of a written path**, followed from the root. -/
def resolve (forest : Forest) (path : String) : Option NodeId :=
  (segmentsOf path).foldlM forest.child? root

/-! ## Searching -/

/-- Looks for a key among the children of the nodes of a level, then among their children in turn,
at most `depth` levels down. -/
def searchLevels (forest : Forest) (key : String) : Nat → List NodeId → Option NodeId
  | 0, _ => none
  | depth + 1, level =>
    let next := level.flatMap forest.listing
    match next.find? fun id => Text.lower (forest.nameOf id) = key with
    | some id => some id
    | none => forest.searchLevels key depth next

/-- **The first node with a name**, level by level from the root and in listing order on each. The
root itself is not looked at. -/
def find (forest : Forest) (name : String) : Option NodeId :=
  forest.searchLevels (Text.lower name) forest.slots.size [root]

end StoryShell.Forest
