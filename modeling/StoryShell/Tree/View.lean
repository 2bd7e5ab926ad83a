/-
What can be shown of nodes: a node by its kind, name and place, and a directory by everything
below it.
-/
import StoryShell.Tree.Path
import StoryShell.Text.Quoted

set_option autoImplicit false

namespace StoryShell

/-- **A node as it is shown.** -/
structure NodeView where
  isDirectory : Bool
  name : String
  path : String
  attached : Bool
deriving DecidableEq, Repr

/-- **A directory as it is shown**: the entries in listing order, each with its key and its name. -/
inductive Outline where
  | file (key name text : String)
  | directory (key name : String) (entries : List Outline)
deriving Repr

namespace Forest

/-- A node as it is shown. -/
def view (forest : Forest) (id : NodeId) : NodeView :=
  ⟨forest.isDirectory id, forest.nameOf id, forest.pathOf id, forest.isAttached id⟩

/-- What is at most `depth` levels below a directory. -/
def outlineTo (forest : Forest) : Nat → NodeId → List Outline
  | 0, _ => []
  | depth + 1, id =>
    (forest.childrenOf id).entries.map fun (key, child) =>
      if forest.isDirectory child then
        .directory key (forest.nameOf child) (forest.outlineTo depth child)
      else .file key (forest.nameOf child) (forest.textOf child)

/-- **All that is below a directory.** -/
def outline (forest : Forest) (id : NodeId) : List Outline :=
  forest.outlineTo forest.slots.size id

/-- How a node is named in a diagnostic. -/
def describe (forest : Forest) (id : NodeId) : String :=
  let kind := if forest.isDirectory id then "Directory" else "File"
  kind ++ "(" ++ Text.quoted (forest.nameOf id) ++ ")"

end Forest

end StoryShell
