/-
The scene: which nodes of the staged directory a player has seen and opened.

A directory that is moved to becomes the stage, and its children its objects, all hidden. A listing
makes the objects visible that it lists, and a file that is read is revealed. Objects are known by
their nodes, since names can repeat in other directories.
-/
import StoryShell.Command.Interpreter

set_option autoImplicit false

namespace StoryShell

/-- A node on the stage. -/
structure SceneObject where
  node : NodeId
  visible : Bool
  revealed : Bool
deriving DecidableEq, Repr

/-- **The scene**: the staged directory, if any, and its objects. -/
structure Scene where
  directory : Option NodeId
  objects : List SceneObject
deriving DecidableEq, Repr

namespace Scene

/-- The scene without a stage. -/
def empty : Scene := ⟨none, []⟩

/-- The scene of a directory, all of it hidden. -/
def stage (forest : Forest) (directory : NodeId) : Scene :=
  ⟨some directory, (forest.listing directory).map (⟨·, false, false⟩)⟩

/-- The object of a node. -/
def find? (scene : Scene) (node : NodeId) : Option SceneObject :=
  scene.objects.find? (·.node = node)

/-- Makes the objects of some nodes visible. -/
def uncover (scene : Scene) (nodes : List NodeId) : Scene :=
  { scene with objects := scene.objects.map fun object =>
      if object.node ∈ nodes then { object with visible := true } else object }

/-- Reveals the object of a node. -/
def reveal (scene : Scene) (node : NodeId) : Scene :=
  { scene with objects := scene.objects.map fun object =>
      if object.node = node then { object with revealed := true } else object }

/-- The nodes that a scene keeps in existence. -/
def nodes (scene : Scene) : List NodeId :=
  scene.directory.toList ++ scene.objects.map SceneObject.node

/-- The objects that are visible. -/
def visible (scene : Scene) : List NodeId :=
  (scene.objects.filter SceneObject.visible).map SceneObject.node

/-- **Follows a result.** -/
def observe (scene : Scene) (forest : Forest) (result : Result) : Scene :=
  if result.isError then scene
  else
    match Command.ofName? result.command, result.target with
    | some .cd, some target => if forest.isDirectory target then stage forest target else scene
    | some .ls, _ => scene.uncover result.nodes
    | some .cat, some target => scene.reveal target
    | _, _ => scene

end Scene

end StoryShell
