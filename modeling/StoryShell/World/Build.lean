/-
Building the file system of a world: its tree is planted below the root, and then the directories
with a role are registered.
-/
import StoryShell.World.Basic
import StoryShell.World.LoadError
import StoryShell.Tree.FileSystem

set_option autoImplicit false

namespace StoryShell

namespace Seed

mutual

/-- Plants a seed and all below it in a directory. -/
def plant (parent : NodeId) : Seed → FileSystem → Except TreeError FileSystem
  | .file name text, fs => (fs.createFile parent name text).map (·.2)
  | .directory name _ children, fs =>
    match fs.createDirectory parent name with
    | .error error => .error error
    | .ok (id, fs) => plantAll id children fs

/-- Plants seeds in a directory. -/
def plantAll (parent : NodeId) : List Seed → FileSystem → Except TreeError FileSystem
  | [], fs => .ok fs
  | seed :: rest, fs =>
    match plant parent seed fs with
    | .error error => .error error
    | .ok fs => plantAll parent rest fs

end

end Seed

namespace World

/-- Registers the directory at a path under a role. -/
def assignRole (world : String) (fs : FileSystem) (entry : String × String) :
    Except LoadError FileSystem :=
  match fs.forest.resolve entry.2 with
  | none => .error (.notADirectory entry.1 entry.2 world)
  | some directory =>
    if fs.forest.isDirectory directory then (fs.register entry.1 directory).mapError .refused
    else .error (.notADirectory entry.1 entry.2 world)

/-- **Builds the file system of a world.** -/
def build (world : World) : Except LoadError FileSystem :=
  match Seed.plantAll Forest.root world.seeds FileSystem.initial with
  | .error error => .error (.refused error)
  | .ok fs => world.wellKnown.foldlM (assignRole world.id) fs

end World

end StoryShell
