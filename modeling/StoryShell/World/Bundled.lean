/-
The world that comes with the program.
-/
import StoryShell.World.Basic
import StoryShell.World.LoadError
import StoryShell.World.Location

set_option autoImplicit false

namespace StoryShell.World

/-- The tree of the bundled world. -/
def bundledSeeds : List Seed := [
  .directory "bin" "" [
    .file "echo" "#!builtin echo",
    .file "ls" "#!builtin ls",
    .file "cd" "#!builtin cd",
    .file "cp" "#!builtin cp"],
  .file "fairy.exe" "I am Ririn.",
  .directory "forest" "" [
    .file "diary.txt" "This is a secret diary..."],
  .directory "home" "" [
    .file "find" "#!builtin find",
    .file "readme.txt" "The intruder hid the tools in here. Copy them back with `cp <name>`.",
    .directory "core" "" [
      .file "cat" "#!builtin cat",
      .file "diary.txt" "Not the diary you were looking for."],
    .directory "secret" "" [
      .file "pwd" "#!builtin pwd"],
    .directory "rock" "" [
      .file "stone.txt" "Cold and heavy."]]]

/-- The milestones of the bundled world. -/
def bundledMilestones : List Milestone := [
  { id := "enter-home"
    command := "cd"
    targetName := none
    location := some "home"
    requires := []
    unlocks := []
    unblocks := []
    narrative := [
      "This is the /home directory...",
      "The intruder seems to have hidden some files here.\nUse `ls` to check what is inside."] },
  { id := "find-unlocked"
    command := "cp"
    targetName := some "find"
    location := some "home"
    requires := ["enter-home"]
    unlocks := ["find"]
    unblocks := []
    narrative := [
      "The find command was copied to /bin and is now available!",
      "Usage: find <filename>"] },
  { id := "cat-unlocked"
    command := "cp"
    targetName := some "cat"
    location := some "core"
    requires := ["enter-home"]
    unlocks := ["cat"]
    unblocks := []
    narrative := [
      "The cat command was copied to /bin.",
      "You can now read the contents of files."] },
  { id := "pwd-unlocked"
    command := "cp"
    targetName := some "pwd"
    location := some "secret"
    requires := ["cat-unlocked"]
    unlocks := ["pwd"]
    unblocks := []
    narrative := [
      "The pwd command was copied to /bin.",
      "You will never lose your way again."] },
  { id := "open-rock"
    command := "cat"
    targetName := some "diary.txt"
    location := some "forest"
    requires := ["find-unlocked"]
    unlocks := []
    unblocks := ["cd rock"]
    narrative := [
      "Something cracks in the distance. The rock in /home is no longer sealed."] }]

/-- **The bundled world.** -/
def bundled : World where
  id := "default"
  title := "The Fairy's Terminal"
  intro := [
    "A voice flickers across the terminal: someone broke in and scattered the system's tools.",
    "Try `ls` to look around and `cd <name>` to move. Type :q to leave."]
  seeds := bundledSeeds
  wellKnown := [("bin", "/bin")]
  allowed := ["echo", "ls", "cd", "cp"]
  blocked := ["cd rock"]
  milestones := bundledMilestones

/-- The ids of all bundled worlds, in order. -/
def bundledIds : List String := [bundled.id]

/-- The path of the file that an id stands for among the bundled worlds. -/
def pathOf (id : String) : String := plainPath (id ++ ".json")

/-- **The bundled world with an id.** An id may be any path to the file of a world. What cannot be
the path of a file is no world, unless the path is too long to be followed, which is a fault. -/
def load (id : String) : Except LoadError World :=
  match Bundle.holds (pathOf id) with
  | .ok true => .ok bundled
  | .error .nameTooLong => .error (.file .nameTooLong (Bundle.fullPath (pathOf id)))
  | _ => .error (.unknownWorld id)

end StoryShell.World
