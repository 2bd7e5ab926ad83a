/-
Worlds: what a story starts from.
-/
import StoryShell.Story.Milestone

set_option autoImplicit false

namespace StoryShell

/-- **A node of the tree that a world starts with.** A directory may come with a text of its own,
which is kept but never shown. -/
inductive Seed where
  | file (name text : String)
  | directory (name text : String) (children : List Seed)
deriving Repr

namespace Seed

/-- The name of a seed. -/
def name : Seed → String
  | .file name _ => name
  | .directory name _ _ => name

/-- The text of a seed. -/
def text : Seed → String
  | .file _ text => text
  | .directory _ text _ => text

/-- The seeds below a seed. -/
def children : Seed → List Seed
  | .file _ _ => []
  | .directory _ _ children => children

/-- The name of the kind of a seed. -/
def kind : Seed → String
  | .file _ _ => "file"
  | .directory _ _ _ => "directory"

end Seed

/-- **A world**: its texts, its tree, the paths of directories with a role, the commands that are
allowed and blocked at the start, and its milestones. -/
structure World where
  id : String
  title : String
  intro : List String
  seeds : List Seed
  wellKnown : List (String × String)
  allowed : List String
  blocked : List String
  milestones : List Milestone
deriving Repr

end StoryShell
