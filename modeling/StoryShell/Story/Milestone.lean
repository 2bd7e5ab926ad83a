/-
Milestones: what has to happen in the shell for the story to go on, and what changes then.
-/
import StoryShell.Command.Result
import StoryShell.Command.Interpreter

set_option autoImplicit false

namespace StoryShell

/-- **A milestone.** It is triggered by a command, on a target and at a place if these are given,
once the milestones that it requires are achieved; then it unlocks commands, lifts blocks, and has
its narrative told. -/
structure Milestone where
  id : String
  command : String
  targetName : Option String
  location : Option String
  requires : List String
  unlocks : List String
  unblocks : List String
  narrative : List String
deriving DecidableEq, Repr

/-- The name of the directory in which a result came about: the one moved to, or else the one that
holds the target. -/
def Result.place (result : Result) (forest : Forest) : Option String :=
  match result.target with
  | none => none
  | some target =>
    if result.command = Command.cd.name then some (forest.nameOf target)
    else (forest.parentOf target).map forest.nameOf

namespace Milestone

/-- Whether a name is the wanted one, if one is wanted, without regard to case. -/
def accepts (wanted actual : Option String) : Bool :=
  match wanted, actual with
  | none, _ => true
  | some _, none => false
  | some wanted, some actual => Text.lower actual == Text.lower wanted

/-- **Whether a result triggers a milestone**, its requirements aside. -/
def isTriggeredBy (milestone : Milestone) (forest : Forest) (result : Result) : Bool :=
  !result.isError && result.command == milestone.command
    && accepts milestone.targetName (result.target.map forest.nameOf)
    && accepts milestone.location (result.place forest)

end Milestone

end StoryShell
