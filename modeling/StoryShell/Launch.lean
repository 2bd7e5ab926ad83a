/-
From a command line to a running shell.

A world is bundled and named by its id, or it is in a file and named by the path of that.
-/
import StoryShell.World.Bundled
import StoryShell.World.Decode
import StoryShell.Arguments
import StoryShell.Shell

set_option autoImplicit false

namespace StoryShell

namespace Invocation

/-- The path of the file that a command line names. -/
def path? (invocation : Invocation) : Option String := invocation.worldFile.map plainPath

/-- The world that a command line names, given what reading its file came to. A file goes before an
id. -/
def load (invocation : Invocation) (contents : Except FileFault (List UInt8)) :
    Except LoadError World :=
  match invocation.path?, contents with
  | none, _ => World.load invocation.world
  | some path, .error fault => .error (.file fault path)
  | some _, .ok bytes => World.ofBytes bytes

/-- **Starts the shell that a command line asks for**: acknowledgments are asked for. -/
def start (invocation : Invocation) (contents : Except FileFault (List UInt8)) :
    Except LoadError (Shell × List Event) := do
  let world ← invocation.load contents
  let (session, first) ← Session.ofWorld world invocation.everythingOpen
  let (shell, more) := Shell.start world session true
  return (shell, first ++ more)

end Invocation

/-- What is printed when a world was not loaded. -/
def loadFailure (error : LoadError) : String := "Could not load world: " ++ error.message

end StoryShell
