/-
The result of a line: what there is to show, and what the observers need to know.
-/
import StoryShell.ErrorKind
import StoryShell.Tree.Forest

set_option autoImplicit false

namespace StoryShell

/-- **The result of a line**: the text to show, the nodes listed, whether it is an error, the
command, the node that was acted on, and the kind of an error. -/
structure Result where
  output : String
  nodes : List NodeId
  isError : Bool
  command : String
  target : Option NodeId
  errorKind : Option ErrorKind
deriving DecidableEq, Repr

namespace Result

/-- The result of a blank line. -/
def blank : Result := ⟨"", [], false, "", none, none⟩

/-- The result of a command that succeeded. -/
def success (command output : String) (nodes : List NodeId) (target : Option NodeId) : Result :=
  ⟨output, nodes, false, command, target, none⟩

/-- The result of a command that failed. -/
def failure (kind : ErrorKind) (message command : String) (target : Option NodeId) : Result :=
  ⟨message, [], true, command, target, some kind⟩

/-- All nodes that a result speaks of. -/
def mentioned (result : Result) : List NodeId :=
  result.nodes ++ result.target.toList

end Result

end StoryShell
