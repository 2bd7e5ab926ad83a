/-
What can go wrong in a tree.

Most errors are failures of a request, shown to whoever typed it under a kind. Three are misuse of
the tree and have no kind: attaching what is attached, attaching a directory below itself, and
giving a role to a directory outside the tree.
-/
import StoryShell.ErrorKind
import StoryShell.Log
import StoryShell.Tree.Forest

set_option autoImplicit false

namespace StoryShell

/-- **A tree operation that was refused.** -/
inductive TreeError where
  | alreadyAttached (name holder : String)
  | insideItself (name : String)
  | notInTree (name : String)
  | nameTaken (name directory : String) (holder : NodeId)
  | noSuchPath (path : String)
  | notADirectory (path : String) (node : NodeId)
  | noSuchFile (name : String)
  | isADirectory (name : String) (node : NodeId)
  | nothingToCopy (name : String)
  | cannotCopyDirectory (name : String) (node : NodeId)
  | cannotOverwriteDirectory (name : String) (node : NodeId)
  | destinationDetached (name : String)
  | roleUnavailable (role : String)
deriving DecidableEq, Repr

namespace TreeError

/-- The kind under which an error is shown; misuse has none. -/
def kind? : TreeError → Option ErrorKind
  | .alreadyAttached .. | .insideItself _ | .notInTree _ => none
  | .nameTaken .. => some .nameConflict
  | .noSuchPath _ => some .noSuchPath
  | .notADirectory .. => some .notADirectory
  | .noSuchFile _ => some .noSuchFile
  | .isADirectory .. => some .isADirectory
  | .nothingToCopy _ => some .noSuchFile
  | .cannotCopyDirectory .. => some .cannotCopyDirectory
  | .cannotOverwriteDirectory .. => some .cannotOverwriteDirectory
  | .destinationDetached _ => some .internal
  | .roleUnavailable _ => some .internal

/-- The wording of an error. -/
def message : TreeError → String
  | .alreadyAttached name holder =>
    "Node '" ++ name ++ "' is already attached to '" ++ holder ++ "'."
  | .insideItself name =>
    "Directory '" ++ name ++ "' cannot be placed inside itself or a descendant."
  | .notInTree name => "Directory '" ++ name ++ "' is not part of this tree."
  | .nameTaken name _ _ => "already exists: " ++ name
  | .noSuchPath path => "no such file or directory: " ++ path
  | .notADirectory path _ => "not a directory: " ++ path
  | .noSuchFile name => "no such file: " ++ name
  | .isADirectory name _ => "is a directory: " ++ name
  | .nothingToCopy name => "cp: no such file: " ++ name
  | .cannotCopyDirectory name _ => "cp: cannot copy directory: " ++ name
  | .cannotOverwriteDirectory name _ => "cp: cannot overwrite directory: " ++ name
  | .destinationDetached name => "internal error: '" ++ name ++ "' is no longer in the tree"
  | .roleUnavailable role => "internal error: '" ++ role ++ "' directory is unavailable"

/-- The node that stood in the way. -/
def node? : TreeError → Option NodeId
  | .nameTaken _ _ node => some node
  | .notADirectory _ node | .isADirectory _ node => some node
  | .cannotCopyDirectory _ node | .cannotOverwriteDirectory _ node => some node
  | _ => none

/-- What is logged when an error arises. -/
def records : TreeError → List Log.Record
  | .nameTaken name directory _ =>
    [⟨.warning, .nodes, "A node named '" ++ name ++ "' already exists in '" ++ directory ++ "'."⟩]
  | .roleUnavailable role =>
    [⟨.error, .tree, "Well-known directory '" ++ role ++ "' is unavailable."⟩]
  | _ => []

end TreeError

end StoryShell
