/-
What can go wrong when a world is loaded.

Most faults are reported to whoever named the world. A document whose values are not of the shape
that a world needs is not reported in words: such a fault ends the program.
-/
import StoryShell.Json.Spelling
import StoryShell.Json.Fault
import StoryShell.Text.Utf8
import StoryShell.Tree.Error
import StoryShell.World.Location

set_option autoImplicit false

namespace StoryShell

/-- **Why a world was not loaded.** -/
inductive LoadError where
  | unknownWorld (id : String)
  | file (fault : FileFault) (path : String)
  | bytes (fault : Text.Utf8.Fault)
  | document (fault : Json.Fault) (text : List Char)
  /-- A value without fields stands where an object is needed that has the world's id. -/
  | notIndexable
  /-- A value without fields stands where an object is needed. -/
  | notAnObject
  /-- A value without items stands where a list is needed. -/
  | notAList
  | missingField (name : String)
  | invalidName (name : Option Json)
  | unknownType (name kind : String)
  | fileWithChildren (name : String)
  | duplicateName (name directory : String)
  | duplicateMilestone (id : String)
  | unknownPrerequisite (id prerequisite : String)
  | circular (chain : List String)
  | notADirectory (role path world : String)
  | refused (error : TreeError)
deriving Repr

namespace LoadError

/-- The message for a world that was not loaded. -/
def message : LoadError → String
  | .unknownWorld id => "Unknown world: " ++ id
  | .file fault path => fault.message path
  | .bytes fault => fault.message
  | .document fault text => fault.message text
  | .notIndexable | .notAnObject | .notAList => ""
  | .missingField name => Text.quoted name
  | .invalidName name => "Invalid node name: " ++ (name.getD .null).inner
  | .unknownType name kind => "Node '" ++ name ++ "' has unknown type '" ++ kind ++ "'."
  | .fileWithChildren name => "File '" ++ name ++ "' cannot have children."
  | .duplicateName name directory =>
    "Duplicate node name '" ++ name ++ "' in '" ++ directory ++ "'."
  | .duplicateMilestone id => "Duplicate milestone id: " ++ id
  | .unknownPrerequisite id prerequisite =>
    "Milestone '" ++ id ++ "' has unknown prerequisite '" ++ prerequisite ++ "'."
  | .circular chain => "Circular milestone dependency detected: " ++ String.intercalate " -> " chain
  | .notADirectory role path world =>
    "Well-known '" ++ role ++ "' path '" ++ path ++ "' is not a directory in world '" ++ world
      ++ "'."
  | .refused error => error.message

/-- Whether a fault is reported in words. -/
def isReported : LoadError → Bool
  | .notIndexable | .notAnObject | .notAList => false
  | .refused error => error.kind?.isNone
  | _ => true

end LoadError

end StoryShell
