/-
Values of JSON documents.

Whole numbers are kept exactly and apart from floating-point ones. An object lists its fields in
the order in which their names first appear.
-/
import StoryShell.Number.Binary64

set_option autoImplicit false

namespace StoryShell

/-- **A JSON value.** -/
inductive Json where
  | null
  | bool (value : Bool)
  | integer (value : Int)
  | real (value : Binary64)
  | string (value : String)
  | array (items : List Json)
  | object (fields : List (String × Json))
deriving Repr, Inhabited

namespace Json

/-- The value of a field of an object. -/
def field? (name : String) : List (String × Json) → Option Json
  | [] => none
  | (key, value) :: rest => if key = name then some value else field? name rest

/-- Sets a field: a name that is there already keeps its place. -/
def setField (name : String) (value : Json) : List (String × Json) → List (String × Json)
  | [] => [(name, value)]
  | (key, old) :: rest =>
    if key = name then (key, value) :: rest else (key, old) :: setField name value rest

/-- Whether a value counts as nothing: null, false, a zero, or an empty text, array or object. -/
def isNothing : Json → Bool
  | .null => true
  | .bool value => !value
  | .integer value => value == 0
  | .real value => value.isZero
  | .string value => value.isEmpty
  | .array items => items.isEmpty
  | .object fields => fields.isEmpty

end Json

end StoryShell
