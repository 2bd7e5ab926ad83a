/-
TOML documents.

A document is a table that grows statement by statement. A header opens a table for the names that
follow it; what comes before the first header goes to the document itself. A carriage return before
a line feed does not count.
-/
import StoryShell.Toml.Statement

set_option autoImplicit false

namespace StoryShell.Toml

/-- **A document part way through**: its fields, and the path and the number of the last header. -/
structure Draft where
  fields : Fields
  path : List String
  header : Nat
deriving Repr

/-- The document before its first statement. -/
def Draft.empty : Draft := ⟨[], [], 0⟩

/-- Opens a table at a path under a new header. -/
def Draft.head (draft : Draft) (opening : String → Fields → Option Fields) (path : List String) :
    Option Draft := do
  let fields ← alterAt (opening (path.getLastD "")) path.dropLast draft.fields
  return ⟨fields, path, draft.header + 1⟩

/-- **Takes one statement**, unless it is at odds with those before it. -/
def Draft.take (draft : Draft) : Statement → Option Draft
  | .table path => draft.head openTable path
  | .item path => draft.head openItem path
  | .field name value => do
    let fields ← alterAt (insert draft.header value name) draft.path draft.fields
    return { draft with fields }

/-- A text without the carriage returns before its line feeds. -/
def dropReturns : List Char → List Char
  | '\r' :: '\n' :: rest => '\n' :: dropReturns rest
  | c :: rest => c :: dropReturns rest
  | [] => []

/-- **Reads a document**, unless there is a fault in it. -/
def read (document : List Char) : Option Fields := do
  let statements ← statements (dropReturns document)
  let draft ← statements.foldlM Draft.take Draft.empty
  return draft.fields

end StoryShell.Toml
