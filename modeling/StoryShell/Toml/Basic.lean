/-
Values of TOML documents, and how their tables grow.

A document names one value after the other, and a table may be added to in many places: under its
own header, under the header of a table inside it, and by a dotted name that passes through it. Each
of these is allowed only once or only for a while, so a table remembers how it came to be. To name
what is there already is a fault, as it is to pass through what is no table; then there is no
document.
-/
import StoryShell.Number.Binary64

set_option autoImplicit false

namespace StoryShell

namespace Toml

/-- **How a table came to be**: it stands above one that was named, it has a header of its own, a
dotted name passed through it, under the header with that number, or it is written out in braces. -/
inductive Origin where
  | implied
  | named
  | dotted (header : Nat)
  | inline
deriving DecidableEq, Repr

end Toml

/-- **A TOML value.** A point in time is kept as it is spelled. Tables that share a name, each with
a header of its own, are kept apart from an array: the last of them is the one that still grows. -/
inductive Toml where
  | string (value : String)
  | integer (value : Int)
  | real (value : Binary64)
  | truth (value : Bool)
  | moment (spelling : String)
  | array (items : List Toml)
  | table (origin : Toml.Origin) (fields : List (String × Toml))
  | tables (earlier : List Toml) (last : List (String × Toml))
deriving Repr

namespace Toml

/-- The fields of a table, in the order in which they were first named. -/
abbrev Fields := List (String × Toml)

/-- The field with a name. -/
def field? (name : String) (fields : Fields) : Option Toml :=
  (fields.find? (·.1 = name)).map (·.2)

/-- Changes the field with a name, given what it is, if it is there. The change may be refused. -/
def alter (name : String) (change : Option Toml → Option Toml) : Fields → Option Fields
  | [] => (change none).map fun value => [(name, value)]
  | (key, old) :: rest =>
    if key = name then (change (some old)).map fun value => (key, value) :: rest
    else (alter name change rest).map ((key, old) :: ·)

/-! ## Headers -/

/-- Changes the table that a path leads to. What is missing on the way is implied, and of tables
that share a name the last is meant. -/
def alterAt (change : Fields → Option Fields) : List String → Fields → Option Fields
  | [], fields => change fields
  | name :: path, fields =>
    alter name
      (fun
        | none => (alterAt change path []).map (.table .implied)
        | some (.table .inline _) => none
        | some (.table origin fields) => (alterAt change path fields).map (.table origin)
        | some (.tables earlier last) => (alterAt change path last).map (.tables earlier)
        | some _ => none)
      fields

/-- Opens the table of a header, which must be new or only implied so far. -/
def openTable (name : String) : Fields → Option Fields :=
  alter name fun
    | none => some (.table .named [])
    | some (.table .implied fields) => some (.table .named fields)
    | some _ => none

/-- Opens one more of the tables that share a name. -/
def openItem (name : String) : Fields → Option Fields :=
  alter name fun
    | none => some (.tables [] [])
    | some (.tables earlier last) => some (.tables (earlier ++ [.table .named last]) [])
    | some _ => none

/-! ## Names -/

/-- Adds a value under a dotted name, which passes through tables that are new, only implied so far,
or made by a dotted name under the same header. -/
def insert (header : Nat) (value : Toml) : List String → Fields → Option Fields
  | [], _ => none
  | [name], fields =>
    alter name
      (fun
        | none => some value
        | some _ => none)
      fields
  | name :: path, fields =>
    alter name
      (fun
        | none => (insert header value path []).map (.table (.dotted header))
        | some (.table origin fields) =>
          if origin = .implied || origin = .dotted header then
            (insert header value path fields).map (.table (.dotted header))
          else none
        | some _ => none)
      fields

end Toml

end StoryShell
