/-
The order that requirements impose on milestones.

Two walks go down the requirements of a milestone before they come back to it, each visiting no
milestone twice: one lists everything that has to be achieved for a milestone, requirements first;
the other looks for a milestone that requires itself, directly or through others. A walk never goes
deeper than there are milestones, which bounds it.

* `Milestone.order`: what to achieve, in order, or a milestone that is not in the table.
* `Milestone.cycle?`: a cycle of requirements, as the chain that leads round it.
-/
import StoryShell.Story.Milestone

set_option autoImplicit false

namespace StoryShell.Milestone

/-- The milestone with an id; of several, the last in the table counts. -/
def withId? (table : List Milestone) (id : String) : Option Milestone :=
  table.reverse.find? fun milestone => milestone.id = id

/-- How deep a walk can go: through every milestone of the table, and to one that ends it. -/
def walkDepth (table : List Milestone) : Nat := table.length + 1

/-! ## What has to be achieved -/

/-- How far a walk has come: the ids met, and those left again, in the order of leaving. -/
structure Walk where
  met : List String
  left : List String
deriving DecidableEq, Repr

/-- Visits an id and, before leaving it, the ids that it requires. An id that is not in the table
ends the walk. -/
def visit (table : List Milestone) : Nat → Walk → String → Except String Walk
  | 0, walk, _ => .ok walk
  | depth + 1, walk, id =>
    if id ∈ walk.met then .ok walk
    else
      match withId? table id with
      | none => .error id
      | some milestone =>
        match milestone.requires.foldlM (visit table depth) { walk with met := id :: walk.met } with
        | .error unknown => .error unknown
        | .ok walk => .ok { walk with left := walk.left ++ [id] }

/-- **What has to be achieved for a milestone**, requirements first and itself last, or an id that
is not in the table. -/
def order (table : List Milestone) (id : String) : Except String (List String) :=
  (visit table (walkDepth table) ⟨[], []⟩ id).map Walk.left

/-! ## Cycles -/

/-- The ids that an id requires. -/
def requirements (table : List Milestone) (id : String) : List String :=
  ((withId? table id).map requires).getD []

/-- Looks for a cycle below an id that is reached along a path. The ids known to lead to none are
added up; a cycle is given as the chain round it. -/
def explore (table : List Milestone) :
    Nat → List String → List String → String → Except (List String) (List String)
  | 0, _, safe, _ => .ok safe
  | depth + 1, path, safe, id =>
    if id ∈ safe then .ok safe
    else if id ∈ path then .error (path.dropWhile (· ≠ id) ++ [id])
    else
      match (requirements table id).foldlM (explore table depth (path ++ [id])) safe with
      | .error chain => .error chain
      | .ok safe => .ok (id :: safe)

/-- **A cycle of requirements**, if there is one: each id of the chain requires the next, and the
last is the first again. -/
def cycle? (table : List Milestone) : Option (List String) :=
  match (table.map id).foldlM (explore table (walkDepth table) []) [] with
  | .error chain => some chain
  | .ok _ => none

end StoryShell.Milestone
