/-
The operations on a file system, statement by statement.

An operation either gives another file system or an error, and so it cannot leave anything half
done. Here the same operations are written down as procedures, one statement after the other, where
what was changed before an error stays changed. Each procedure does just what its operation does,
and when it is stopped by an error, no node that was there has another link, name or text, and the
current directory and the roles are the same (`Procedure.Atomic`). For `add` and with it for
`insert`, for moving and for giving roles the reason is that all that can be in the way is asked for
before the first change. Creating a node in a directory makes the node before it asks, and so an
error leaves a new node behind, which no node refers to.
-/
import StoryShell.Proofs.Outcome
import StoryShell.Proofs.Tree.FileSystem

set_option autoImplicit false

namespace StoryShell.FileSystem

/-- **A procedure on a file system.** An error stops it, and what was changed before stays
changed. -/
abbrev Procedure (α : Type) : Type := ExceptT TreeError (StateM FileSystem) α

namespace Procedure

/-- **A procedure does what an operation does**, and if it is stopped, all nodes that were there,
the current directory and the roles are what they were. -/
structure Atomic {α : Type} (procedure : Procedure α) (fs : FileSystem)
    (outcome : Except TreeError (α × FileSystem)) : Prop where
  ok : ∀ value after, outcome = .ok (value, after) → procedure.run.run fs = (.ok value, after)
  error : ∀ error, outcome = .error error → ∃ after, procedure.run.run fs = (.error error, after)
    ∧ after.cwd = fs.cwd ∧ after.roles = fs.roles
    ∧ ∀ id, fs.forest.node? id ≠ none → after.forest.node? id = fs.forest.node? id

/-- Asks for the three things that can be in the way, one after the other; then the node gets its
parent, and the directory its entry. -/
def addTo (directory id : NodeId) : Procedure Unit := do
  let forest := (← get).forest
  let name := forest.nameOf id
  if let some holder := forest.parentOf id then
    throw (.alreadyAttached name (forest.nameOf holder))
  if (forest.lineage directory).contains id then
    throw (.insideItself name)
  if let some holder := forest.child? directory name then
    throw (.nameTaken name (forest.nameOf directory) holder)
  modify fun fs => fs.withForest (fs.forest.modify id ({ · with parent := some directory }))
  modify fun fs => fs.withForest
    (fs.forest.modify directory (·.withChildren (·.insert (Text.lower name) id)))

/-- Makes a node, and then puts it into a directory. -/
def createUnder (parent : NodeId) (name : String) (body : Body) : Procedure NodeId := do
  let id := (← get).forest.slots.size
  modify (·.withNew name body)
  addTo parent id
  return id

/-- Looks where a path leads, and then moves there. -/
def moveTo (path : String) : Procedure NodeId := do
  let target ← ofExcept ((← get).destination path)
  modify ({ · with cwd := target })
  return target

/-- Asks whether a directory belongs to the tree, and then gives it a role. -/
def giveRole (role : String) (directory : NodeId) : Procedure Unit := do
  let forest := (← get).forest
  unless forest.isAttached directory do
    throw (.notInTree (forest.nameOf directory))
  modify fun fs => { fs with roles := fs.roles.insert role directory }

variable {fs : FileSystem}

/-! ## How a procedure runs -/

/-- What is read first is read off the file system as it is. -/
theorem run_get_bind {α : Type} (rest : FileSystem → Procedure α) :
    (get >>= rest : Procedure α).run.run fs = (rest fs).run.run fs := rfl

/-- What comes to its end has done what the operation does. -/
theorem atomic_ok {α : Type} {procedure : Procedure α} {value : α} {after : FileSystem}
    (h : procedure.run.run fs = (.ok value, after)) :
    procedure.Atomic fs (.ok (value, after)) where
  ok := fun other afterwards hok => by
    obtain ⟨rfl, rfl⟩ := Prod.mk.inj (Except.ok.inj hok)
    exact h
  error := fun _ herror => absurd herror (by simp)

/-- What is stopped before the first change has changed nothing. -/
theorem atomic_error {α : Type} {procedure : Procedure α} {error : TreeError}
    (h : procedure.run.run fs = (.error error, fs)) : procedure.Atomic fs (.error error) where
  ok := fun _ _ hok => absurd hok (by simp)
  error := fun other hother => by
    obtain rfl := Except.error.inj hother
    exact ⟨fs, h, rfl, rfl, fun _ _ => rfl⟩

/-! ## Each of the operations -/

/-- **Putting a node into a directory is atomic.** -/
theorem atomic_addTo (fs : FileSystem) (directory id : NodeId) :
    (addTo directory id).Atomic fs ((fs.insert directory id).map ((), ·)) := by
  cases hlies : fs.forest.parentOf id with
  | some holder =>
    rw [insert_of_parentOf hlies]
    apply atomic_error
    rw [addTo, run_get_bind]
    simp only [hlies]
    rfl
  | none =>
    by_cases hinside : id ∈ fs.forest.lineage directory
    · rw [insert_of_mem_lineage hlies hinside]
      apply atomic_error
      rw [addTo, run_get_bind]
      simp only [hlies, List.contains_iff_mem, hinside, if_true]
      rfl
    cases hchild : fs.forest.child? directory (fs.forest.nameOf id) with
    | some child =>
      rw [insert_of_child? hlies hinside hchild]
      apply atomic_error
      rw [addTo, run_get_bind]
      simp only [hlies, List.contains_iff_mem, hinside, if_false, hchild]
      rfl
    | none =>
      have hne : id ≠ directory := by
        rintro rfl
        exact hinside (Forest.self_mem_climb _ id)
      rw [insert_eq_ok_iff.2 ⟨hlies, hinside, hchild, rfl⟩]
      apply atomic_ok
      rw [addTo, run_get_bind]
      simp only [hlies, List.contains_iff_mem, hinside, if_false, hchild]
      -- the operation writes down the entry first, and then the parent
      rw [Forest.relink, ← Forest.modify_comm hne]
      rfl

/-- **Creating a node in a directory is atomic** but for the new node. -/
theorem atomic_createUnder (fs : FileSystem) (parent : NodeId) (name : String) (body : Body) :
    (createUnder parent name body).Atomic fs (fs.createIn parent name body) := by
  have hrun : (createUnder parent name body).run.run fs
      = (addTo parent fs.forest.slots.size >>= fun _ =>
          pure fs.forest.slots.size : Procedure NodeId).run.run (fs.withNew name body) := rfl
  have hadds := atomic_addTo (fs.withNew name body) parent fs.forest.slots.size
  rw [createIn_eq]
  cases hinsert : (fs.withNew name body).insert parent fs.forest.slots.size with
  | ok after =>
    rw [hinsert] at hadds
    refine atomic_ok (hrun.trans ?_)
    rw [run_bind_of_ok (hadds.ok () after rfl)]
    rfl
  | error error =>
    rw [hinsert] at hadds
    obtain ⟨after, hadded, hcwd, hroles, hsame⟩ := hadds.error error rfl
    refine ⟨fun _ _ hok => absurd hok (by simp [Except.map]), fun other hother => ?_⟩
    obtain rfl := Except.error.inj hother
    refine ⟨after, hrun.trans (run_bind_of_error hadded), hcwd, hroles, fun id hid => ?_⟩
    -- what was there is not the new node
    have hold : (fs.withNew name body).forest.node? id = fs.forest.node? id := by
      rw [withNew, withForest, Forest.node?_create,
        if_neg (Nat.ne_of_lt (Forest.lt_size_of_node? hid))]
    rw [hsame id (by rwa [hold]), hold]

/-- **Moving is atomic.** -/
theorem atomic_moveTo (fs : FileSystem) (path : String) :
    (moveTo path).Atomic fs (fs.changeDirectory path) := by
  rw [changeDirectory]
  cases hdestination : fs.destination path with
  | error error =>
    apply atomic_error
    rw [moveTo, run_get_bind, hdestination]
    rfl
  | ok target =>
    apply atomic_ok
    rw [moveTo, run_get_bind, hdestination]
    rfl

/-- **Giving a role is atomic.** -/
theorem atomic_giveRole (fs : FileSystem) (role : String) (directory : NodeId) :
    (giveRole role directory).Atomic fs ((fs.register role directory).map ((), ·)) := by
  rw [register]
  cases hattached : fs.forest.isAttached directory with
  | false =>
    apply atomic_error
    rw [giveRole, run_get_bind]
    simp only [hattached]
    rfl
  | true =>
    apply atomic_ok
    rw [giveRole, run_get_bind]
    simp only [hattached]
    rfl

end Procedure

end StoryShell.FileSystem
