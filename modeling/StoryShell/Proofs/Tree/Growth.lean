/-
File systems that have grown from their root.

As long as nodes are only created in directories, copied and moved to, the root stays at the top,
and whatever is asked of names holds of the name of every node that lies in a directory: a node that
is created has an allowed name, and a copy has the name of its source. `Grown` is this invariant
together with soundness, for any condition on names.
-/
import StoryShell.Proofs.Tree.FileSystem

set_option autoImplicit false

namespace StoryShell.FileSystem

variable {ok : String → Prop} {fs : FileSystem}

/-- **A file system that has grown from its root**, with names of one sort. -/
structure Grown (ok : String → Prop) (fs : FileSystem) : Prop where
  sound : fs.Sound
  top : fs.forest.parentOf Forest.root = none
  names : ∀ {child parent}, fs.forest.parentOf child = some parent → ok (fs.forest.nameOf child)

/-- **The file system of an empty root has grown from it.** -/
theorem grown_initial : initial.Grown ok where
  sound := sound_initial
  top := rfl
  names := fun {child _} h => by
    have hnone : initial.forest.parentOf child = none := Forest.parentOf_initial child
    rw [hnone] at h
    exact absurd h (by simp)

/-- A file system has grown from its root if it is sound and has only links of one that has, between
nodes of the same names. -/
theorem Grown.of_fewer_links (hgrown : fs.Grown ok) {after : FileSystem} (hsound : after.Sound)
    (hlinks : ∀ {child parent}, after.forest.parentOf child = some parent →
      fs.forest.parentOf child = some parent
        ∧ after.forest.nameOf child = fs.forest.nameOf child) : after.Grown ok where
  sound := hsound
  top := by
    cases hparent : after.forest.parentOf Forest.root with
    | none => rfl
    | some parent =>
      have hold := (hlinks hparent).1
      rw [hgrown.top] at hold
      exact absurd hold (by simp)
  names := fun h => by
    obtain ⟨hold, hname⟩ := hlinks h
    rw [hname]
    exact hgrown.names hold

/-! ## Creating -/

/-- **Creating a node with an allowed name in a directory.** -/
theorem Grown.createIn (hgrown : fs.Grown ok) {parent id : NodeId} {name : String} {body : Body}
    {after : FileSystem} (hparent : fs.forest.isDirectory parent = true)
    (hbare : body.children = NameMap.empty) (hname : ok name)
    (h : fs.createIn parent name body = .ok (id, after)) : after.Grown ok := by
  have hsound := hgrown.sound.createIn hparent hbare h
  obtain ⟨rfl, -, -, rfl⟩ := (createIn_eq_ok_iff hbare).1 h
  have hparentOf : ∀ child, ((fs.withNew name body).forest.relink parent
      (·.insert (Text.lower name) fs.forest.slots.size) fs.forest.slots.size
        (some parent)).parentOf child
      = if fs.forest.slots.size = child then some parent else fs.forest.parentOf child := by
    intro child
    rw [Forest.parentOf_relink _ _ _ _ (fs.node?_withNew name body), withNew, withForest,
      Forest.parentOf_create]
  refine ⟨hsound, ?_, fun {child holder} hlies => ?_⟩
  · -- the new node is not the root
    have hroot : Forest.root < fs.forest.slots.size :=
      Forest.lt_size_of_node? (Forest.node?_of_isDirectory hgrown.sound.root)
    rw [withForest, hparentOf, if_neg (Nat.ne_of_gt hroot), hgrown.top]
  · rw [withForest, hparentOf] at hlies
    rw [withForest, Forest.nameOf_relink, withNew, withForest, Forest.nameOf_create]
    by_cases hnew : child = fs.forest.slots.size
    · rwa [if_pos hnew]
    · rw [if_neg hnew]
      rw [if_neg (Ne.symm hnew)] at hlies
      exact hgrown.names hlies

/-- A new node is the kind of node that it was created as. -/
theorem isDirectory_of_createDirectory {parent id : NodeId} {name : String} {after : FileSystem}
    (h : fs.createDirectory parent name = .ok (id, after)) :
    after.forest.isDirectory id = true := by
  obtain ⟨rfl, -, -, rfl⟩ := (createIn_eq_ok_iff rfl).1 h
  rw [withForest, Forest.isDirectory_relink, withNew, withForest, Forest.isDirectory,
    Forest.node?_create, if_pos rfl]
  rfl

/-- Creating a node leaves every directory a directory. -/
theorem isDirectory_of_createIn {parent id : NodeId} {name : String} {body : Body}
    {after : FileSystem} (hbare : body.children = NameMap.empty)
    (h : fs.createIn parent name body = .ok (id, after)) {other : NodeId}
    (hother : fs.forest.isDirectory other = true) : after.forest.isDirectory other = true := by
  obtain ⟨rfl, -, -, rfl⟩ := (createIn_eq_ok_iff hbare).1 h
  rw [withForest, Forest.isDirectory_relink]
  exact isDirectory_create name body hother

/-! ## Everything else -/

/-- **Giving a role to a directory.** -/
theorem Grown.register (hgrown : fs.Grown ok) {role : String} {directory : NodeId}
    {after : FileSystem} (hdirectory : fs.forest.isDirectory directory = true)
    (h : fs.register role directory = .ok after) : after.Grown ok := by
  have hsound := hgrown.sound.register hdirectory h
  obtain ⟨-, rfl⟩ := register_eq_ok_iff.1 h
  exact hgrown.of_fewer_links hsound fun hlies => ⟨hlies, rfl⟩

/-- **Moving.** -/
theorem Grown.changeDirectory (hgrown : fs.Grown ok) {path : String} {target : NodeId}
    (h : fs.destination path = .ok target) : Grown ok { fs with cwd := target } :=
  hgrown.of_fewer_links (hgrown.sound.changeDirectory h) fun hlies => ⟨hlies, rfl⟩

/-- **Letting nodes go.** -/
theorem Grown.reclaim (hgrown : fs.Grown ok) (held : List NodeId) : (fs.reclaim held).Grown ok := by
  refine hgrown.of_fewer_links (hgrown.sound.reclaim held) fun {child parent} hlies => ?_
  rw [FileSystem.reclaim, withForest] at hlies ⊢
  obtain ⟨hchild, -, hold⟩ := Forest.parentOf_reclaim_eq_some_iff.1 hlies
  exact ⟨hold, by rw [Forest.nameOf_reclaim, if_pos hchild]⟩

/-- **Making room for a copy.** -/
theorem Grown.makeRoom (hgrown : fs.Grown ok) {cleared : Forest} {destination : NodeId}
    {name : String} (h : makeRoom fs.forest destination name = .ok cleared) :
    (fs.withForest cleared).Grown ok := by
  have hsound : (fs.withForest cleared).Sound :=
    hgrown.sound.withForest (sound_makeRoom hgrown.sound.forest h) fun id hid =>
      (isDirectory_makeRoom h id).trans hid
  refine hgrown.of_fewer_links hsound fun {child parent} hlies => ?_
  rw [withForest] at hlies ⊢
  rcases makeRoom_eq_ok h with ⟨-, rfl⟩ | ⟨holder, -, -, rfl⟩
  · exact ⟨hlies, rfl⟩
  · rcases fs.forest.remove_cases destination (fs.forest.nameOf holder) with
      ⟨-, hremove⟩ | ⟨removed, hremoved, hremove⟩
    · rw [hremove] at hlies ⊢
      exact ⟨hlies, rfl⟩
    · -- the file that is taken out loses its link, and no other does
      rw [hremove] at hlies ⊢
      have hexists := Forest.node?_of_parentOf (hgrown.sound.forest.of_get? hremoved).2
      rw [Forest.parentOf_relink _ _ _ _ hexists] at hlies
      rw [Forest.nameOf_relink]
      split at hlies
      · exact absurd hlies (by simp)
      · exact ⟨hlies, rfl⟩

/-- **Copying.** -/
theorem Grown.copyInto (hgrown : fs.Grown ok) (name : String) {destination : NodeId}
    (hdestination : fs.forest.isDirectory destination = true) :
    (fs.copyInto name destination).2.Grown ok := by
  rcases copyInto_cases hgrown.sound.forest name hdestination with
    ⟨error, hcopy⟩
      | ⟨source, hsource, -, ⟨-, hcopy⟩ | ⟨-, cleared, after, copy, hroom, hcreated, hcopy⟩⟩
  · rwa [hcopy]
  · rwa [hcopy]
  · rw [hcopy]
    -- the source lies in the current directory, so its name is allowed
    have hname := hgrown.names (hgrown.sound.forest.of_get? hsource).2
    exact (hgrown.makeRoom hroom).createIn
      ((isDirectory_makeRoom hroom destination).trans hdestination) rfl hname hcreated

end StoryShell.FileSystem
