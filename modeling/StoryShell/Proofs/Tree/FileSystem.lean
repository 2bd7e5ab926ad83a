/-
Every operation on a file system keeps it sound.

A file system is sound if its forest is, and the root, the current directory and the directories
with a role exist in it as directories.

`copyInto` is the one operation that changes a file system in two steps, and could be refused
between them. It never is (`createIn_of_free`, `copyInto_cases`): the name is free once the file in
the way is taken out, because a file stands under the key of its name, and a node that was just made
has no parent and is met on no way up.
-/
import StoryShell.Proofs.Outcome
import StoryShell.Proofs.Tree.Soundness

set_option autoImplicit false

namespace StoryShell.FileSystem

variable {fs : FileSystem}

/-- **A sound file system.** -/
structure Sound (fs : FileSystem) : Prop where
  forest : fs.forest.Sound
  root : fs.forest.isDirectory Forest.root = true
  cwd : fs.forest.isDirectory fs.cwd = true
  roles : ∀ {role directory}, fs.roles.get? role = some directory →
    fs.forest.isDirectory directory = true

/-- **The file system of an empty root is sound.** -/
theorem sound_initial : initial.Sound where
  forest := Forest.sound_initial
  root := rfl
  cwd := rfl
  roles := fun h => by simp [initial] at h

/-- A file system stays sound with another sound forest in which all its directories are. -/
theorem Sound.withForest (hsound : fs.Sound) {forest : Forest} (hforest : forest.Sound)
    (hkept : ∀ id, fs.forest.isDirectory id = true → forest.isDirectory id = true) :
    (fs.withForest forest).Sound where
  forest := hforest
  root := hkept _ hsound.root
  cwd := hkept _ hsound.cwd
  roles := fun h => hkept _ (hsound.roles h)

/-! ## New nodes -/

/-- A file system with a new node that is attached to nothing. -/
def withNew (fs : FileSystem) (name : String) (body : Body) : FileSystem :=
  fs.withForest (fs.forest.create name body).2

/-- A new node leaves every directory a directory. -/
theorem isDirectory_create {forest : Forest} {id : NodeId} (name : String) (body : Body)
    (h : forest.isDirectory id = true) : (forest.create name body).2.isDirectory id = true := by
  have hlt := Forest.lt_size_of_node? (Forest.node?_of_isDirectory h)
  rwa [Forest.isDirectory_create_of_ne _ _ _ (Nat.ne_of_lt hlt)]

/-- **A detached node keeps a file system sound.** -/
theorem Sound.create (hsound : fs.Sound) (name : String) {body : Body}
    (hbare : body.children = NameMap.empty) :
    (fs.withNew name body).Sound :=
  hsound.withForest (hsound.forest.create name hbare) fun _ => isDirectory_create name body

/-! ## Attaching and detaching -/

/-- Attaching succeeds where the forest allows it, and changes nothing else. -/
theorem insert_eq_ok_iff {parent id : NodeId} {after : FileSystem} :
    fs.insert parent id = .ok after
      ↔ fs.forest.parentOf id = none ∧ id ∉ fs.forest.lineage parent
        ∧ fs.forest.child? parent (fs.forest.nameOf id) = none
        ∧ after = fs.withForest (fs.forest.relink parent
          (·.insert (Text.lower (fs.forest.nameOf id)) id) id (some parent)) := by
  rw [FileSystem.insert]
  cases hattached : fs.forest.add parent id with
  | error error =>
    simp only [Except.map, reduceCtorEq, false_iff]
    rintro ⟨hdetached, hlineage, hfree, -⟩
    have hok := Forest.add_eq_ok_iff.2 ⟨hdetached, hlineage, hfree, rfl⟩
    rw [hattached] at hok
    exact absurd hok (by simp)
  | ok forest =>
    obtain ⟨hdetached, hlineage, hfree, rfl⟩ := Forest.add_eq_ok_iff.1 hattached
    simp only [Except.map, Except.ok.injEq, hdetached, hlineage, hfree, not_false_eq_true, true_and]
    exact eq_comm

/-- What lies somewhere is not attached. -/
theorem insert_of_parentOf {parent id holder : NodeId} (h : fs.forest.parentOf id = some holder) :
    fs.insert parent id
      = .error (.alreadyAttached (fs.forest.nameOf id) (fs.forest.nameOf holder)) := by
  simp [FileSystem.insert, Forest.add, h, Except.map]

/-- What is met on the way up from a directory is not attached to it. -/
theorem insert_of_mem_lineage {parent id : NodeId} (hdetached : fs.forest.parentOf id = none)
    (h : id ∈ fs.forest.lineage parent) :
    fs.insert parent id = .error (.insideItself (fs.forest.nameOf id)) := by
  simp [FileSystem.insert, Forest.add, hdetached, h, Except.map]

/-- Nothing is attached under a key that is taken. -/
theorem insert_of_child? {parent id holder : NodeId} (hdetached : fs.forest.parentOf id = none)
    (hfar : id ∉ fs.forest.lineage parent)
    (h : fs.forest.child? parent (fs.forest.nameOf id) = some holder) :
    fs.insert parent id
      = .error (.nameTaken (fs.forest.nameOf id) (fs.forest.nameOf parent) holder) := by
  have hget : (fs.forest.childrenOf parent).get? (Text.lower (fs.forest.nameOf id)) = some holder :=
    h
  simp [FileSystem.insert, Forest.add, hdetached, hfar, hget, Except.map]

/-- **Attaching keeps a file system sound.** -/
theorem Sound.insert (hsound : fs.Sound) {parent id : NodeId} {after : FileSystem}
    (hparent : fs.forest.isDirectory parent = true) (hid : fs.forest.node? id ≠ none)
    (h : fs.insert parent id = .ok after) : after.Sound := by
  obtain ⟨hdetached, hlineage, hfree, rfl⟩ := insert_eq_ok_iff.1 h
  have hadd := Forest.add_eq_ok_iff.2 ⟨hdetached, hlineage, hfree, rfl⟩
  refine hsound.withForest (hsound.forest.add hparent hid hadd) fun other hother => ?_
  rwa [Forest.isDirectory_relink]

/-- **Detaching keeps a file system sound.** -/
theorem Sound.remove (hsound : fs.Sound) (directory : NodeId) (name : String) :
    (fs.withForest (fs.forest.remove directory name).2).Sound := by
  refine hsound.withForest (hsound.forest.remove directory name) fun other hother => ?_
  rcases fs.forest.remove_cases directory name with ⟨-, hremove⟩ | ⟨id, -, hremove⟩
  · rwa [hremove]
  · rwa [hremove, Forest.isDirectory_relink]

/-- Creating a node in a directory is creating it and attaching it. -/
theorem createIn_eq (fs : FileSystem) (parent : NodeId) (name : String) (body : Body) :
    fs.createIn parent name body
      = ((fs.withNew name body).insert parent fs.forest.slots.size).map
          (fs.forest.slots.size, ·) := by
  have hadd : ∀ outcome : Except TreeError Forest,
      outcome.map (fun forest => (fs.forest.slots.size, fs.withForest forest))
        = (outcome.map (fs.withNew name body).withForest).map (fs.forest.slots.size, ·) := by
    rintro (error | forest) <;> rfl
  exact hadd _

/-- The new node of `createIn` exists. -/
theorem node?_withNew (fs : FileSystem) (name : String) (body : Body) :
    (fs.withNew name body).forest.node? fs.forest.slots.size ≠ none := by
  have hnode := fs.forest.node?_create name body fs.forest.slots.size
  rw [if_pos rfl] at hnode
  exact fun hnone => absurd (hnode.symm.trans hnone) (by simp)

/-- **Creating a node in a directory keeps a file system sound.** -/
theorem Sound.createIn (hsound : fs.Sound) {parent id : NodeId} {name : String} {body : Body}
    {after : FileSystem} (hparent : fs.forest.isDirectory parent = true)
    (hbare : body.children = NameMap.empty) (h : fs.createIn parent name body = .ok (id, after)) :
    after.Sound := by
  rw [createIn_eq] at h
  obtain ⟨created, hinsert, hcreated⟩ := map_eq_ok.1 h
  rw [← (Prod.mk.inj hcreated).2]
  exact (hsound.create name hbare).insert (isDirectory_create name body hparent)
    (fs.node?_withNew name body) hinsert

/-- **When a node is created in a directory**: if its name is free there. Then it lies in the
directory under its name, and nothing else is changed. -/
theorem createIn_eq_ok_iff {parent id : NodeId} {name : String} {body : Body} {after : FileSystem}
    (hbare : body.children = NameMap.empty) :
    fs.createIn parent name body = .ok (id, after)
      ↔ id = fs.forest.slots.size ∧ id ∉ (fs.withNew name body).forest.lineage parent
        ∧ fs.forest.child? parent name = none
        ∧ after = (fs.withNew name body).withForest ((fs.withNew name body).forest.relink parent
          (·.insert (Text.lower name) id) id (some parent)) := by
  have hname : (fs.withNew name body).forest.nameOf fs.forest.slots.size = name := by
    rw [withNew, withForest, Forest.nameOf_create, if_pos rfl]
  have hdetached : (fs.withNew name body).forest.parentOf fs.forest.slots.size = none := by
    rw [withNew, withForest, Forest.parentOf_create, Forest.parentOf, Forest.node?_size]
    rfl
  have hchild : (fs.withNew name body).forest.child? parent name
      = fs.forest.child? parent name := by
    rw [Forest.child?, withNew, withForest, Forest.childrenOf_create _ hbare, Forest.child?]
  -- a node that was just made has no parent, so two conditions are left
  have hadd : ∀ {forest : Forest},
      (fs.withNew name body).forest.add parent fs.forest.slots.size = .ok forest
        ↔ fs.forest.slots.size ∉ (fs.withNew name body).forest.lineage parent
          ∧ fs.forest.child? parent name = none
          ∧ forest = (fs.withNew name body).forest.relink parent
            (·.insert (Text.lower name) fs.forest.slots.size) fs.forest.slots.size
              (some parent) := by
    intro forest
    rw [Forest.add_eq_ok_iff, hname, hchild]
    simp [hdetached]
  rw [createIn_eq, FileSystem.insert]
  constructor
  · intro h
    obtain ⟨created, hcreated, hmade⟩ := map_eq_ok.1 h
    obtain ⟨forest, hattached, rfl⟩ := map_eq_ok.1 hcreated
    obtain ⟨hlineage, hfree, hforest⟩ := hadd.1 hattached
    obtain ⟨rfl, hafter⟩ := Prod.mk.inj hmade
    rw [← hafter, hforest]
    exact ⟨rfl, hlineage, hfree, rfl⟩
  · rintro ⟨rfl, hlineage, hfree, rfl⟩
    rw [hadd.2 ⟨hlineage, hfree, rfl⟩]
    rfl

/-- **Where the name is free, a node is created.** -/
theorem createIn_of_free (hsound : fs.forest.Sound) {parent : NodeId} {name : String} {body : Body}
    (hparent : fs.forest.isDirectory parent = true) (hbare : body.children = NameMap.empty)
    (hfree : fs.forest.child? parent name = none) :
    ∃ after, fs.createIn parent name body = .ok (fs.forest.slots.size, after) := by
  refine ⟨_, (createIn_eq_ok_iff hbare).2 ⟨rfl, fun hmem => ?_, hfree, rfl⟩⟩
  have hlt := Forest.lt_size_of_node? (Forest.node?_of_isDirectory hparent)
  -- only a directory that holds something is met above another one
  rcases Relation.ReflTransGen.cases_tail (Forest.reflTransGen_of_mem_climb hmem) with
    heq | ⟨below, -, hlies⟩
  · exact absurd heq (Nat.ne_of_gt hlt)
  · rw [Forest.LiesIn, withNew, withForest, Forest.parentOf_create] at hlies
    exact hsound.node?_parent hlies fs.forest.node?_size

/-! ## Roles, moves, and letting nodes go -/

/-- A role is given to a directory of the tree, and that changes no node. -/
theorem register_eq_ok_iff {role : String} {directory : NodeId} {after : FileSystem} :
    fs.register role directory = .ok after
      ↔ fs.forest.isAttached directory = true
        ∧ after = { fs with roles := fs.roles.insert role directory } := by
  rw [FileSystem.register]
  by_cases hattached : fs.forest.isAttached directory = true
  · rw [if_pos hattached, Except.ok.injEq, eq_comm]
    simp [hattached]
  · rw [if_neg hattached]
    simp [hattached]

/-- A role is refused to a directory outside the tree. -/
theorem register_eq_error_iff {role : String} {directory : NodeId} {error : TreeError} :
    fs.register role directory = .error error
      ↔ fs.forest.isAttached directory = false
        ∧ error = .notInTree (fs.forest.nameOf directory) := by
  rw [register]
  cases fs.forest.isAttached directory with
  | true => simp
  | false => simpa using eq_comm

/-- **Giving a role to a directory keeps a file system sound.** -/
theorem Sound.register (hsound : fs.Sound) {role : String} {directory : NodeId}
    {after : FileSystem} (hdirectory : fs.forest.isDirectory directory = true)
    (h : fs.register role directory = .ok after) : after.Sound := by
  obtain ⟨-, rfl⟩ := register_eq_ok_iff.1 h
  refine ⟨hsound.forest, hsound.root, hsound.cwd, fun {other found} hget => ?_⟩
  rw [NameMap.get?_insert] at hget
  split at hget
  · have hfound : directory = found := Option.some.inj hget
    rwa [← hfound]
  · exact hsound.roles hget

/-- **What is known by a role** has it, and belongs to the tree. -/
theorem wellKnown_eq_ok_iff {role : String} {directory : NodeId} :
    fs.wellKnown role = .ok directory
      ↔ fs.roles.get? role = some directory ∧ fs.forest.isAttached directory = true := by
  rw [wellKnown]
  cases hget : fs.roles.get? role with
  | none => simp
  | some found =>
    by_cases hattached : fs.forest.isAttached found = true
    · simp only [if_pos hattached, Except.ok.injEq, Option.some.injEq]
      constructor
      · rintro rfl
        exact ⟨rfl, hattached⟩
      · exact And.left
    · simp only [if_neg hattached, reduceCtorEq, Option.some.injEq, false_iff]
      rintro ⟨rfl, hin⟩
      exact hattached hin

/-- **When a role is worth nothing**: nothing in the tree has it. -/
theorem wellKnown_eq_error_iff {role : String} {error : TreeError} :
    fs.wellKnown role = .error error
      ↔ (∀ directory, fs.roles.get? role = some directory → fs.forest.isAttached directory = false)
        ∧ error = .roleUnavailable role := by
  rw [wellKnown]
  cases hget : fs.roles.get? role with
  | none => simpa using eq_comm
  | some found =>
    cases hattached : fs.forest.isAttached found with
    | true => simp [hattached]
    | false => simpa [hattached] using eq_comm

/-- What has a role is a directory. -/
theorem Sound.isDirectory_wellKnown (hsound : fs.Sound) {role : String} {directory : NodeId}
    (h : fs.wellKnown role = .ok directory) : fs.forest.isDirectory directory = true :=
  hsound.roles (wellKnown_eq_ok_iff.1 h).1

/-- **Where a path leads**: to the root, one step up as far as there is one, or to the child that
has the path without the slashes at its end for a name. -/
theorem destination_cases {path : String} {target : NodeId} (h : fs.destination path = .ok target) :
    target = Forest.root ∨ target = (fs.forest.parentOf fs.cwd).getD fs.cwd
      ∨ ∃ name, name = Text.dropTrailing (· = '/') path ∧ name ≠ "" ∧ name ≠ "~" ∧ name ≠ ".."
        ∧ fs.child? name = some target ∧ fs.forest.isDirectory target = true := by
  simp only [destination] at h
  split at h
  · exact .inl (Except.ok.inj h).symm
  · rename_i hbare
    split at h
    · exact .inr (.inl (Except.ok.inj h).symm)
    · rename_i hup
      simp only [Bool.or_eq_true, decide_eq_true_eq, not_or] at hbare
      split at h
      · exact absurd h (by simp)
      · rename_i id hid
        by_cases hdirectory : fs.forest.isDirectory id = true
        · rw [if_pos hdirectory] at h
          obtain rfl := Except.ok.inj h
          exact .inr (.inr ⟨_, rfl, hbare.1, hbare.2, hup, hid, hdirectory⟩)
        · rw [if_neg hdirectory] at h
          exact absurd h (by simp)

/-- **Where a path leads is a directory.** -/
theorem Sound.isDirectory_destination (hsound : fs.Sound) {path : String} {target : NodeId}
    (h : fs.destination path = .ok target) : fs.forest.isDirectory target = true := by
  rcases destination_cases h with rfl | rfl | ⟨name, -, -, -, -, -, hdirectory⟩
  · exact hsound.root
  · cases hparent : fs.forest.parentOf fs.cwd with
    | none => exact hsound.cwd
    | some parent => exact hsound.forest.isDirectory_of_parentOf hparent
  · exact hdirectory

/-- Moving succeeds where the path leads somewhere, and changes the current directory only. -/
theorem changeDirectory_eq_ok_iff {path : String} {target : NodeId} {after : FileSystem} :
    fs.changeDirectory path = .ok (target, after)
      ↔ fs.destination path = .ok target ∧ after = { fs with cwd := target } := by
  rw [FileSystem.changeDirectory]
  cases fs.destination path with
  | error error => simp [Except.map]
  | ok id =>
    simp only [Except.map, Except.ok.injEq, Prod.mk.injEq]
    constructor
    · rintro ⟨rfl, rfl⟩
      exact ⟨rfl, rfl⟩
    · rintro ⟨rfl, rfl⟩
      exact ⟨rfl, rfl⟩

/-- **Moving keeps a file system sound.** -/
theorem Sound.changeDirectory (hsound : fs.Sound) {path : String} {target : NodeId}
    (h : fs.destination path = .ok target) : Sound { fs with cwd := target } where
  forest := hsound.forest
  root := hsound.root
  cwd := hsound.isDirectory_destination h
  roles := hsound.roles

/-- **A file that is read** is the child of that name, and no directory. -/
theorem readFile_eq_ok_iff {name : String} {file : NodeId} :
    fs.readFile name = .ok file
      ↔ fs.child? name = some file ∧ fs.forest.isDirectory file = false := by
  rw [readFile]
  cases hchild : fs.child? name with
  | none => simp
  | some id =>
    -- either way the file is the child, and what it is decides
    rw [Option.some.injEq]
    constructor
    · intro h
      by_cases hdirectory : fs.forest.isDirectory id = true
      · simp [hdirectory] at h
      · have hfile : id = file := by simpa [hdirectory] using h
        rw [← hfile]
        exact ⟨rfl, Bool.eq_false_iff.2 hdirectory⟩
    · rintro ⟨rfl, hfile⟩
      simp [hfile]

/-- What a file system keeps by itself stays a directory. -/
theorem isDirectory_reclaim_of_mem {held : List NodeId} {id : NodeId} (hmem : id ∈ fs.anchors)
    (h : fs.forest.isDirectory id = true) : (fs.reclaim held).forest.isDirectory id = true := by
  rw [FileSystem.reclaim, withForest, Forest.isDirectory_reclaim, h, Bool.and_true]
  exact Forest.isKept_of_mem (List.mem_append_left _ hmem)

/-- **Letting nodes go keeps a file system sound.** -/
theorem Sound.reclaim (hsound : fs.Sound) (held : List NodeId) : (fs.reclaim held).Sound where
  forest := hsound.forest.reclaim _
  root := isDirectory_reclaim_of_mem List.mem_cons_self hsound.root
  cwd := isDirectory_reclaim_of_mem (List.mem_cons_of_mem _ List.mem_cons_self) hsound.cwd
  roles := fun {role directory} h => by
    refine isDirectory_reclaim_of_mem (List.mem_cons_of_mem _ (List.mem_cons_of_mem _ ?_))
      (hsound.roles h)
    exact NameMap.mem_values_iff.2 ⟨role, h⟩

/-- Letting nodes go keeps the children of the current directory. -/
theorem list_reclaim (held : List NodeId) : (fs.reclaim held).list = fs.list := by
  have hcwd : fs.cwd ∈ fs.anchors := List.mem_cons_of_mem _ List.mem_cons_self
  rw [list, list, FileSystem.reclaim, withForest, Forest.listing, Forest.childrenOf_reclaim,
    if_pos (Forest.isKept_of_mem (List.mem_append_left held hcwd))]
  rfl

/-! ## Copying -/

/-- A file system in which a file is out of the way of a copy. -/
theorem makeRoom_eq_ok {forest cleared : Forest} {destination : NodeId} {name : String}
    (h : makeRoom forest destination name = .ok cleared) :
    (forest.child? destination name = none ∧ cleared = forest)
      ∨ ∃ holder, forest.child? destination name = some holder
        ∧ forest.isDirectory holder = false
        ∧ cleared = (forest.remove destination (forest.nameOf holder)).2 := by
  rw [makeRoom] at h
  split at h
  · rename_i hfree
    exact .inl ⟨hfree, by simpa using h.symm⟩
  · rename_i holder hholder
    split at h
    · exact absurd h (by simp)
    · rename_i hfile
      exact .inr ⟨holder, hholder, by simpa using hfile, by simpa using h.symm⟩

/-- **Once room is made, the name is free.** -/
theorem child?_makeRoom {forest cleared : Forest} (hsound : forest.Sound) {destination : NodeId}
    {name : String} (h : makeRoom forest destination name = .ok cleared) :
    cleared.child? destination name = none := by
  rcases makeRoom_eq_ok h with ⟨hfree, rfl⟩ | ⟨holder, hholder, -, rfl⟩
  · exact hfree
  · -- a file stands under the key of its name, so it is the one that is taken out
    have hkey := (hsound.of_get? hholder).1
    rcases forest.remove_cases destination (forest.nameOf holder) with
      ⟨hnone, -⟩ | ⟨id, hid, hremove⟩
    · rw [Forest.child?, ← hkey, ← Forest.child?, hholder] at hnone
      exact absurd hnone (by simp)
    · rw [hremove, Forest.child?, Forest.childrenOf_relink _ _ _ _
        (Forest.isDirectory_of_get? hid), if_pos rfl, NameMap.get?_erase, if_pos hkey.symm]

/-- Making room keeps a forest sound. -/
theorem sound_makeRoom {forest cleared : Forest} (hsound : forest.Sound) {destination : NodeId}
    {name : String} (h : makeRoom forest destination name = .ok cleared) : cleared.Sound := by
  rcases makeRoom_eq_ok h with ⟨-, rfl⟩ | ⟨holder, -, -, rfl⟩
  · exact hsound
  · exact hsound.remove destination _

/-- Making room leaves every directory a directory. -/
theorem isDirectory_makeRoom {forest cleared : Forest} {destination : NodeId} {name : String}
    (h : makeRoom forest destination name = .ok cleared) (id : NodeId) :
    cleared.isDirectory id = forest.isDirectory id := by
  rcases makeRoom_eq_ok h with ⟨-, rfl⟩ | ⟨holder, -, -, rfl⟩
  · rfl
  · rcases forest.remove_cases destination (forest.nameOf holder) with
      ⟨-, hremove⟩ | ⟨removed, -, hremove⟩
    · rw [hremove]
    · rw [hremove, Forest.isDirectory_relink]

/-- **What a copy comes to.** It is refused and nothing has changed; or the file is where it would
be copied to, and nothing has changed; or room is made and the copy is created. -/
theorem copyInto_cases (hsound : fs.forest.Sound) (name : String) {destination : NodeId}
    (hdestination : fs.forest.isDirectory destination = true) :
    (∃ error, fs.copyInto name destination = (.error error, fs))
      ∨ ∃ source, fs.child? name = some source ∧ fs.forest.isDirectory source = false
        ∧ (fs.forest.child? destination (fs.forest.nameOf source) = some source
            ∧ fs.copyInto name destination = (.ok ⟨source, source⟩, fs)
          ∨ fs.forest.child? destination (fs.forest.nameOf source) ≠ some source
            ∧ ∃ cleared after copy,
              makeRoom fs.forest destination (fs.forest.nameOf source) = .ok cleared
              ∧ (fs.withForest cleared).createFile destination (fs.forest.nameOf source)
                (fs.forest.textOf source) = .ok (copy, after)
              ∧ fs.copyInto name destination = (.ok ⟨copy, source⟩, after)) := by
  -- in the order in which a copy asks, and at the end nothing is left to stop it
  simp only [copyInto]
  by_cases hattached : fs.forest.isAttached destination = true
  · simp only [hattached, Bool.not_true, Bool.false_eq_true, if_false]
    cases hsource : fs.child? name with
    | none => exact .inl ⟨_, rfl⟩
    | some source =>
      by_cases hdirectory : fs.forest.isDirectory source = true
      · exact .inl ⟨.cannotCopyDirectory name source, by simp [hdirectory]⟩
      · simp only [hdirectory]
        by_cases hsame : fs.forest.child? destination (fs.forest.nameOf source) = some source
        · exact .inr ⟨source, rfl, by simpa using hdirectory, .inl ⟨hsame, by simp [hsame]⟩⟩
        · simp only [hsame]
          cases hroom : makeRoom fs.forest destination (fs.forest.nameOf source) with
          | error error => exact .inl ⟨_, rfl⟩
          | ok cleared =>
            have hcreates : ∃ after, (fs.withForest cleared).createFile destination
                (fs.forest.nameOf source) (fs.forest.textOf source)
                  = .ok (cleared.slots.size, after) :=
              createIn_of_free (sound_makeRoom hsound hroom)
                ((isDirectory_makeRoom hroom destination).trans hdestination) rfl
                (child?_makeRoom hsound hroom)
            obtain ⟨after, hcreated⟩ := hcreates
            exact .inr ⟨source, rfl, by simpa using hdirectory, .inr
              ⟨hsame, cleared, after, _, hroom, hcreated, by simp [hcreated]⟩⟩
  · exact .inl ⟨.destinationDetached (fs.forest.nameOf destination), by simp [hattached]⟩

/-- **A copy that is refused changes nothing.** -/
theorem copyInto_error (hsound : fs.forest.Sound) {name : String} {destination : NodeId}
    (hdestination : fs.forest.isDirectory destination = true) {error : TreeError}
    {after : FileSystem} (h : fs.copyInto name destination = (.error error, after)) :
    after = fs := by
  rcases copyInto_cases hsound name hdestination with
    ⟨other, hcopy⟩ | ⟨source, -, -, ⟨-, hcopy⟩ | ⟨-, cleared, other, copy, -, -, hcopy⟩⟩
  · rw [hcopy] at h
    exact (congrArg Prod.snd h).symm
  · rw [hcopy] at h
    exact absurd (congrArg Prod.fst h) (by simp)
  · rw [hcopy] at h
    exact absurd (congrArg Prod.fst h) (by simp)

/-- **Copying keeps a file system sound**, and so does a copy that is refused. -/
theorem Sound.copyInto (hsound : fs.Sound) (name : String) {destination : NodeId}
    (hdestination : fs.forest.isDirectory destination = true) :
    (fs.copyInto name destination).2.Sound := by
  rcases copyInto_cases hsound.forest name hdestination with
    ⟨error, hcopy⟩ | ⟨source, -, -, ⟨-, hcopy⟩ | ⟨-, cleared, after, copy, hroom, hcreated, hcopy⟩⟩
  · rw [hcopy]
    exact hsound
  · rw [hcopy]
    exact hsound
  · rw [hcopy]
    have hcleared : (fs.withForest cleared).Sound :=
      hsound.withForest (sound_makeRoom hsound.forest hroom) fun id h =>
        (isDirectory_makeRoom hroom id).trans h
    exact hcleared.createIn ((isDirectory_makeRoom hroom destination).trans hdestination) rfl
      hcreated

end StoryShell.FileSystem
