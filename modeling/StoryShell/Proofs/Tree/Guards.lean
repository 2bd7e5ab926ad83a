/-
What guards an insertion, and what an insertion changes.

A node is put into a directory unless one of three things is in the way, which are asked for one
after the other: the node lies somewhere already, or the way up from the directory leads to it, or
the directory has a child under its key. The first two are misuse and have no kind, the third is a
name conflict with the child that is there. So what is in the way decides how the insertion ends
(`InsertEnds`, `insertEnds_insert`), and an insertion that is made concerns the two nodes and no
others (`Attaches`). An error changes nothing, statement by statement and on the workbench.
-/
import StoryShell.Proofs.Tree.Changes
import StoryShell.Proofs.Tree.Effects
import StoryShell.Proofs.Tree.Procedures
import StoryShell.Proofs.Tree.Workbench

set_option autoImplicit false

namespace StoryShell.FileSystem

variable {fs after : FileSystem} {directory id child : NodeId}

/-! ## How an insertion ends -/

/-- **What an insertion that was made leaves.** -/
structure Attaches (fs : FileSystem) (directory id : NodeId) (after : FileSystem) : Prop where
  /-- The node lies in the directory. -/
  lies : after.forest.parentOf id = some directory
  /-- Of the entries of the directory, that under the key of the node is the node, and the others
  are what they were. -/
  entries : after.forest.childrenOf directory
    = (fs.forest.childrenOf directory).insert (Text.lower (fs.forest.nameOf id)) id
  /-- But for its parent, the node is what it was. -/
  node?_id : after.forest.node? id = (fs.forest.node? id).map ({ · with parent := some directory })
  /-- But for its children, so is the directory. -/
  node?_directory : after.forest.node? directory = (fs.forest.node? directory).map
    (·.withChildren (·.insert (Text.lower (fs.forest.nameOf id)) id))
  /-- So is every other node. -/
  others : ∀ other, other ≠ id → other ≠ directory →
    after.forest.node? other = fs.forest.node? other
  cwd : after.cwd = fs.cwd
  roles : after.roles = fs.roles

/-- **How an insertion ends**, by what is in the way. -/
inductive InsertEnds (fs : FileSystem) (directory id : NodeId) :
    Except TreeError FileSystem → Prop
  | attached {holder : NodeId} (hlies : fs.forest.parentOf id = some holder) :
      InsertEnds fs directory id
        (.error (.alreadyAttached (fs.forest.nameOf id) (fs.forest.nameOf holder)))
  | inside (hdetached : fs.forest.parentOf id = none)
      (hinside : Relation.ReflTransGen fs.forest.LiesIn directory id) :
      InsertEnds fs directory id (.error (.insideItself (fs.forest.nameOf id)))
  | taken {child : NodeId} (hdetached : fs.forest.parentOf id = none)
      (hfar : ¬ Relation.ReflTransGen fs.forest.LiesIn directory id)
      (hchild : fs.forest.child? directory (fs.forest.nameOf id) = some child) :
      InsertEnds fs directory id
        (.error (.nameTaken (fs.forest.nameOf id) (fs.forest.nameOf directory) child))
  | made {after : FileSystem} (hdetached : fs.forest.parentOf id = none)
      (hfar : ¬ Relation.ReflTransGen fs.forest.LiesIn directory id)
      (hfree : fs.forest.child? directory (fs.forest.nameOf id) = none)
      (hattaches : fs.Attaches directory id after) : InsertEnds fs directory id (.ok after)

/-- **An insertion that succeeds is made.** -/
theorem attaches_of_insert (hdirectory : fs.forest.isDirectory directory = true)
    (hid : fs.forest.node? id ≠ none) (h : fs.insert directory id = .ok after) :
    fs.Attaches directory id after := by
  obtain ⟨-, hlineage, -, rfl⟩ := insert_eq_ok_iff.1 h
  have hne : id ≠ directory := by
    rintro rfl
    exact hlineage (Forest.self_mem_climb _ id)
  have hnode := fs.forest.node?_relink hne (·.insert (Text.lower (fs.forest.nameOf id)) id)
    (some directory)
  refine ⟨?_, ?_, ?_, ?_, fun other hother hfar => ?_, rfl, rfl⟩
  · rw [withForest, Forest.parentOf_relink _ _ _ _ hid, if_pos rfl]
  · rw [withForest, Forest.childrenOf_relink _ _ _ _ hdirectory, if_pos rfl]
  · rw [withForest, hnode, if_pos rfl]
  · rw [withForest, hnode, if_neg hne.symm, if_pos rfl]
  · rw [withForest, hnode, if_neg hother, if_neg hfar]

/-- **Every insertion ends in one of these ways.** -/
theorem insertEnds_insert (hsound : fs.forest.Sound)
    (hdirectory : fs.forest.isDirectory directory = true) (hid : fs.forest.node? id ≠ none) :
    fs.InsertEnds directory id (fs.insert directory id) := by
  -- in the order in which an insertion asks
  cases hlies : fs.forest.parentOf id with
  | some holder =>
    rw [insert_of_parentOf hlies]
    exact .attached hlies
  | none =>
    by_cases hinside : id ∈ fs.forest.lineage directory
    · rw [insert_of_mem_lineage hlies hinside]
      exact .inside hlies (hsound.mem_lineage_iff.1 hinside)
    have hfar : ¬ Relation.ReflTransGen fs.forest.LiesIn directory id :=
      fun hway => hinside (hsound.mem_lineage_iff.2 hway)
    cases hchild : fs.forest.child? directory (fs.forest.nameOf id) with
    | some child =>
      rw [insert_of_child? hlies hinside hchild]
      exact .taken hlies hfar hchild
    | none =>
      have hmade := insert_eq_ok_iff.2 ⟨hlies, hinside, hchild, rfl⟩
      rw [hmade]
      exact .made hlies hfar hchild (attaches_of_insert hdirectory hid hmade)

/-! ## What the ends mean -/

namespace InsertEnds

variable {outcome : Except TreeError FileSystem} (h : fs.InsertEnds directory id outcome)

include h

/-- **An insertion is misuse** just if the node lies somewhere, or is met on the way up from the
directory. -/
theorem misuse_iff :
    (∃ error, outcome = .error error ∧ error.kind? = none)
      ↔ (∃ holder, fs.forest.parentOf id = some holder)
        ∨ Relation.ReflTransGen fs.forest.LiesIn directory id := by
  cases h with
  | attached hlies => simp [TreeError.kind?, hlies]
  | inside _ hinside => simp [TreeError.kind?, hinside]
  | taken hdetached hfar _ => simp [TreeError.kind?, hdetached, hfar]
  | made hdetached hfar _ _ => simp [hdetached, hfar]

/-- **A name is in conflict** with the child that has its key, just if it is no misuse. -/
theorem conflict_iff :
    (∃ error, outcome = .error error ∧ error.kind? = some .nameConflict
        ∧ error.node? = some child)
      ↔ fs.forest.parentOf id = none ∧ ¬ Relation.ReflTransGen fs.forest.LiesIn directory id
        ∧ fs.forest.child? directory (fs.forest.nameOf id) = some child := by
  cases h with
  | attached hlies => simp [TreeError.kind?, hlies]
  | inside _ hinside => simp [TreeError.kind?, hinside]
  | taken hdetached hfar hchild => simp [TreeError.kind?, TreeError.node?, hdetached, hfar, hchild]
  | made _ _ hfree _ => simp [hfree]

/-- **An insertion is made** just if nothing is in the way. -/
theorem made_iff :
    (∃ after, outcome = .ok after ∧ fs.Attaches directory id after)
      ↔ fs.forest.parentOf id = none ∧ ¬ Relation.ReflTransGen fs.forest.LiesIn directory id
        ∧ fs.forest.child? directory (fs.forest.nameOf id) = none := by
  cases h with
  | attached hlies => simp [hlies]
  | inside _ hinside => simp [hinside]
  | taken _ _ hchild => simp [hchild]
  | made hdetached hfar hfree hattaches => simp [hdetached, hfar, hfree, hattaches]

end InsertEnds

/-! ## In every tree -/

/-- **An insertion is guarded exactly, and an error changes nothing**, whatever was done to the tree
before. An insertion is misuse, a name conflict, or made, by what is in the way. Statement by
statement, inserting, creating, moving and giving a role leave every node, the current directory and
the roles as they are when they are stopped by an error; and on a workbench with any handles nothing
at all is different after a step that is refused. -/
theorem insertion_is_guarded (changes : List TreeChange) (h : initial.CanRun changes) :
    let fs := initial.run changes
    (∀ directory id, fs.forest.isDirectory directory = true → fs.forest.node? id ≠ none →
      fs.InsertEnds directory id (fs.insert directory id)
        ∧ ((∃ error, fs.insert directory id = .error error ∧ error.kind? = none)
          ↔ (∃ holder, fs.forest.parentOf id = some holder)
            ∨ Relation.ReflTransGen fs.forest.LiesIn directory id)
        ∧ (∀ child, (∃ error, fs.insert directory id = .error error
            ∧ error.kind? = some .nameConflict ∧ error.node? = some child)
          ↔ fs.forest.parentOf id = none ∧ ¬ Relation.ReflTransGen fs.forest.LiesIn directory id
            ∧ fs.forest.child? directory (fs.forest.nameOf id) = some child)
        ∧ ((∃ after, fs.insert directory id = .ok after ∧ fs.Attaches directory id after)
          ↔ fs.forest.parentOf id = none ∧ ¬ Relation.ReflTransGen fs.forest.LiesIn directory id
            ∧ fs.forest.child? directory (fs.forest.nameOf id) = none))
      ∧ ((∀ directory id,
          (Procedure.addTo directory id).Atomic fs ((fs.insert directory id).map ((), ·)))
        ∧ (∀ parent name body,
          (Procedure.createUnder parent name body).Atomic fs (fs.createIn parent name body))
        ∧ (∀ path, (Procedure.moveTo path).Atomic fs (fs.changeDirectory path))
        ∧ ∀ role directory,
          (Procedure.giveRole role directory).Atomic fs ((fs.register role directory).map ((), ·)))
      ∧ ∀ handles step handle error,
        ((Workbench.settle fs handles).run step handle).1.answer = .error error →
        ((Workbench.settle fs handles).run step handle).2 = Workbench.settle fs handles := by
  intro fs
  have hsound : fs.forest.Sound := (sound_initial.run h).forest
  refine ⟨fun directory id hdirectory hid => ?_,
    ⟨Procedure.atomic_addTo fs, Procedure.atomic_createUnder fs, Procedure.atomic_moveTo fs,
      Procedure.atomic_giveRole fs⟩,
    fun handles step handle error => Workbench.run_error hsound⟩
  have hends := insertEnds_insert hsound hdirectory hid
  exact ⟨hends, hends.misuse_iff, fun child => hends.conflict_iff, hends.made_iff⟩

/-- A detached directory with a tree below it, a file whose directory was let go, and a file whose
name is taken but for case: the directory cannot be put at the bottom of its own tree, and of the
files one can be put into the root. -/
theorem insertion_is_guarded_of_detached :
    let changes : List TreeChange :=
      [.newDirectory "Top", .createDirectory 1 "Mid", .createDirectory 2 "Low",
        .createFile Forest.root "note" "", .newFile "NOTE" "new",
        .createDirectory Forest.root "Box", .createFile 6 "memo" "", .remove Forest.root "box",
        .collect [1, 5, 7]]
    let fs := initial.run changes
    let bench := Workbench.settle fs (NameMap.empty.insert "new" 5)
    initial.CanRun changes ∧ fs.forest.node? 6 = none
      ∧ fs.insert 3 1 = .error (.insideItself "Top")
      ∧ Relation.ReflTransGen fs.forest.LiesIn 3 1
      ∧ fs.insert Forest.root 5 = .error (.nameTaken "NOTE" "/" 4)
      ∧ fs.forest.child? Forest.root (fs.forest.nameOf 5) = some 4
      ∧ (∃ after, fs.insert Forest.root 7 = .ok after ∧ fs.Attaches Forest.root 7 after)
      ∧ (bench.run (.add (.path "/") (.handle "new")) none).2 = bench := by
  intro changes fs bench
  have hfacts : initial.CanRun changes ∧ fs.forest.node? 6 = none
      ∧ fs.forest.isDirectory Forest.root = true ∧ fs.forest.parentOf Forest.root = none
      ∧ (fs.forest.isDirectory 3 = true ∧ fs.forest.node? 1 ≠ none ∧ fs.forest.parentOf 1 = none
        ∧ fs.insert 3 1 = .error (.insideItself "Top"))
      ∧ (fs.forest.node? 5 ≠ none ∧ fs.insert Forest.root 5 = .error (.nameTaken "NOTE" "/" 4))
      ∧ (fs.forest.node? 7 ≠ none ∧ fs.forest.parentOf 7 = none
        ∧ fs.forest.child? Forest.root (fs.forest.nameOf 7) = none)
      ∧ (bench.run (.add (.path "/") (.handle "new")) none).1.answer.isOk = false := by
    decide +kernel
  obtain ⟨hcan, hgone, hroot, htop, ⟨hlow, hexists, hdetached, hinside⟩, ⟨hnew, htaken⟩,
    ⟨hmemo, hloose, hfree⟩, hrefused⟩ := hfacts
  obtain ⟨hguards, -, hunchanged⟩ := insertion_is_guarded changes hcan
  refine ⟨hcan, hgone, hinside, ?_, htaken, ?_, ?_, ?_⟩
  · obtain ⟨-, hmisuse, -, -⟩ := hguards 3 1 hlow hexists
    rcases hmisuse.1 ⟨_, hinside, rfl⟩ with ⟨holder, hlies⟩ | hway
    · rw [hdetached] at hlies
      exact absurd hlies (by simp)
    · exact hway
  · obtain ⟨-, -, hconflict, -⟩ := hguards Forest.root 5 hroot hnew
    exact ((hconflict 4).1 ⟨_, htaken, rfl, rfl⟩).2.2
  · obtain ⟨-, -, -, hmade⟩ := hguards Forest.root 7 hroot hmemo
    refine hmade.2 ⟨hloose, fun hway => ?_, hfree⟩
    -- there is no way up from the root
    rcases Relation.ReflTransGen.cases_head hway with heq | ⟨parent, hlies, -⟩
    · exact absurd heq (by decide)
    · rw [Forest.LiesIn, htop] at hlies
      exact absurd hlies (by simp)
  · obtain ⟨error, hanswer⟩ := exists_error_of_isOk hrefused
    have hsame := hunchanged (NameMap.empty.insert "new" 5) (.add (.path "/") (.handle "new")) none
    have hbench : Workbench.settle (initial.run changes) (NameMap.empty.insert "new" 5) = bench :=
      rfl
    rw [hbench] at hsame
    exact hsame error hanswer

end StoryShell.FileSystem
