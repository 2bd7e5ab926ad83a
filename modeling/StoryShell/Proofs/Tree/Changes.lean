/-
What holds of a tree after any changes whatever.

A tree is changed on nodes that exist, attached or not: nodes are made, attached and detached, files
are copied, roles are given, the current directory moves, and at any time everything is let go that
is not kept. A change may be refused, and then it leaves what the operation leaves. Each change
keeps a file system sound (`Sound.after`), so each run of changes does (`Sound.run`), and the links
and the walks of every tree that can come about are in order (`links_and_walks`).
-/
import StoryShell.Proofs.Tree.FileSystem

set_option autoImplicit false

namespace StoryShell

/-- **A change of a tree.** A node is attached in the same way whether the file system or the
directory itself is asked to. -/
inductive TreeChange where
  | newDirectory (name : String)
  | newFile (name text : String)
  | createDirectory (parent : NodeId) (name : String)
  | createFile (parent : NodeId) (name text : String)
  | attach (directory node : NodeId)
  | remove (directory : NodeId) (name : String)
  | changeDirectory (path : String)
  | copy (name : String) (destination : NodeId)
  | register (role : String) (directory : NodeId)
  | collect (held : List NodeId)
deriving DecidableEq, Repr

/-- The nodes that a change is about exist, and what it takes for a directory is one. -/
def TreeChange.Applies (fs : FileSystem) : TreeChange → Prop
  | .newDirectory _ | .newFile .. | .changeDirectory _ | .collect _ => True
  | .createDirectory directory _ | .createFile directory .. | .remove directory _
  | .copy _ directory | .register _ directory => fs.forest.isDirectory directory = true
  | .attach directory node =>
    fs.forest.isDirectory directory = true ∧ fs.forest.node? node ≠ none

instance (fs : FileSystem) : (change : TreeChange) → Decidable (change.Applies fs)
  | .newDirectory _ | .newFile .. | .changeDirectory _ | .collect _ => .isTrue trivial
  | .createDirectory directory _ | .createFile directory .. | .remove directory _
  | .copy _ directory | .register _ directory =>
    inferInstanceAs (Decidable (fs.forest.isDirectory directory = true))
  | .attach directory node =>
    inferInstanceAs
      (Decidable (fs.forest.isDirectory directory = true ∧ fs.forest.node? node ≠ none))

namespace FileSystem

variable {fs : FileSystem}

/-- The file system that an operation gives, or the one before if the operation is refused. -/
def orSame (fs : FileSystem) : Except TreeError FileSystem → FileSystem
  | .ok after => after
  | .error _ => fs

/-- **What a change leaves.** A new node is attached to nothing at first. -/
def after (fs : FileSystem) : TreeChange → FileSystem
  | .newDirectory name => fs.withForest (fs.forest.create name (.directory NameMap.empty)).2
  | .newFile name text => fs.withForest (fs.forest.create name (.file text)).2
  | .createDirectory parent name => fs.orSame ((fs.createDirectory parent name).map Prod.snd)
  | .createFile parent name text => fs.orSame ((fs.createFile parent name text).map Prod.snd)
  | .attach directory node => fs.orSame (fs.insert directory node)
  | .remove directory name => fs.withForest (fs.forest.remove directory name).2
  | .changeDirectory path => fs.orSame ((fs.changeDirectory path).map Prod.snd)
  | .copy name destination => (fs.copyInto name destination).2
  | .register role directory => fs.orSame (fs.register role directory)
  | .collect held => fs.reclaim held

/-- Whether changes can be made one after the other, each on nodes that exist by then. -/
def CanRun (fs : FileSystem) : List TreeChange → Prop
  | [] => True
  | change :: rest => change.Applies fs ∧ (fs.after change).CanRun rest

instance (fs : FileSystem) (changes : List TreeChange) : Decidable (fs.CanRun changes) :=
  decideRun fs changes
where
  /-- Goes through the changes. -/
  decideRun (fs : FileSystem) : (changes : List TreeChange) → Decidable (fs.CanRun changes)
    | [] => .isTrue trivial
    | change :: rest =>
      have := decideRun (fs.after change) rest
      inferInstanceAs (Decidable (change.Applies fs ∧ (fs.after change).CanRun rest))

/-- **What a run leaves.** -/
def run (fs : FileSystem) (changes : List TreeChange) : FileSystem := changes.foldl after fs

/-! ## Soundness -/

/-- What holds before an operation, and after it if it succeeds, holds after it in any case. -/
theorem holds_orSame {P : FileSystem → Prop} (hfs : P fs) {outcome : Except TreeError FileSystem}
    (h : ∀ after, outcome = .ok after → P after) : P (fs.orSame outcome) := by
  cases outcome with
  | error error => exact hfs
  | ok after => exact h after rfl

/-- The same for an operation that gives something along with the file system. -/
theorem holds_orSame_snd {P : FileSystem → Prop} (hfs : P fs) {α : Type}
    {outcome : Except TreeError (α × FileSystem)}
    (h : ∀ value after, outcome = .ok (value, after) → P after) :
    P (fs.orSame (outcome.map Prod.snd)) := by
  cases outcome with
  | error error => exact hfs
  | ok both => exact h both.1 both.2 rfl

/-- **Every change keeps a file system sound.** -/
theorem Sound.after (hsound : fs.Sound) {change : TreeChange} (happlies : change.Applies fs) :
    (fs.after change).Sound := by
  cases change with
  | newDirectory name => exact hsound.create name rfl
  | newFile name text => exact hsound.create name rfl
  | createDirectory parent name =>
    exact holds_orSame_snd hsound fun id after h => hsound.createIn happlies rfl h
  | createFile parent name text =>
    exact holds_orSame_snd hsound fun id after h => hsound.createIn happlies rfl h
  | attach directory node =>
    obtain ⟨hdirectory, hnode⟩ := happlies
    exact holds_orSame hsound fun after h => hsound.insert hdirectory hnode h
  | remove directory name => exact hsound.remove directory name
  | changeDirectory path =>
    refine holds_orSame_snd hsound fun target after h => ?_
    obtain ⟨hdestination, rfl⟩ := changeDirectory_eq_ok_iff.1 h
    exact hsound.changeDirectory hdestination
  | copy name destination => exact hsound.copyInto name happlies
  | register role directory => exact holds_orSame hsound fun after h => hsound.register happlies h
  | collect held => exact hsound.reclaim held

/-- A run of two parts is a run of the first and then of the second. -/
theorem run_append (fs : FileSystem) (first second : List TreeChange) :
    fs.run (first ++ second) = (fs.run first).run second :=
  List.foldl_append

/-- A run of two parts can be made if the first can, and after it the second. -/
theorem canRun_append_iff {first second : List TreeChange} :
    fs.CanRun (first ++ second) ↔ fs.CanRun first ∧ (fs.run first).CanRun second := by
  induction first generalizing fs with
  | nil => simp [CanRun, run]
  | cons change rest ih => rw [List.cons_append, CanRun, CanRun, ih, and_assoc]; rfl

/-- **Every run keeps a file system sound.** -/
theorem Sound.run (hsound : fs.Sound) {changes : List TreeChange} (h : fs.CanRun changes) :
    (fs.run changes).Sound := by
  induction changes generalizing fs with
  | nil => exact hsound
  | cons change rest ih =>
    obtain ⟨happlies, hrest⟩ := h
    exact ih (hsound.after happlies) hrest

/-! ## Links and walks -/

/-- **Links agree, and walks end, whatever is done to a new tree.** A directory holds a child under
the key of its name, and the child takes it for its parent; what a node takes for its parent holds
it, and so no node is held twice. No node lies below itself: the walk up from a node, on which
`add`, `isAttached`, `pathOf` and `barePath` all go, ends at a node without a parent and has no more
steps than there are nodes, and a search that goes down level by level runs out of levels. -/
theorem links_and_walks (changes : List TreeChange) (h : initial.CanRun changes) :
    let forest := (initial.run changes).forest
    (∀ directory key child, (forest.childrenOf directory).get? key = some child →
        key = Text.lower (forest.nameOf child) ∧ forest.parentOf child = some directory)
      ∧ (∀ child parent, forest.parentOf child = some parent →
        forest.isDirectory parent = true
          ∧ (forest.childrenOf parent).get? (Text.lower (forest.nameOf child)) = some child)
      ∧ (∀ child first second key key', (forest.childrenOf first).get? key = some child →
        (forest.childrenOf second).get? key' = some child → first = second ∧ key = key')
      ∧ (∀ id, ¬ Relation.TransGen forest.LiesIn id id)
      ∧ (∀ id, forest.Ends (forest.lineage id)
        ∧ ∀ steps, forest.slots.size ≤ steps → forest.climb steps id = forest.lineage id)
      ∧ forest.level forest.slots.size = []
      ∧ ∀ name depth, forest.slots.size ≤ depth →
        forest.searchLevels (Text.lower name) depth [Forest.root] = forest.find name := by
  intro forest
  have hfs : (initial.run changes).Sound := sound_initial.run h
  have hsound : forest.Sound := hfs.forest
  have hroot : forest.node? Forest.root ≠ none := Forest.node?_of_isDirectory hfs.root
  refine ⟨fun _ _ _ hget => hsound.of_get? hget, fun child parent hlies => ?_,
    fun child first second key key' hfirst hsecond => ?_, hsound.acyclic, fun id => ?_,
    hsound.level_eq_nil hroot, fun name depth hdepth => ?_⟩
  · -- what holds something under a key is a directory
    have hget := hsound.child?_of_parentOf hlies
    exact ⟨Forest.isDirectory_of_get? hget, hget⟩
  · -- both directories are the parent, and both keys that of the name
    obtain ⟨hkey, hparent⟩ := hsound.of_get? hfirst
    obtain ⟨hkey', hparent'⟩ := hsound.of_get? hsecond
    exact ⟨Option.some.inj (hparent.symm.trans hparent'), hkey.trans hkey'.symm⟩
  · exact ⟨hsound.lineage_ends id, fun steps hsteps => hsound.climb_eq_lineage hsteps id⟩
  · exact hsound.searchLevels_eq_find hroot name hdepth

/-- A run in which a name is refused, the root comes to lie in a directory that is let go again, and
a directory that is taken out is let go with all it holds. -/
theorem links_and_walks_of_detached_root :
    let changes : List TreeChange :=
      [.newDirectory "Box", .createDirectory Forest.root "Home",
        .createDirectory Forest.root "home", .attach 2 1, .createFile 1 "Note" "hello",
        .createFile 2 "NOTE" "", .changeDirectory "HOME/", .register "bin" 2, .newDirectory "Above",
        .attach 5 Forest.root, .remove 2 "box", .collect []]
    let forest := (initial.run changes).forest
    initial.CanRun changes ∧ forest.node? 1 = none ∧ forest.parentOf Forest.root = none
      ∧ forest.parentOf 4 = some 2
      ∧ (forest.childrenOf 2).get? (Text.lower (forest.nameOf 4)) = some 4 := by
  intro changes forest
  have hfacts : initial.CanRun changes ∧ forest.node? 1 = none
      ∧ forest.parentOf Forest.root = none ∧ forest.parentOf 4 = some 2 := by decide +kernel
  obtain ⟨hcan, hgone, htop, hlies⟩ := hfacts
  exact ⟨hcan, hgone, htop, hlies, ((links_and_walks changes hcan).2.1 4 2 hlies).2⟩

end FileSystem

end StoryShell
