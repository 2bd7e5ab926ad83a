/-
Moves one after the other.

When the current directory moves on, nobody may keep what it leaves behind, and that is let go
(`FileSystem.move`). The tree of the root stays as it is all the same, with every link in it
(`Forest.KeepsTree`); all that can go is the directory that the root itself was attached to, and
what lies beside the tree.

So a walk that stays in the tree meets it as it was at the start (`FileSystem.StaysIn`), and a name
leads where it led then: to a child directory, or nowhere, and then the current directory stays
(`StaysIn.enter_cases`).
-/
import StoryShell.Proofs.Outcome
import StoryShell.Proofs.Text.Words
import StoryShell.Proofs.Tree.FileSystem
import StoryShell.Proofs.Tree.InTree
import StoryShell.Proofs.World.Decode

set_option autoImplicit false

namespace StoryShell

namespace Forest

variable {forest other : Forest} {id : NodeId}

/-! ## The tree of the root -/

/-- **The tree of the root is kept**: its nodes have the same names, kinds and children, and lie in
the same directories of the tree. -/
structure KeepsTree (forest other : Forest) : Prop where
  childrenOf : ∀ {id}, forest.InTree id → other.childrenOf id = forest.childrenOf id
  nameOf : ∀ {id}, forest.InTree id → other.nameOf id = forest.nameOf id
  isDirectory : ∀ {id}, forest.InTree id → other.isDirectory id = forest.isDirectory id
  parentOf : ∀ {id parent}, forest.InTree parent → forest.parentOf id = some parent →
    other.parentOf id = some parent

theorem KeepsTree.refl (forest : Forest) : forest.KeepsTree forest where
  childrenOf := fun _ => rfl
  nameOf := fun _ => rfl
  isDirectory := fun _ => rfl
  parentOf := fun _ hlies => hlies

/-- What belongs to the tree still does. -/
theorem KeepsTree.inTree (h : forest.KeepsTree other) (hid : forest.InTree id) :
    other.InTree id := by
  induction hid using Relation.ReflTransGen.head_induction_on with
  | refl => exact Relation.ReflTransGen.refl
  | head hlies hparent ih => exact .of_parentOf (h.parentOf hparent hlies) ih

/-- **Letting nodes go keeps the tree of the root**, if the root is wanted. -/
theorem KeepsTree.reclaim (h : forest.KeepsTree other) (hsound : other.Sound)
    {wanted : List NodeId} (hroot : root ∈ wanted) : forest.KeepsTree (other.reclaim wanted) := by
  have hkept : ∀ {id}, forest.InTree id → other.isKept wanted id = true :=
    fun hid => (h.inTree hid).isKept hsound hroot
  constructor
  · intro id hid
    rw [childrenOf_reclaim, if_pos (hkept hid), h.childrenOf hid]
  · intro id hid
    rw [nameOf_reclaim, if_pos (hkept hid), h.nameOf hid]
  · intro id hid
    rw [isDirectory_reclaim, hkept hid, Bool.true_and, h.isDirectory hid]
  · intro id parent hparent hlies
    exact parentOf_reclaim_eq_some_iff.2
      ⟨hkept (.of_parentOf hlies hparent), hkept hparent, h.parentOf hparent hlies⟩

end Forest

namespace FileSystem

variable {fs middle after : FileSystem} {path name : String} {step : String × List NodeId}

/-! ## Paths -/

/-- **A path that names a child**: without the slashes at its end it has no meaning of its own. -/
structure NamesChild (path : String) : Prop where
  ne_empty : Text.slashless path ≠ ""
  ne_home : Text.slashless path ≠ "~"
  ne_up : Text.slashless path ≠ ".."

instance (path : String) : Decidable (NamesChild path) :=
  decidable_of_iff (Text.slashless path ≠ "" ∧ Text.slashless path ≠ "~"
    ∧ Text.slashless path ≠ "..") ⟨fun ⟨hne, hhome, hup⟩ => ⟨hne, hhome, hup⟩,
      fun h => ⟨h.ne_empty, h.ne_home, h.ne_up⟩⟩

/-- **A name for a child**: one that is not empty, has no slash and no meaning of its own. -/
structure IsChildName (name : String) : Prop extends Seed.IsName name where
  ne_up : name ≠ ".."
  ne_home : name ≠ "~"

instance (name : String) : Decidable (IsChildName name) :=
  decidable_of_iff (Seed.IsName name ∧ name ≠ ".." ∧ name ≠ "~")
    ⟨fun ⟨hname, hup, hhome⟩ => ⟨hname, hup, hhome⟩, fun h => ⟨h.toIsName, h.ne_up, h.ne_home⟩⟩

theorem IsChildName.slashless (h : IsChildName name) : Text.slashless name = name :=
  Text.slashless_of_not_mem h.no_slash

/-- A name for a child is a path that names it. -/
theorem IsChildName.namesChild (h : IsChildName name) : NamesChild name := by
  constructor <;> rw [h.slashless]
  · exact h.ne_empty
  · exact h.ne_home
  · exact h.ne_up

/-- **Where the name of a child leads**: to the child, if there is one and it is a directory. -/
theorem destination_of_namesChild (h : NamesChild path) :
    fs.destination path
      = match fs.child? (Text.slashless path) with
        | none => .error (.noSuchPath path)
        | some id =>
          if fs.forest.isDirectory id then .ok id else .error (.notADirectory path id) := by
  obtain ⟨hne, hhome, hup⟩ := h
  rw [Text.slashless] at hne hhome hup ⊢
  cases hchild : fs.child? (Text.dropTrailing (· = '/') path) with
  | none => simp [destination, hne, hhome, hup, hchild]
  | some id => simp [destination, hne, hhome, hup, hchild]

/-- A slash leads to the root. -/
theorem destination_slash : fs.destination "/" = .ok Forest.root := by
  have hbare : Text.dropTrailing (· = '/') "/" = "" := by decide +kernel
  simp [destination, hbare]

/-- Two dots lead to the directory above. -/
theorem destination_up : fs.destination ".." = .ok ((fs.forest.parentOf fs.cwd).getD fs.cwd) := rfl

/-! ## Walks -/

/-- **A move** by a path, after which all nodes are let go but those that the file system keeps and
those that others do. -/
def move (fs : FileSystem) (step : String × List NodeId) : Except TreeError FileSystem :=
  (fs.changeDirectory step.1).map fun moved => moved.2.reclaim step.2

/-- **A walk**: moves one after the other, as long as they succeed. -/
def walk (fs : FileSystem) (steps : List (String × List NodeId)) : Except TreeError FileSystem :=
  steps.foldlM move fs

theorem move_eq_ok_iff :
    fs.move step = .ok after
      ↔ ∃ target, fs.destination step.1 = .ok target
        ∧ after = { fs with cwd := target }.reclaim step.2 := by
  rw [move, map_eq_ok]
  constructor
  · rintro ⟨⟨target, moved⟩, hmoved, rfl⟩
    obtain ⟨hdestination, rfl⟩ := changeDirectory_eq_ok_iff.1 hmoved
    exact ⟨target, hdestination, rfl⟩
  · rintro ⟨target, hdestination, rfl⟩
    exact ⟨(target, { fs with cwd := target }),
      changeDirectory_eq_ok_iff.2 ⟨hdestination, rfl⟩, rfl⟩

/-- A move fails as the path does. -/
theorem move_eq_error_iff {error : TreeError} :
    fs.move step = .error error ↔ fs.changeDirectory step.1 = .error error :=
  map_eq_error

/-- The first move of a walk, and the walk from there. -/
theorem walk_cons_eq_ok_iff {rest : List (String × List NodeId)} :
    fs.walk (step :: rest) = .ok after
      ↔ ∃ middle, fs.move step = .ok middle ∧ middle.walk rest = .ok after := by
  rw [walk, List.foldlM_cons, bind_eq_ok]
  rfl

/-- A walk of two parts. -/
theorem walk_append_eq_ok_iff {first second : List (String × List NodeId)} :
    fs.walk (first ++ second) = .ok after
      ↔ ∃ middle, fs.walk first = .ok middle ∧ middle.walk second = .ok after := by
  rw [walk, List.foldlM_append, bind_eq_ok]
  rfl

/-- A walk of one move. -/
theorem walk_singleton : fs.walk [step] = fs.move step := by
  rw [walk, List.foldlM_cons]
  cases fs.move step <;> rfl

/-! ## In the tree -/

/-- **A walk has stayed in the tree**: the tree is what it was at the start, and the current
directory belongs to it. -/
structure StaysIn (fs after : FileSystem) : Prop where
  sound : after.Sound
  keeps : fs.forest.KeepsTree after.forest
  cwd : fs.forest.InTree after.cwd

theorem Sound.staysIn (hsound : fs.Sound) (hcwd : fs.forest.InTree fs.cwd) : fs.StaysIn fs :=
  ⟨hsound, .refl _, hcwd⟩

/-- **A move to a directory of the tree** succeeds there and stays in the tree. -/
theorem Sound.move_in (hsound : middle.Sound) (hkeeps : fs.forest.KeepsTree middle.forest)
    (step : String × List NodeId) {target : NodeId}
    (hdestination : middle.destination step.1 = .ok target)
    (htarget : fs.forest.InTree target) :
    ∃ after, middle.move step = .ok after ∧ fs.StaysIn after ∧ after.cwd = target := by
  have hmoved : FileSystem.Sound { middle with cwd := target } :=
    hsound.changeDirectory hdestination
  exact ⟨_, move_eq_ok_iff.2 ⟨target, hdestination, rfl⟩,
    ⟨hmoved.reclaim step.2, hkeeps.reclaim hsound.forest List.mem_cons_self, htarget⟩, rfl⟩

namespace StaysIn

variable (h : fs.StaysIn middle) (hsound : fs.forest.Sound)

include h

/-- Names are those of the children at the start. -/
theorem child?_eq (name : String) : middle.child? name = fs.forest.child? middle.cwd name := by
  rw [FileSystem.child?, Forest.child?, h.keeps.childrenOf h.cwd, Forest.child?]

include hsound

/-- **What becomes of a move by the name of a child**: there is none, or it is a file, or it is the
directory that becomes the current one. -/
theorem enter_cases (hname : NamesChild step.1) :
    (fs.forest.child? middle.cwd (Text.slashless step.1) = none
        ∧ middle.changeDirectory step.1 = .error (.noSuchPath step.1))
      ∨ (∃ file, fs.forest.child? middle.cwd (Text.slashless step.1) = some file
        ∧ fs.forest.isDirectory file = false
        ∧ middle.changeDirectory step.1 = .error (.notADirectory step.1 file))
      ∨ ∃ next, fs.forest.child? middle.cwd (Text.slashless step.1) = some next.cwd
        ∧ fs.forest.isDirectory next.cwd = true ∧ middle.move step = .ok next
        ∧ fs.StaysIn next := by
  have hdestination := @destination_of_namesChild middle step.1 hname
  rw [h.child?_eq] at hdestination
  cases hchild : fs.forest.child? middle.cwd (Text.slashless step.1) with
  | none =>
    rw [hchild] at hdestination
    exact .inl ⟨rfl, by rw [changeDirectory, hdestination]; rfl⟩
  | some id =>
    have htree : fs.forest.InTree id := .of_parentOf (hsound.of_get? hchild).2 h.cwd
    rw [hchild] at hdestination
    simp only [h.keeps.isDirectory htree] at hdestination
    cases hdirectory : fs.forest.isDirectory id with
    | false =>
      rw [hdirectory, if_neg Bool.false_ne_true] at hdestination
      exact .inr (.inl ⟨id, rfl, hdirectory, by rw [changeDirectory, hdestination]; rfl⟩)
    | true =>
      rw [hdirectory, if_pos rfl] at hdestination
      obtain ⟨next, hmove, hstays, rfl⟩ := h.sound.move_in h.keeps step hdestination htree
      exact .inr (.inr ⟨next, rfl, hdirectory, hmove, hstays⟩)

end StaysIn

end FileSystem

end StoryShell
