/-
What copies into one directory leave of a tree.

A tree is **framed** by the one that it started as if its directories are the same, under the same
names and in the same places, if all of them but one have the same children, and if no file has
another name or text (`Forest.Framed`). The one directory is that into which files are copied; if
there is none, no node is different. Copies into this directory keep a tree framed, and so does
letting nodes go: the directories all belong to the tree of the root, so none of them is let go.
-/
import StoryShell.Proofs.Tree.InTree

set_option autoImplicit false

namespace StoryShell

namespace Forest

variable {seed forest : Forest} {bin : Option NodeId}

/-- **A tree that is framed by the one that it started as**, but for what is in one directory. -/
structure Framed (seed : Forest) (bin : Option NodeId) (forest : Forest) : Prop where
  size : seed.slots.size ≤ forest.slots.size
  isDirectory : ∀ id, forest.isDirectory id = seed.isDirectory id
  nameOf : ∀ id, seed.isDirectory id = true → forest.nameOf id = seed.nameOf id
  parentOf : ∀ id, seed.isDirectory id = true → forest.parentOf id = seed.parentOf id
  childrenOf : ∀ id, seed.isDirectory id = true → bin ≠ some id →
    forest.childrenOf id = seed.childrenOf id
  file : ∀ id, seed.node? id ≠ none → forest.node? id ≠ none →
    forest.nameOf id = seed.nameOf id ∧ forest.textOf id = seed.textOf id
  whole : bin = none → ∀ id, forest.node? id = seed.node? id

/-- A tree is framed by itself. -/
theorem Framed.refl (seed : Forest) (bin : Option NodeId) : seed.Framed bin seed where
  size := Nat.le_refl _
  isDirectory := fun _ => rfl
  nameOf := fun _ _ => rfl
  parentOf := fun _ _ => rfl
  childrenOf := fun _ _ _ => rfl
  file := fun _ _ _ => ⟨rfl, rfl⟩
  whole := fun _ _ => rfl

/-! ## What lies in directories -/

/-- A directory other than the one has the same children under the same names. -/
theorem Framed.child? (h : seed.Framed bin forest) {place : NodeId}
    (hplace : seed.isDirectory place = true) (hbin : bin ≠ some place) (name : String) :
    forest.child? place name = seed.child? place name := by
  rw [Forest.child?, h.childrenOf place hplace hbin, Forest.child?]

/-- **What lies in a directory other than the one** still lies there, and has its name. -/
theorem Framed.of_child? (h : seed.Framed bin forest) (hseed : seed.Sound) (hsound : forest.Sound)
    {place id : NodeId} (hplace : seed.isDirectory place = true) (hbin : bin ≠ some place)
    {name : String} (hchild : seed.child? place name = some id) :
    seed.parentOf id = some place ∧ forest.parentOf id = some place
      ∧ forest.nameOf id = seed.nameOf id := by
  have hthere := (hseed.of_get? hchild).2
  have hnow : forest.child? place name = some id := (h.child? hplace hbin name).trans hchild
  have hstill := (hsound.of_get? hnow).2
  exact ⟨hthere, hstill, (h.file id (node?_of_parentOf hthere) (node?_of_parentOf hstill)).1⟩

/-- **A directory that holds files only** never holds a directory. -/
theorem Framed.file_of_child? (h : seed.Framed bin forest) (hseed : seed.Sound)
    (hsound : forest.Sound) {place id : NodeId}
    (hfiles : ∀ child ∈ seed.listing place, seed.isDirectory child = false) {name : String}
    (hchild : forest.child? place name = some id) : forest.isDirectory id = false := by
  rw [h.isDirectory]
  by_contra hdirectory
  rw [Bool.not_eq_false] at hdirectory
  -- a directory lies where it lay at the start
  have hlies := (hsound.of_get? hchild).2
  rw [h.parentOf id hdirectory, ← hseed.mem_listing_iff] at hlies
  rw [hfiles id hlies] at hdirectory
  exact absurd hdirectory (by decide)

/-! ## Letting nodes go -/

/-- **The directories of a tree stay in it.** -/
theorem Framed.inTree (h : seed.Framed bin forest) (hsound : seed.Sound) (htree : seed.IsTree)
    {id : NodeId} (hid : seed.isDirectory id = true) : forest.InTree id := by
  have hup : ∀ {other}, seed.InTree other → seed.isDirectory other = true →
      forest.InTree other := by
    intro other hother
    -- the way up from a directory leads through directories only, which are where they were
    induction hother using Relation.ReflTransGen.head_induction_on with
    | refl =>
      intro _
      exact Relation.ReflTransGen.refl
    | head hlies _ ih =>
      intro hdirectory
      have hforest : forest.LiesIn _ _ := (h.parentOf _ hdirectory).trans hlies
      exact Relation.ReflTransGen.head hforest (ih (hsound.isDirectory_of_parentOf hlies))
  exact hup (htree id (node?_of_isDirectory hid)) hid

/-- Where no node is different, every node belongs to the tree as before. -/
theorem Framed.inTree_of_whole (h : seed.Framed bin forest) (htree : seed.IsTree)
    (hbin : bin = none) {id : NodeId} (hid : seed.node? id ≠ none) : forest.InTree id := by
  have hlies : forest.LiesIn = seed.LiesIn := by
    funext child parent
    rw [LiesIn, LiesIn, Forest.parentOf, h.whole hbin, ← Forest.parentOf]
  rw [InTree, hlies]
  exact htree id hid

/-- A node that is left after nodes were let go was there before, with its name and its text. -/
theorem of_node?_reclaim {wanted : List NodeId} {id : NodeId}
    (h : (forest.reclaim wanted).node? id ≠ none) :
    forest.node? id ≠ none ∧ (forest.reclaim wanted).nameOf id = forest.nameOf id
      ∧ (forest.reclaim wanted).textOf id = forest.textOf id := by
  have hnode := @node?_reclaim forest wanted id
  by_cases hkept : forest.isKept wanted id = true
  · rw [if_pos hkept] at hnode
    rw [Forest.nameOf, Forest.textOf, hnode, Option.map_map, Option.map_map]
    refine ⟨fun hnone => ?_, rfl, rfl⟩
    rw [hnone] at hnode
    exact h hnode
  · rw [if_neg hkept] at hnode
    exact absurd hnode h

/-- **Letting nodes go keeps a tree framed.** -/
theorem Framed.reclaim (h : seed.Framed bin forest) (hseed : seed.Sound) (htree : seed.IsTree)
    (hsound : forest.Sound) (htop : forest.parentOf root = none) {wanted : List NodeId}
    (hroot : root ∈ wanted) : seed.Framed bin (forest.reclaim wanted) := by
  have hsame : ∀ {id}, forest.InTree id → (forest.reclaim wanted).node? id = forest.node? id :=
    fun hid => node?_reclaim_of_inTree hsound htop hroot hid
  have hdirectory : ∀ {id}, seed.isDirectory id = true →
      (forest.reclaim wanted).node? id = forest.node? id :=
    fun hid => hsame (h.inTree hseed htree hid)
  refine ⟨?_, ?_, ?_, ?_, ?_, ?_, ?_⟩
  · rw [Forest.reclaim, Array.size_mapIdx]
    exact h.size
  · intro id
    cases hid : seed.isDirectory id with
    | true =>
      rw [Forest.isDirectory, hdirectory hid, ← Forest.isDirectory, h.isDirectory, hid]
    | false =>
      rw [isDirectory_reclaim, h.isDirectory, hid, Bool.and_false]
  · intro id hid
    rw [Forest.nameOf, hdirectory hid, ← Forest.nameOf, h.nameOf id hid]
  · intro id hid
    rw [Forest.parentOf, hdirectory hid, ← Forest.parentOf, h.parentOf id hid]
  · intro id hid hne
    rw [Forest.childrenOf, hdirectory hid, ← Forest.childrenOf, h.childrenOf id hid hne]
  · intro id hid hleft
    obtain ⟨hthere, hname, htext⟩ := of_node?_reclaim hleft
    rw [hname, htext]
    exact h.file id hid hthere
  · intro hbin id
    by_cases hid : seed.node? id = none
    · rw [node?_reclaim, h.whole hbin, hid, Option.map_none, ite_self]
    · rw [hsame (h.inTree_of_whole htree hbin hid), h.whole hbin]

/-! ## Copying -/

/-- **A copy into the one directory keeps a tree framed.** -/
theorem Framed.copy {fs after : FileSystem} {destination source copy : NodeId}
    (h : seed.Framed (some destination) fs.forest)
    (hcopies : fs.CopiesTo destination source copy after) :
    seed.Framed (some destination) after.forest := by
  have hthere : ∀ {id}, seed.isDirectory id = true → fs.forest.isDirectory id = true := by
    intro id hid
    rw [h.isDirectory, hid]
  have hold : ∀ {id}, seed.node? id ≠ none → id ≠ copy := by
    intro id hid
    rw [hcopies.new]
    exact Nat.ne_of_lt (Nat.lt_of_lt_of_le (lt_size_of_node? hid) h.size)
  refine ⟨?_, ?_, ?_, ?_, ?_, ?_, ?_⟩
  · rw [hcopies.size]
    exact Nat.le_succ_of_le h.size
  · intro id
    rw [hcopies.isDirectory, h.isDirectory]
  · intro id hid
    rw [hcopies.nameOf (hold (node?_of_isDirectory hid)), h.nameOf id hid]
  · intro id hid
    rw [hcopies.parentOf (hthere hid), h.parentOf id hid]
  · intro id hid hne
    have haway : id ≠ destination := by
      intro heq
      exact hne (congrArg some heq.symm)
    rw [Forest.childrenOf, hcopies.node?_of_isDirectory (hthere hid) haway, ← Forest.childrenOf,
      h.childrenOf id hid hne]
  · intro id hid hleft
    have hne := hold hid
    rw [hcopies.nameOf hne, hcopies.textOf hne]
    exact h.file id hid (hcopies.node?_ne_none hne hleft)
  · intro hbin
    exact absurd hbin (by simp)

end Forest

end StoryShell
