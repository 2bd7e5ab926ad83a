/-
Nodes that belong to the tree of the root.

A node belongs to the tree if the way up from it leads to the root. As long as the root is wanted
and stays at the top, letting nodes go leaves every such node exactly as it is
(`node?_reclaim_of_inTree`); so if all nodes belong to the tree, nothing is ever let go. They all do
after any creating of nodes in directories (`IsTree.createIn`).
-/
import Mathlib.Data.List.TakeWhile
import StoryShell.Proofs.Tree.Effects

set_option autoImplicit false

namespace StoryShell

namespace Forest

variable {forest : Forest}

/-- **A node belongs to the tree** if the way up from it leads to the root. -/
def InTree (forest : Forest) (id : NodeId) : Prop := Relation.ReflTransGen forest.LiesIn id root

/-- A forest that is a single tree. -/
def IsTree (forest : Forest) : Prop := ∀ id, forest.node? id ≠ none → forest.InTree id

/-- The way up leads on, or it is at the root. -/
theorem inTree_iff {id : NodeId} :
    forest.InTree id
      ↔ id = root ∨ ∃ parent, forest.parentOf id = some parent ∧ forest.InTree parent :=
  Relation.ReflTransGen.cases_head_iff

/-- What lies in a directory of the tree belongs to it. -/
theorem InTree.of_parentOf {child parent : NodeId} (h : forest.parentOf child = some parent)
    (hparent : forest.InTree parent) : forest.InTree child :=
  Relation.ReflTransGen.head h hparent

/-- A directory stays in the tree if the directories above it stay where they are. -/
theorem InTree.of_kept_links (hsound : forest.Sound) {other : Forest}
    (hlinks : ∀ {child parent}, forest.isDirectory child = true → forest.LiesIn child parent →
      forest.InTree parent → other.LiesIn child parent)
    {id : NodeId} (hid : forest.isDirectory id = true) (h : forest.InTree id) :
    other.InTree id := by
  induction h using Relation.ReflTransGen.head_induction_on with
  | refl => exact Relation.ReflTransGen.refl
  | head hlies hparent ih =>
    exact .head (hlinks hid hlies hparent) (ih (hsound.isDirectory_of_parentOf hlies))

/-- In a sound forest what has a parent is held by it. -/
theorem Sound.isHeld_iff (hsound : forest.Sound) {id : NodeId} :
    forest.isHeld id = true ↔ ∃ parent, forest.parentOf id = some parent := by
  rw [isHeld]
  cases hparent : forest.parentOf id with
  | none => simp
  | some parent => simp [hsound.child?_of_parentOf hparent]

/-- **The walk up that looks for the root finds it** just if the node belongs to the tree. -/
theorem Sound.isAttached_iff (hsound : forest.Sound) {id : NodeId} :
    forest.isAttached id = true ↔ forest.InTree id := by
  constructor
  · intro h
    by_contra hout
    -- the walk does not meet the root, so it goes on to the top, which nothing holds
    have hmeets : root ∉ forest.lineage id := fun hmem => hout (hsound.mem_lineage_iff.1 hmem)
    have hwhole : (forest.lineage id).takeWhile (· ≠ root) = forest.lineage id := by
      rw [List.takeWhile_eq_self_iff]
      intro other hother
      exact decide_eq_true fun heq => hmeets (heq ▸ hother)
    obtain ⟨top, hlast, htop⟩ := hsound.lineage_ends id
    rw [isAttached, hwhole, List.all_eq_true] at h
    obtain ⟨parent, hparent⟩ := hsound.isHeld_iff.1 (h top (List.mem_of_getLast? hlast))
    rw [htop] at hparent
    exact absurd hparent (by simp)
  · intro h
    induction h using Relation.ReflTransGen.head_induction_on with
    | refl =>
      obtain ⟨above, hlineage⟩ := forest.exists_lineage_eq root
      simp [isAttached, hlineage]
    | @head child parent hlies _ ih =>
      rw [isAttached, hsound.lineage_of_parentOf hlies]
      by_cases hroot : child = root
      · simp [hroot]
      · rw [List.takeWhile_cons_of_pos (by simpa using hroot), List.all_cons, Bool.and_eq_true]
        exact ⟨hsound.isHeld_iff.2 ⟨parent, hlies⟩, ih⟩

/-- What belongs to the tree is kept with the root. -/
theorem InTree.isKept (hsound : forest.Sound) {wanted : List NodeId} (hroot : root ∈ wanted)
    {id : NodeId} (h : forest.InTree id) : forest.isKept wanted id = true := by
  rw [Forest.isKept, List.any_eq_true]
  exact ⟨root, hsound.mem_lineage_iff.2 h, List.contains_iff_mem.2 hroot⟩

/-- **Letting nodes go leaves what belongs to the tree exactly as it is.** -/
theorem node?_reclaim_of_inTree (hsound : forest.Sound) (htop : forest.parentOf root = none)
    {wanted : List NodeId} (hroot : root ∈ wanted) {id : NodeId} (h : forest.InTree id) :
    (forest.reclaim wanted).node? id = forest.node? id := by
  rw [node?_reclaim, if_pos (h.isKept hsound hroot)]
  cases hnode : forest.node? id with
  | none => rfl
  | some node =>
    have hparentOf : forest.parentOf id = node.parent := by rw [parentOf, hnode, Option.bind_some]
    -- a node of the tree has no parent, or one that belongs to the tree as well
    have hparent : node.parent.filter (forest.isKept wanted) = node.parent := by
      rw [← hparentOf]
      rcases inTree_iff.1 h with hid | ⟨parent, hlies, hparent⟩
      · rw [hid, htop]
        rfl
      · rw [hlies, Option.filter_some, if_pos (hparent.isKept hsound hroot)]
    rw [Option.map_some, hparent]

end Forest

namespace FileSystem

variable {fs : FileSystem}

/-- The empty root is a tree. -/
theorem isTree_initial : initial.forest.IsTree := by
  intro id hid
  have hroot : id = Forest.root := by
    have hlt : id < initial.forest.slots.size := Forest.lt_size_of_node? hid
    exact Nat.lt_one_iff.1 hlt
  rw [hroot]
  exact Relation.ReflTransGen.refl

/-- Creating a node in a directory leaves every node where it is. -/
theorem liesIn_createIn {parent id : NodeId} {name : String} {body : Body} {after : FileSystem}
    (hparent : fs.forest.isDirectory parent = true) (hbare : body.children = NameMap.empty)
    (h : fs.createIn parent name body = .ok (id, after)) {child holder : NodeId}
    (hlies : fs.forest.LiesIn child holder) : after.forest.LiesIn child holder := by
  have hne : child ≠ id := by
    rw [(size_createIn hbare h).1]
    exact Nat.ne_of_lt (Forest.lt_size_of_node? (Forest.node?_of_parentOf hlies))
  rw [Forest.LiesIn, Forest.parentOf] at hlies ⊢
  rw [node?_createIn hparent hbare h, if_neg hne]
  split
  · rw [Option.bind_map]
    simpa [Function.comp_def] using hlies
  · exact hlies

/-- **Creating a node in a directory leaves a tree.** -/
theorem isTree_createIn (htree : fs.forest.IsTree) {parent id : NodeId} {name : String}
    {body : Body} {after : FileSystem} (hparent : fs.forest.isDirectory parent = true)
    (hbare : body.children = NameMap.empty) (h : fs.createIn parent name body = .ok (id, after)) :
    after.forest.IsTree := by
  have hnode := node?_createIn hparent hbare h
  have hold : ∀ {other}, fs.forest.InTree other → after.forest.InTree other := fun hother =>
    Relation.ReflTransGen.mono (fun _ _ hlies => liesIn_createIn hparent hbare h hlies) _ _ hother
  intro other hother
  by_cases hid : other = id
  · -- the new node lies in a directory of the tree
    have hparentTree := hold (htree parent (Forest.node?_of_isDirectory hparent))
    refine Forest.inTree_iff.2 (.inr ⟨parent, ?_, hparentTree⟩)
    rw [Forest.parentOf, hnode, if_pos hid]
    rfl
  · refine hold (htree other ?_)
    intro hnone
    rw [hnode, if_neg hid, hnone] at hother
    simp at hother

end FileSystem

end StoryShell
