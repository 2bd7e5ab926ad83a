/-
Trees that are the same but for the numbers of their nodes.

Two forests are alike if a renumbering takes every node of the one tree to the node that stands for
it in the other (`Forest.Alike`). Nothing is asked of nodes outside the tree, so forests stay alike
when nodes are let go on one side only (`Alike.reclaim`, `Alike.reclaim_other`). Both have as many
numbers, and those not given out yet stand for themselves, so what is created next is created alike.

Whatever is asked of a node of the tree has the same answer on both sides, or answers that stand for
each other: its name, kind and text, the directory above it and those further up, its children in
their order, its path, and what a search finds.
-/
import Mathlib.Data.List.Find
import StoryShell.Proofs.Tree.Paths

set_option autoImplicit false

namespace StoryShell

/-! ## Other values under the same names -/

namespace NameMap

variable {α β : Type}

/-- A map with other values under the same names. -/
def map (f : α → β) (names : NameMap α) : NameMap β :=
  ⟨names.entries.map fun entry => (entry.1, f entry.2), List.pairwise_map.2 names.ordered⟩

theorem lookup_map (f : α → β) (name : String) (entries : List (String × α)) :
    lookup name (entries.map fun entry => (entry.1, f entry.2)) = (lookup name entries).map f := by
  induction entries with
  | nil => rfl
  | cons head rest ih =>
    obtain ⟨key, value⟩ := head
    rw [List.map_cons, lookup, lookup]
    split
    · rfl
    · exact ih

@[simp] theorem get?_map (f : α → β) (names : NameMap α) (name : String) :
    (names.map f).get? name = (names.get? name).map f :=
  lookup_map f name names.entries

theorem values_map (f : α → β) (names : NameMap α) :
    (names.map f).values = names.values.map f := by
  simp [values, map]

theorem map_insert (f : α → β) (names : NameMap α) (name : String) (value : α) :
    (names.insert name value).map f = (names.map f).insert name (f value) := by
  refine ext_get? fun key => ?_
  rw [get?_map, get?_insert, get?_insert, get?_map]
  split
  · rfl
  · rfl

theorem map_id (names : NameMap α) : names.map id = names := by
  refine ext_get? fun key => ?_
  rw [get?_map, Option.map_id, id_eq]

end NameMap

/-! ## Other numbers for nodes -/

/-- A body in which every child goes by another number. -/
def Body.renumber (f : NodeId → NodeId) : Body → Body
  | .file text => .file text
  | .directory children => .directory (children.map f)

namespace Node

variable (f : NodeId → NodeId) (node : Node)

/-- **A node in which every other one goes by another number.** -/
def renumber : Node := ⟨node.name, node.parent.map f, node.body.renumber f⟩

@[simp] theorem renumber_name : (node.renumber f).name = node.name := rfl

@[simp] theorem renumber_parent : (node.renumber f).parent = node.parent.map f := rfl

@[simp] theorem renumber_isDirectory : (node.renumber f).isDirectory = node.isDirectory := by
  obtain ⟨name, parent, body⟩ := node
  cases body <;> rfl

@[simp] theorem renumber_text : (node.renumber f).text = node.text := by
  obtain ⟨name, parent, body⟩ := node
  cases body <;> rfl

@[simp] theorem renumber_displayName : (node.renumber f).displayName = node.displayName := by
  rw [displayName, displayName, renumber_isDirectory, renumber_name]

@[simp] theorem renumber_children : (node.renumber f).children = node.children.map f := by
  obtain ⟨name, parent, body⟩ := node
  cases body <;> rfl

/-- Children that are changed alike are alike. -/
theorem renumber_withChildren {change other : NameMap NodeId → NameMap NodeId}
    (h : ∀ children, (change children).map f = other (children.map f)) :
    (node.withChildren change).renumber f = (node.renumber f).withChildren other := by
  obtain ⟨name, parent, body⟩ := node
  cases body with
  | file text => rfl
  | directory children =>
    exact congrArg (fun found => (⟨name, parent.map f, .directory found⟩ : Node)) (h children)

theorem renumber_id : node.renumber id = node := by
  obtain ⟨name, parent, body⟩ := node
  cases body with
  | file text => simp [renumber, Body.renumber]
  | directory children => simp [renumber, Body.renumber, NameMap.map_id]

end Node

namespace Forest

/-! ## Forests -/

/-- **Forests that are alike**: sound ones with the root at the top, whose trees are the same but
for the numbers of the nodes. -/
structure Alike (f : NodeId → NodeId) (forest other : Forest) : Prop where
  injective : Function.Injective f
  root : f Forest.root = Forest.root
  size : other.slots.size = forest.slots.size
  fixed : ∀ id, forest.slots.size ≤ id → f id = id
  sound : forest.Sound
  otherSound : other.Sound
  top : forest.parentOf Forest.root = none
  otherTop : other.parentOf Forest.root = none
  node? : ∀ {id}, forest.InTree id → other.node? (f id) = (forest.node? id).map (Node.renumber f)

variable {forest other : Forest} {f : NodeId → NodeId}

/-- A forest is like itself, with every number as it is. -/
theorem Alike.refl (hsound : forest.Sound) (htop : forest.parentOf Forest.root = none) :
    forest.Alike id forest where
  injective := Function.injective_id
  root := rfl
  size := rfl
  fixed := fun _ _ => rfl
  sound := hsound
  otherSound := hsound
  top := htop
  otherTop := htop
  node? := fun {found} _ => by
    have hsame : Node.renumber id = id := funext Node.renumber_id
    rw [hsame, Option.map_id, id_eq, id_eq]

namespace Alike

variable (h : forest.Alike f other) {id parent : NodeId}

include h

/-! ### What is asked of a node -/

/-- What does not depend on numbers is the same for nodes that stand for each other. -/
theorem map_node? {α : Type} {part : Node → α}
    (hpart : ∀ node, part (Node.renumber f node) = part node) (hid : forest.InTree id) :
    (other.node? (f id)).map part = (forest.node? id).map part := by
  rw [h.node? hid, Option.map_map]
  exact Option.map_congr fun node _ => hpart node

theorem nameOf (hid : forest.InTree id) : other.nameOf (f id) = forest.nameOf id := by
  rw [Forest.nameOf, h.map_node? (Node.renumber_name f) hid, Forest.nameOf]

theorem isDirectory (hid : forest.InTree id) :
    other.isDirectory (f id) = forest.isDirectory id := by
  rw [Forest.isDirectory, h.map_node? (Node.renumber_isDirectory f) hid, Forest.isDirectory]

theorem textOf (hid : forest.InTree id) : other.textOf (f id) = forest.textOf id := by
  rw [Forest.textOf, h.map_node? (Node.renumber_text f) hid, Forest.textOf]

theorem displayName (hid : forest.InTree id) :
    other.displayName (f id) = forest.displayName id := by
  rw [Forest.displayName, h.map_node? (Node.renumber_displayName f) hid, Forest.displayName]

/-- **The directory above a node** stands for the one above the other. -/
theorem parentOf (hid : forest.InTree id) : other.parentOf (f id) = (forest.parentOf id).map f := by
  rw [Forest.parentOf, h.node? hid, Forest.parentOf]
  cases forest.node? id with
  | none => rfl
  | some node => exact node.renumber_parent f

/-- **The children of a directory** have the same keys and stand for each other. -/
theorem childrenOf (hid : forest.InTree id) :
    other.childrenOf (f id) = (forest.childrenOf id).map f := by
  rw [Forest.childrenOf, h.node? hid, Forest.childrenOf]
  cases forest.node? id with
  | none => rfl
  | some node => exact node.renumber_children f

theorem child? (hid : forest.InTree id) (name : String) :
    other.child? (f id) name = (forest.child? id name).map f := by
  rw [Forest.child?, h.childrenOf hid, NameMap.get?_map, Forest.child?]

theorem listing (hid : forest.InTree id) : other.listing (f id) = (forest.listing id).map f := by
  rw [Forest.listing, h.childrenOf hid, NameMap.values_map, Forest.listing]

omit h in
/-- A child of a directory of the tree belongs to the tree. -/
theorem inTree_child (hsound : forest.Sound) (hparent : forest.InTree parent) {name : String}
    (hchild : forest.child? parent name = some id) : forest.InTree id :=
  .of_parentOf (hsound.of_get? hchild).2 hparent

/-! ### The tree -/

/-- **What stands for a node of the tree belongs to the other tree.** -/
theorem inTree (hid : forest.InTree id) : other.InTree (f id) := by
  induction hid using Relation.ReflTransGen.head_induction_on with
  | refl =>
    rw [h.root]
    exact Relation.ReflTransGen.refl
  | head hlies hparent ih =>
    refine .of_parentOf ?_ ih
    rw [h.parentOf (.of_parentOf hlies hparent), hlies]
    rfl

/-- **Every node of the other tree stands for one.** -/
theorem exists_of_inTree {found : NodeId} (hfound : other.InTree found) :
    ∃ id, forest.InTree id ∧ f id = found := by
  induction hfound using Relation.ReflTransGen.head_induction_on with
  | refl => exact ⟨Forest.root, Relation.ReflTransGen.refl, h.root⟩
  | @head below above hlies _ ih =>
    -- the directory above stands for one, and this one has a child of that name
    obtain ⟨directory, hdirectory, rfl⟩ := ih
    have hchild := h.otherSound.child?_of_parentOf hlies
    rw [h.child? hdirectory] at hchild
    obtain ⟨id, hid, hbelow⟩ := Option.map_eq_some_iff.1 hchild
    exact ⟨id, inTree_child h.sound hdirectory hid, hbelow⟩

theorem inTree_iff : other.InTree (f id) ↔ forest.InTree id := by
  refine ⟨fun hid => ?_, h.inTree⟩
  obtain ⟨same, hsame, heq⟩ := h.exists_of_inTree hid
  rwa [← h.injective heq]

theorem isAttached : other.isAttached (f id) = forest.isAttached id := by
  rw [Bool.eq_iff_iff, h.otherSound.isAttached_iff, h.sound.isAttached_iff, h.inTree_iff]

/-- Only the root stands for the root. -/
theorem eq_root_iff : f id = Forest.root ↔ id = Forest.root := by
  constructor
  · intro hid
    exact h.injective (hid.trans h.root.symm)
  · rintro rfl
    exact h.root

/-! ### Paths -/

/-- **The names on the way to a node** are those on the way to the other. -/
theorem segments (hid : forest.InTree id) : other.segments (f id) = forest.segments id := by
  induction hid using Relation.ReflTransGen.head_induction_on with
  | refl => rw [h.root, segments_root h.top, segments_root h.otherTop]
  | @head below above hlies hparent ih =>
    have hbelow := InTree.of_parentOf hlies hparent
    have hother : other.parentOf (f below) = some (f above) := by
      rw [h.parentOf hbelow, hlies]
      rfl
    rw [segments_of_parentOf h.sound h.top hlies,
      segments_of_parentOf h.otherSound h.otherTop hother, ih, h.nameOf hbelow]

theorem barePath (hid : forest.InTree id) : other.barePath (f id) = forest.barePath id := by
  rw [Forest.barePath, h.segments hid, Forest.barePath]

/-- **Nodes that stand for each other have the same path.** -/
theorem pathOf (hid : forest.InTree id) : other.pathOf (f id) = forest.pathOf id := by
  rw [Forest.pathOf, Forest.pathOf, h.isDirectory hid, h.barePath hid]
  simp only [h.eq_root_iff]

/-- Names lead from nodes that stand for each other to nodes that do. -/
theorem foldlM_child? (names : List String) (hid : forest.InTree id) :
    names.foldlM other.child? (f id) = (names.foldlM forest.child? id).map f := by
  induction names generalizing id with
  | nil => rfl
  | cons name rest ih =>
    rw [List.foldlM_cons, List.foldlM_cons, h.child? hid]
    cases hchild : forest.child? id name with
    | none => rfl
    | some child => exact ih (inTree_child h.sound hid hchild)

/-- **A path leads to nodes that stand for each other.** -/
theorem resolve (path : String) : other.resolve path = (forest.resolve path).map f := by
  have hroot : forest.InTree Forest.root := Relation.ReflTransGen.refl
  rw [Forest.resolve, Forest.resolve, ← h.foldlM_child? _ hroot, h.root]

/-! ### Searching -/

/-- The level below nodes that stand for each other. -/
theorem flatMap_listing {level : List NodeId} (hlevel : ∀ id ∈ level, forest.InTree id) :
    (level.map f).flatMap other.listing = (level.flatMap forest.listing).map f := by
  rw [List.flatMap_map, List.map_flatMap]
  exact List.flatMap_congr fun id hid => h.listing (hlevel id hid)

omit h in
/-- What is on the level below nodes of the tree belongs to the tree. -/
theorem inTree_below (hsound : forest.Sound) {level : List NodeId}
    (hlevel : ∀ id ∈ level, forest.InTree id) :
    ∀ id ∈ level.flatMap forest.listing, forest.InTree id := by
  intro id hid
  obtain ⟨parent, hparent, hchild⟩ := List.mem_flatMap.1 hid
  exact .of_parentOf (hsound.mem_listing_iff.1 hchild) (hlevel parent hparent)

/-- A search through nodes of the tree comes to nodes that stand for each other. -/
theorem searchLevels (key : String) {depth : Nat} {level : List NodeId}
    (hlevel : ∀ id ∈ level, forest.InTree id) :
    other.searchLevels key depth (level.map f) = (forest.searchLevels key depth level).map f := by
  induction depth generalizing level with
  | zero => rfl
  | succ depth ih =>
    have hbelow := inTree_below h.sound hlevel
    have hfind : ((level.flatMap forest.listing).map f).find?
          (fun id => Text.lower (other.nameOf id) = key)
        = ((level.flatMap forest.listing).find? fun id =>
          Text.lower (forest.nameOf id) = key).map f := by
      rw [List.find?_map]
      refine congrArg (Option.map f) (List.find?_congr fun id hid => ?_)
      rw [Function.comp, h.nameOf (hbelow id hid)]
    simp only [Forest.searchLevels]
    rw [h.flatMap_listing hlevel, hfind]
    cases (level.flatMap forest.listing).find? fun id => Text.lower (forest.nameOf id) = key with
    | some found => rfl
    | none => exact ih hbelow

omit h in
/-- The level where a search begins belongs to the tree. -/
theorem inTree_first (forest : Forest) : ∀ id ∈ [Forest.root], forest.InTree id := by
  intro id hid
  rw [List.mem_singleton.1 hid]
  exact Relation.ReflTransGen.refl

/-- **A search finds nodes that stand for each other.** -/
theorem find (name : String) : other.find name = (forest.find name).map f := by
  have hsearch : other.searchLevels (Text.lower name) forest.slots.size ([Forest.root].map f)
      = (forest.searchLevels (Text.lower name) forest.slots.size [Forest.root]).map f :=
    h.searchLevels (Text.lower name) (inTree_first forest)
  rw [List.map_singleton, h.root] at hsearch
  rw [Forest.find, h.size, hsearch, Forest.find]

end Alike

/-! ## Letting nodes go -/

/-- **Letting nodes go leaves the tree as large as it is.** -/
theorem inTree_reclaim_iff (hsound : forest.Sound) {wanted : List NodeId} (hroot : root ∈ wanted)
    {id : NodeId} : (forest.reclaim wanted).InTree id ↔ forest.InTree id := by
  constructor
  · intro hid
    exact Relation.ReflTransGen.mono
      (fun _ _ hlies => (parentOf_reclaim_eq_some_iff.1 hlies).2.2) _ _ hid
  · intro hid
    induction hid using Relation.ReflTransGen.head_induction_on with
    | refl => exact Relation.ReflTransGen.refl
    | head hlies hparent ih =>
      have hbelow := InTree.of_parentOf hlies hparent
      exact .of_parentOf (parentOf_reclaim_eq_some_iff.2
        ⟨hbelow.isKept hsound hroot, InTree.isKept hsound hroot hparent, hlies⟩) ih

/-- A root at the top stays there when nodes are let go. -/
theorem parentOf_root_reclaim (htop : forest.parentOf root = none) (wanted : List NodeId) :
    (forest.reclaim wanted).parentOf root = none := by
  cases hparent : (forest.reclaim wanted).parentOf root with
  | none => rfl
  | some parent =>
    rw [(parentOf_reclaim_eq_some_iff.1 hparent).2.2] at htop
    exact absurd htop (by simp)

namespace Alike

variable (h : forest.Alike f other) {wanted : List NodeId} (hroot : Forest.root ∈ wanted)

include h hroot

/-- **Nodes that are let go on the one side.** -/
theorem reclaim : (forest.reclaim wanted).Alike f other where
  injective := h.injective
  root := h.root
  size := h.size.trans (size_reclaim _ wanted).symm
  fixed := fun id hid => h.fixed id (by rwa [size_reclaim] at hid)
  sound := h.sound.reclaim wanted
  otherSound := h.otherSound
  top := parentOf_root_reclaim h.top wanted
  otherTop := h.otherTop
  node? := fun {id} hid => by
    have htree := (inTree_reclaim_iff h.sound hroot).1 hid
    rw [node?_reclaim_of_inTree h.sound h.top hroot htree]
    exact h.node? htree

/-- **Nodes that are let go on the other side.** -/
theorem reclaim_other : forest.Alike f (other.reclaim wanted) where
  injective := h.injective
  root := h.root
  size := (size_reclaim _ wanted).trans h.size
  fixed := h.fixed
  sound := h.sound
  otherSound := h.otherSound.reclaim wanted
  top := h.top
  otherTop := parentOf_root_reclaim h.otherTop wanted
  node? := fun {id} hid => by
    rw [node?_reclaim_of_inTree h.otherSound h.otherTop hroot (h.inTree hid)]
    exact h.node? hid

end Alike

end Forest

end StoryShell
