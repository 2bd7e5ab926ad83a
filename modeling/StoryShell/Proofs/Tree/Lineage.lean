/-
Sound forests, and the walks in them.

The tree is written down twice: a directory holds its children under their keys, and a child
remembers the directory that holds it. A forest is **sound** (`Forest.Sound`) if the two tell the
same story and no node lies below itself.

In a sound forest every walk comes to an end. A walk up meets no node twice, so it is over after at
most as many steps as there are nodes: the lineage of a node really ends at the top of its tree
(`lineage_ends`), more steps find nothing more (`climb_eq_lineage`), and a lineage is exactly what
can be reached upwards (`mem_lineage_iff`). For the same reason the levels below the root run out
(`level_eq_nil`), and a search that goes through them level by level has an end.
-/
import Mathlib.Data.List.Perm.Subperm
import StoryShell.Proofs.Tree.Nodes

set_option autoImplicit false

namespace StoryShell.Forest

variable {forest : Forest}

/-! ## Sound forests -/

/-- A node lies in a directory if it takes it for its parent. -/
def LiesIn (forest : Forest) (child parent : NodeId) : Prop :=
  forest.parentOf child = some parent

/-- No node lies below itself. -/
def Acyclic (forest : Forest) : Prop := ∀ id, ¬ Relation.TransGen forest.LiesIn id id

/-- **A sound forest.** -/
structure Sound (forest : Forest) : Prop where
  /-- What a directory holds under a key has this key, and takes the directory for its parent. -/
  of_get? : ∀ {directory key child}, (forest.childrenOf directory).get? key = some child →
    key = Text.lower (forest.nameOf child) ∧ forest.parentOf child = some directory
  /-- What a node takes for its parent holds it by its name. -/
  child?_of_parentOf : ∀ {child parent}, forest.parentOf child = some parent →
    forest.child? parent (forest.nameOf child) = some child
  acyclic : forest.Acyclic

/-- What has a parent exists. -/
theorem node?_of_parentOf {child parent : NodeId} (h : forest.parentOf child = some parent) :
    forest.node? child ≠ none := by
  intro hnone
  simp [parentOf, hnone] at h

/-- What holds a child exists. -/
theorem node?_of_get? {directory child : NodeId} {key : String}
    (h : (forest.childrenOf directory).get? key = some child) :
    forest.node? directory ≠ none := by
  intro hnone
  simp [childrenOf, hnone] at h

/-- What holds a child is a directory. -/
theorem isDirectory_of_get? {directory child : NodeId} {key : String}
    (h : (forest.childrenOf directory).get? key = some child) :
    forest.isDirectory directory = true := by
  obtain ⟨node, hnode⟩ := Option.ne_none_iff_exists'.1 (node?_of_get? h)
  by_contra hfile
  have hfile' : node.isDirectory = false := by simpa [isDirectory, hnode] using hfile
  simp [childrenOf, hnode, Node.children_of_not_isDirectory hfile'] at h

/-- What holds a node is a directory. -/
theorem Sound.isDirectory_of_parentOf (hsound : forest.Sound) {child parent : NodeId}
    (h : forest.parentOf child = some parent) : forest.isDirectory parent = true :=
  isDirectory_of_get? (hsound.child?_of_parentOf h)

/-- What exists as a directory exists. -/
theorem node?_of_isDirectory {id : NodeId} (h : forest.isDirectory id = true) :
    forest.node? id ≠ none := by
  intro hnone
  simp [isDirectory, hnone] at h

/-- The children of a directory are those that lie in it. -/
theorem Sound.mem_listing_iff (hsound : forest.Sound) {directory child : NodeId} :
    child ∈ forest.listing directory ↔ forest.parentOf child = some directory := by
  rw [listing, NameMap.mem_values_iff]
  constructor
  · rintro ⟨key, hget⟩
    exact (hsound.of_get? hget).2
  · intro hparent
    exact ⟨_, hsound.child?_of_parentOf hparent⟩

/-! ## Climbing -/

theorem climb_of_parentOf_none {id : NodeId} (h : forest.parentOf id = none) (steps : Nat) :
    forest.climb steps id = [id] := by
  cases steps with
  | zero => rfl
  | succ steps => rw [climb, h]

theorem climb_succ_of_parentOf {id parent : NodeId} (h : forest.parentOf id = some parent)
    (steps : Nat) : forest.climb (steps + 1) id = id :: forest.climb steps parent := by
  rw [climb, h]

theorem self_mem_climb (steps : Nat) (id : NodeId) : id ∈ forest.climb steps id := by
  cases steps with
  | zero => simp [climb]
  | succ steps =>
    rw [climb]
    split <;> simp

/-- A climb meets only what can be reached upwards. -/
theorem reflTransGen_of_mem_climb {steps : Nat} {id above : NodeId}
    (h : above ∈ forest.climb steps id) : Relation.ReflTransGen forest.LiesIn id above := by
  induction steps generalizing id with
  | zero =>
    have hid : above = id := by simpa [climb] using h
    rw [hid]
  | succ steps ih =>
    rw [climb] at h
    split at h
    · have hid : above = id := by simpa using h
      rw [hid]
    · rename_i parent hparent
      rcases List.mem_cons.1 h with rfl | h
      · exact .refl
      · exact .head hparent (ih h)

/-- A climb meets no node twice. -/
theorem nodup_climb (hacyclic : forest.Acyclic) (steps : Nat) (id : NodeId) :
    (forest.climb steps id).Nodup := by
  induction steps generalizing id with
  | zero => simp [climb]
  | succ steps ih =>
    rw [climb]
    split
    · simp
    · rename_i parent hparent
      refine List.nodup_cons.2 ⟨fun hmem => ?_, ih parent⟩
      exact hacyclic id (.head' hparent (reflTransGen_of_mem_climb hmem))

/-- A walk that has come to a node without a parent. -/
def Ends (forest : Forest) (walk : List NodeId) : Prop :=
  ∃ top, walk.getLast? = some top ∧ forest.parentOf top = none

/-- The end of a walk does not depend on where it starts. -/
theorem ends_cons_climb_iff {steps : Nat} {id parent : NodeId} :
    forest.Ends (id :: forest.climb steps parent) ↔ forest.Ends (forest.climb steps parent) := by
  obtain ⟨first, rest, hwalk⟩ :=
    List.exists_cons_of_ne_nil (List.ne_nil_of_mem (forest.self_mem_climb steps parent))
  rw [Ends, Ends, hwalk, List.getLast?_cons_cons]

/-- A climb has ended, or it has made all its steps. -/
theorem ends_or_length_climb (steps : Nat) (id : NodeId) :
    forest.Ends (forest.climb steps id) ∨ (forest.climb steps id).length = steps + 1 := by
  induction steps generalizing id with
  | zero => exact .inr rfl
  | succ steps ih =>
    cases hparent : forest.parentOf id with
    | none => exact .inl (by rw [climb_of_parentOf_none hparent]; exact ⟨id, rfl, hparent⟩)
    | some parent =>
      rw [climb_succ_of_parentOf hparent, ends_cons_climb_iff, List.length_cons]
      exact (ih parent).imp_right fun hlength => by omega

/-- A climb that has ended goes no further. -/
theorem climb_of_ends {steps more : Nat} {id : NodeId} (hle : steps ≤ more)
    (h : forest.Ends (forest.climb steps id)) : forest.climb more id = forest.climb steps id := by
  induction steps generalizing id more with
  | zero =>
    obtain ⟨top, hlast, htop⟩ := h
    have hid : id = top := by simpa [climb] using hlast
    rw [climb_of_parentOf_none (hid ▸ htop), climb]
  | succ steps ih =>
    obtain ⟨more, rfl⟩ : ∃ m, more = m + 1 := ⟨more - 1, by omega⟩
    cases hparent : forest.parentOf id with
    | none => rw [climb_of_parentOf_none hparent, climb_of_parentOf_none hparent]
    | some parent =>
      rw [climb_succ_of_parentOf hparent, ends_cons_climb_iff] at h
      rw [climb_succ_of_parentOf hparent, climb_succ_of_parentOf hparent, ih (by omega) h]

/-- Nodes that all exist and are all different are at most as many as there are slots. -/
theorem length_le_size {walk : List NodeId} (hnodup : walk.Nodup)
    (hexist : ∀ id ∈ walk, forest.node? id ≠ none) : walk.length ≤ forest.slots.size := by
  have hsubset : walk ⊆ List.range forest.slots.size := fun id hid =>
    List.mem_range.2 (lt_size_of_node? (hexist id hid))
  have hlength := (hnodup.subperm hsubset).length_le
  rwa [List.length_range] at hlength

/-! ## Lineages -/

/-- A lineage starts with its node. -/
theorem exists_lineage_eq (forest : Forest) (id : NodeId) :
    ∃ above, forest.lineage id = id :: above := by
  rw [lineage]
  cases forest.slots.size with
  | zero => exact ⟨[], rfl⟩
  | succ steps =>
    rw [climb]
    split
    · exact ⟨[], rfl⟩
    · exact ⟨_, rfl⟩

namespace Sound

variable (hsound : forest.Sound)

include hsound

/-- A parent exists. -/
theorem node?_parent {child parent : NodeId} (h : forest.parentOf child = some parent) :
    forest.node? parent ≠ none :=
  node?_of_get? (hsound.child?_of_parentOf h)

/-- What is met on the way up from a node that exists, exists. -/
theorem node?_of_mem_climb {steps : Nat} {id above : NodeId} (hid : forest.node? id ≠ none)
    (h : above ∈ forest.climb steps id) : forest.node? above ≠ none := by
  rcases Relation.ReflTransGen.cases_tail (reflTransGen_of_mem_climb h) with rfl | ⟨below, -, hlies⟩
  · exact hid
  · exact hsound.node?_parent hlies

/-- No climb is longer than there are nodes. -/
theorem length_climb_le (steps : Nat) {id : NodeId} (hid : forest.node? id ≠ none) :
    (forest.climb steps id).length ≤ forest.slots.size :=
  length_le_size (nodup_climb hsound.acyclic steps id) fun _ h => hsound.node?_of_mem_climb hid h

/-- **A lineage ends** at the top of the tree that its node is in. -/
theorem lineage_ends (id : NodeId) : forest.Ends (forest.lineage id) := by
  by_cases hid : forest.node? id = none
  · have hparent : forest.parentOf id = none := by simp [parentOf, hid]
    rw [lineage, climb_of_parentOf_none hparent]
    exact ⟨id, rfl, hparent⟩
  · -- a walk that has not ended would have met more nodes than there are
    have hclimb : forest.Ends (forest.lineage id)
        ∨ (forest.lineage id).length = forest.slots.size + 1 := ends_or_length_climb _ id
    rcases hclimb with hends | hlength
    · exact hends
    · have hle : (forest.lineage id).length ≤ forest.slots.size := hsound.length_climb_le _ hid
      omega

/-- **More steps find nothing more.** -/
theorem climb_eq_lineage {steps : Nat} (h : forest.slots.size ≤ steps) (id : NodeId) :
    forest.climb steps id = forest.lineage id :=
  climb_of_ends h (hsound.lineage_ends id)

/-- The lineage of a node that lies in a directory is that of the directory and itself. -/
theorem lineage_of_parentOf {id parent : NodeId} (h : forest.parentOf id = some parent) :
    forest.lineage id = id :: forest.lineage parent := by
  rw [← hsound.climb_eq_lineage (Nat.le_succ _) id, climb_succ_of_parentOf h, lineage]

/-- **A lineage is what can be reached upwards.** -/
theorem mem_lineage_iff {id above : NodeId} :
    above ∈ forest.lineage id ↔ Relation.ReflTransGen forest.LiesIn id above := by
  constructor
  · exact reflTransGen_of_mem_climb
  · intro h
    induction h using Relation.ReflTransGen.head_induction_on with
    | refl => exact self_mem_climb _ above
    | head hlies _ ih =>
      rw [hsound.lineage_of_parentOf hlies]
      exact List.mem_cons_of_mem _ ih

end Sound

/-! ## Levels -/

/-- The nodes that are a number of steps below the root, in the order in which a search meets
them. -/
def level (forest : Forest) : Nat → List NodeId
  | 0 => [root]
  | depth + 1 => (forest.level depth).flatMap forest.listing

/-- What lies deep has a long lineage. -/
theorem Sound.lt_length_lineage (hsound : forest.Sound) {depth : Nat} {id : NodeId}
    (h : id ∈ forest.level depth) : depth < (forest.lineage id).length := by
  induction depth generalizing id with
  | zero => exact List.length_pos_of_mem (self_mem_climb _ id)
  | succ depth ih =>
    obtain ⟨parent, hparent, hid⟩ := List.mem_flatMap.1 h
    have hlength := ih hparent
    rw [hsound.lineage_of_parentOf (hsound.mem_listing_iff.1 hid), List.length_cons]
    omega

/-- **The levels below the root run out**: there are at most as many as there are nodes. -/
theorem Sound.level_eq_nil (hsound : forest.Sound) (hroot : forest.node? root ≠ none) :
    forest.level forest.slots.size = [] := by
  -- a node on this level would have a lineage longer than any is
  by_contra hne
  obtain ⟨id, hid⟩ := List.exists_mem_of_ne_nil _ hne
  have hlong := hsound.lt_length_lineage hid
  have hsize : 0 < forest.slots.size := Nat.zero_lt_of_lt (lt_size_of_node? hroot)
  have hexists : forest.node? id ≠ none := by
    obtain ⟨depth, hdepth⟩ : ∃ n, forest.slots.size = n + 1 := ⟨forest.slots.size - 1, by omega⟩
    rw [hdepth] at hid
    obtain ⟨parent, -, hmem⟩ := List.mem_flatMap.1 hid
    exact node?_of_parentOf (hsound.mem_listing_iff.1 hmem)
  have hshort := hsound.length_climb_le forest.slots.size hexists
  rw [lineage] at hlong
  omega

/-- A search that goes on below the last level finds nothing there. -/
theorem searchLevels_of_level_eq_nil (key : String) {depth start more : Nat}
    (h : forest.level (start + depth) = []) :
    forest.searchLevels key (depth + more) (forest.level start)
      = forest.searchLevels key depth (forest.level start) := by
  induction depth generalizing start with
  | zero =>
    rw [Nat.add_zero] at h
    rw [h, Nat.zero_add]
    induction more with
    | zero => rfl
    | succ more ih => simpa [searchLevels] using ih
  | succ depth ih =>
    have hnext : (forest.level start).flatMap forest.listing = forest.level (start + 1) := rfl
    have hlast : forest.level (start + 1 + depth) = [] := by
      rwa [Nat.add_right_comm, Nat.add_assoc]
    rw [Nat.add_right_comm, searchLevels, searchLevels, hnext, ih hlast]

/-- **A search is over** when it has gone through as many levels as there are nodes. -/
theorem Sound.searchLevels_eq_find (hsound : forest.Sound) (hroot : forest.node? root ≠ none)
    (name : String) {depth : Nat} (h : forest.slots.size ≤ depth) :
    forest.searchLevels (Text.lower name) depth [root] = forest.find name := by
  obtain ⟨more, rfl⟩ := Nat.exists_eq_add_of_le h
  have hlast : forest.level (0 + forest.slots.size) = [] := by
    rw [Nat.zero_add]
    exact hsound.level_eq_nil hroot
  exact searchLevels_of_level_eq_nil (Text.lower name) hlast

end StoryShell.Forest
