/-
What the three ways of changing a forest do to everything that can be asked of a node.

A forest changes by a new node, by a change of a node, and by letting nodes go. Each is described
once on the nodes themselves (`node?_create`, `node?_modify`, `node?_reclaim`), and from there on
its name, its kind, its text, its parent and its children. The changes of a node that occur are two:
other children and another parent.
-/
import Mathlib.Logic.Relation
import Mathlib.Tactic.Common
import StoryShell.Tree.FileSystem

set_option autoImplicit false

namespace StoryShell

/-- The children that a body starts with. -/
def Body.children : Body → NameMap NodeId
  | .file _ => NameMap.empty
  | .directory children => children

namespace Node

variable (node : Node) (f : NameMap NodeId → NameMap NodeId)

@[simp] theorem withChildren_name : (node.withChildren f).name = node.name := by
  unfold withChildren
  split <;> rfl

@[simp] theorem withChildren_parent : (node.withChildren f).parent = node.parent := by
  unfold withChildren
  split <;> rfl

@[simp] theorem withChildren_isDirectory :
    (node.withChildren f).isDirectory = node.isDirectory := by
  obtain ⟨name, parent, body⟩ := node
  cases body <;> rfl

@[simp] theorem withChildren_text : (node.withChildren f).text = node.text := by
  obtain ⟨name, parent, body⟩ := node
  cases body <;> rfl

theorem withChildren_children :
    (node.withChildren f).children
      = if node.isDirectory then f node.children else node.children := by
  obtain ⟨name, parent, body⟩ := node
  cases body <;> rfl

/-- Only a directory has children. -/
theorem children_of_not_isDirectory {node : Node} (h : node.isDirectory = false) :
    node.children = NameMap.empty := by
  obtain ⟨name, parent, body⟩ := node
  cases body with
  | file text => rfl
  | directory children => simp [isDirectory] at h

end Node

namespace Forest

variable (forest : Forest)

/-- Two forests are the same if they have as many slots and the same nodes. -/
theorem ext_node? {forest other : Forest} (hsize : forest.slots.size = other.slots.size)
    (hnode : ∀ id, forest.node? id = other.node? id) : forest = other := by
  obtain ⟨slots⟩ := forest
  obtain ⟨others⟩ := other
  refine congrArg Forest.mk (Array.ext hsize fun id hid hother => ?_)
  simpa [node?, hid, hother] using hnode id

/-! ## A new node -/

/-- There is no node yet under the number of a new one. -/
theorem node?_size : forest.node? forest.slots.size = none := by
  simp [node?]

/-- A node that exists has a number below that of a new one. -/
theorem lt_size_of_node? {forest : Forest} {id : NodeId} (h : forest.node? id ≠ none) :
    id < forest.slots.size := by
  by_contra hge
  exact h (by simp [node?, Array.getElem?_eq_none (Nat.le_of_not_lt hge)])

theorem node?_create (name : String) (body : Body) (id : NodeId) :
    (forest.create name body).2.node? id
      = if id = forest.slots.size then some ⟨name, none, body⟩ else forest.node? id := by
  simp only [node?, create, Array.getElem?_push]
  split <;> simp_all

/-- A new node is attached to nothing. -/
@[simp] theorem parentOf_create (name : String) (body : Body) (id : NodeId) :
    (forest.create name body).2.parentOf id = forest.parentOf id := by
  rw [parentOf, parentOf, node?_create]
  split
  · rename_i hid
    rw [hid, node?_size]
    rfl
  · rfl

/-- A new node that comes without children leaves all children as they are. -/
theorem childrenOf_create {body : Body} (hbare : body.children = NameMap.empty) (name : String)
    (id : NodeId) : (forest.create name body).2.childrenOf id = forest.childrenOf id := by
  rw [childrenOf, childrenOf, node?_create]
  split
  · rename_i hid
    rw [hid, node?_size]
    exact hbare
  · rfl

theorem nameOf_create (name : String) (body : Body) (id : NodeId) :
    (forest.create name body).2.nameOf id
      = if id = forest.slots.size then name else forest.nameOf id := by
  rw [nameOf, nameOf, node?_create]
  split <;> rfl

theorem isDirectory_create_of_ne (name : String) (body : Body) {id : NodeId}
    (h : id ≠ forest.slots.size) :
    (forest.create name body).2.isDirectory id = forest.isDirectory id := by
  rw [isDirectory, isDirectory, node?_create, if_neg h]

/-! ## A change of a node -/

theorem node?_modify (changed : NodeId) (f : Node → Node) (id : NodeId) :
    (forest.modify changed f).node? id
      = if changed = id then (forest.node? id).map f else forest.node? id := by
  simp only [node?, modify, Array.getElem?_modify]
  split
  · cases forest.slots[id]? with
    | none => rfl
    | some slot => rfl
  · rfl

/-- Two changes of different nodes can be made in either order. -/
theorem modify_comm {forest : Forest} {first second : NodeId} (hne : first ≠ second)
    (f g : Node → Node) :
    (forest.modify first f).modify second g = (forest.modify second g).modify first f := by
  refine ext_node? (by simp [modify]) fun id => ?_
  simp only [node?_modify]
  by_cases hfirst : first = id
  · have hsecond : second ≠ id := fun heq => hne (hfirst.trans heq.symm)
    simp [hfirst, hsecond]
  · simp [hfirst]

/-- What a change keeps of every node, it keeps of the nodes of a forest. -/
theorem map_node?_modify {α : Type} {f : Node → Node} {part : Node → α}
    (h : ∀ node, part (f node) = part node) (changed id : NodeId) :
    ((forest.modify changed f).node? id).map part = (forest.node? id).map part := by
  rw [node?_modify]
  split
  · rw [Option.map_map]
    exact Option.map_congr fun node _ => h node
  · rfl

/-- **A forest in which a directory has other children and a node another parent.** -/
def relink (directory : NodeId) (f : NameMap NodeId → NameMap NodeId) (changed : NodeId)
    (parent : Option NodeId) : Forest :=
  (forest.modify directory (·.withChildren f)).modify changed ({ · with parent := parent })

section Relink

variable (directory : NodeId) (f : NameMap NodeId → NameMap NodeId) (changed : NodeId)
  (parent : Option NodeId)

/-- Links change nothing but links. -/
theorem map_node?_relink {α : Type} {part : Node → α}
    (hchildren : ∀ node, part (node.withChildren f) = part node)
    (hparent : ∀ node, part { node with parent := parent } = part node) (id : NodeId) :
    ((forest.relink directory f changed parent).node? id).map part
      = (forest.node? id).map part := by
  rw [relink, map_node?_modify _ hparent, map_node?_modify _ hchildren]

@[simp] theorem nameOf_relink (id : NodeId) :
    (forest.relink directory f changed parent).nameOf id = forest.nameOf id := by
  rw [nameOf, map_node?_relink _ _ _ _ _ (fun node => node.withChildren_name f) fun _ => rfl,
    nameOf]

@[simp] theorem isDirectory_relink (id : NodeId) :
    (forest.relink directory f changed parent).isDirectory id = forest.isDirectory id := by
  rw [isDirectory, map_node?_relink _ _ _ _ _ (fun node => node.withChildren_isDirectory f)
    fun _ => rfl, isDirectory]

theorem parentOf_relink {changed : NodeId} (h : forest.node? changed ≠ none) (id : NodeId) :
    (forest.relink directory f changed parent).parentOf id
      = if changed = id then parent else forest.parentOf id := by
  obtain ⟨node, hnode⟩ := Option.ne_none_iff_exists'.1 h
  rw [parentOf, relink, node?_modify, node?_modify]
  split
  · rename_i hid
    subst hid
    rw [hnode]
    split <;> rfl
  · rw [parentOf]
    split
    · cases forest.node? id with
      | none => rfl
      | some other => exact other.withChildren_parent f
    · rfl

theorem childrenOf_relink {directory : NodeId} (h : forest.isDirectory directory = true)
    (id : NodeId) :
    (forest.relink directory f changed parent).childrenOf id
      = if directory = id then f (forest.childrenOf id) else forest.childrenOf id := by
  have hkept : ((forest.relink directory f changed parent).node? id).map Node.children
      = ((forest.modify directory (·.withChildren f)).node? id).map Node.children := by
    rw [relink]
    apply map_node?_modify
    exact fun _ => rfl
  rw [childrenOf, hkept, node?_modify]
  split
  · rename_i hid
    subst hid
    rw [childrenOf]
    cases hnode : forest.node? directory with
    | none => simp [isDirectory, hnode] at h
    | some node =>
      have hdirectory : node.isDirectory = true := by simpa [isDirectory, hnode] using h
      simp [Node.withChildren_children, hdirectory]
  · rfl

end Relink

/-! ## Letting nodes go -/

/-- The numbers of nodes that are let go are not given out again. -/
theorem size_reclaim (wanted : List NodeId) :
    (forest.reclaim wanted).slots.size = forest.slots.size := by
  rw [reclaim, Array.size_mapIdx]

theorem node?_reclaim (wanted : List NodeId) (id : NodeId) :
    (forest.reclaim wanted).node? id
      = if forest.isKept wanted id then
          (forest.node? id).map fun node =>
            { node with parent := node.parent.filter (forest.isKept wanted) }
        else none := by
  simp only [node?, reclaim, Array.getElem?_mapIdx]
  cases forest.slots[id]? with
  | none => simp
  | some slot => rfl

/-- A node that is let go has no parent, and one that stays forgets a parent that is let go. -/
theorem parentOf_reclaim (wanted : List NodeId) (id : NodeId) :
    (forest.reclaim wanted).parentOf id
      = if forest.isKept wanted id then (forest.parentOf id).filter (forest.isKept wanted)
        else none := by
  rw [parentOf, parentOf, node?_reclaim]
  split
  · cases forest.node? id <;> rfl
  · rfl

theorem childrenOf_reclaim (wanted : List NodeId) (id : NodeId) :
    (forest.reclaim wanted).childrenOf id
      = if forest.isKept wanted id then forest.childrenOf id else NameMap.empty := by
  rw [childrenOf, childrenOf, node?_reclaim]
  split
  · cases forest.node? id <;> rfl
  · rfl

theorem nameOf_reclaim (wanted : List NodeId) (id : NodeId) :
    (forest.reclaim wanted).nameOf id
      = if forest.isKept wanted id then forest.nameOf id else "" := by
  rw [nameOf, nameOf, node?_reclaim]
  split
  · cases forest.node? id <;> rfl
  · rfl

theorem isDirectory_reclaim (wanted : List NodeId) (id : NodeId) :
    (forest.reclaim wanted).isDirectory id
      = (forest.isKept wanted id && forest.isDirectory id) := by
  rw [isDirectory, isDirectory, node?_reclaim]
  split
  · rename_i hkept
    rw [hkept]
    cases forest.node? id <;> rfl
  · rename_i hkept
    rw [Bool.eq_false_iff.2 hkept]
    rfl

end Forest

end StoryShell
