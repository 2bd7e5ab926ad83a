/-
Planting a tree whose names are different is never refused.

A forest **lists** nodes if they are all there is in it, each under the number of its place in the
list; the children of directories do not count here, since in a sound forest they are told by the
parents. Creating a node in a directory adds one node to the end of the list, and so planting adds
the nodes of the seeds one by one (`Planted`, `planted_plant`, `planted_plantAll`).

What could be refused is a name that is taken. But where a seed is planted only the names of the
seeds before it are taken, and deeper down only those of a directory that was just created.
-/
import StoryShell.Proofs.World.Decode

set_option autoImplicit false

namespace StoryShell

/-! ## Lists of nodes -/

/-- A node without its children. -/
def Node.bare (node : Node) : Node := node.withChildren fun _ => NameMap.empty

namespace Node

theorem bare_withChildren (node : Node) (f : NameMap NodeId → NameMap NodeId) :
    (node.withChildren f).bare = node.bare := by
  rw [bare, withChildren_withChildren]
  rfl

/-- A node whose body has no children is bare. -/
theorem bare_of_children_eq_empty {name : String} {parent : Option NodeId} {body : Body}
    (h : body.children = NameMap.empty) :
    (⟨name, parent, body⟩ : Node).bare = ⟨name, parent, body⟩ := by
  cases body with
  | file text => rfl
  | directory children =>
    have hchildren : children = NameMap.empty := h
    rw [hchildren]
    rfl

end Node

namespace Forest

/-- **The nodes of a forest**, each under the number of its place, and but for their children. -/
structure Lists (forest : Forest) (nodes : List Node) : Prop where
  size : forest.slots.size = nodes.length
  node : ∀ id, (forest.node? id).map Node.bare = nodes[id]?

variable {forest : Forest} {nodes : List Node}

/-- The forest of an empty root lists the root. -/
theorem lists_initial : initial.Lists [⟨"/", none, .directory NameMap.empty⟩] where
  size := rfl
  node := fun id => by
    cases id with
    | zero => rfl
    | succ id => rfl

/-- What is listed as a directory is one. -/
theorem Lists.isDirectory_eq (h : forest.Lists nodes) (id : NodeId) :
    forest.isDirectory id = ((nodes[id]?).map Node.isDirectory).getD false := by
  rw [isDirectory, ← h.node, Option.map_map]
  exact congrArg (Option.getD · false)
    (Option.map_congr fun node _ => (node.withChildren_isDirectory _).symm)

/-- Directories stay directories when nodes are added. -/
theorem Lists.isDirectory_append (h : forest.Lists nodes) {after : Forest} {new : List Node}
    (hafter : after.Lists (nodes ++ new)) {id : NodeId} (hid : forest.isDirectory id = true) :
    after.isDirectory id = true := by
  have hlt : id < nodes.length := by
    rw [← h.size]
    exact lt_size_of_node? (node?_of_isDirectory hid)
  rw [hafter.isDirectory_eq, List.getElem?_append_left hlt, ← h.isDirectory_eq, hid]

end Forest

namespace FileSystem

variable {fs after : FileSystem} {nodes : List Node}

/-- **A node that is created comes to the end of the list.** -/
theorem lists_createIn (hlists : fs.forest.Lists nodes) {parent id : NodeId} {name : String}
    {body : Body} (hparent : fs.forest.isDirectory parent = true)
    (hbare : body.children = NameMap.empty) (h : fs.createIn parent name body = .ok (id, after)) :
    after.forest.Lists (nodes ++ [⟨name, some parent, body⟩]) := by
  obtain ⟨hid, hsize⟩ := size_createIn hbare h
  rw [hlists.size] at hid
  refine ⟨by rw [hsize, hlists.size, List.length_append, List.length_singleton], fun other => ?_⟩
  rw [node?_createIn hparent hbare h, hid]
  by_cases hnew : other = nodes.length
  · rw [if_pos hnew, hnew, List.getElem?_concat_length, Option.map_some,
      Node.bare_of_children_eq_empty hbare]
  · -- every other node is there before, at most with fewer children
    have hold : (nodes ++ [⟨name, some parent, body⟩])[other]? = nodes[other]? := by
      rcases Nat.lt_or_gt_of_ne hnew with hlt | hgt
      · exact List.getElem?_append_left hlt
      · rw [List.getElem?_eq_none (Nat.le_of_lt hgt), List.getElem?_eq_none]
        rwa [List.length_append, List.length_singleton]
    rw [if_neg hnew, hold, ← hlists.node]
    split
    · rw [Option.map_map]
      exact Option.map_congr fun node _ => node.bare_withChildren _
    · rfl

end FileSystem

/-! ## Planting -/

namespace Seed

/-- **What planting leaves**: new nodes at the end of the list, and everything as it was before,
but for the names of the new nodes in the directory that they are planted in. -/
structure Planted (parent : NodeId) (keys : List String) (new nodes : List Node)
    (fs after : FileSystem) : Prop where
  sound : after.Sound
  lists : after.forest.Lists (nodes ++ new)
  fixed : after.cwd = fs.cwd ∧ after.roles = fs.roles
  child? : ∀ {id name}, id < nodes.length → (id = parent → Text.lower name ∉ keys) →
    after.forest.child? id name = fs.forest.child? id name

variable {parent : NodeId} {fs middle after : FileSystem} {nodes : List Node}

/-- Planting goes on from what it left. -/
theorem Planted.append {keys more : List String} {new later : List Node}
    (h : Planted parent keys new nodes fs middle)
    (hmore : Planted parent more later (nodes ++ new) middle after) :
    Planted parent (keys ++ more) (new ++ later) nodes fs after where
  sound := hmore.sound
  lists := by
    rw [← List.append_assoc]
    exact hmore.lists
  fixed := ⟨hmore.fixed.1.trans h.fixed.1, hmore.fixed.2.trans h.fixed.2⟩
  child? := fun {id name} hid hname => by
    have hlt : id < (nodes ++ new).length := by
      rw [List.length_append]
      exact Nat.lt_add_right _ hid
    rw [hmore.child? hlt fun hparent hmem => hname hparent (List.mem_append_right _ hmem),
      h.child? hid fun hparent hmem => hname hparent (List.mem_append_left _ hmem)]

/-- **Where its name is free, a node is planted.** -/
theorem planted_createIn (hsound : fs.Sound) (hlists : fs.forest.Lists nodes) (name : String)
    (body : Body) (hparent : fs.forest.isDirectory parent = true)
    (hbare : body.children = NameMap.empty) (hfree : fs.forest.child? parent name = none) :
    ∃ after, fs.createIn parent name body = .ok (nodes.length, after)
      ∧ Planted parent [Text.lower name] [⟨name, some parent, body⟩] nodes fs after
      ∧ ∀ asked, after.forest.child? nodes.length asked = none := by
  obtain ⟨after, hcreated⟩ := FileSystem.createIn_of_free hsound.forest hparent hbare hfree
  rw [hlists.size] at hcreated
  refine ⟨after, hcreated, ⟨hsound.createIn hparent hbare hcreated,
    FileSystem.lists_createIn hlists hparent hbare hcreated,
    FileSystem.fixed_createIn hbare hcreated, fun {id asked} hid hasked => ?_⟩,
    FileSystem.child?_new hparent hbare hcreated⟩
  refine FileSystem.child?_createIn hparent hbare hcreated (Nat.ne_of_lt hid) fun heq hsame => ?_
  exact hasked heq (List.mem_singleton.2 hsame)

mutual

/-- **Planting a seed** where its name is free. -/
theorem planted_plant : (seed : Seed) → {parent : NodeId} → {fs : FileSystem} →
    {nodes : List Node} → (seed.All fun found => Distinct found.children) → fs.Sound →
    fs.forest.Lists nodes → fs.forest.isDirectory parent = true →
    fs.forest.child? parent seed.name = none →
    ∃ after, seed.plant parent fs = .ok after
      ∧ Planted parent [seed.key] (seed.nodes (some parent) nodes.length) nodes fs after
  | .file name text, parent, fs, nodes, _, hsound, hlists, hparent, hfree => by
    obtain ⟨after, hcreated, hplanted, -⟩ :=
      planted_createIn hsound hlists name (.file text) hparent rfl hfree
    refine ⟨after, ?_, hplanted⟩
    rw [plant, FileSystem.createFile, hcreated]
    rfl
  | .directory name text children, parent, fs, nodes, hdistinct, hsound, hlists, hparent,
      hfree => by
    obtain ⟨middle, hcreated, hfirst, hnew⟩ :=
      planted_createIn hsound hlists name (.directory NameMap.empty) hparent rfl hfree
    obtain ⟨hchildren, hbelow⟩ := all_iff.1 hdistinct
    -- the new directory holds nothing, so no name is taken there
    obtain ⟨after, hplant, hlater⟩ := planted_plantAll children hchildren hbelow hfirst.sound
      hfirst.lists (FileSystem.isDirectory_of_createDirectory hcreated)
      fun child _ => hnew child.name
    refine ⟨after, ?_, hlater.sound, ?_, ?_, fun {id asked} hid hasked => ?_⟩
    · rw [plant, FileSystem.createDirectory, hcreated]
      exact hplant
    · have hlists := hlater.lists
      rwa [List.append_assoc, List.length_append] at hlists
    · exact ⟨hlater.fixed.1.trans hfirst.fixed.1, hlater.fixed.2.trans hfirst.fixed.2⟩
    · rw [hlater.child? ?_ fun heq => absurd heq (Nat.ne_of_lt hid), hfirst.child? hid hasked]
      rw [List.length_append]
      exact Nat.lt_add_right _ hid

/-- **Planting seeds of different names** where these are free. -/
theorem planted_plantAll : (seeds : List Seed) → {parent : NodeId} → {fs : FileSystem} →
    {nodes : List Node} → Distinct seeds →
    (∀ seed ∈ seeds, seed.All fun found => Distinct found.children) →
    fs.Sound → fs.forest.Lists nodes → fs.forest.isDirectory parent = true →
    (∀ seed ∈ seeds, fs.forest.child? parent seed.name = none) →
    ∃ after, plantAll parent seeds fs = .ok after
      ∧ Planted parent (seeds.map key) (nodesAll parent nodes.length seeds) nodes fs after
  | [], parent, fs, nodes, _, _, hsound, hlists, _, _ => by
    refine ⟨fs, rfl, hsound, ?_, ⟨rfl, rfl⟩, fun _ _ => rfl⟩
    rwa [nodesAll, List.append_nil]
  | seed :: rest, parent, fs, nodes, hdistinct, hall, hsound, hlists, hparent, hfree => by
    obtain ⟨hseed, hrest⟩ := List.forall_mem_cons.1 hall
    obtain ⟨hfreeSeed, hfreeRest⟩ := List.forall_mem_cons.1 hfree
    rw [Distinct, List.map_cons, List.nodup_cons] at hdistinct
    obtain ⟨middle, hplant, hfirst⟩ := planted_plant seed hseed hsound hlists hparent hfreeSeed
    have hlt : parent < nodes.length := by
      rw [← hlists.size]
      exact Forest.lt_size_of_node? (Forest.node?_of_isDirectory hparent)
    -- the names of the other seeds are still free
    have hstill : ∀ other ∈ rest, middle.forest.child? parent other.name = none := by
      intro other hother
      rw [hfirst.child? hlt fun _ hmem => ?_]
      · exact hfreeRest other hother
      · refine hdistinct.1 (List.mem_map.2 ⟨other, hother, ?_⟩)
        exact List.mem_singleton.1 hmem
    obtain ⟨after, hplantAll, hlater⟩ := planted_plantAll rest hdistinct.2 hrest hfirst.sound
      hfirst.lists (hlists.isDirectory_append hfirst.lists hparent) hstill
    refine ⟨after, ?_, ?_⟩
    · rw [plantAll, hplant]
      exact hplantAll
    · rw [List.length_append, length_nodes] at hlater
      exact hfirst.append hlater

end

end Seed

end StoryShell
