/-
Paths and nodes are inverse.

The path of a node is written from the names on the way up to the root, and it is read by cutting it
at the slashes and following the keys of the names down again. If no name is empty or has a slash,
cutting gives the names back (`segmentsOf_pathOf`), and each of them leads from a directory to the
child that has it; so by induction on the way up the path of a node in the tree leads to the node
(`resolve_pathOf`). The other way round, what a written path leads to lies below the root, and the
path has the names on the way, but for case (`segments_of_resolve`).
-/
import StoryShell.Proofs.Text.Words
import StoryShell.Proofs.Tree.InTree
import StoryShell.Proofs.World.Decode

set_option autoImplicit false

namespace StoryShell

namespace Forest

/-! ## Cutting -/

open Seed (IsName)

/-- A name is the only segment of itself. -/
theorem segmentsOf_isName {name : String} (h : IsName name) : segmentsOf name = [name] := by
  refine Text.pieces_of_free h.ne_empty fun c hc => decide_eq_false ?_
  rintro rfl
  exact h.no_slash hc

/-- The segments of texts with a slash between them are those of the one and those of the other. -/
theorem segmentsOf_append_slash (first second : String) :
    segmentsOf (first ++ "/" ++ second) = segmentsOf first ++ segmentsOf second := by
  have hslash : "/".toList = ['/'] := by simp
  exact Text.pieces_append_separator hslash (by decide) first second

/-- **Names with slashes between them are read back.** -/
theorem segmentsOf_intercalate {names : List String} (h : ∀ name ∈ names, IsName name) :
    segmentsOf (String.intercalate "/" names) = names :=
  Text.pieces_intercalate (c := '/') (by simp) (by decide) fun name hname =>
    segmentsOf_isName (h name hname)

/-- **The path that is written from names** has them as its segments. -/
theorem segmentsOf_written {names : List String} (h : ∀ name ∈ names, IsName name) :
    segmentsOf ("/" ++ String.intercalate "/" names) = names := by
  have hslash : "/" ++ String.intercalate "/" names
      = "" ++ "/" ++ String.intercalate "/" names := by simp
  rw [hslash, segmentsOf_append_slash, segmentsOf_intercalate h]
  rfl

variable {forest : Forest} {id parent : NodeId}

/-! ## The names on the way -/

/-- There are no names on the way to the root. -/
theorem segments_root (htop : forest.parentOf root = none) : forest.segments root = [] := by
  rw [segments, lineage, climb_of_parentOf_none htop]
  rfl

/-- **The names on the way to a node** are those on the way to its directory, and its own. -/
theorem segments_of_parentOf (hsound : forest.Sound) (htop : forest.parentOf root = none)
    (h : forest.parentOf id = some parent) :
    forest.segments id = forest.segments parent ++ [forest.nameOf id] := by
  have hroot : id ≠ root := by
    rintro rfl
    rw [htop] at h
    exact absurd h (by simp)
  rw [segments, segments, hsound.lineage_of_parentOf h,
    List.takeWhile_cons_of_pos (by simpa using hroot), List.map_cons, List.reverse_cons]

/-- **The names on the way to a node lead to it.** -/
theorem foldlM_segments (hsound : forest.Sound) (htop : forest.parentOf root = none)
    (hid : forest.InTree id) : (forest.segments id).foldlM forest.child? root = some id := by
  induction hid using Relation.ReflTransGen.head_induction_on with
  | refl =>
    rw [segments_root htop]
    rfl
  | head hlies _ ih =>
    rw [segments_of_parentOf hsound htop hlies, List.foldlM_append, ih]
    simpa using hsound.child?_of_parentOf hlies

/-- **What names lead to from the root** belongs to the tree, and the names on the way to it are
these, but for case. -/
theorem segments_of_foldlM (hsound : forest.Sound) (htop : forest.parentOf root = none)
    {names : List String} (h : names.foldlM forest.child? root = some id) :
    forest.InTree id ∧ names.map Text.lower = (forest.segments id).map Text.lower := by
  induction names using List.reverseRecOn generalizing id with
  | nil =>
    have hroot : root = id := by simpa using h
    rw [← hroot, segments_root htop]
    exact ⟨Relation.ReflTransGen.refl, rfl⟩
  | append_singleton names name ih =>
    rw [List.foldlM_append] at h
    obtain ⟨directory, hdirectory, hchild⟩ := Option.bind_eq_some_iff.1 h
    obtain ⟨htree, hnames⟩ := ih hdirectory
    have hget : forest.child? directory name = some id := by simpa using hchild
    obtain ⟨hkey, hlies⟩ := hsound.of_get? hget
    refine ⟨.of_parentOf hlies htree, ?_⟩
    rw [segments_of_parentOf hsound htop hlies, List.map_append, List.map_append, hnames,
      List.map_singleton, List.map_singleton, hkey]

/-- **A node that can be reached from the root**, from directories to their children. -/
def Reachable (forest : Forest) (id : NodeId) : Prop :=
  Relation.ReflTransGen (fun parent child => child ∈ forest.listing parent) root id

/-- A listing has the nodes that lie in the directory. -/
theorem Sound.listing_links (hsound : forest.Sound) :
    (fun parent child => child ∈ forest.listing parent) = Function.swap forest.LiesIn := by
  funext parent child
  exact propext hsound.mem_listing_iff

/-- What can be reached from the root is what the way up from leads to the root. -/
theorem reachable_iff (hsound : forest.Sound) : forest.Reachable id ↔ forest.InTree id := by
  rw [Reachable, hsound.listing_links, Relation.reflTransGen_swap, InTree]

/-- **A node is attached if it can be reached from the root.** -/
theorem Sound.isAttached_iff_reachable (hsound : forest.Sound) :
    forest.isAttached id = true ↔ forest.Reachable id :=
  hsound.isAttached_iff.trans (reachable_iff hsound).symm

end Forest

namespace FileSystem.Grown

open Forest (segmentsOf)
open Seed (IsName)

variable {fs : FileSystem} {id : NodeId} (hgrown : fs.Grown IsName)

include hgrown

/-! ## Writing and reading -/

/-- The names on the way to a node of the tree can be read back. -/
theorem isName_of_mem_segments (hid : fs.forest.InTree id) :
    ∀ name ∈ fs.forest.segments id, IsName name := by
  induction hid using Relation.ReflTransGen.head_induction_on with
  | refl => simp [Forest.segments_root hgrown.top]
  | head hlies _ ih =>
    rw [Forest.segments_of_parentOf hgrown.sound.forest hgrown.top hlies]
    intro name hname
    rcases List.mem_append.1 hname with hname | hname
    · exact ih name hname
    · rw [List.mem_singleton.1 hname]
      exact hgrown.names hlies

/-- **The bare path of a node** has the names on the way to it. -/
theorem segmentsOf_barePath (hid : fs.forest.InTree id) :
    segmentsOf (fs.forest.barePath id) = fs.forest.segments id :=
  Forest.segmentsOf_written (isName_of_mem_segments hgrown hid)

/-- **The path of a node** has the names on the way to it, whether it ends in a slash or not. -/
theorem segmentsOf_pathOf (hid : fs.forest.InTree id) :
    segmentsOf (fs.forest.pathOf id) = fs.forest.segments id := by
  rw [Forest.pathOf]
  split
  · rename_i hroot
    rw [hroot, Forest.segments_root hgrown.top]
    rfl
  · split
    · have hslash : fs.forest.barePath id ++ "/" = fs.forest.barePath id ++ "/" ++ "" := by simp
      rw [hslash, Forest.segmentsOf_append_slash, segmentsOf_barePath hgrown hid]
      exact List.append_nil _
    · exact segmentsOf_barePath hgrown hid

/-- **The path of a node of the tree leads to the node.** -/
theorem resolve_pathOf (hid : fs.forest.InTree id) :
    fs.forest.resolve (fs.forest.pathOf id) = some id := by
  rw [Forest.resolve, segmentsOf_pathOf hgrown hid,
    Forest.foldlM_segments hgrown.sound.forest hgrown.top hid]

/-- **The bare path of a node of the tree leads to the node.** -/
theorem resolve_barePath (hid : fs.forest.InTree id) :
    fs.forest.resolve (fs.forest.barePath id) = some id := by
  rw [Forest.resolve, segmentsOf_barePath hgrown hid,
    Forest.foldlM_segments hgrown.sound.forest hgrown.top hid]

/-- **What a written path leads to** belongs to the tree, and its own path has the same segments,
but for case. -/
theorem segments_of_resolve {path : String} (h : fs.forest.resolve path = some id) :
    fs.forest.InTree id
      ∧ (segmentsOf path).map Text.lower
        = (segmentsOf (fs.forest.pathOf id)).map Text.lower := by
  obtain ⟨htree, hnames⟩ := Forest.segments_of_foldlM hgrown.sound.forest hgrown.top h
  exact ⟨htree, hnames.trans (by rw [segmentsOf_pathOf hgrown htree])⟩

/-! ## Searching -/

omit hgrown in
/-- What is found below nodes of the tree belongs to it, and has the key that was looked for. -/
theorem of_searchLevels (hsound : fs.forest.Sound) {key : String} {depth : Nat}
    {level : List NodeId} (hlevel : ∀ other ∈ level, fs.forest.InTree other)
    (h : fs.forest.searchLevels key depth level = some id) :
    fs.forest.InTree id ∧ (fs.forest.node? id).map Node.key = some key := by
  induction depth generalizing level with
  | zero => exact absurd h (by simp [Forest.searchLevels])
  | succ depth ih =>
    have hnext : ∀ other ∈ level.flatMap fs.forest.listing,
        fs.forest.node? other ≠ none ∧ fs.forest.InTree other := by
      intro other hother
      obtain ⟨parent, hparent, hchild⟩ := List.mem_flatMap.1 hother
      have hlies := hsound.mem_listing_iff.1 hchild
      exact ⟨Forest.node?_of_parentOf hlies, .of_parentOf hlies (hlevel parent hparent)⟩
    simp only [Forest.searchLevels] at h
    split at h
    · -- the first match on this level
      rename_i found hfound
      rw [← Option.some.inj h]
      obtain ⟨hexists, htree⟩ := hnext found (List.mem_of_find?_eq_some hfound)
      have hkey : Text.lower (fs.forest.nameOf found) = key := by
        simpa using List.find?_some hfound
      obtain ⟨node, hnode⟩ := Option.ne_none_iff_exists'.1 hexists
      refine ⟨htree, ?_⟩
      rw [← hkey, Forest.nameOf, hnode]
      rfl
    · exact ih (fun other hother => (hnext other hother).2) h

/-- **The path that a search gives** leads to a node with the key that was looked for. -/
theorem resolve_of_find {name path : String} (h : fs.find name = some path) :
    ∃ id, fs.forest.resolve path = some id
      ∧ (fs.forest.node? id).map Node.key = some (Text.lower name) := by
  obtain ⟨id, hfound, hpath⟩ := Option.map_eq_some_iff.1 h
  have hroot : ∀ other ∈ [Forest.root], fs.forest.InTree other := by
    intro other hother
    rw [List.mem_singleton.1 hother]
    exact Relation.ReflTransGen.refl
  obtain ⟨htree, hkey⟩ := of_searchLevels hgrown.sound.forest hroot hfound
  exact ⟨id, by rw [← hpath, resolve_pathOf hgrown htree], hkey⟩

end FileSystem.Grown

end StoryShell
