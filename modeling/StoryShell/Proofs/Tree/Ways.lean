/-
Trees in which the same names lead to the same things.

In a forest that is one whole tree every node is where the names on the way to it lead. So if names
lead just as far in two such forests, and to nodes that look the same, then the forests are alike
(`SameWays.alike`): a node stands for what the names on the way to it lead to on the other side.
Nothing is asked of the numbers, nor of the order in which the nodes came about.
-/
import StoryShell.Proofs.Tree.Alike

set_option autoImplicit false

namespace StoryShell

/-- **A node is known by its parts.** -/
theorem Node.eq_of_parts {node other : Node} (hname : other.name = node.name)
    (hparent : other.parent = node.parent) (hkind : other.isDirectory = node.isDirectory)
    (htext : other.text = node.text) (hchildren : other.children = node.children) :
    other = node := by
  obtain ⟨name, parent, body⟩ := node
  obtain ⟨nameOther, parentOther, bodyOther⟩ := other
  obtain rfl : nameOther = name := hname
  obtain rfl : parentOther = parent := hparent
  have hbody : bodyOther = body := by
    cases body with
    | file text =>
      cases bodyOther with
      | file textOther => exact congrArg Body.file htext
      | directory held => exact absurd hkind (by simp [Node.isDirectory])
    | directory held =>
      cases bodyOther with
      | file textOther => exact absurd hkind (by simp [Node.isDirectory])
      | directory heldOther => exact congrArg Body.directory hchildren
  rw [hbody]

namespace Forest

variable {forest other : Forest} {id : NodeId} {names : List String}

/-! ## Ways -/

/-- **What names lead to** from the root. -/
def follow (forest : Forest) (names : List String) : Option NodeId :=
  names.foldlM forest.child? root

/-- One more name leads on to a child. -/
theorem follow_concat (names : List String) (name : String) :
    forest.follow (names ++ [name]) = (forest.follow names).bind (forest.child? · name) := by
  simp [follow, List.foldlM_append]

/-- Names lead to the same whatever their case. -/
theorem follow_congr {others : List String} (h : names.map Text.lower = others.map Text.lower) :
    forest.follow names = forest.follow others := by
  have hstart : ∀ start, names.foldlM forest.child? start = others.foldlM forest.child? start := by
    induction names generalizing others with
    | nil =>
      rw [List.map_nil, eq_comm, List.map_eq_nil_iff] at h
      rw [h]
      exact fun _ => rfl
    | cons name rest ih =>
      obtain ⟨first, more, rfl, hfirst, hmore⟩ := List.map_eq_cons_iff.1 h.symm
      intro start
      rw [List.foldlM_cons, List.foldlM_cons, child?, child?, hfirst]
      exact Option.bind_congr fun next _ => ih hmore.symm next
  exact hstart root

/-! ## Whole trees -/

/-- **A forest that is one whole tree**: its root is at the top, and every number that was given out
is that of a node of the tree. -/
structure Whole (forest : Forest) : Prop where
  sound : forest.Sound
  top : forest.parentOf root = none
  root : forest.node? root ≠ none
  inTree : ∀ id < forest.slots.size, forest.InTree id

namespace Whole

variable (h : forest.Whole)

include h

theorem node?_of_inTree (hid : forest.InTree id) : forest.node? id ≠ none := by
  rcases inTree_iff.1 hid with rfl | ⟨parent, hparent, -⟩
  · exact h.root
  · exact node?_of_parentOf hparent

theorem lt_size_iff : id < forest.slots.size ↔ forest.InTree id :=
  ⟨h.inTree id, fun hid => lt_size_of_node? (h.node?_of_inTree hid)⟩

/-- All directories are attached. -/
theorem isAttached (hid : forest.isDirectory id = true) : forest.isAttached id = true :=
  h.sound.isAttached_iff.2 (h.lt_size_iff.1 (lt_size_of_node? (node?_of_isDirectory hid)))

/-- The names on the way to a node lead to it. -/
theorem follow_segments (hid : forest.InTree id) : forest.follow (forest.segments id) = some id :=
  foldlM_segments h.sound h.top hid

/-- What names lead to belongs to the tree, and the names on the way to it lead to the same on any
side. -/
theorem of_follow (hfollow : forest.follow names = some id) :
    forest.InTree id ∧ names.map Text.lower = (forest.segments id).map Text.lower :=
  segments_of_foldlM h.sound h.top hfollow

end Whole

/-! ## The same ways -/

/-- How a node looks by itself. -/
def look (forest : Forest) (id : NodeId) : String × Bool × String :=
  (forest.nameOf id, forest.isDirectory id, forest.textOf id)

/-- **Forests with the same ways**: names lead just as far in both, and to nodes that look the
same. -/
structure SameWays (forest other : Forest) : Prop where
  there : ∀ {names id}, forest.follow names = some id →
    ∃ twin, other.follow names = some twin ∧ other.look twin = forest.look id
  back : ∀ {names twin}, other.follow names = some twin → ∃ id, forest.follow names = some id

/-- **The node that a node stands for**: what the names on the way to it lead to on the other side.
Numbers that are not given out stand for themselves. -/
def counterpart (forest other : Forest) (id : NodeId) : NodeId :=
  if id < forest.slots.size then (other.follow (forest.segments id)).getD id else id

namespace SameWays

variable (h : forest.SameWays other) (hwhole : forest.Whole) (hother : other.Whole)

include h hwhole

/-- **The same names lead to what a node stands for**, and it looks the same. -/
theorem follow_counterpart (hfollow : forest.follow names = some id) :
    other.follow names = some (forest.counterpart other id)
      ∧ other.look (forest.counterpart other id) = forest.look id := by
  obtain ⟨twin, htwin, hlook⟩ := h.there hfollow
  obtain ⟨htree, hnames⟩ := hwhole.of_follow hfollow
  have hcounterpart : forest.counterpart other id = twin := by
    rw [counterpart, if_pos (hwhole.lt_size_iff.2 htree), ← follow_congr hnames, htwin,
      Option.getD_some]
  rw [hcounterpart]
  exact ⟨htwin, hlook⟩

/-- The names on the way to a node lead to what it stands for. -/
theorem follow_segments_counterpart (hid : forest.InTree id) :
    other.follow (forest.segments id) = some (forest.counterpart other id)
      ∧ other.look (forest.counterpart other id) = forest.look id :=
  h.follow_counterpart hwhole (hwhole.follow_segments hid)

theorem counterpart_root : forest.counterpart other root = root := by
  have hroot : forest.follow [] = some root := rfl
  exact (Option.some.inj (h.follow_counterpart hwhole hroot).1).symm

include hother

/-- **Different nodes stand for different ones.** -/
theorem counterpart_injective (hsize : other.slots.size = forest.slots.size) :
    Function.Injective (forest.counterpart other) := by
  have hlt : ∀ {id}, id < forest.slots.size → forest.counterpart other id < forest.slots.size := by
    intro id hid
    obtain ⟨hfollow, -⟩ := h.follow_segments_counterpart hwhole (hwhole.inTree id hid)
    rw [← hsize]
    exact hother.lt_size_iff.2 (hother.of_follow hfollow).1
  have hfixed : ∀ {id}, ¬ id < forest.slots.size → forest.counterpart other id = id :=
    fun hid => if_neg hid
  intro first second hsame
  by_cases hfirst : first < forest.slots.size
  · by_cases hsecond : second < forest.slots.size
    · -- the ways to both lead to the same on the other side, so their names are the same
      have hfirstTree := hwhole.inTree first hfirst
      have hsecondTree := hwhole.inTree second hsecond
      obtain ⟨hfirstFollow, -⟩ := h.follow_segments_counterpart hwhole hfirstTree
      obtain ⟨hsecondFollow, -⟩ := h.follow_segments_counterpart hwhole hsecondTree
      rw [← hsame] at hsecondFollow
      have hnames := (hother.of_follow hfirstFollow).2.trans (hother.of_follow hsecondFollow).2.symm
      have hboth := hwhole.follow_segments hfirstTree
      rw [follow_congr hnames, hwhole.follow_segments hsecondTree] at hboth
      exact (Option.some.inj hboth).symm
    · have hfirstLt := hlt hfirst
      rw [hsame, hfixed hsecond] at hfirstLt
      exact absurd hfirstLt hsecond
  · by_cases hsecond : second < forest.slots.size
    · have hsecondLt := hlt hsecond
      rw [← hsame, hfixed hfirst] at hsecondLt
      exact absurd hsecondLt hfirst
    · rwa [hfixed hfirst, hfixed hsecond] at hsame

omit hother in
/-- **A child stands for the child of that name**, where there is one. -/
theorem child?_counterpart (hid : forest.InTree id) (name : String) :
    other.child? (forest.counterpart other id) name
      = (forest.child? id name).map (forest.counterpart other) := by
  have hon : forest.follow (forest.segments id ++ [name]) = forest.child? id name := by
    rw [follow_concat, hwhole.follow_segments hid, Option.bind_some]
  have honOther : other.follow (forest.segments id ++ [name])
      = other.child? (forest.counterpart other id) name := by
    rw [follow_concat, (h.follow_segments_counterpart hwhole hid).1, Option.bind_some]
  rw [← honOther, ← hon]
  cases hchild : forest.follow (forest.segments id ++ [name]) with
  | some child => exact (h.follow_counterpart hwhole hchild).1
  | none =>
    cases htwin : other.follow (forest.segments id ++ [name]) with
    | none => rfl
    | some twin =>
      obtain ⟨child, hsome⟩ := h.back htwin
      rw [hchild] at hsome
      exact absurd hsome (by simp)

/-- The children of a node stand for those under the same keys. -/
theorem childrenOf_counterpart (hid : forest.InTree id) :
    other.childrenOf (forest.counterpart other id)
      = (forest.childrenOf id).map (forest.counterpart other) := by
  refine NameMap.ext_get? fun key => ?_
  rw [NameMap.get?_map]
  by_cases hkey : ∃ name, Text.lower name = key
  · obtain ⟨name, rfl⟩ := hkey
    exact h.child?_counterpart hwhole hid name
  · -- nothing is held under what is not the key of a name
    have hnone : ∀ {trees : Forest} {directory : NodeId}, trees.Sound →
        (trees.childrenOf directory).get? key = none := by
      intro trees directory hsound
      cases hget : (trees.childrenOf directory).get? key with
      | none => rfl
      | some child => exact absurd ⟨_, (hsound.of_get? hget).1.symm⟩ hkey
    rw [hnone hother.sound, hnone hwhole.sound]
    rfl

/-- The directory above a node stands for the one above. -/
theorem parentOf_counterpart (hid : forest.InTree id) :
    other.parentOf (forest.counterpart other id)
      = (forest.parentOf id).map (forest.counterpart other) := by
  rcases inTree_iff.1 hid with rfl | ⟨parent, hparent, htree⟩
  · rw [h.counterpart_root hwhole, hother.top, hwhole.top]
    rfl
  · have hchild := h.child?_counterpart hwhole htree (forest.nameOf id)
    rw [hwhole.sound.child?_of_parentOf hparent] at hchild
    rw [hparent]
    exact (hother.sound.of_get? hchild).2

/-- **Whole trees with the same ways are alike.** -/
theorem alike (hsize : other.slots.size = forest.slots.size) :
    forest.Alike (forest.counterpart other) other where
  injective := h.counterpart_injective hwhole hother hsize
  root := h.counterpart_root hwhole
  size := hsize
  fixed := fun id hid => if_neg (Nat.not_lt.2 hid)
  sound := hwhole.sound
  otherSound := hother.sound
  top := hwhole.top
  otherTop := hother.top
  node? := fun {id} hid => by
    obtain ⟨hfollow, hlook⟩ := h.follow_segments_counterpart hwhole hid
    have hparent := h.parentOf_counterpart hwhole hother hid
    have hchildren := h.childrenOf_counterpart hwhole hother hid
    obtain ⟨node, hnode⟩ := Option.ne_none_iff_exists'.1 (hwhole.node?_of_inTree hid)
    obtain ⟨twin, htwin⟩ := Option.ne_none_iff_exists'.1
      (hother.node?_of_inTree (hother.of_follow hfollow).1)
    simp only [look, nameOf, isDirectory, textOf, parentOf, childrenOf, hnode, htwin,
      Option.map_some, Option.getD_some, Option.bind_some, Prod.mk.injEq]
      at hlook hparent hchildren
    obtain ⟨hname, hkind, htext⟩ := hlook
    rw [hnode, htwin, Option.map_some]
    refine congrArg some (Node.eq_of_parts hname hparent ?_ ?_ ?_)
    · rw [Node.renumber_isDirectory, hkind]
    · rw [Node.renumber_text, htext]
    · rw [Node.renumber_children, hchildren]

end SameWays

end Forest

end StoryShell
