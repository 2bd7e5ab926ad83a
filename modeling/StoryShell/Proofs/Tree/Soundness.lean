/-
Every operation on a forest keeps it sound.

* A new node brings no links (`Sound.create`).
* `add` puts in one link on both sides. It asks that the node has no parent, and that it is not met
  on the way up from the directory: so no circle is closed, since a circle would have to run through
  the new link (`transGen_insert`).
* `remove` takes one link out on both sides, which opens no circle.
* `reclaim` keeps with a directory all that it holds, and with a child the parent only if that is
  kept: of the links of a directory that goes, nothing is left.
-/
import StoryShell.Proofs.Tree.Lineage

set_option autoImplicit false

namespace StoryShell

namespace Forest

variable {forest : Forest}

/-! ## The empty tree and new nodes -/

theorem parentOf_initial (id : NodeId) : initial.parentOf id = none := by
  cases id <;> rfl

theorem childrenOf_initial (id : NodeId) : initial.childrenOf id = NameMap.empty := by
  cases id <;> rfl

/-- **The forest of an empty root is sound.** -/
theorem sound_initial : initial.Sound where
  of_get? := fun {directory} _ _ h => by simp [childrenOf_initial] at h
  child?_of_parentOf := fun h => by simp [parentOf_initial] at h
  acyclic := fun id h => by
    obtain ⟨parent, hlies, -⟩ := Relation.TransGen.head'_iff.1 h
    simp [LiesIn, parentOf_initial] at hlies

/-- Taking links away closes no circle. -/
theorem Acyclic.of_fewer_links (hacyclic : forest.Acyclic) {other : Forest}
    (h : ∀ {child parent}, other.parentOf child = some parent →
      forest.parentOf child = some parent) : other.Acyclic :=
  fun id hcircle => hacyclic id (Relation.TransGen.mono (fun _ _ hlies => h hlies) id id hcircle)

namespace Sound

/-- A forest with the same links, and the same names where there are links, is sound with it. -/
theorem of_same_links (hsound : forest.Sound) {other : Forest}
    (hparent : ∀ id, other.parentOf id = forest.parentOf id)
    (hchildren : ∀ id, other.childrenOf id = forest.childrenOf id)
    (hname : ∀ {id parent}, forest.parentOf id = some parent →
      other.nameOf id = forest.nameOf id) : other.Sound where
  of_get? := fun {directory key child} h => by
    rw [hchildren] at h
    obtain ⟨hkey, hlies⟩ := hsound.of_get? h
    exact ⟨by rw [hkey, hname hlies], by rw [hparent, hlies]⟩
  child?_of_parentOf := fun {child parent} h => by
    rw [hparent] at h
    rw [child?, hchildren, hname h]
    exact hsound.child?_of_parentOf h
  acyclic := hsound.acyclic.of_fewer_links fun hlies => (hparent _).symm.trans hlies

/-- **A new node without children keeps a forest sound.** -/
theorem create (hsound : forest.Sound) (name : String) {body : Body}
    (hbare : body.children = NameMap.empty) : (forest.create name body).2.Sound := by
  refine hsound.of_same_links (forest.parentOf_create name body)
    (forest.childrenOf_create hbare name) fun {id parent} hlies => ?_
  rw [nameOf_create, if_neg (Nat.ne_of_lt (lt_size_of_node? (node?_of_parentOf hlies)))]

end Sound

/-! ## Attaching -/

/-- A path with one more link in the relation runs without it, or through it. -/
theorem transGen_insert {r : NodeId → NodeId → Prop} {below above a b : NodeId}
    (h : Relation.TransGen (fun x y => r x y ∨ x = below ∧ y = above) a b) :
    Relation.TransGen r a b
      ∨ Relation.ReflTransGen r a below ∧ Relation.ReflTransGen r above b := by
  induction h with
  | single hstep =>
    rcases hstep with hstep | ⟨rfl, rfl⟩
    · exact .inl (.single hstep)
    · exact .inr ⟨.refl, .refl⟩
  | tail _ hstep ih =>
    -- the last step goes through the new link or not, and so does the path before it
    rcases hstep with hstep | ⟨rfl, rfl⟩
    · rcases ih with hpath | ⟨hbefore, hafter⟩
      · exact .inl (hpath.tail hstep)
      · exact .inr ⟨hbefore, hafter.tail hstep⟩
    · rcases ih with hpath | ⟨hbefore, -⟩
      · exact .inr ⟨hpath.to_reflTransGen, .refl⟩
      · exact .inr ⟨hbefore, .refl⟩

/-- A new link closes no circle, unless the way up from its upper end leads to its lower end. -/
theorem Acyclic.of_new_link (hacyclic : forest.Acyclic) {other : Forest} {below above : NodeId}
    (hfar : ¬ Relation.ReflTransGen forest.LiesIn above below)
    (h : ∀ {child parent}, other.parentOf child = some parent →
      forest.parentOf child = some parent ∨ child = below ∧ parent = above) : other.Acyclic := by
  intro top hcircle
  have hinserted : Relation.TransGen
      (fun x y => forest.LiesIn x y ∨ x = below ∧ y = above) top top :=
    Relation.TransGen.mono (fun _ _ hlies => h hlies) top top hcircle
  rcases transGen_insert hinserted with hpath | ⟨hbefore, hafter⟩
  · exact hacyclic top hpath
  · -- the circle runs through the new link, so it leads from its upper to its lower end
    exact hfar (hafter.trans hbefore)

/-- **When a node is attached, and what comes of it.** -/
theorem add_eq_ok_iff {directory id : NodeId} {after : Forest} :
    forest.add directory id = .ok after
      ↔ forest.parentOf id = none ∧ id ∉ forest.lineage directory
        ∧ forest.child? directory (forest.nameOf id) = none
        ∧ after = forest.relink directory (·.insert (Text.lower (forest.nameOf id)) id) id
            (some directory) := by
  rw [add, child?]
  cases hparent : forest.parentOf id with
  | some holder => simp
  | none =>
    by_cases hlineage : id ∈ forest.lineage directory
    · simp [hlineage]
    · cases hget : (forest.childrenOf directory).get? (Text.lower (forest.nameOf id)) with
      | some holder => simp [hlineage]
      | none =>
        simp only [List.contains_iff_mem, hlineage, relink, if_false, Except.ok.injEq,
          not_false_eq_true, true_and]
        exact eq_comm

namespace Sound

/-- **Attaching keeps a forest sound.** -/
theorem add (hsound : forest.Sound) {directory id : NodeId} {after : Forest}
    (hdirectory : forest.isDirectory directory = true) (hid : forest.node? id ≠ none)
    (h : forest.add directory id = .ok after) : after.Sound := by
  obtain ⟨hparent, hlineage, hfree, rfl⟩ := add_eq_ok_iff.1 h
  have hparentOf := forest.parentOf_relink directory
    (·.insert (Text.lower (forest.nameOf id)) id) (some directory) hid
  have hchildrenOf := forest.childrenOf_relink (·.insert (Text.lower (forest.nameOf id)) id) id
    (some directory) hdirectory
  -- the node was held by no one, so all that is held keeps its parent
  have hheld : ∀ {holder key child}, (forest.childrenOf holder).get? key = some child →
      key = Text.lower (forest.nameOf child)
        ∧ (if id = child then some directory else forest.parentOf child) = some holder := by
    intro holder key child hget
    obtain ⟨hkey, hlies⟩ := hsound.of_get? hget
    have hne : id ≠ child := by
      rintro rfl
      rw [hparent] at hlies
      exact absurd hlies (by simp)
    exact ⟨hkey, by rw [if_neg hne, hlies]⟩
  -- the walk up from the directory does not meet the node, and it sees everything there
  have hfar : ¬ Relation.ReflTransGen forest.LiesIn directory id :=
    fun hpath => hlineage (hsound.mem_lineage_iff.2 hpath)
  refine ⟨fun {holder key child} hget => ?_, fun {child parent} hlies => ?_,
    hsound.acyclic.of_new_link hfar fun {child parent} hlies => ?_⟩
  · rw [hchildrenOf] at hget
    rw [hparentOf, nameOf_relink]
    split at hget
    · rename_i hholder
      subst hholder
      rw [NameMap.get?_insert] at hget
      split at hget
      · rename_i hkey
        have hchild : id = child := Option.some.inj hget
        subst hchild
        exact ⟨hkey.symm, if_pos rfl⟩
      · exact hheld hget
    · exact hheld hget
  · rw [hparentOf] at hlies
    rw [child?, hchildrenOf, nameOf_relink]
    split at hlies
    · rename_i hchild
      subst hchild
      have hholder : directory = parent := Option.some.inj hlies
      rw [if_pos hholder, NameMap.get?_insert, if_pos rfl]
    · rename_i hchild
      have hget := hsound.child?_of_parentOf hlies
      split
      · rename_i hholder
        subst hholder
        -- the key was free, so it is not that of a child
        have hkey : Text.lower (forest.nameOf id) ≠ Text.lower (forest.nameOf child) := by
          intro heq
          rw [child?, heq] at hfree
          rw [child?, hfree] at hget
          exact absurd hget (by simp)
        rw [NameMap.get?_insert, if_neg hkey]
        exact hget
      · exact hget
  · rw [hparentOf] at hlies
    split at hlies
    · rename_i hchild
      exact .inr ⟨hchild.symm, (Option.some.inj hlies).symm⟩
    · exact .inl hlies

end Sound

/-! ## Detaching -/

/-- **What is detached, and what comes of it.** -/
theorem remove_cases (forest : Forest) (directory : NodeId) (name : String) :
    (forest.child? directory name = none ∧ forest.remove directory name = (none, forest))
      ∨ ∃ id, forest.child? directory name = some id
        ∧ forest.remove directory name
          = (some id, forest.relink directory (·.erase (Text.lower name)) id none) := by
  simp only [remove, child?]
  cases hget : (forest.childrenOf directory).get? (Text.lower name) with
  | none => exact .inl ⟨rfl, rfl⟩
  | some id => exact .inr ⟨id, rfl, rfl⟩

namespace Sound

/-- **Detaching keeps a forest sound.** -/
theorem remove (hsound : forest.Sound) (directory : NodeId) (name : String) :
    (forest.remove directory name).2.Sound := by
  rcases forest.remove_cases directory name with ⟨-, hremove⟩ | ⟨id, hchild, hremove⟩
  · rw [hremove]
    exact hsound
  rw [hremove]
  obtain ⟨hname, hlies⟩ := hsound.of_get? hchild
  have hparentOf := forest.parentOf_relink directory (·.erase (Text.lower name)) none
    (node?_of_parentOf hlies)
  have hchildrenOf := forest.childrenOf_relink (·.erase (Text.lower name)) id none
    (isDirectory_of_get? hchild)
  -- a link that is left was there before, and is not that of the node
  have hleft : ∀ {child parent},
      (forest.relink directory (·.erase (Text.lower name)) id none).parentOf child = some parent →
      id ≠ child ∧ forest.parentOf child = some parent := by
    intro child parent h
    rw [hparentOf] at h
    split at h
    · exact absurd h (by simp)
    · exact ⟨‹_›, h⟩
  refine ⟨fun {holder key child} hget => ?_, fun {child parent} h => ?_,
    hsound.acyclic.of_fewer_links fun h => (hleft h).2⟩
  · rw [hchildrenOf] at hget
    rw [nameOf_relink, hparentOf]
    have hold : (forest.childrenOf holder).get? key = some child := by
      split at hget
      · rw [NameMap.get?_erase] at hget
        split at hget
        · exact absurd hget (by simp)
        · exact hget
      · exact hget
    obtain ⟨hkey, hchildlies⟩ := hsound.of_get? hold
    have hne : id ≠ child := by
      rintro rfl
      have hholder : directory = holder := Option.some.inj (hlies.symm.trans hchildlies)
      rw [if_pos hholder, NameMap.get?_erase, if_pos (by rw [hkey, hname])] at hget
      exact absurd hget (by simp)
    exact ⟨hkey, by rw [if_neg hne, hchildlies]⟩
  · obtain ⟨hne, hchildlies⟩ := hleft h
    have hget := hsound.child?_of_parentOf hchildlies
    rw [child?, nameOf_relink, hchildrenOf]
    split
    · rename_i hholder
      subst hholder
      have hkey : Text.lower name ≠ Text.lower (forest.nameOf child) := by
        intro heq
        rw [child?, ← heq, ← child?, hchild] at hget
        exact hne (Option.some.inj hget)
      rw [NameMap.get?_erase, if_neg hkey]
      exact hget
    · exact hget

end Sound

/-! ## Letting nodes go -/

/-- What lies in a directory that is kept is kept. -/
theorem Sound.isKept_of_parentOf (hsound : forest.Sound) {wanted : List NodeId}
    {child parent : NodeId} (h : forest.parentOf child = some parent)
    (hparent : forest.isKept wanted parent = true) : forest.isKept wanted child = true := by
  rw [isKept, hsound.lineage_of_parentOf h, List.any_cons, ← isKept, hparent, Bool.or_true]

/-- What is wanted is kept. -/
theorem isKept_of_mem {wanted : List NodeId} {id : NodeId} (h : id ∈ wanted) :
    forest.isKept wanted id = true :=
  List.any_eq_true.2 ⟨id, self_mem_climb _ id, List.contains_iff_mem.2 h⟩

/-- A link that is left is between nodes that are kept, and was there before. -/
theorem parentOf_reclaim_eq_some_iff {wanted : List NodeId} {child parent : NodeId} :
    (forest.reclaim wanted).parentOf child = some parent
      ↔ forest.isKept wanted child = true ∧ forest.isKept wanted parent = true
        ∧ forest.parentOf child = some parent := by
  rw [parentOf_reclaim]
  split
  · rename_i hchild
    rw [Option.filter_eq_some_iff]
    simp [hchild, and_comm]
  · rename_i hchild
    simp [hchild]

/-- **Letting nodes go keeps a forest sound.** -/
theorem Sound.reclaim (hsound : forest.Sound) (wanted : List NodeId) :
    (forest.reclaim wanted).Sound := by
  refine ⟨fun {holder key child} hget => ?_, fun {child parent} h => ?_,
    hsound.acyclic.of_fewer_links fun h => (parentOf_reclaim_eq_some_iff.1 h).2.2⟩
  · rw [childrenOf_reclaim] at hget
    split at hget
    · rename_i hholder
      obtain ⟨hkey, hlies⟩ := hsound.of_get? hget
      -- what a directory holds stays with it, under the same name
      have hchild := hsound.isKept_of_parentOf hlies hholder
      exact ⟨by rw [nameOf_reclaim, if_pos hchild, hkey],
        parentOf_reclaim_eq_some_iff.2 ⟨hchild, hholder, hlies⟩⟩
    · exact absurd hget (by simp)
  · obtain ⟨hchild, hparent, hlies⟩ := parentOf_reclaim_eq_some_iff.1 h
    rw [child?, childrenOf_reclaim, if_pos hparent, nameOf_reclaim, if_pos hchild]
    exact hsound.child?_of_parentOf hlies

end Forest

end StoryShell
