/-
The way down to a node, and the order of the nodes on one level.

The descent to a node has the nodes from below the root down to the node, and its length is the
depth of the node. A search level by level meets the nodes of one level in the order of their
descents (`level_ordered`): where two descents part, both go on to children of one directory, and
the node that is met first is the one whose descent goes on to the child that is listed first. Since
a listing goes by the keys of names, no node is listed before itself, and the order is strict.
-/
import Mathlib.Data.List.Lex
import StoryShell.Proofs.Tree.Paths

set_option autoImplicit false

namespace StoryShell.Forest

variable {forest : Forest} {id parent first second : NodeId} {depth : Nat}

/-! ## Listings -/

/-- **A node is listed before another one** if a directory lists both in this order. -/
def ListedBefore (forest : Forest) (first second : NodeId) : Prop :=
  ∃ directory, [first, second].Sublist (forest.listing directory)

/-- A listing goes by the keys of names. -/
theorem Sound.listing_ordered (hsound : forest.Sound) (directory : NodeId) :
    (forest.listing directory).Pairwise fun first second =>
      Text.lower (forest.nameOf first) < Text.lower (forest.nameOf second) := by
  -- an entry stands under the key of the node's name
  have hkey : ∀ entry ∈ (forest.childrenOf directory).entries,
      entry.1 = Text.lower (forest.nameOf entry.2) := by
    rintro ⟨key, child⟩ hentry
    have hget : (forest.childrenOf directory).get? key = some child :=
      NameMap.lookup_of_mem (forest.childrenOf directory).ordered hentry
    exact (hsound.of_get? hget).1
  rw [listing, NameMap.values, List.pairwise_map]
  refine (forest.childrenOf directory).ordered.imp_of_mem fun {a b} ha hb hlt => ?_
  rwa [hkey a ha, hkey b hb] at hlt

/-- **Which node is listed first** of two in one directory: the one with the smaller key. -/
theorem Sound.listedBefore_iff (hsound : forest.Sound) :
    forest.ListedBefore first second
      ↔ ∃ directory, forest.parentOf first = some directory
        ∧ forest.parentOf second = some directory
        ∧ Text.lower (forest.nameOf first) < Text.lower (forest.nameOf second) := by
  constructor
  · rintro ⟨directory, hlisted⟩
    have hmem := hlisted.subset
    exact ⟨directory, hsound.mem_listing_iff.1 (hmem (by simp)),
      hsound.mem_listing_iff.1 (hmem (by simp)),
      List.pairwise_iff_forall_sublist.1 (hsound.listing_ordered directory) hlisted⟩
  · rintro ⟨directory, hfirst, hsecond, hlt⟩
    refine ⟨directory, ?_⟩
    obtain ⟨before, after, hlisting⟩ := List.append_of_mem (hsound.mem_listing_iff.2 hfirst)
    have hordered := hsound.listing_ordered directory
    have hmem := hsound.mem_listing_iff.2 hsecond
    rw [hlisting] at hordered hmem ⊢
    -- the second node is neither the first one nor in front of it
    rcases List.mem_append.1 hmem with hbefore | hmem
    · have hgt := (List.pairwise_append.1 hordered).2.2 second hbefore first List.mem_cons_self
      exact absurd hlt (String.lt_asymm hgt)
    · rcases List.mem_cons.1 hmem with rfl | hafter
      · exact absurd hlt (String.lt_irrefl _)
      · exact ((List.singleton_sublist.2 hafter).cons_cons first).trans
          (List.sublist_append_right before _)

/-- Of two nodes only one is listed before the other. -/
theorem Sound.asymm_listedBefore (hsound : forest.Sound) : Std.Asymm forest.ListedBefore where
  asymm _ _ hfirst hsecond := by
    obtain ⟨-, -, -, hlt⟩ := hsound.listedBefore_iff.1 hfirst
    obtain ⟨-, -, -, hgt⟩ := hsound.listedBefore_iff.1 hsecond
    exact String.lt_asymm hlt hgt

/-! ## Descents -/

/-- **The descent to a node**: the nodes from below the root, or from the top of a detached tree,
down to the node. -/
def descent (forest : Forest) (id : NodeId) : List NodeId :=
  ((forest.lineage id).takeWhile (· ≠ root)).reverse

/-- How far below the root a node lies. -/
def depthOf (forest : Forest) (id : NodeId) : Nat := (forest.descent id).length

/-- **A node comes before another one** on their level: where the descents to them part, its own
goes on to the child that is listed first. -/
def Precedes (forest : Forest) (first second : NodeId) : Prop :=
  List.Lex forest.ListedBefore (forest.descent first) (forest.descent second)

/-- There is no descent to the root, and to the root only. -/
theorem descent_eq_nil_iff : forest.descent id = [] ↔ id = root := by
  obtain ⟨above, hlineage⟩ := forest.exists_lineage_eq id
  rw [descent, hlineage, List.reverse_eq_nil_iff, List.takeWhile_cons]
  by_cases hroot : id = root
  · simp [hroot]
  · simp [hroot]

theorem depthOf_eq_zero_iff : forest.depthOf id = 0 ↔ id = root := by
  rw [depthOf, List.length_eq_zero_iff, descent_eq_nil_iff]

namespace Sound

variable (hsound : forest.Sound)

include hsound

/-- **The descent to a node** goes through its directory. -/
theorem descent_of_parentOf (hroot : id ≠ root) (h : forest.parentOf id = some parent) :
    forest.descent id = forest.descent parent ++ [id] := by
  rw [descent, descent, hsound.lineage_of_parentOf h,
    List.takeWhile_cons_of_pos (by simpa using hroot), List.reverse_cons]

theorem depthOf_of_parentOf (hroot : id ≠ root) (h : forest.parentOf id = some parent) :
    forest.depthOf id = forest.depthOf parent + 1 := by
  rw [depthOf, hsound.descent_of_parentOf hroot h, List.length_append, List.length_singleton,
    depthOf]

/-- The root lies in no directory of its own tree. -/
theorem ne_root_of_parentOf (h : forest.parentOf id = some parent)
    (hparent : forest.InTree parent) : id ≠ root := by
  rintro rfl
  exact hsound.acyclic root (.head' h hparent)

/-- **A level has the nodes of the tree that lie so deep.** -/
theorem mem_level_iff : id ∈ forest.level depth ↔ forest.InTree id ∧ forest.depthOf id = depth := by
  induction depth generalizing id with
  | zero =>
    rw [level, List.mem_singleton, depthOf_eq_zero_iff]
    constructor
    · rintro rfl
      exact ⟨Relation.ReflTransGen.refl, rfl⟩
    · exact And.right
  | succ depth ih =>
    rw [level, List.mem_flatMap]
    constructor
    · rintro ⟨parent, hparent, hid⟩
      obtain ⟨htree, hdepth⟩ := ih.1 hparent
      have hlies := hsound.mem_listing_iff.1 hid
      refine ⟨.of_parentOf hlies htree, ?_⟩
      rw [hsound.depthOf_of_parentOf (hsound.ne_root_of_parentOf hlies htree) hlies, hdepth]
    · rintro ⟨htree, hdepth⟩
      have hroot : id ≠ root := by
        intro heq
        rw [depthOf_eq_zero_iff.2 heq] at hdepth
        exact absurd hdepth (Nat.succ_ne_zero depth).symm
      rcases inTree_iff.1 htree with heq | ⟨parent, hlies, hparent⟩
      · exact absurd heq hroot
      · rw [hsound.depthOf_of_parentOf hroot hlies] at hdepth
        exact ⟨parent, ih.2 ⟨hparent, Nat.succ.inj hdepth⟩, hsound.mem_listing_iff.2 hlies⟩

end Sound

/-! ## The order on a level -/

/-- Lists of one length that part keep their order, whatever is put behind them. -/
theorem lex_append {α : Type} {r : α → α → Prop} {as bs : List α} (h : List.Lex r as bs)
    (hlength : as.length = bs.length) (cs ds : List α) : List.Lex r (as ++ cs) (bs ++ ds) := by
  induction h with
  | nil => exact absurd hlength (by simp)
  | rel hr => exact .rel hr
  | cons _ ih => exact .cons (ih (by simpa using hlength))

/-- **A level is in the order of the descents.** -/
theorem Sound.level_ordered (hsound : forest.Sound) (depth : Nat) :
    (forest.level depth).Pairwise forest.Precedes := by
  induction depth with
  | zero => exact List.pairwise_singleton _ _
  | succ depth ih =>
    -- a child of a node on the level above, whose descent goes through this node
    have hdescent : ∀ {parent child}, parent ∈ forest.level depth →
        child ∈ forest.listing parent →
        forest.descent child = forest.descent parent ++ [child] := by
      intro parent child hparent hchild
      have hlies := hsound.mem_listing_iff.1 hchild
      have htree := (hsound.mem_level_iff.1 hparent).1
      exact hsound.descent_of_parentOf (hsound.ne_root_of_parentOf hlies htree) hlies
    rw [level, List.pairwise_flatMap]
    refine ⟨fun parent hparent => ?_, ih.imp_of_mem fun {left right} hleft hright hbefore => ?_⟩
    · refine List.pairwise_iff_forall_sublist.2 fun {first second} hlisted => ?_
      have hfirst := hdescent hparent (hlisted.subset (a := first) (by simp))
      have hsecond := hdescent hparent (hlisted.subset (a := second) (by simp))
      rw [Precedes, hfirst, hsecond]
      exact List.Lex.append_left _ (.rel ⟨parent, hlisted⟩) _
    · intro first hfirst second hsecond
      rw [Precedes, hdescent hleft hfirst, hdescent hright hsecond]
      -- both descents go as deep as the level, so none of them is a part of the other
      have hlength := (hsound.mem_level_iff.1 hleft).2.trans (hsound.mem_level_iff.1 hright).2.symm
      exact lex_append hbefore hlength _ _

/-- Of two nodes only one comes before the other. -/
theorem Sound.not_precedes (hsound : forest.Sound) (h : forest.Precedes first second) :
    ¬ forest.Precedes second first :=
  have := hsound.asymm_listedBefore
  Std.Asymm.asymm (r := List.Lex forest.ListedBefore) _ _ h

/-! ## Below the root -/

/-- **A node is below the root** if one or more steps from directories to their children lead from
the root to it. -/
def BelowRoot (forest : Forest) (id : NodeId) : Prop :=
  Relation.TransGen (fun parent child => child ∈ forest.listing parent) root id

/-- What is below the root is the nodes of the tree but the root. -/
theorem Sound.belowRoot_iff (hsound : forest.Sound) :
    forest.BelowRoot id ↔ forest.InTree id ∧ id ≠ root := by
  rw [BelowRoot, hsound.listing_links, Relation.transGen_swap]
  constructor
  · intro h
    refine ⟨h.to_reflTransGen, ?_⟩
    rintro rfl
    exact hsound.acyclic root h
  · rintro ⟨htree, hroot⟩
    rcases Relation.reflTransGen_iff_eq_or_transGen.1 htree with heq | h
    · exact absurd heq.symm hroot
    · exact h

end StoryShell.Forest
