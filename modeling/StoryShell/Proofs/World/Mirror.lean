/-
Forests that mirror a tree of seeds.

A forest mirrors a tree if its nodes and the seeds of the tree stand for each other: every seed has
a place in the forest, no two have the same, no other node exists, and the node of a seed has its
name, its kind and its text and lies in the node of the seed above (`Forest.Mirrors`).

Names lead through the forest as they lead through the tree: what a written path leads to is the
place of the seed that the path leads to (`Mirrors.resolve_eq_some_iff`). Only links and names are
needed for that, since a sound forest tells from them where a name is found.
-/
import StoryShell.Proofs.World.Planting

set_option autoImplicit false

namespace StoryShell

namespace Seed

/-- **Names lead to an address** if each is that of a seed on the way down, up to case. -/
def Follows : Seed → List String → List Nat → Prop
  | _, [], [] => True
  | seed, name :: names, index :: rest =>
    ∃ child, seed.children[index]? = some child ∧ child.key = Text.lower name
      ∧ child.Follows names rest
  | _, _, _ => False

/-- Names lead to seeds only. -/
theorem below?_of_follows {seed : Seed} {names : List String} {address : List Nat}
    (h : seed.Follows names address) : ∃ found, seed.below? address = some found := by
  induction names generalizing seed address with
  | nil =>
    cases address with
    | nil => exact ⟨seed, rfl⟩
    | cons index rest => exact False.elim h
  | cons name names ih =>
    cases address with
    | nil => exact False.elim h
    | cons index rest =>
      obtain ⟨child, hchild, -, hfollows⟩ := h
      obtain ⟨found, hfound⟩ := ih hfollows
      exact ⟨found, below?_cons_eq_some_iff.2 ⟨child, hchild, hfound⟩⟩

end Seed

/-- **A node that a seed has become**: of its name and its kind, and with its text if it is a
file. -/
def Node.Shows (node : Node) : Seed → Prop
  | .file name text => node.name = name ∧ node.body = .file text
  | .directory name _ _ => node.name = name ∧ node.isDirectory = true

theorem Node.Shows.name {node : Node} {seed : Seed} (h : node.Shows seed) :
    node.name = seed.name := by
  cases seed with
  | file name text => exact h.1
  | directory name text children => exact h.1

/-- A node that is that of a seed but for its children shows the seed. -/
theorem Node.shows_of_bare_eq {node : Node} {seed : Seed} {parent : Option NodeId}
    (h : node.bare = seed.node parent) : node.parent = parent ∧ node.Shows seed := by
  obtain ⟨name, holder, body⟩ := node
  cases body with
  | file text =>
    cases seed with
    | file other content =>
      obtain ⟨rfl, rfl, hbody⟩ := Node.mk.inj h
      exact ⟨rfl, rfl, hbody⟩
    | directory other content children =>
      obtain ⟨-, -, hbody⟩ := Node.mk.inj h
      cases hbody
  | directory held =>
    cases seed with
    | file other content =>
      obtain ⟨-, -, hbody⟩ := Node.mk.inj h
      cases hbody
    | directory other content children =>
      obtain ⟨rfl, rfl, -⟩ := Node.mk.inj h
      exact ⟨rfl, rfl, rfl⟩

namespace Forest

/-- **A forest that mirrors a tree.** -/
structure Mirrors (forest : Forest) (top : Seed) (place : List Nat → NodeId) : Prop where
  root : place [] = Forest.root
  above : forest.parentOf Forest.root = none
  node : ∀ {address seed}, top.below? address = some seed →
    ∃ node, forest.node? (place address) = some node ∧ node.Shows seed
  child : ∀ {address index seed}, top.below? (address ++ [index]) = some seed →
    forest.parentOf (place (address ++ [index])) = some (place address)
      ∧ forest.child? (place address) seed.name = some (place (address ++ [index]))
  injective : ∀ {address other seed found}, top.below? address = some seed →
    top.below? other = some found → place address = place other → address = other
  surjective : ∀ {id}, forest.node? id ≠ none →
    ∃ address seed, top.below? address = some seed ∧ place address = id

variable {forest : Forest} {top : Seed} {place : List Nat → NodeId}

/-! ## From lists to mirrors -/

/-- **A sound forest that lists the nodes of a tree mirrors the tree**, with every seed in the place
of its number. -/
theorem mirrors_of_lists (hsound : forest.Sound) (h : forest.Lists (top.nodes none root)) :
    forest.Mirrors top top.number := by
  have hnode : ∀ {address seed}, top.below? address = some seed →
      ∃ node, forest.node? (top.number address) = some node
        ∧ node.bare = seed.node (top.holder none root address) := by
    intro address seed hseed
    have hlisted := h.node (top.number address)
    rw [Seed.getElem?_nodes hseed, Option.map_eq_some_iff] at hlisted
    exact hlisted
  have hparent : ∀ {address seed}, top.below? address = some seed →
      forest.parentOf (top.number address) = top.holder none root address := by
    intro address seed hseed
    obtain ⟨node, hfound, hbare⟩ := hnode hseed
    rw [parentOf, hfound]
    exact (Node.shows_of_bare_eq hbare).1
  constructor
  · rfl
  · have htop : top.below? [] = some top := rfl
    exact hparent htop
  · intro address seed hseed
    obtain ⟨node, hfound, hbare⟩ := hnode hseed
    exact ⟨node, hfound, (Node.shows_of_bare_eq hbare).2⟩
  · intro address index seed hseed
    have hlies : forest.parentOf (top.number (address ++ [index])) = some (top.number address) := by
      rw [hparent hseed, Seed.holder, if_neg (by simp), List.dropLast_concat]
      exact congrArg some (Nat.zero_add _)
    obtain ⟨node, hfound, hbare⟩ := hnode hseed
    have hname : forest.nameOf (top.number (address ++ [index])) = seed.name := by
      rw [nameOf, hfound]
      exact (Node.shows_of_bare_eq hbare).2.name
    refine ⟨hlies, ?_⟩
    rw [← hname]
    exact hsound.child?_of_parentOf hlies
  · exact fun hseed hother hsame => Seed.number_injective hseed hother hsame
  · intro id hid
    have hlt : id < top.count := by
      rw [← Seed.length_nodes none root top, ← h.size]
      exact lt_size_of_node? hid
    exact Seed.exists_number_eq top id hlt

/-! ## Names on the way -/

namespace Mirrors

variable (h : forest.Mirrors top place) (hsound : forest.Sound)
include h

/-- The node of a seed has its name. -/
theorem nameOf_place {address : List Nat} {seed : Seed} (hseed : top.below? address = some seed) :
    forest.nameOf (place address) = seed.name := by
  obtain ⟨node, hnode, hshows⟩ := h.node hseed
  rw [nameOf, hnode]
  exact hshows.name

/-- The node of a seed is a directory just if the seed is one. -/
theorem isDirectory_place_iff {address : List Nat} {seed : Seed}
    (hseed : top.below? address = some seed) :
    forest.isDirectory (place address) = true
      ↔ ∃ name text children, seed = .directory name text children := by
  obtain ⟨node, hnode, hshows⟩ := h.node hseed
  rw [isDirectory, hnode, Option.map_some, Option.getD_some]
  cases seed with
  | file name text =>
    have hfile : node.isDirectory = false := by
      rw [Node.isDirectory, hshows.2]
    simp [hfile]
  | directory name text children =>
    exact ⟨fun _ => ⟨name, text, children, rfl⟩, fun _ => hshows.2⟩

include hsound

/-- **A name leads from the place of a seed to that of the child of the name.** -/
theorem child?_place_eq_some_iff {address : List Nat} {seed : Seed}
    (hseed : top.below? address = some seed) {name : String} {id : NodeId} :
    forest.child? (place address) name = some id
      ↔ ∃ index child, seed.children[index]? = some child ∧ child.key = Text.lower name
        ∧ place (address ++ [index]) = id := by
  constructor
  · intro hfound
    obtain ⟨hkey, hlies⟩ := hsound.of_get? hfound
    obtain ⟨found, child, hchild, rfl⟩ := h.surjective (node?_of_parentOf hlies)
    -- what lies in a directory is not the top, so it has an address with a last step
    rcases List.eq_nil_or_concat found with rfl | ⟨above, index, rfl⟩
    · rw [h.root, h.above] at hlies
      exact absurd hlies (by simp)
    · rw [List.concat_eq_append] at *
      obtain ⟨holder, hholder, hindex⟩ := Seed.below?_concat_eq_some_iff.1 hchild
      have hsame : above = address := by
        have hplace := (h.child hchild).1
        rw [hlies] at hplace
        exact (h.injective hseed hholder (Option.some.inj hplace)).symm
      subst hsame
      have hseeds : seed = holder := Option.some.inj (hseed.symm.trans hholder)
      rw [← hseeds] at hindex
      refine ⟨index, child, hindex, ?_, rfl⟩
      rw [Seed.key, ← h.nameOf_place hchild, hkey]
  · rintro ⟨index, child, hindex, hkey, rfl⟩
    have hchild := Seed.below?_concat_eq_some_iff.2 ⟨seed, hseed, hindex⟩
    rw [child?, ← hkey]
    exact (h.child hchild).2

/-- Names lead from the place of a seed as they lead on from the seed. -/
theorem foldlM_place_eq_some_iff {address : List Nat} {seed : Seed}
    (hseed : top.below? address = some seed) {names : List String} {id : NodeId} :
    names.foldlM forest.child? (place address) = some id
      ↔ ∃ rest, seed.Follows names rest ∧ place (address ++ rest) = id := by
  induction names generalizing address seed with
  | nil =>
    rw [List.foldlM_nil, Option.pure_def, Option.some.injEq]
    constructor
    · rintro rfl
      exact ⟨[], trivial, by rw [List.append_nil]⟩
    · rintro ⟨rest, hfollows, hplace⟩
      cases rest with
      | nil => rwa [List.append_nil] at hplace
      | cons index rest => exact False.elim hfollows
  | cons name names ih =>
    rw [List.foldlM_cons, Option.bind_eq_bind, Option.bind_eq_some_iff]
    constructor
    · rintro ⟨next, hnext, hrest⟩
      obtain ⟨index, child, hindex, hkey, rfl⟩ := (h.child?_place_eq_some_iff hsound hseed).1 hnext
      have hchild := Seed.below?_concat_eq_some_iff.2 ⟨seed, hseed, hindex⟩
      obtain ⟨rest, hfollows, hplace⟩ := (ih hchild).1 hrest
      rw [List.append_assoc, List.singleton_append] at hplace
      exact ⟨index :: rest, ⟨child, hindex, hkey, hfollows⟩, hplace⟩
    · rintro ⟨rest, hfollows, hplace⟩
      cases rest with
      | nil => exact False.elim hfollows
      | cons index rest =>
        obtain ⟨child, hindex, hkey, hfollows⟩ := hfollows
        have hchild := Seed.below?_concat_eq_some_iff.2 ⟨seed, hseed, hindex⟩
        refine ⟨place (address ++ [index]),
          (h.child?_place_eq_some_iff hsound hseed).2 ⟨index, child, hindex, hkey, rfl⟩, ?_⟩
        refine (ih hchild).2 ⟨rest, hfollows, ?_⟩
        rwa [List.append_assoc, List.singleton_append]

/-- **A written path leads to the place of what it names.** -/
theorem resolve_eq_some_iff {path : String} {id : NodeId} :
    forest.resolve path = some id
      ↔ ∃ address, top.Follows (segmentsOf path) address ∧ place address = id := by
  have htop : top.below? [] = some top := rfl
  rw [resolve, ← h.root]
  exact h.foldlM_place_eq_some_iff hsound htop

end Mirrors

end Forest

end StoryShell
