/-
What a search by name finds.

A search goes through the levels below the root, and each level is in the order of the descents to
its nodes; so what it finds is the one node of that name that lies least deep and, of those that lie
as deep, comes first (`find_eq_some_iff`).

The same search can be made with a queue of directories, in which no levels are to be seen and no
bound is set (`QueueSearch`). Its invariant is that the queue holds the directories of a level that
are still to be looked at, and behind them those of the next level that were met so far; so a row of
directories is taken off the front while their children are put at the end (`queueSearch_row`), and
the two searches come to the same (`queueSearch_iff`).
-/
import StoryShell.Proofs.Tree.Changes
import StoryShell.Proofs.Tree.Descent

set_option autoImplicit false

namespace StoryShell

namespace Forest

variable {forest : Forest} {key : String} {id : NodeId}

/-- Whether a node has a key. -/
def hasKey (forest : Forest) (key : String) (id : NodeId) : Bool :=
  Text.lower (forest.nameOf id) = key

theorem hasKey_iff : forest.hasKey key id = true ↔ Text.lower (forest.nameOf id) = key :=
  decide_eq_true_iff

theorem searchLevels_succ (key : String) (depth : Nat) (level : List NodeId) :
    forest.searchLevels key (depth + 1) level
      = ((level.flatMap forest.listing).find? (forest.hasKey key)).or
          (forest.searchLevels key depth (level.flatMap forest.listing)) := by
  simp only [searchLevels]
  split
  · rename_i id hfound
    have hfirst : (level.flatMap forest.listing).find? (forest.hasKey key) = some id := hfound
    rw [hfirst, Option.some_or]
  · rename_i hmissed
    have hnone : (level.flatMap forest.listing).find? (forest.hasKey key) = none := hmissed
    rw [hnone, Option.none_or]

/-! ## Level by level -/

/-- What is found is the first match on its level, and there is none on a level above. -/
theorem exists_level_of_searchLevels {depth : Nat} (start : Nat)
    (h : forest.searchLevels key depth (forest.level start) = some id) :
    ∃ deep, start < deep ∧ (forest.level deep).find? (forest.hasKey key) = some id
      ∧ ∀ other, start < other → other < deep →
        (forest.level other).find? (forest.hasKey key) = none := by
  induction depth generalizing start with
  | zero => exact absurd h (by simp [searchLevels])
  | succ depth ih =>
    rw [searchLevels_succ, ← level] at h
    cases hnext : (forest.level (start + 1)).find? (forest.hasKey key) with
    | some found =>
      rw [hnext, Option.some_or, Option.some.injEq] at h
      refine ⟨start + 1, Nat.lt_succ_self start, ?_, fun other habove hbelow => ?_⟩
      · rw [hnext, h]
      · omega
    | none =>
      rw [hnext, Option.none_or] at h
      obtain ⟨deep, hdeep, hfound, hnone⟩ := ih _ h
      refine ⟨deep, by omega, hfound, fun other habove hbelow => ?_⟩
      by_cases hother : other = start + 1
      · rwa [hother]
      · exact hnone other (by omega) hbelow

/-- Where nothing is found, there is no match on any level that was looked at. -/
theorem level_of_searchLevels_eq_none {depth : Nat} (start : Nat)
    (h : forest.searchLevels key depth (forest.level start) = none) {deep : Nat}
    (habove : start < deep) (hbelow : deep ≤ start + depth) :
    (forest.level deep).find? (forest.hasKey key) = none := by
  induction depth generalizing start with
  | zero => omega
  | succ depth ih =>
    rw [searchLevels_succ, ← level, Option.or_eq_none_iff] at h
    by_cases hdeep : deep = start + 1
    · rw [hdeep]
      exact h.1
    · exact ih _ h.2 (by omega) (by omega)

/-- **The first node with a key**: it is below the root and has the key, none with the key lies less
deep, and of those that lie as deep it comes before every other. -/
structure FirstWith (forest : Forest) (key : String) (id : NodeId) : Prop where
  below : forest.BelowRoot id
  key_eq : Text.lower (forest.nameOf id) = key
  least_deep : ∀ other, forest.BelowRoot other → Text.lower (forest.nameOf other) = key →
    forest.depthOf id ≤ forest.depthOf other
  first : ∀ other, forest.BelowRoot other → Text.lower (forest.nameOf other) = key →
    forest.depthOf other = forest.depthOf id → other = id ∨ forest.Precedes id other

/-- There is one first node with a key at most. -/
theorem FirstWith.unique (hsound : forest.Sound) {other : NodeId} (h : forest.FirstWith key id)
    (hother : forest.FirstWith key other) : id = other := by
  have hdepth : forest.depthOf other = forest.depthOf id :=
    Nat.le_antisymm (hother.least_deep id h.below h.key_eq)
      (h.least_deep other hother.below hother.key_eq)
  rcases h.first other hother.below hother.key_eq hdepth with heq | hbefore
  · exact heq.symm
  · rcases hother.first id h.below h.key_eq hdepth.symm with heq | hafter
    · exact heq
    · exact absurd hafter (hsound.not_precedes hbefore)

namespace Sound

variable (hsound : forest.Sound)

include hsound

/-- What is below the root is on the level of its depth, which is not the uppermost one. -/
theorem mem_level_of_belowRoot (h : forest.BelowRoot id) :
    id ∈ forest.level (forest.depthOf id) ∧ 0 < forest.depthOf id := by
  obtain ⟨htree, hroot⟩ := hsound.belowRoot_iff.1 h
  refine ⟨hsound.mem_level_iff.2 ⟨htree, rfl⟩, Nat.pos_of_ne_zero ?_⟩
  rwa [ne_eq, depthOf_eq_zero_iff]

/-- What is below the root lies less deep than there are nodes. -/
theorem depthOf_lt_size (h : forest.BelowRoot id) : forest.depthOf id < forest.slots.size := by
  obtain ⟨htree, hroot⟩ := hsound.belowRoot_iff.1 h
  have hexists : forest.node? id ≠ none := by
    rcases inTree_iff.1 htree with heq | ⟨parent, hlies, -⟩
    · exact absurd heq hroot
    · exact node?_of_parentOf hlies
  have hlong := hsound.lt_length_lineage (hsound.mem_level_of_belowRoot h).1
  have hshort : (forest.lineage id).length ≤ forest.slots.size := hsound.length_climb_le _ hexists
  omega

/-- **Where nothing is found**, no node below the root has the key. -/
theorem ne_key_of_find_eq_none {name : String} (h : forest.find name = none)
    (hbelow : forest.BelowRoot id) : Text.lower (forest.nameOf id) ≠ Text.lower name := by
  obtain ⟨hmem, hpos⟩ := hsound.mem_level_of_belowRoot hbelow
  have hsize := hsound.depthOf_lt_size hbelow
  have hnone := level_of_searchLevels_eq_none 0 h hpos (by omega)
  intro hkey
  exact List.find?_eq_none.1 hnone id hmem (hasKey_iff.2 hkey)

/-- **What is found is the first node with the key.** -/
theorem firstWith_of_find {name : String} (h : forest.find name = some id) :
    forest.FirstWith (Text.lower name) id := by
  obtain ⟨deep, hpos, hfound, hnone⟩ := exists_level_of_searchLevels 0 h
  obtain ⟨hkey, before, after, hlevel, hbefore⟩ := List.find?_eq_some_iff_append.1 hfound
  obtain ⟨htree, hdepth⟩ := hsound.mem_level_iff.1 (List.mem_of_find?_eq_some hfound)
  have hroot : id ≠ root := by
    rw [ne_eq, ← depthOf_eq_zero_iff, hdepth]
    omega
  refine ⟨hsound.belowRoot_iff.2 ⟨htree, hroot⟩, hasKey_iff.1 hkey, ?_, ?_⟩
  · intro other hbelow hother
    obtain ⟨hmem, hotherPos⟩ := hsound.mem_level_of_belowRoot hbelow
    -- a match on a level above would have been found there
    by_contra hless
    have hmissed := hnone (forest.depthOf other) hotherPos (by omega)
    exact List.find?_eq_none.1 hmissed other hmem (hasKey_iff.2 hother)
  · intro other hbelow hother hsame
    have hmem := (hsound.mem_level_of_belowRoot hbelow).1
    have hordered := hsound.level_ordered deep
    rw [hsame, hdepth, hlevel] at hmem
    rw [hlevel] at hordered
    rcases List.mem_append.1 hmem with hmem | hmem
    · have hmissed := hbefore other hmem
      rw [hasKey_iff.2 hother] at hmissed
      exact absurd hmissed (by decide)
    · rcases List.mem_cons.1 hmem with heq | hmem
      · exact .inl heq
      · have hrest := (List.pairwise_append.1 hordered).2.1
        exact .inr ((List.pairwise_cons.1 hrest).1 other hmem)

/-- **A search finds the first node with the key**, whenever there is one. -/
theorem find_eq_some_iff {name : String} :
    forest.find name = some id ↔ forest.FirstWith (Text.lower name) id := by
  constructor
  · exact hsound.firstWith_of_find
  · intro h
    cases hfind : forest.find name with
    | none => exact absurd h.key_eq (hsound.ne_key_of_find_eq_none hfind h.below)
    | some found => rw [(hsound.firstWith_of_find hfind).unique hsound h]

end Sound

/-! ## With a queue -/

/-- **A search with a queue of directories, and what it comes to.** The directory at the front is
taken off. If a child of it has the key, then the first such child in listing order is found;
otherwise the directories among its children are put at the end. -/
inductive QueueSearch (forest : Forest) (key : String) : List NodeId → Option NodeId → Prop
  | exhausted : QueueSearch forest key [] none
  | found {directory id : NodeId} {queue : List NodeId}
      (h : (forest.listing directory).find? (forest.hasKey key) = some id) :
      QueueSearch forest key (directory :: queue) (some id)
  | passed {directory : NodeId} {queue : List NodeId} {outcome : Option NodeId}
      (h : (forest.listing directory).find? (forest.hasKey key) = none)
      (hrest : QueueSearch forest key
        (queue ++ (forest.listing directory).filter forest.isDirectory) outcome) :
      QueueSearch forest key (directory :: queue) outcome

/-- A search with a queue comes to one thing only. -/
theorem QueueSearch.unique {queue : List NodeId} {outcome other : Option NodeId}
    (h : forest.QueueSearch key queue outcome) (hother : forest.QueueSearch key queue other) :
    outcome = other := by
  induction h with
  | exhausted =>
    cases hother
    rfl
  | found hfound =>
    cases hother with
    | found hagain => exact hfound.symm.trans hagain
    | passed hnone _ => exact absurd (hfound.symm.trans hnone) (by simp)
  | passed hnone _ ih =>
    cases hother with
    | found hfound => exact absurd (hfound.symm.trans hnone) (by simp)
    | passed _ hrest => exact ih hrest

/-- A file lists nothing. -/
theorem listing_of_not_isDirectory (h : forest.isDirectory id = false) :
    forest.listing id = [] := by
  by_contra hne
  obtain ⟨child, hchild⟩ := List.exists_mem_of_ne_nil _ hne
  obtain ⟨key, hget⟩ := NameMap.mem_values_iff.1 hchild
  rw [isDirectory_of_get? hget] at h
  exact absurd h (by decide)

/-- **A row at the front of the queue** is searched as a whole: the first match among the children
of its nodes is found, and without a match the directories among them are at the end. -/
theorem queueSearch_row (row behind : List NodeId) (outcome : Option NodeId)
    (hrest : forest.QueueSearch key
      (behind ++ (row.flatMap forest.listing).filter forest.isDirectory) outcome) :
    forest.QueueSearch key (row.filter forest.isDirectory ++ behind)
      (((row.flatMap forest.listing).find? (forest.hasKey key)).or outcome) := by
  induction row generalizing behind with
  | nil => simpa using hrest
  | cons node row ih =>
    rw [List.flatMap_cons, List.filter_append, ← List.append_assoc] at hrest
    rw [List.flatMap_cons, List.find?_append]
    cases hkind : forest.isDirectory node with
    | false =>
      -- a file is in no queue, and has no children
      rw [listing_of_not_isDirectory hkind, List.filter_nil, List.append_nil] at hrest
      rw [listing_of_not_isDirectory hkind, List.find?_nil, Option.none_or,
        List.filter_cons_of_neg (by simp [hkind])]
      exact ih behind hrest
    | true =>
      rw [List.filter_cons_of_pos hkind, List.cons_append]
      cases hfound : (forest.listing node).find? (forest.hasKey key) with
      | some found => exact .found hfound
      | none =>
        refine .passed hfound ?_
        rw [List.append_assoc, Option.none_or]
        exact ih _ hrest

/-- **The queue of a level** leads to what a search from this level finds. -/
theorem queueSearch_level (key : String) {depth : Nat} (start : Nat)
    (h : forest.level (start + depth) = []) :
    forest.QueueSearch key ((forest.level start).filter forest.isDirectory)
      (forest.searchLevels key depth (forest.level start)) := by
  induction depth generalizing start with
  | zero =>
    rw [Nat.add_zero] at h
    rw [h]
    exact .exhausted
  | succ depth ih =>
    have hrest := ih (start + 1) (by rwa [Nat.add_right_comm, Nat.add_assoc])
    have hrow := queueSearch_row (forest.level start) [] _ hrest
    rw [List.append_nil] at hrow
    rw [searchLevels_succ]
    exact hrow

/-- **A search with a queue ends**, and with what is found level by level. -/
theorem Sound.queueSearch_iff (hsound : forest.Sound) (hroot : forest.isDirectory root = true)
    {name : String} {outcome : Option NodeId} :
    forest.QueueSearch (Text.lower name) [root] outcome ↔ outcome = forest.find name := by
  have hfind : forest.QueueSearch (Text.lower name) [root] (forest.find name) := by
    have hlast : forest.level (0 + forest.slots.size) = [] := by
      rw [Nat.zero_add]
      exact hsound.level_eq_nil (node?_of_isDirectory hroot)
    have hsearch := queueSearch_level (Text.lower name) 0 hlast
    rwa [level, List.filter_singleton, hroot] at hsearch
  constructor
  · intro h
    exact h.unique hfind
  · rintro rfl
    exact hfind

end Forest

namespace FileSystem

/-- **A search by name finds the first node of that name, breadth first**, whatever was done to the
tree before. A search with a queue ends, and with what is found level by level; this is the first
node with the key of the name, and there is none only if no node below the root has the key. What is
shown of it is its path. The root is never found, and the current directory makes no difference. -/
theorem finds_breadth_first (changes : List TreeChange) (h : initial.CanRun changes)
    (name : String) :
    let fs := initial.run changes
    let forest := fs.forest
    (∀ outcome, forest.QueueSearch (Text.lower name) [Forest.root] outcome
        ↔ outcome = forest.find name)
      ∧ (∀ id, forest.find name = some id ↔ forest.FirstWith (Text.lower name) id)
      ∧ fs.find name = (forest.find name).map forest.pathOf
      ∧ (fs.find name = none
        ↔ ∀ id, forest.BelowRoot id → Text.lower (forest.nameOf id) ≠ Text.lower name)
      ∧ (∀ id, forest.find name = some id → id ≠ Forest.root)
      ∧ ∀ cwd, find { fs with cwd := cwd } name = fs.find name := by
  intro fs forest
  have hfs : fs.Sound := sound_initial.run h
  have hsound : forest.Sound := hfs.forest
  refine ⟨fun outcome => hsound.queueSearch_iff hfs.root, fun id => hsound.find_eq_some_iff, rfl,
    ?_, fun id hid => ?_, fun cwd => rfl⟩
  · rw [find, Option.map_eq_none_iff]
    constructor
    · intro hnone id hbelow
      exact hsound.ne_key_of_find_eq_none hnone hbelow
    · intro hnone
      rw [Option.eq_none_iff_forall_ne_some]
      intro id hid
      have hfirst := hsound.firstWith_of_find hid
      exact hnone id hfirst.below hfirst.key_eq
  · exact (hsound.belowRoot_iff.1 (hsound.firstWith_of_find hid).below).2

/-- Five nodes of one name but for case: in the tree one that lies deeper and two that lie equally
deep, of which the later one is in the directory that is listed first; the directory in which the
root was put; and one that was taken out. -/
theorem finds_breadth_first_among_namesakes :
    let changes : List TreeChange :=
      [.createDirectory Forest.root "Beta", .createFile 1 "NOTE" "",
        .createDirectory Forest.root "alpha", .createDirectory 3 "Deep",
        .createDirectory 4 "note", .createFile 3 "Note" "hello", .createFile Forest.root "note" "",
        .remove Forest.root "NOTE", .newDirectory "Note", .attach 8 Forest.root,
        .changeDirectory "BETA"]
    let fs := initial.run changes
    let forest := fs.forest
    initial.CanRun changes ∧ forest.parentOf Forest.root = some 8 ∧ fs.cwd = 1
      ∧ fs.find "nOTE" = some "/alpha/Note" ∧ fs.find "hello" = none
      ∧ forest.FirstWith (Text.lower "nOTE") 6
      ∧ forest.QueueSearch (Text.lower "nOTE") [Forest.root] (some 6)
      ∧ ∀ id, forest.BelowRoot id → Text.lower (forest.nameOf id) ≠ Text.lower "hello" := by
  intro changes fs forest
  have hfacts : initial.CanRun changes ∧ forest.parentOf Forest.root = some 8 ∧ fs.cwd = 1
      ∧ fs.find "nOTE" = some "/alpha/Note" ∧ fs.find "hello" = none
      ∧ forest.find "nOTE" = some 6 := by decide +kernel
  obtain ⟨hcan, hroot, hcwd, hpath, hnone, hfound⟩ := hfacts
  obtain ⟨hqueue, hfirst, -⟩ := finds_breadth_first changes hcan "nOTE"
  obtain ⟨-, -, -, hmissing, -⟩ := finds_breadth_first changes hcan "hello"
  exact ⟨hcan, hroot, hcwd, hpath, hnone, (hfirst 6).1 hfound, (hqueue (some 6)).2 hfound.symm,
    hmissing.1 hnone⟩

end FileSystem

end StoryShell
