/-
Where the current directory can get to when nothing is taken out of a directory.

Nodes are then only made, attached, copied and let go, and a directory that belongs to the tree of
the root stays in it (`inTree_after`). The current directory moves from there to the root, to a
child, or one step up, so it stays in the tree as well, with one exception: nothing keeps the root
itself from being attached to a directory that is not below it. Then the step up from the root
leads out of the tree. This is the only way out (`cursor_inside_iff`): the current directory stays
in the tree, and the step up from the root leads nowhere, all through a run just if the current
directory is never the root while the root lies in a directory. It suffices that the root is never
attached.
-/
import Mathlib.Data.List.Induction
import Mathlib.Data.List.Infix
import StoryShell.Proofs.Tree.Changes
import StoryShell.Proofs.Tree.InTree

set_option autoImplicit false

namespace StoryShell

/-- Whether a change takes a child out of a directory. -/
def TreeChange.isRemoval : TreeChange → Bool
  | .remove .. => true
  | _ => false

namespace FileSystem

variable {fs : FileSystem} {change : TreeChange}

/-! ## What a change does to the tree -/

/-- **Without a removal, a directory of the tree stays in it.** -/
theorem inTree_after (hsound : fs.Sound) (happlies : change.Applies fs)
    (hkept : change.isRemoval = false) {id : NodeId} (hid : fs.forest.isDirectory id = true)
    (htree : fs.forest.InTree id) : (fs.after change).forest.InTree id := by
  refine htree.of_kept_links hsound.forest (fun {child parent} hchild hlies hparent => ?_) hid
  cases change with
  | newDirectory name => exact (fs.forest.parentOf_create name _ child).trans hlies
  | newFile name text => exact (fs.forest.parentOf_create name _ child).trans hlies
  | createDirectory directory name =>
    exact holds_orSame_snd (P := fun after => after.forest.LiesIn child parent) hlies
      fun _ _ h => liesIn_createIn happlies rfl h hlies
  | createFile directory name text =>
    exact holds_orSame_snd (P := fun after => after.forest.LiesIn child parent) hlies
      fun _ _ h => liesIn_createIn happlies rfl h hlies
  | attach directory node =>
    refine holds_orSame (P := fun after => after.forest.LiesIn child parent) hlies
      fun after h => ?_
    obtain ⟨hdetached, -, -, rfl⟩ := insert_eq_ok_iff.1 h
    -- the node had no parent, so it is not the child
    have hne : node ≠ child := by
      rintro rfl
      rw [Forest.LiesIn, hdetached] at hlies
      exact absurd hlies (by simp)
    rw [withForest, Forest.LiesIn, Forest.parentOf_relink _ _ _ _ happlies.2, if_neg hne]
    exact hlies
  | remove directory name => exact absurd hkept (by simp [TreeChange.isRemoval])
  | changeDirectory path =>
    refine holds_orSame_snd (P := fun after => after.forest.LiesIn child parent) hlies
      fun _ after h => ?_
    rw [(changeDirectory_eq_ok_iff.1 h).2]
    exact hlies
  | copy name destination =>
    cases hcopy : fs.copyInto name destination with
    | mk outcome after =>
      rw [FileSystem.after, hcopy]
      cases outcome with
      | error error =>
        rw [copyInto_error hsound.forest happlies hcopy]
        exact hlies
      | ok copied =>
        obtain ⟨-, ⟨-, hsame⟩ | hcopies⟩ := copyInto_ok hsound.forest happlies hcopy
        · rw [hsame]
          exact hlies
        · exact (hcopies.parentOf hchild).trans hlies
  | register role directory =>
    refine holds_orSame (P := fun after => after.forest.LiesIn child parent) hlies
      fun after h => ?_
    rw [(register_eq_ok_iff.1 h).2]
    exact hlies
  | collect held =>
    -- both ends of the link are kept with the root
    have hroot : Forest.root ∈ fs.anchors ++ held := List.mem_cons_self
    have hchildTree := Forest.InTree.of_parentOf hlies hparent
    exact Forest.parentOf_reclaim_eq_some_iff.2
      ⟨hchildTree.isKept hsound.forest hroot, hparent.isKept hsound.forest hroot, hlies⟩

/-- **What is neither a move nor the giving of a role** leaves the current directory where it is,
and the roles to those that have them. -/
theorem fixed_after (hsound : fs.Sound) (happlies : change.Applies fs)
    (hmove : ∀ path, change ≠ .changeDirectory path)
    (hrole : ∀ role directory, change ≠ .register role directory) :
    (fs.after change).cwd = fs.cwd ∧ (fs.after change).roles = fs.roles := by
  cases change with
  | newDirectory _ | newFile _ _ | remove _ _ | collect _ => exact ⟨rfl, rfl⟩
  | createDirectory directory name =>
    exact holds_orSame_snd (P := fun after => after.cwd = fs.cwd ∧ after.roles = fs.roles)
      ⟨rfl, rfl⟩ fun _ _ h => fixed_createIn rfl h
  | createFile directory name text =>
    exact holds_orSame_snd (P := fun after => after.cwd = fs.cwd ∧ after.roles = fs.roles)
      ⟨rfl, rfl⟩ fun _ _ h => fixed_createIn rfl h
  | attach directory node =>
    refine holds_orSame (P := fun after => after.cwd = fs.cwd ∧ after.roles = fs.roles)
      ⟨rfl, rfl⟩ fun after h => ?_
    obtain ⟨-, -, -, rfl⟩ := insert_eq_ok_iff.1 h
    exact ⟨rfl, rfl⟩
  | copy name destination =>
    rw [FileSystem.after]
    rcases copyInto_cases hsound.forest name happlies with
      ⟨_, hcopy⟩ | ⟨_, _, _, ⟨_, hcopy⟩ | ⟨_, cleared, after, _, _, hcreated, hcopy⟩⟩
    · rw [hcopy]
      exact ⟨rfl, rfl⟩
    · rw [hcopy]
      exact ⟨rfl, rfl⟩
    · obtain ⟨hcwd, hroles⟩ := fixed_createIn rfl hcreated
      rw [hcopy]
      exact ⟨hcwd, hroles⟩
  | changeDirectory path => exact absurd rfl (hmove path)
  | register role directory => exact absurd rfl (hrole role directory)

/-- A change moves the current directory by a path, or leaves it where it is. -/
theorem cwd_after (hsound : fs.Sound) (happlies : change.Applies fs) :
    (fs.after change).cwd = fs.cwd
      ∨ ∃ path target, change = .changeDirectory path ∧ fs.destination path = .ok target
        ∧ fs.after change = { fs with cwd := target } := by
  by_cases hmove : ∃ path, change = .changeDirectory path
  · obtain ⟨path, rfl⟩ := hmove
    rw [FileSystem.after, FileSystem.changeDirectory]
    cases hdestination : fs.destination path with
    | error error => exact .inl rfl
    | ok target => exact .inr ⟨path, target, rfl, hdestination, rfl⟩
  by_cases hrole : ∃ role directory, change = .register role directory
  · obtain ⟨role, directory, rfl⟩ := hrole
    refine .inl (holds_orSame (P := fun after => after.cwd = fs.cwd) rfl fun after h => ?_)
    rw [(register_eq_ok_iff.1 h).2]
  · refine .inl (fixed_after hsound happlies ?_ ?_).1
    · rintro path rfl
      exact hmove ⟨path, rfl⟩
    · rintro role directory rfl
      exact hrole ⟨role, directory, rfl⟩

/-! ## Where the current directory gets to -/

/-- **A path leads from the tree into the tree**, if the step up from the root leads nowhere. -/
theorem inTree_destination (hsound : fs.Sound) (hcwd : fs.forest.InTree fs.cwd)
    (htop : fs.cwd = Forest.root → fs.forest.parentOf Forest.root = none) {path : String}
    {target : NodeId} (h : fs.destination path = .ok target) : fs.forest.InTree target := by
  rcases destination_cases h with rfl | rfl | ⟨name, -, -, -, -, hchild, -⟩
  · exact Relation.ReflTransGen.refl
  · rcases Forest.inTree_iff.1 hcwd with hroot | ⟨parent, hlies, hparent⟩
    · rw [hroot, htop hroot]
      exact Relation.ReflTransGen.refl
    · rw [hlies]
      exact hparent
  · exact .of_parentOf (hsound.forest.of_get? hchild).2 hcwd

/-- **Without a removal, a change leaves the current directory in the tree**, if the step up from
the root leads nowhere. -/
theorem inTree_cwd_after (hsound : fs.Sound) (happlies : change.Applies fs)
    (hkept : change.isRemoval = false) (hcwd : fs.forest.InTree fs.cwd)
    (htop : fs.cwd = Forest.root → fs.forest.parentOf Forest.root = none) :
    (fs.after change).forest.InTree (fs.after change).cwd := by
  rcases cwd_after hsound happlies with hstays | ⟨path, target, rfl, hdestination, hafter⟩
  · rw [hstays]
    exact inTree_after hsound happlies hkept hsound.cwd hcwd
  · rw [hafter]
    exact inTree_destination hsound hcwd htop hdestination

/-- **Without a removal, the current directory stays in the tree all through a run**, if it is never
the root while the root lies in a directory. -/
theorem inTree_cwd_run {changes : List TreeChange} (h : initial.CanRun changes)
    (hkept : ∀ change ∈ changes, change.isRemoval = false)
    (htop : ∀ earlier, earlier <+: changes → (initial.run earlier).cwd = Forest.root →
      (initial.run earlier).forest.parentOf Forest.root = none) :
    (initial.run changes).forest.InTree (initial.run changes).cwd := by
  induction changes using List.reverseRecOn with
  | nil => exact Relation.ReflTransGen.refl
  | append_singleton changes change ih =>
    obtain ⟨hbefore, happlies, -⟩ := canRun_append_iff.1 h
    have hcwd := ih hbefore (fun other hother => hkept other (List.mem_append_left _ hother))
      fun earlier hearlier => htop earlier (hearlier.trans (List.prefix_append _ _))
    rw [run_append]
    exact inTree_cwd_after (sound_initial.run hbefore) happlies
      (hkept change (List.mem_append_right _ List.mem_cons_self)) hcwd
      (htop changes (List.prefix_append _ _))

/-- A root that lies in no directory is left there by every change but its own attaching. -/
theorem parentOf_root_after (hsound : fs.Sound) (happlies : change.Applies fs)
    (hroot : ∀ directory, change ≠ .attach directory Forest.root)
    (htop : fs.forest.parentOf Forest.root = none) :
    (fs.after change).forest.parentOf Forest.root = none := by
  have hgrown : fs.Grown fun _ => True := ⟨hsound, htop, fun _ => trivial⟩
  cases change with
  | newDirectory name => exact (fs.forest.parentOf_create name _ _).trans htop
  | newFile name text => exact (fs.forest.parentOf_create name _ _).trans htop
  | createDirectory directory name =>
    exact holds_orSame_snd (P := fun after => after.forest.parentOf Forest.root = none) htop
      fun _ _ h => (hgrown.createIn happlies rfl trivial h).top
  | createFile directory name text =>
    exact holds_orSame_snd (P := fun after => after.forest.parentOf Forest.root = none) htop
      fun _ _ h => (hgrown.createIn happlies rfl trivial h).top
  | attach directory node =>
    refine holds_orSame (P := fun after => after.forest.parentOf Forest.root = none) htop
      fun after h => ?_
    obtain ⟨-, -, -, rfl⟩ := insert_eq_ok_iff.1 h
    have hne : node ≠ Forest.root := fun heq => hroot directory (by rw [heq])
    rw [withForest, Forest.parentOf_relink _ _ _ _ happlies.2, if_neg hne, htop]
  | remove directory name =>
    rcases fs.forest.remove_cases directory name with ⟨-, hremove⟩ | ⟨id, hid, hremove⟩
    · rw [FileSystem.after, hremove]
      exact htop
    · have hexists := Forest.node?_of_parentOf (hsound.forest.of_get? hid).2
      rw [FileSystem.after, hremove, withForest, Forest.parentOf_relink _ _ _ _ hexists, htop,
        ite_self]
  | changeDirectory path =>
    refine holds_orSame_snd (P := fun after => after.forest.parentOf Forest.root = none) htop
      fun _ after h => ?_
    rw [(changeDirectory_eq_ok_iff.1 h).2]
    exact htop
  | copy name destination => exact (hgrown.copyInto name happlies).top
  | register role directory =>
    exact holds_orSame (P := fun after => after.forest.parentOf Forest.root = none) htop
      fun _ h => (hgrown.register happlies h).top
  | collect held => exact (hgrown.reclaim held).top

/-- **The root lies in no directory after a run in which it is never attached.** -/
theorem parentOf_root_run {changes : List TreeChange} (h : initial.CanRun changes)
    (hroot : ∀ directory, .attach directory Forest.root ∉ changes) :
    (initial.run changes).forest.parentOf Forest.root = none := by
  induction changes using List.reverseRecOn with
  | nil => exact Forest.parentOf_initial Forest.root
  | append_singleton changes change ih =>
    obtain ⟨hbefore, happlies, -⟩ := canRun_append_iff.1 h
    rw [run_append]
    refine parentOf_root_after (sound_initial.run hbefore) happlies ?_
      (ih hbefore fun directory hmem => hroot directory (List.mem_append_left _ hmem))
    rintro directory rfl
    exact hroot directory (List.mem_append_right _ List.mem_cons_self)

/-! ## Staying inside -/

/-- **The current directory is in the tree, and at the root the step up leads nowhere.** -/
structure StaysInside (fs : FileSystem) : Prop where
  attached : fs.forest.isAttached fs.cwd = true
  up : fs.cwd = Forest.root → fs.changeDirectory ".." = .ok (Forest.root, fs)

/-- **The step up from the root leads nowhere** just if the root lies in no directory. -/
theorem up_iff (hsound : fs.Sound) (hcwd : fs.cwd = Forest.root) :
    fs.changeDirectory ".." = .ok (Forest.root, fs) ↔ fs.forest.parentOf Forest.root = none := by
  have hdestination : fs.destination ".." = .ok ((fs.forest.parentOf fs.cwd).getD fs.cwd) := rfl
  have hsame : { fs with cwd := Forest.root } = fs := by rw [← hcwd]
  rw [changeDirectory_eq_ok_iff, hdestination, hcwd, hsame]
  cases hparent : fs.forest.parentOf Forest.root with
  | none => simp
  | some parent =>
    -- nothing lies in itself
    have hne : parent ≠ Forest.root := fun heq =>
      hsound.forest.acyclic Forest.root (.single (heq ▸ hparent))
    simp [hne]

/-- **When the current directory stays inside all through a run without removals**: just if it is
never the root while the root lies in a directory. If the root is never attached, it lies in none.
-/
theorem cursor_inside_iff (changes : List TreeChange) (h : initial.CanRun changes)
    (hkept : ∀ change ∈ changes, change.isRemoval = false) :
    ((∀ earlier, earlier <+: changes → (initial.run earlier).StaysInside)
        ↔ ∀ earlier, earlier <+: changes → (initial.run earlier).cwd = Forest.root →
          (initial.run earlier).forest.parentOf Forest.root = none)
      ∧ ((∀ directory, .attach directory Forest.root ∉ changes) →
        ∀ earlier, earlier <+: changes → (initial.run earlier).StaysInside) := by
  have hcan : ∀ {earlier}, earlier <+: changes → initial.CanRun earlier := by
    rintro earlier ⟨later, rfl⟩
    exact (canRun_append_iff.1 h).1
  have hiff : (∀ earlier, earlier <+: changes → (initial.run earlier).StaysInside)
      ↔ ∀ earlier, earlier <+: changes → (initial.run earlier).cwd = Forest.root →
        (initial.run earlier).forest.parentOf Forest.root = none := by
    constructor
    · intro hinside earlier hearlier hcwd
      exact (up_iff (sound_initial.run (hcan hearlier)) hcwd).1
        ((hinside earlier hearlier).up hcwd)
    · intro htop earlier hearlier
      have hsound : (initial.run earlier).Sound := sound_initial.run (hcan hearlier)
      have htree := inTree_cwd_run (hcan hearlier)
        (fun change hchange => hkept change (hearlier.subset hchange))
        fun before hbefore => htop before (hbefore.trans hearlier)
      exact ⟨hsound.forest.isAttached_iff.2 htree,
        fun hcwd => (up_iff hsound hcwd).2 (htop earlier hearlier hcwd)⟩
  refine ⟨hiff, fun hroot => hiff.2 fun earlier hearlier _ => ?_⟩
  exact parentOf_root_run (hcan hearlier) fun directory hmem =>
    hroot directory (hearlier.subset hmem)

/-- A run that stays inside although the root is attached: by then the current directory is a child
of the root, and a copy and a collection do not change that. -/
theorem cursor_inside_below_home :
    let changes : List TreeChange :=
      [.createDirectory Forest.root "Home", .createFile 1 "Note" "hello", .newDirectory "Above",
        .changeDirectory "home/", .attach 3 Forest.root, .copy "note" Forest.root, .collect [3],
        .changeDirectory "note", .newDirectory "Box", .attach 1 5]
    initial.CanRun changes ∧ (∀ change ∈ changes, change.isRemoval = false)
      ∧ (initial.run changes).forest.parentOf Forest.root = some 3
      ∧ (initial.run changes).cwd = 1
      ∧ ∀ earlier, earlier <+: changes → (initial.run earlier).StaysInside := by
  intro changes
  have hfacts : initial.CanRun changes ∧ (∀ change ∈ changes, change.isRemoval = false)
      ∧ (initial.run changes).forest.parentOf Forest.root = some 3
      ∧ (initial.run changes).cwd = 1
      ∧ ∀ earlier ∈ changes.inits, (initial.run earlier).cwd = Forest.root →
        (initial.run earlier).forest.parentOf Forest.root = none := by decide +kernel
  obtain ⟨hcan, hkept, hparent, hcwd, htop⟩ := hfacts
  exact ⟨hcan, hkept, hparent, hcwd, (cursor_inside_iff changes hcan hkept).1.2
    fun earlier hearlier => htop earlier ((List.mem_inits earlier changes).2 hearlier)⟩

/-- **The step up from a root that was attached leads out of the tree.** -/
theorem not_forall_cursor_inside :
    ¬ ∀ changes, initial.CanRun changes → (∀ change ∈ changes, change.isRemoval = false) →
      (initial.run changes).StaysInside := by
  intro hall
  have hfacts : initial.CanRun [.newDirectory "Above", .attach 1 Forest.root, .changeDirectory ".."]
      ∧ (initial.run [.newDirectory "Above", .attach 1 Forest.root,
        .changeDirectory ".."]).forest.isAttached 1 = false
      ∧ (initial.run [.newDirectory "Above", .attach 1 Forest.root,
        .changeDirectory ".."]).cwd = 1 := by decide +kernel
  obtain ⟨hcan, hout, hcwd⟩ := hfacts
  have hinside := (hall _ hcan (by decide)).attached
  rw [hcwd, hout] at hinside
  exact absurd hinside (by decide)

end FileSystem

end StoryShell
