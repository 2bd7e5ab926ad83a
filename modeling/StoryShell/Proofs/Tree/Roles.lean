/-
Being attached is being reachable, and a role is worth what its directory is.

Whether a node is attached is found out from below, by a walk over the links to the parents, and it
can be reached from above, over the children of directories. In a sound forest the two come to the
same. The walk is told here as the loop that it is (`Forest.RootWalk`): it ends on every node, since
there is an end to going up (`Forest.Sound.wellFounded_lies`), and it finds the root just where the
root leads down to the node.

A role is given to directories of the tree only, and it is asked again whenever the role is used.
What a role stands for is therefore a matter of two trees: the directory was in the tree when the
role was last given (`FileSystem.LastGiven`), and it is in the tree now, wherever it has been in the
meantime.
-/
import Mathlib.Data.List.Induction
import StoryShell.Proofs.Tree.Cursor
import StoryShell.Proofs.Tree.Paths

set_option autoImplicit false

namespace StoryShell

namespace Forest

variable {forest : Forest} {id : NodeId}

/-! ## The walk up to the root -/

/-- **There is an end to going up.** -/
theorem Sound.wellFounded_lies (hsound : forest.Sound) :
    WellFounded (Function.swap forest.LiesIn) := by
  -- with each step the lineage gets shorter
  refine Subrelation.wf (fun {parent child} hlies => ?_)
    (measure fun id => (forest.lineage id).length).wf
  have hlineage := hsound.lineage_of_parentOf hlies
  show (forest.lineage parent).length < (forest.lineage child).length
  rw [hlineage, List.length_cons]
  exact Nat.lt_succ_self _

/-- **The walk up that looks for the root**, and what it answers: on each node it is at the root, or
it finds no parent, or a parent that does not hold the node, or it goes on from the parent. -/
inductive RootWalk (forest : Forest) : NodeId → Bool → Prop
  | atRoot : RootWalk forest root true
  | atTop {id : NodeId} (hroot : id ≠ root) (htop : forest.parentOf id = none) :
      RootWalk forest id false
  | disowned {id parent : NodeId} (hroot : id ≠ root) (hlies : forest.parentOf id = some parent)
      (hheld : forest.child? parent (forest.nameOf id) ≠ some id) : RootWalk forest id false
  | up {id parent : NodeId} {answer : Bool} (hroot : id ≠ root)
      (hlies : forest.parentOf id = some parent)
      (hheld : forest.child? parent (forest.nameOf id) = some id)
      (hrest : RootWalk forest parent answer) : RootWalk forest id answer

/-- **The walk ends** on every node. -/
theorem Sound.exists_rootWalk (hsound : forest.Sound) (id : NodeId) :
    ∃ answer, forest.RootWalk id answer := by
  induction id using hsound.wellFounded_lies.induction with
  | _ id ih =>
    by_cases hroot : id = root
    · rw [hroot]
      exact ⟨true, .atRoot⟩
    cases hlies : forest.parentOf id with
    | none => exact ⟨false, .atTop hroot hlies⟩
    | some parent =>
      obtain ⟨answer, hrest⟩ := ih parent hlies
      exact ⟨answer, .up hroot hlies (hsound.child?_of_parentOf hlies) hrest⟩

/-- What the walk answers is whether the node belongs to the tree. -/
theorem Sound.answer_rootWalk (hsound : forest.Sound) {answer : Bool}
    (h : forest.RootWalk id answer) : answer = true ↔ forest.InTree id := by
  induction h with
  | atRoot => exact iff_of_true rfl Relation.ReflTransGen.refl
  | atTop hroot htop =>
    refine iff_of_false (by decide) fun htree => ?_
    rcases inTree_iff.1 htree with heq | ⟨parent, hlies, -⟩
    · exact hroot heq
    · rw [htop] at hlies
      exact absurd hlies (by simp)
  | disowned _ hlies hheld => exact absurd (hsound.child?_of_parentOf hlies) hheld
  | up hroot hlies _ _ ih =>
    rw [ih]
    constructor
    · exact InTree.of_parentOf hlies
    · intro htree
      rcases inTree_iff.1 htree with heq | ⟨other, hother, hparent⟩
      · exact absurd heq hroot
      · rw [hlies, Option.some.injEq] at hother
        rwa [hother]

/-- **What the walk answers is `isAttached`**, and it answers nothing else. -/
theorem Sound.rootWalk_iff (hsound : forest.Sound) {answer : Bool} :
    forest.RootWalk id answer ↔ answer = forest.isAttached id := by
  have hanswer : ∀ {other : Bool}, forest.RootWalk id other → other = forest.isAttached id :=
    fun h => Bool.eq_iff_iff.2 ((hsound.answer_rootWalk h).trans hsound.isAttached_iff.symm)
  constructor
  · exact hanswer
  · rintro rfl
    obtain ⟨other, hwalk⟩ := hsound.exists_rootWalk id
    rwa [← hanswer hwalk]

end Forest

namespace FileSystem

variable {fs : FileSystem} {change : TreeChange} {role : String} {directory : NodeId}

/-! ## Giving roles -/

/-- What gives no role leaves the roles to those that have them. -/
theorem roles_after_of_ne (hsound : fs.Sound) (happlies : change.Applies fs)
    (hrole : ∀ given other, change ≠ .register given other) :
    (fs.after change).roles = fs.roles := by
  by_cases hmove : ∃ path, change = .changeDirectory path
  · obtain ⟨path, rfl⟩ := hmove
    refine holds_orSame_snd (P := fun after => after.roles = fs.roles) rfl fun _ after h => ?_
    rw [(changeDirectory_eq_ok_iff.1 h).2]
  · exact (fixed_after hsound happlies (fun path heq => hmove ⟨path, heq⟩) hrole).2

/-- Giving a role to a directory of the tree takes it from whoever had it; a role that is refused is
not taken from anyone. -/
theorem get?_roles_register {given : String} {other : NodeId} :
    (fs.after (.register given other)).roles.get? role
      = if fs.forest.isAttached other = true ∧ given = role then some other
        else fs.roles.get? role := by
  rw [after, register]
  cases fs.forest.isAttached other with
  | false => simp [orSame]
  | true => simp [orSame, NameMap.get?_insert]

/-- **Who has a role after a change**: the directory to which the change gives it, or else the one
that had it before. -/
theorem get?_roles_after (hsound : fs.Sound) (happlies : change.Applies fs) :
    (fs.after change).roles.get? role = some directory
      ↔ change = .register role directory ∧ fs.forest.isAttached directory = true
        ∨ fs.roles.get? role = some directory
          ∧ ∀ other, change = .register role other → ¬ fs.forest.isAttached other = true := by
  by_cases hrole : ∃ given other, change = .register given other
  · obtain ⟨given, other, rfl⟩ := hrole
    rw [get?_roles_register]
    simp only [TreeChange.register.injEq]
    split
    · rename_i hgives
      obtain ⟨hattached, rfl⟩ := hgives
      constructor
      · intro hother
        rw [← Option.some.inj hother]
        exact .inl ⟨⟨rfl, rfl⟩, hattached⟩
      · rintro (⟨⟨-, rfl⟩, -⟩ | ⟨-, hnone⟩)
        · rfl
        · exact absurd hattached (hnone other ⟨rfl, rfl⟩)
    · rename_i hrefuses
      constructor
      · intro hget
        refine .inr ⟨hget, ?_⟩
        rintro _ ⟨rfl, rfl⟩ hattached
        exact hrefuses ⟨hattached, rfl⟩
      · rintro (⟨⟨rfl, rfl⟩, hattached⟩ | ⟨hget, -⟩)
        · exact absurd ⟨hattached, rfl⟩ hrefuses
        · exact hget
  · have hnone : ∀ given other, change ≠ .register given other :=
      fun given other heq => hrole ⟨given, other, heq⟩
    rw [roles_after_of_ne hsound happlies hnone]
    simp [hnone]

/-! ## Who was last given a role -/

/-- **The directory that was last given a role** in a run on a new tree: it was in the tree by then,
and no directory that was named for the role later was in the tree when it was named. -/
def LastGiven (changes : List TreeChange) (role : String) (directory : NodeId) : Prop :=
  ∃ earlier later, changes = earlier ++ .register role directory :: later
    ∧ (initial.run earlier).forest.Reachable directory
    ∧ ∀ between other rest, later = between ++ .register role other :: rest →
      ¬ (initial.run (earlier ++ .register role directory :: between)).forest.Reachable other

/-- A list with one more item is split at this item, or where it could be split before. -/
theorem concat_eq_split_iff {α : Type} {front earlier later : List α} {last item : α} :
    front ++ [last] = earlier ++ item :: later
      ↔ earlier = front ∧ item = last ∧ later = []
        ∨ ∃ rest, later = rest ++ [last] ∧ front = earlier ++ item :: rest := by
  constructor
  · intro hsplit
    rcases List.eq_nil_or_concat later with rfl | ⟨rest, other, rfl⟩
    · obtain ⟨hfront, hlast⟩ := List.append_inj' hsplit rfl
      exact .inl ⟨hfront.symm, (List.singleton_inj.1 hlast).symm, rfl⟩
    · rw [List.concat_eq_append, ← List.cons_append, ← List.append_assoc] at hsplit
      obtain ⟨hfront, hlast⟩ := List.append_inj' hsplit rfl
      rw [List.concat_eq_append, List.singleton_inj.1 hlast]
      exact .inr ⟨rest, rfl, hfront⟩
  · rintro (⟨rfl, rfl, rfl⟩ | ⟨rest, rfl, rfl⟩)
    · rfl
    · rw [List.append_assoc, List.cons_append]

/-- Nobody was given a role before anything was done. -/
theorem not_lastGiven_nil : ¬ LastGiven [] role directory := by
  rintro ⟨earlier, later, hsplit, -⟩
  exact absurd hsplit (by simp)

/-- **Who was last given a role after one more change.** -/
theorem lastGiven_concat_iff {changes : List TreeChange} :
    LastGiven (changes ++ [change]) role directory
      ↔ change = .register role directory ∧ (initial.run changes).forest.Reachable directory
        ∨ LastGiven changes role directory
          ∧ ∀ other, change = .register role other →
            ¬ (initial.run changes).forest.Reachable other := by
  constructor
  · rintro ⟨earlier, later, hsplit, hin, hlater⟩
    -- the role was given by the last change, or before it
    rcases concat_eq_split_iff.1 hsplit with ⟨rfl, hlast, rfl⟩ | ⟨rest, rfl, rfl⟩
    · exact .inl ⟨hlast.symm, hin⟩
    · refine .inr ⟨⟨earlier, rest, rfl, hin, fun between other behind hrest => ?_⟩,
        fun other hother => hlater rest other [] (by rw [hother])⟩
      refine hlater between other (behind ++ [change]) ?_
      exact concat_eq_split_iff.2 (.inr ⟨behind, rfl, hrest⟩)
  · rintro (⟨rfl, hin⟩ | ⟨⟨earlier, later, rfl, hin, hlater⟩, hlast⟩)
    · exact ⟨changes, [], rfl, hin, fun between other rest h => absurd h (by simp)⟩
    · refine ⟨earlier, later ++ [change], by simp, hin, fun between other rest hsplit => ?_⟩
      rcases concat_eq_split_iff.1 hsplit with ⟨rfl, hchange, -⟩ | ⟨behind, -, hlater'⟩
      · exact hlast other hchange.symm
      · exact hlater between other behind hlater'

/-- **Who has a role after a run** is the directory that was last given it. -/
theorem get?_roles_run {changes : List TreeChange} (h : initial.CanRun changes) :
    (initial.run changes).roles.get? role = some directory ↔ LastGiven changes role directory := by
  induction changes using List.reverseRecOn generalizing directory with
  | nil => exact iff_of_false (by simp [run, initial]) not_lastGiven_nil
  | append_singleton changes change ih =>
    obtain ⟨hbefore, happlies, -⟩ := canRun_append_iff.1 h
    have hsound := sound_initial.run hbefore
    rw [run_append, lastGiven_concat_iff, ← ih hbefore]
    simp only [← hsound.forest.isAttached_iff_reachable]
    exact get?_roles_after hsound happlies

/-! ## In every tree -/

/-- **A node is attached just if it can be reached from the root**, whatever was done to the tree:
what was taken out, put in elsewhere or let go, and even if the root was attached to something. So
a role is given to the directories that can be reached and to no others, and what is known by it is
the directory that was last given it, if that can be reached now; else it is an internal error. -/
theorem attached_iff_reachable (changes : List TreeChange) (h : initial.CanRun changes) :
    let fs := initial.run changes
    (∀ id answer, fs.forest.RootWalk id answer ↔ answer = fs.forest.isAttached id)
      ∧ (∀ id, fs.forest.isAttached id = true ↔ fs.forest.Reachable id)
      ∧ (∀ role directory after, fs.register role directory = .ok after
        ↔ fs.forest.Reachable directory
          ∧ after = { fs with roles := fs.roles.insert role directory })
      ∧ (∀ role directory error, fs.register role directory = .error error
        ↔ ¬ fs.forest.Reachable directory ∧ error = .notInTree (fs.forest.nameOf directory))
      ∧ (∀ role directory, fs.wellKnown role = .ok directory
        ↔ LastGiven changes role directory ∧ fs.forest.Reachable directory)
      ∧ ∀ role, (∀ directory, LastGiven changes role directory →
          ¬ fs.forest.Reachable directory) →
        ∃ error, fs.wellKnown role = .error error ∧ error.kind? = some .internal := by
  intro fs
  have hsound : fs.forest.Sound := (sound_initial.run h).forest
  have hin : ∀ id, fs.forest.isAttached id = true ↔ fs.forest.Reachable id :=
    fun id => hsound.isAttached_iff_reachable
  have hout : ∀ id, fs.forest.isAttached id = false ↔ ¬ fs.forest.Reachable id :=
    fun id => by rw [← hin, Bool.not_eq_true]
  refine ⟨fun id answer => hsound.rootWalk_iff, hin, fun role directory after => ?_,
    fun role directory error => ?_, fun role directory => ?_, fun role hnowhere => ?_⟩
  · rw [register_eq_ok_iff, hin]
  · rw [register_eq_error_iff, hout]
  · rw [wellKnown_eq_ok_iff, get?_roles_run h, hin]
  · refine ⟨.roleUnavailable role, wellKnown_eq_error_iff.2 ⟨fun directory hget => ?_, rfl⟩, rfl⟩
    exact (hout directory).2 (hnowhere directory ((get?_roles_run h).1 hget))

/-- A directory that has a role is taken out with the one that it lies in, which is let go, and is
put in elsewhere. In the meantime the role is refused to another one, and the root is attached. -/
theorem attached_iff_reachable_elsewhere :
    let changes : List TreeChange :=
      [.createDirectory Forest.root "Bin", .createDirectory 1 "Tools", .register "tools" 2,
        .remove Forest.root "bin", .collect [], .newDirectory "Above", .register "tools" 3,
        .createDirectory Forest.root "Opt", .attach 4 2, .attach 3 Forest.root]
    let fs := initial.run changes
    initial.CanRun changes ∧ fs.forest.node? 1 = none
      ∧ (initial.run (changes.take 8)).wellKnown "tools" = .error (.roleUnavailable "tools")
      ∧ fs.wellKnown "tools" = .ok 2 ∧ LastGiven changes "tools" 2 ∧ fs.forest.Reachable 2
      ∧ ¬ fs.forest.Reachable 3
      ∧ fs.register "tools" 3 = .error (.notInTree "Above") := by
  intro changes fs
  have hfacts : initial.CanRun changes ∧ fs.forest.node? 1 = none
      ∧ (initial.run (changes.take 8)).wellKnown "tools" = .error (.roleUnavailable "tools")
      ∧ fs.wellKnown "tools" = .ok 2 ∧ fs.forest.isAttached 3 = false
      ∧ fs.forest.nameOf 3 = "Above" := by decide +kernel
  obtain ⟨hcan, hgone, hmissing, hknown, hout, hname⟩ := hfacts
  obtain ⟨-, hin, -, hrefused, hlast, -⟩ := attached_iff_reachable changes hcan
  obtain ⟨hgiven, hreachable⟩ := (hlast "tools" 2).1 hknown
  have hfar : ¬ fs.forest.Reachable 3 := fun h =>
    absurd ((hin 3).2 h) (by rw [hout]; decide)
  exact ⟨hcan, hgone, hmissing, hknown, hgiven, hreachable, hfar,
    (hrefused "tools" 3 _).2 ⟨hfar, by rw [hname]⟩⟩

end FileSystem

end StoryShell
