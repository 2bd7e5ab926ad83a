/-
A step that is refused leaves the workbench as it is.

Whatever a step asks for, an error means that the file system is the one that it was asked on
(`Workbench.perform_error`). After each step everything is let go that nothing keeps; on a workbench
on which this was done before, there is nothing left to let go (`FileSystem.reclaim_reclaim`), since
the way up from a node that was kept to the node that it was kept for is still there. So tree,
current directory, roles and handles are all the same after an error (`Workbench.run_error`).
-/
import StoryShell.Tree.Workbench
import StoryShell.Proofs.Outcome
import StoryShell.Proofs.Tree.FileSystem

set_option autoImplicit false

namespace StoryShell

/-! ## Letting nodes go twice -/

namespace Forest

variable {forest : Forest} {wanted : List NodeId} {id : NodeId}

/-- **A node is kept** if the way up from it leads to a wanted one. -/
theorem Sound.isKept_iff (hsound : forest.Sound) :
    forest.isKept wanted id = true
      ↔ ∃ top ∈ wanted, Relation.ReflTransGen forest.LiesIn id top := by
  rw [isKept, List.any_eq_true]
  constructor
  · rintro ⟨top, hmeets, htop⟩
    exact ⟨top, List.contains_iff_mem.1 htop, hsound.mem_lineage_iff.1 hmeets⟩
  · rintro ⟨top, htop, hway⟩
    exact ⟨top, hsound.mem_lineage_iff.2 hway, List.contains_iff_mem.2 htop⟩

/-- What was kept is kept again. -/
theorem Sound.isKept_reclaim (hsound : forest.Sound) (h : forest.isKept wanted id = true) :
    (forest.reclaim wanted).isKept wanted id = true := by
  obtain ⟨top, htop, hway⟩ := hsound.isKept_iff.1 h
  refine (hsound.reclaim wanted).isKept_iff.2 ⟨top, htop, ?_⟩
  clear h
  -- all that is met on the way was kept for the same node
  induction hway using Relation.ReflTransGen.head_induction_on with
  | refl => exact .refl
  | head hlies hrest ih =>
    have hchild := hsound.isKept_iff.2 ⟨top, htop, .head hlies hrest⟩
    have hparent := hsound.isKept_iff.2 ⟨top, htop, hrest⟩
    exact .head (parentOf_reclaim_eq_some_iff.2 ⟨hchild, hparent, hlies⟩) ih

/-- **Nothing is left to let go** where it was done before. -/
theorem Sound.reclaim_reclaim (hsound : forest.Sound) (wanted : List NodeId) :
    (forest.reclaim wanted).reclaim wanted = forest.reclaim wanted := by
  refine ext_node? (size_reclaim _ _) fun id => ?_
  by_cases hkept : forest.isKept wanted id = true
  · rw [node?_reclaim, if_pos (hsound.isKept_reclaim hkept), node?_reclaim, if_pos hkept,
      Option.map_map]
    refine Option.map_congr fun node _ => congrArg (Node.mk node.name · node.body) ?_
    show (node.parent.filter (forest.isKept wanted)).filter ((forest.reclaim wanted).isKept wanted)
      = node.parent.filter (forest.isKept wanted)
    -- a parent that is left was kept, and so it is kept again
    cases hleft : node.parent.filter (forest.isKept wanted) with
    | none => rfl
    | some parent =>
      rw [Option.filter_some, if_pos (hsound.isKept_reclaim (Option.mem_filter_iff.1 hleft).2)]
  · have hgone : (forest.reclaim wanted).node? id = none := by rw [node?_reclaim, if_neg hkept]
    rw [node?_reclaim, hgone, Option.map_none, ite_self]

end Forest

/-- Letting nodes go twice is letting them go once. -/
theorem FileSystem.reclaim_reclaim {fs : FileSystem} (hsound : fs.forest.Sound)
    (held : List NodeId) : (fs.reclaim held).reclaim held = fs.reclaim held :=
  congrArg (fs.withForest ·) (hsound.reclaim_reclaim (fs.anchors ++ held))

/-! ## Steps that are refused -/

namespace Workbench

variable {bench : Workbench} {step : Step}

/-- What is refused as a whole leaves the file system as it was. -/
theorem whole_error {outcome : Except StepError (Answer × FileSystem)} {error : StepError}
    (h : (bench.whole outcome).1 = .error error) : (bench.whole outcome).2 = bench.fs := by
  cases outcome with
  | error other => rfl
  | ok both => exact absurd h (by simp [whole])

/-- A reference to a directory leads to one. -/
theorem isDirectory_of_directory {ref : Ref} {id : NodeId} (h : bench.directory ref = .ok id) :
    bench.fs.forest.isDirectory id = true := by
  obtain ⟨found, -, hfound⟩ := bind_eq_ok.1 h
  by_cases hdirectory : bench.fs.forest.isDirectory found = true
  · rw [if_pos hdirectory] at hfound
    rwa [← Except.ok.inj hfound]
  · rw [if_neg hdirectory] at hfound
    exact absurd hfound (by simp [throw, throwThe, MonadExceptOf.throw])

/-- **A step that is refused leaves the file system as it was.** -/
theorem perform_error (hsound : bench.fs.forest.Sound) {error : StepError}
    (h : (bench.perform step).1 = .error error) : (bench.perform step).2 = bench.fs := by
  cases step with
  | makeDirectory | makeFile | insert | add | remove | changeDirectory | register | write =>
    exact whole_error h
  | newDirectory | newFile => exact absurd h (by simp [perform])
  | copy name destination =>
    -- the one step that goes on after the first change
    simp only [perform] at h ⊢
    cases hdirectory : bench.directory destination with
    | error other => rfl
    | ok id =>
      simp only [hdirectory] at h ⊢
      cases hcopy : bench.fs.copyInto name id with
      | mk outcome after =>
        cases outcome with
        | error other =>
          exact FileSystem.copyInto_error hsound (isDirectory_of_directory hdirectory) hcopy
        | ok copied => simp [hcopy, asked, Except.map] at h
  | _ => rfl

/-- **An error leaves the workbench as it is**, if there was nothing to let go before. -/
theorem run_error {fs : FileSystem} (hsound : fs.forest.Sound) {handles : NameMap NodeId}
    {handle : Option String} {error : StepErrorView}
    (h : ((settle fs handles).run step handle).1.answer = .error error) :
    ((settle fs handles).run step handle).2 = settle fs handles := by
  have hsettled : (settle fs handles).fs.forest.Sound := hsound.reclaim _
  cases hperform : (settle fs handles).perform step with
  | mk outcome after =>
    cases outcome with
    | ok answer => simp [run, hperform] at h
    | error other =>
      obtain rfl : after = (settle fs handles).fs := by
        have hsame := perform_error hsettled (congrArg Prod.fst hperform)
        rwa [hperform] at hsame
      -- what drops a handle is never refused
      have hhandles : (settle fs handles).handlesAfter step = handles := by
        cases step with
        | drop handle => simp [perform, looked] at hperform
        | _ => rfl
      rw [run, hperform]
      simp only [hhandles]
      exact congrArg (Workbench.mk · handles) (FileSystem.reclaim_reclaim hsound handles.values)

end Workbench

end StoryShell
