/-
A path all at once, and name by name.

A written path is cut at its slashes, and the names are followed from the root where they lead
(`Forest.resolve`). The same names can be walked instead, one move each. Both ways look for the same
children in the same directories, since moves leave the tree as it is; but following names needs no
directory at the end, and it does not say what went wrong.

How a walk ends is told by where the names lead (`WalkEnds`): it arrives at a directory, it is
refused at the last name by a file, or it is refused at the first name that leads nowhere or leads
to a file. This is kept with each name that is added (`walkEnds`).
-/
import Mathlib.Data.List.Induction
import StoryShell.Proofs.Tree.Changes
import StoryShell.Proofs.Tree.Moves
import StoryShell.Proofs.Tree.Paths
import StoryShell.Proofs.Tree.Procedures
import StoryShell.Proofs.Tree.Ways

set_option autoImplicit false

namespace StoryShell

namespace Forest

variable {forest : Forest} {id : NodeId}

/-- A path that is written from names leads where the names lead. -/
theorem resolve_names (forest : Forest) {names : List String}
    (h : ∀ name ∈ names, Seed.IsName name) :
    forest.resolve ("/" ++ String.intercalate "/" names) = forest.follow names := by
  rw [resolve, segmentsOf_written h]
  rfl

/-- Nothing is in a file. -/
theorem child?_of_not_isDirectory (h : forest.isDirectory id = false) (name : String) :
    forest.child? id name = none := by
  cases hchild : forest.child? id name with
  | none => rfl
  | some child =>
    rw [isDirectory_of_get? hchild] at h
    exact absurd h (by decide)

end Forest

namespace FileSystem

variable {fs : FileSystem} {held : List NodeId} {steps : List (String × List NodeId)}

/-! ## How a walk ends -/

/-- **A walk from the root arrives** in the tree, and where its names lead. -/
structure WalksTo (fs : FileSystem) (held : List NodeId) (steps : List (String × List NodeId))
    (after : FileSystem) : Prop where
  walk : fs.walk (("/", held) :: steps) = .ok after
  staysIn : fs.StaysIn after
  follow : fs.forest.follow (steps.map Prod.fst) = some after.cwd

/-- **The ways in which a walk can end**, by where its names lead. -/
inductive WalkEnds (fs : FileSystem) (held : List NodeId) (steps : List (String × List NodeId)) :
    Option NodeId → Prop
  | arrived {after : FileSystem} (harrives : fs.WalksTo held steps after) :
    fs.WalkEnds held steps (some after.cwd)
  | atFile {before : List (String × List NodeId)} {step : String × List NodeId} {file : NodeId}
    {middle : FileSystem} (hsteps : steps = before ++ [step])
    (hwalk : fs.WalksTo held before middle)
    (hrefused : middle.changeDirectory step.1 = .error (.notADirectory step.1 file))
    (hfile : fs.forest.isDirectory file = false) :
    fs.WalkEnds held steps (some file)
  | nowhere {before rest : List (String × List NodeId)} {step : String × List NodeId}
    {middle : FileSystem} {error : TreeError} (hsteps : steps = before ++ step :: rest)
    (hwalk : fs.WalksTo held before middle)
    (hrefused : middle.changeDirectory step.1 = .error error)
    (hkind : error = .noSuchPath step.1 ∨ ∃ file, error = .notADirectory step.1 file) :
    fs.WalkEnds held steps none

/-- A walk arrives at a directory. -/
theorem WalksTo.isDirectory {after : FileSystem} (h : fs.WalksTo held steps after) :
    fs.forest.isDirectory after.cwd = true := by
  rw [← h.staysIn.keeps.isDirectory h.staysIn.cwd]
  exact h.staysIn.sound.cwd

/-- The walk along no names is the move to the root. -/
theorem Sound.walksTo_nil (hsound : fs.Sound) (held : List NodeId) :
    ∃ after, fs.WalksTo held [] after := by
  have hroot : fs.forest.InTree Forest.root := Relation.ReflTransGen.refl
  obtain ⟨after, hmove, hstays, hcwd⟩ :=
    hsound.move_in (.refl fs.forest) ("/", held) destination_slash hroot
  refine ⟨after, walk_singleton.trans hmove, hstays, ?_⟩
  rw [hcwd]
  rfl

/-- A walk goes on by a move. -/
theorem WalksTo.concat {middle next : FileSystem} {step : String × List NodeId}
    (h : fs.WalksTo held steps middle) (hmove : middle.move step = .ok next)
    (hstays : fs.StaysIn next) (hchild : fs.forest.child? middle.cwd step.1 = some next.cwd) :
    fs.WalksTo held (steps ++ [step]) next where
  walk := by
    rw [← List.cons_append, walk_append_eq_ok_iff]
    exact ⟨middle, h.walk, walk_singleton.trans hmove⟩
  staysIn := hstays
  follow := by
    rw [List.map_append, List.map_singleton, Forest.follow_concat, h.follow, Option.bind_some,
      hchild]

/-- **How a walk ends**: as it has to by where its names lead. -/
theorem walkEnds (hsound : fs.Sound) (held : List NodeId)
    (hnames : ∀ step ∈ steps, IsChildName step.1) :
    fs.WalkEnds held steps (fs.forest.follow (steps.map Prod.fst)) := by
  induction steps using List.reverseRecOn with
  | nil =>
    obtain ⟨after, hwalk⟩ := hsound.walksTo_nil held
    rw [hwalk.follow]
    exact .arrived hwalk
  | append_singleton steps step ih =>
    have hname : IsChildName step.1 := hnames step (List.mem_append_right _ List.mem_cons_self)
    have hends := ih fun other hother => hnames other (List.mem_append_left _ hother)
    rw [List.map_append, List.map_singleton, Forest.follow_concat]
    -- what the names before lead to, and with it how the walk along them ends
    generalize fs.forest.follow (steps.map Prod.fst) = found at hends ⊢
    cases hends with
    | @arrived middle hwalk =>
      rw [Option.bind_some]
      have hcases := hwalk.staysIn.enter_cases hsound.forest hname.namesChild
      rw [hname.slashless] at hcases
      rcases hcases with ⟨hchild, hrefused⟩ | ⟨file, hchild, hfile, hrefused⟩ |
        ⟨next, hchild, -, hmove, hstays⟩
      · rw [hchild]
        exact .nowhere rfl hwalk hrefused (.inl rfl)
      · rw [hchild]
        exact .atFile rfl hwalk hrefused hfile
      · rw [hchild]
        exact .arrived (hwalk.concat hmove hstays hchild)
    | @atFile before last file middle hsteps hwalk hrefused hfile =>
      -- there is nothing in a file
      have hmore : steps ++ [step] = before ++ last :: [step] := by
        rw [hsteps, List.append_assoc, List.singleton_append]
      rw [Option.bind_some, Forest.child?_of_not_isDirectory hfile]
      exact .nowhere hmore hwalk hrefused (.inr ⟨file, rfl⟩)
    | @nowhere before rest last middle error hsteps hwalk hrefused hkind =>
      have hmore : steps ++ [step] = before ++ last :: (rest ++ [step]) := by
        rw [hsteps, List.append_assoc, List.cons_append]
      exact .nowhere hmore hwalk hrefused hkind

/-- A walk that is refused somewhere does not succeed. -/
theorem WalksTo.walk_ne_ok {before rest : List (String × List NodeId)}
    {step : String × List NodeId} {middle after : FileSystem} {error : TreeError}
    (h : fs.WalksTo held before middle) (hrefused : middle.changeDirectory step.1 = .error error) :
    fs.walk (("/", held) :: (before ++ step :: rest)) ≠ .ok after := by
  intro hwalk
  rw [← List.cons_append, walk_append_eq_ok_iff] at hwalk
  obtain ⟨other, hother, hmore⟩ := hwalk
  obtain rfl : middle = other := Except.ok.inj (h.walk.symm.trans hother)
  obtain ⟨next, hnext, -⟩ := walk_cons_eq_ok_iff.1 hmore
  rw [move_eq_error_iff.2 hrefused] at hnext
  exact absurd hnext (by simp)

namespace WalkEnds

variable {found : Option NodeId}

/-- **A walk arrives** just if its names lead to a directory, and it arrives there. -/
theorem arrives_iff (hends : fs.WalkEnds held steps found) (directory : NodeId) :
    (∃ after, fs.walk (("/", held) :: steps) = .ok after ∧ after.cwd = directory)
      ↔ found = some directory ∧ fs.forest.isDirectory directory = true := by
  cases hends with
  | @arrived after hwalk =>
    constructor
    · rintro ⟨other, hother, rfl⟩
      obtain rfl := Except.ok.inj (hwalk.walk.symm.trans hother)
      exact ⟨rfl, hwalk.isDirectory⟩
    · rintro ⟨heq, -⟩
      exact ⟨after, hwalk.walk, Option.some.inj heq⟩
  | atFile hsteps hwalk hrefused hfile =>
    subst hsteps
    refine iff_of_false (fun ⟨_, hafter, _⟩ => hwalk.walk_ne_ok hrefused hafter) ?_
    rintro ⟨heq, hdirectory⟩
    rw [← Option.some.inj heq, hfile] at hdirectory
    exact absurd hdirectory (by decide)
  | nowhere hsteps hwalk hrefused =>
    subst hsteps
    exact iff_of_false (fun ⟨_, hafter, _⟩ => hwalk.walk_ne_ok hrefused hafter) (by simp)

/-- **A walk whose names lead to a file** is refused at the last of them. -/
theorem refused_by_file {file : NodeId} (hends : fs.WalkEnds held steps (some file))
    (hfile : fs.forest.isDirectory file = false) :
    ∃ before step middle, steps = before ++ [step] ∧ fs.WalksTo held before middle
      ∧ middle.changeDirectory step.1 = .error (.notADirectory step.1 file) := by
  cases hends with
  | arrived hwalk =>
    rw [hwalk.isDirectory] at hfile
    exact absurd hfile (by decide)
  | atFile hsteps hwalk hrefused => exact ⟨_, _, _, hsteps, hwalk, hrefused⟩

/-- **A walk whose names lead nowhere** is refused at one of them. -/
theorem refused (hends : fs.WalkEnds held steps none) :
    ∃ before step rest middle error, steps = before ++ step :: rest
      ∧ fs.WalksTo held before middle ∧ middle.changeDirectory step.1 = .error error
      ∧ (error = .noSuchPath step.1 ∨ ∃ file, error = .notADirectory step.1 file) := by
  cases hends with
  | nowhere hsteps hwalk hrefused hkind => exact ⟨_, _, _, _, _, hsteps, hwalk, hrefused, hkind⟩

end WalkEnds

/-! ## Both ways -/

/-- **A path all at once and name by name.** In every tree that can come about, take any names for
children, and the path that is written from them. The walk that goes to the root and from there
along the names succeeds just if the path leads to a directory, and then it arrives there. If the
path leads to a file, the walk gets as far as the last name, which is refused for the file. If the
path leads nowhere, the walk gets to some name that does not lead to a directory; the move by this
name stops with the error for it, and the current directory stays where the names before it lead.
All this whatever is let go after each move. -/
theorem walk_iff_resolve (changes : List TreeChange) (h : initial.CanRun changes)
    (held : List NodeId) (steps : List (String × List NodeId))
    (hnames : ∀ step ∈ steps, IsChildName step.1) :
    let fs := initial.run changes
    let resolve (steps : List (String × List NodeId)) : Option NodeId :=
      fs.forest.resolve ("/" ++ String.intercalate "/" (steps.map Prod.fst))
    (∀ directory, (∃ after, fs.walk (("/", held) :: steps) = .ok after ∧ after.cwd = directory)
        ↔ resolve steps = some directory ∧ fs.forest.isDirectory directory = true)
      ∧ (∀ file, resolve steps = some file → fs.forest.isDirectory file = false →
        ∃ before step middle, steps = before ++ [step]
          ∧ fs.walk (("/", held) :: before) = .ok middle ∧ resolve before = some middle.cwd
          ∧ middle.changeDirectory step.1 = .error (.notADirectory step.1 file))
      ∧ (resolve steps = none →
        ∃ before step rest middle error, steps = before ++ step :: rest
          ∧ fs.walk (("/", held) :: before) = .ok middle ∧ resolve before = some middle.cwd
          ∧ middle.changeDirectory step.1 = .error error
          ∧ (error = .noSuchPath step.1 ∨ ∃ file, error = .notADirectory step.1 file)
          ∧ ∃ stopped, (Procedure.moveTo step.1).run.run middle = (.error error, stopped)
            ∧ stopped.cwd = middle.cwd) := by
  intro fs resolve
  have hsound : fs.Sound := sound_initial.run h
  have hresolve : ∀ {part}, (∀ step ∈ part, IsChildName step.1) →
      resolve part = fs.forest.follow (part.map Prod.fst) := fun hpart =>
    fs.forest.resolve_names (List.forall_mem_map.2 fun step hstep => (hpart step hstep).toIsName)
  have hends := walkEnds hsound held hnames
  rw [← hresolve hnames] at hends
  have hbefore : ∀ {before more middle}, steps = before ++ more → fs.WalksTo held before middle →
      resolve before = some middle.cwd := fun hsteps hwalk =>
    (hresolve fun other hother => hnames other (hsteps ▸ List.mem_append_left _ hother)).trans
      hwalk.follow
  refine ⟨hends.arrives_iff, fun file hfound hfile => ?_, fun hfound => ?_⟩
  · rw [hfound] at hends
    obtain ⟨before, step, middle, hsteps, hwalk, hrefused⟩ := hends.refused_by_file hfile
    exact ⟨before, step, middle, hsteps, hwalk.walk, hbefore hsteps hwalk, hrefused⟩
  · rw [hfound] at hends
    obtain ⟨before, step, rest, middle, error, hsteps, hwalk, hrefused, hkind⟩ := hends.refused
    -- written as a procedure, the move stops before it changes anything
    obtain ⟨stopped, hstopped, hcwd, -⟩ :=
      (Procedure.atomic_moveTo middle step.1).error error hrefused
    exact ⟨before, step, rest, middle, error, hsteps, hwalk.walk, hbefore hsteps hwalk, hrefused,
      hkind, stopped, hstopped, hcwd⟩

/-- The walk starts in a directory that was taken out, while the root lies in one that nobody keeps;
both are let go on the way. Names in another case lead to a directory, to a file, and into the file
where nothing is. -/
theorem walk_iff_resolve_from_outside :
    let changes : List TreeChange :=
      [.createDirectory Forest.root "Home", .createFile 1 "Note" "hello", .createDirectory 1 "Bin",
        .createDirectory Forest.root "Away", .changeDirectory "away", .remove Forest.root "away",
        .newDirectory "Above", .attach 5 Forest.root]
    let fs := initial.run changes
    initial.CanRun changes ∧ fs.forest.isAttached fs.cwd = false
      ∧ fs.forest.parentOf Forest.root = some 5
      ∧ (∃ after, fs.walk [("/", []), ("HOME", []), ("bin", [])] = .ok after ∧ after.cwd = 3)
      ∧ (∃ before step middle, [("home", []), ("NOTE", [])] = before ++ [step]
        ∧ fs.walk (("/", []) :: before) = .ok middle
        ∧ middle.changeDirectory step.1 = .error (.notADirectory step.1 2))
      ∧ ∃ before step rest middle error,
        [("home", []), ("NOTE", []), ("x", [])] = before ++ step :: rest
        ∧ fs.walk (("/", []) :: before) = .ok middle
        ∧ middle.changeDirectory step.1 = .error error := by
  intro changes fs
  have hfacts : initial.CanRun changes ∧ fs.forest.isAttached fs.cwd = false
      ∧ fs.forest.parentOf Forest.root = some 5
      ∧ fs.forest.resolve ("/" ++ String.intercalate "/" ["HOME", "bin"]) = some 3
      ∧ fs.forest.resolve ("/" ++ String.intercalate "/" ["home", "NOTE"]) = some 2
      ∧ fs.forest.resolve ("/" ++ String.intercalate "/" ["home", "NOTE", "x"]) = none
      ∧ fs.forest.isDirectory 3 = true ∧ fs.forest.isDirectory 2 = false := by decide +kernel
  obtain ⟨hcan, hout, htop, hbin, hnote, hnothing, hdirectory, hfile⟩ := hfacts
  obtain ⟨harrives, -, -⟩ :=
    walk_iff_resolve changes hcan [] [("HOME", []), ("bin", [])] (by decide +kernel)
  obtain ⟨-, hstops, -⟩ :=
    walk_iff_resolve changes hcan [] [("home", []), ("NOTE", [])] (by decide +kernel)
  obtain ⟨-, -, hfails⟩ :=
    walk_iff_resolve changes hcan [] [("home", []), ("NOTE", []), ("x", [])] (by decide +kernel)
  refine ⟨hcan, hout, htop, (harrives 3).2 ⟨hbin, hdirectory⟩, ?_, ?_⟩
  · obtain ⟨before, step, middle, hsteps, hwalk, -, hrefused⟩ := hstops 2 hnote hfile
    exact ⟨before, step, middle, hsteps, hwalk, hrefused⟩
  · obtain ⟨before, step, rest, middle, error, hsteps, hwalk, -, hrefused, -⟩ := hfails hnothing
    exact ⟨before, step, rest, middle, error, hsteps, hwalk, hrefused⟩

end FileSystem

end StoryShell
