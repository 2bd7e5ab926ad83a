/-
Down by names, and up again.

A walk down by the names of children stays in the tree, and so does the walk back. For what is
entered lies in the directory that was left, and this link stays as long as both belong to the tree,
whatever else is let go on the way. So as many moves up as there were down lead back
(`StaysIn.there_and_back`).

The path of a directory is that of the directory it lies in, with a slash and its own name; but
below the root nothing comes before the slash (`barePath_of_parentOf`). What counts is that it is
the root, and not that its path is a slash: this is the path of a child of the root without a name,
too, and what lies in there has two slashes in front.
-/
import StoryShell.Proofs.Tree.Changes
import StoryShell.Proofs.Tree.Descent
import StoryShell.Proofs.Tree.Moves

set_option autoImplicit false

namespace StoryShell

namespace Forest

variable {forest other : Forest} {id parent : NodeId}

/-! ## Paths along links -/

/-- The names on the way to a node are those of the nodes on the descent. -/
theorem segments_eq_map_descent (forest : Forest) (id : NodeId) :
    forest.segments id = (forest.descent id).map forest.nameOf := by
  rw [segments, descent, List.map_reverse]

/-- The path of the root is a slash, wherever the root itself lies. -/
theorem barePath_root (forest : Forest) : forest.barePath root = "/" := by
  rw [barePath, segments_eq_map_descent, descent_eq_nil_iff.2 rfl]
  rfl

/-- **The path of a node** goes on from that of its directory, but from nothing below the root. -/
theorem Sound.barePath_of_parentOf (hsound : forest.Sound) (hroot : id ≠ root)
    (h : forest.parentOf id = some parent) :
    forest.barePath id
      = (if parent = root then "" else forest.barePath parent) ++ "/" ++ forest.nameOf id := by
  rw [barePath, segments_eq_map_descent, hsound.descent_of_parentOf hroot h, List.map_append,
    List.map_singleton, ← segments_eq_map_descent]
  by_cases hparent : parent = root
  · rw [if_pos hparent, segments_eq_map_descent, descent_eq_nil_iff.2 hparent, List.map_nil,
      List.nil_append, String.intercalate_singleton, String.empty_append]
  · have hne : forest.segments parent ≠ [] := by
      rw [segments_eq_map_descent, ne_eq, List.map_eq_nil_iff, descent_eq_nil_iff]
      exact hparent
    rw [if_neg hparent, String.intercalate_append_of_ne_nil hne (List.cons_ne_nil _ _),
      String.intercalate_singleton, barePath, String.append_assoc, String.append_assoc,
      String.append_assoc]

/-- **Nodes of the tree keep their paths** as long as the tree is kept. -/
theorem KeepsTree.barePath (h : forest.KeepsTree other) (hsound : forest.Sound)
    (hother : other.Sound) (hid : forest.InTree id) : other.barePath id = forest.barePath id := by
  induction hid using Relation.ReflTransGen.head_induction_on with
  | refl => rw [barePath_root, barePath_root]
  | @head child parent hlies hparent ih =>
    have hroot : child ≠ root := hsound.ne_root_of_parentOf hlies hparent
    rw [hother.barePath_of_parentOf hroot (h.parentOf hparent hlies),
      hsound.barePath_of_parentOf hroot hlies, ih, h.nameOf (.of_parentOf hlies hparent)]

end Forest

namespace FileSystem

variable {fs start middle next bottom : FileSystem} {step : String × List NodeId}
  {down : List (String × List NodeId)}

namespace StaysIn

/-! ## One move -/

/-- The path of a directory of the tree is what it was at the start. -/
theorem currentPath_eq (h : fs.StaysIn middle) (hsound : fs.forest.Sound) :
    middle.currentPath = fs.forest.barePath middle.cwd :=
  h.keeps.barePath hsound h.sound.forest h.cwd

/-- **A move down** by the name of a child enters the child that has it. -/
theorem enter (h : fs.StaysIn middle) (hsound : fs.forest.Sound) (hname : NamesChild step.1)
    (hmove : middle.move step = .ok next) :
    fs.StaysIn next ∧ middle.child? (Text.slashless step.1) = some next.cwd := by
  rcases h.enter_cases hsound hname with ⟨-, hrefused⟩ | ⟨file, -, -, hrefused⟩ |
    ⟨entered, hchild, -, hentered, hstays⟩
  · rw [move_eq_error_iff.2 hrefused] at hmove
    exact absurd hmove (by simp)
  · rw [move_eq_error_iff.2 hrefused] at hmove
    exact absurd hmove (by simp)
  · obtain rfl := Except.ok.inj (hentered.symm.trans hmove)
    exact ⟨hstays, (h.child?_eq _).trans hchild⟩

/-- What was entered lies in the directory that was left. -/
theorem parentOf_entered (h : fs.StaysIn middle) (hsound : fs.forest.Sound)
    (hname : NamesChild step.1) (hmove : middle.move step = .ok next) :
    fs.forest.parentOf next.cwd = some middle.cwd := by
  have hchild := (h.enter hsound hname hmove).2
  rw [h.child?_eq] at hchild
  exact (hsound.of_get? hchild).2

/-- **The path after a move down** goes on from the path before, but from nothing at the root. -/
theorem currentPath_entered (h : fs.StaysIn middle) (hsound : fs.forest.Sound)
    (hname : NamesChild step.1) (hmove : middle.move step = .ok next) :
    next.currentPath
      = (if middle.cwd = Forest.root then "" else middle.currentPath) ++ "/"
        ++ next.forest.nameOf next.cwd := by
  have hnext := (h.enter hsound hname hmove).1
  have hlies := h.parentOf_entered hsound hname hmove
  rw [hnext.currentPath_eq hsound, h.currentPath_eq hsound, hnext.keeps.nameOf hnext.cwd]
  exact hsound.barePath_of_parentOf (hsound.ne_root_of_parentOf hlies h.cwd) hlies

/-- **A move up** leads from what lies in a directory of the tree to the directory. -/
theorem move_up (h : fs.StaysIn middle) {parent : NodeId} (held : List NodeId)
    (hlies : fs.forest.parentOf middle.cwd = some parent) (hparent : fs.forest.InTree parent) :
    ∃ next, middle.move ("..", held) = .ok next ∧ fs.StaysIn next ∧ next.cwd = parent := by
  have hdestination : middle.destination ".." = .ok parent := by
    rw [destination_up, h.keeps.parentOf hparent hlies, Option.getD_some]
  exact h.sound.move_in h.keeps ("..", held) hdestination hparent

/-! ## Walks -/

/-- A walk down stays in the tree. -/
theorem walk_down (h : fs.StaysIn start) (hsound : fs.forest.Sound)
    (hnames : ∀ step ∈ down, NamesChild step.1) (hdown : start.walk down = .ok bottom) :
    fs.StaysIn bottom :=
  (foldlM_ok fs.StaysIn (fun _ _ => True) (fun hstep hstays hmove =>
    ⟨(hstays.enter hsound (hnames _ hstep) hmove).1, trivial, fun _ _ => trivial⟩) h hdown).1

/-- **There and back**: as many moves up as there were moves down lead to where these began. -/
theorem there_and_back (h : fs.StaysIn start) (hsound : fs.forest.Sound)
    (hnames : ∀ step ∈ down, NamesChild step.1) (hdown : start.walk down = .ok bottom)
    {ups : List (List NodeId)} (hlength : ups.length = down.length) :
    ∃ top, bottom.walk (ups.map ("..", ·)) = .ok top ∧ fs.StaysIn top ∧ top.cwd = start.cwd := by
  induction down generalizing start ups with
  | nil =>
    obtain rfl : start = bottom := Except.ok.inj hdown
    rw [List.length_nil, List.length_eq_zero_iff] at hlength
    exact ⟨start, by rw [hlength]; rfl, h, rfl⟩
  | cons step rest ih =>
    obtain ⟨middle, hmove, hrest⟩ := walk_cons_eq_ok_iff.1 hdown
    obtain ⟨hname, hothers⟩ := List.forall_mem_cons.1 hnames
    have hlies := h.parentOf_entered hsound hname hmove
    -- the last move up undoes the first one down
    obtain ⟨front, last, rfl⟩ := List.eq_nil_or_concat ups |>.resolve_left (by
      rintro rfl
      exact absurd hlength (by simp))
    rw [List.concat_eq_append, List.length_append, List.length_singleton, List.length_cons,
      Nat.add_right_cancel_iff] at hlength
    obtain ⟨below, hbelow, hstays, hcwd⟩ :=
      ih (h.enter hsound hname hmove).1 hothers hrest hlength
    rw [← hcwd] at hlies
    obtain ⟨top, htop, hback, hstart⟩ := hstays.move_up last hlies h.cwd
    refine ⟨top, ?_, hback, hstart⟩
    rw [List.concat_eq_append, List.map_append, walk_append_eq_ok_iff]
    exact ⟨below, hbelow, walk_singleton.trans htop⟩

end StaysIn

/-! ## The round trip -/

/-- **Going down and back up leads home.** Take any tree that can come about, with a current
directory that can be reached from the root, and a walk down by the names of children. Then as many
moves up lead back to the directory, and its path is what it was. On the way each move down enters
the child that has the name, and adds a slash and the name as it is stored to the path, where
nothing stands for the path of the root. All this whatever is let go after each move. -/
theorem down_and_up (changes : List TreeChange) (h : initial.CanRun changes)
    (down : List (String × List NodeId)) (hnames : ∀ step ∈ down, NamesChild step.1)
    (ups : List (List NodeId)) (hlength : ups.length = down.length) :
    let fs := initial.run changes
    fs.forest.Reachable fs.cwd → ∀ bottom, fs.walk down = .ok bottom →
      (∃ top, bottom.walk (ups.map ("..", ·)) = .ok top ∧ top.cwd = fs.cwd
          ∧ top.currentPath = fs.currentPath)
        ∧ ∀ before step rest, down = before ++ step :: rest →
          ∃ middle next, fs.walk before = .ok middle ∧ middle.move step = .ok next
            ∧ middle.child? (Text.slashless step.1) = some next.cwd
            ∧ next.currentPath
              = (if middle.cwd = Forest.root then "" else middle.currentPath) ++ "/"
                ++ next.forest.nameOf next.cwd := by
  intro fs hreachable bottom hdown
  have hsound : fs.Sound := sound_initial.run h
  have hstart : fs.StaysIn fs :=
    hsound.staysIn ((Forest.reachable_iff hsound.forest).1 hreachable)
  refine ⟨?_, fun before step rest hsplit => ?_⟩
  · obtain ⟨top, hups, hback, hcwd⟩ := hstart.there_and_back hsound.forest hnames hdown hlength
    refine ⟨top, hups, hcwd, ?_⟩
    rw [hback.currentPath_eq hsound.forest, hcwd]
    rfl
  · subst hsplit
    obtain ⟨middle, hbefore, hmore⟩ := walk_append_eq_ok_iff.1 hdown
    obtain ⟨next, hmove, -⟩ := walk_cons_eq_ok_iff.1 hmore
    have hmiddle : fs.StaysIn middle := hstart.walk_down hsound.forest
      (fun other hother => hnames other (List.mem_append_left _ hother)) hbefore
    have hname : NamesChild step.1 := hnames step (List.mem_append_right _ List.mem_cons_self)
    exact ⟨middle, next, hbefore, hmove, (hmiddle.enter hsound.forest hname hmove).2,
      hmiddle.currentPath_entered hsound.forest hname hmove⟩

/-- Two directories down, by names in another case and with slashes, and two up again. Nobody keeps
the directory that the root was put into, and so it is let go on the way. -/
theorem down_and_up_from_home :
    let changes : List TreeChange :=
      [.createDirectory Forest.root "Home", .createDirectory 1 "Bin", .createDirectory 2 "A b",
        .changeDirectory "home", .newDirectory "Above", .attach 4 Forest.root]
    let fs := initial.run changes
    initial.CanRun changes ∧ fs.forest.Reachable fs.cwd ∧ fs.currentPath = "/Home"
      ∧ ∃ bottom top, fs.walk [("BIN//", []), ("a B", [])] = .ok bottom
        ∧ bottom.currentPath = "/Home/Bin/A b" ∧ bottom.walk [("..", []), ("..", [])] = .ok top
        ∧ top.cwd = fs.cwd ∧ top.currentPath = "/Home" := by
  intro changes fs
  have hfacts : initial.CanRun changes ∧ fs.forest.isAttached fs.cwd = true
      ∧ fs.currentPath = "/Home"
      ∧ (fs.walk [("BIN//", []), ("a B", [])]).map currentPath = .ok "/Home/Bin/A b" := by
    decide +kernel
  obtain ⟨hcan, hattached, hpath, hdown⟩ := hfacts
  have hreachable : fs.forest.Reachable fs.cwd :=
    (sound_initial.run hcan).forest.isAttached_iff_reachable.1 hattached
  obtain ⟨bottom, hbottom, hbelow⟩ := map_eq_ok.1 hdown
  obtain ⟨⟨top, htop, hcwd, hback⟩, -⟩ := down_and_up changes hcan [("BIN//", []), ("a B", [])]
    (by decide +kernel) [[], []] rfl hreachable bottom hbottom
  exact ⟨hcan, hreachable, hpath, bottom, top, hbottom, hbelow, htop, hcwd, hback.trans hpath⟩

/-- **A path that is a slash is not always the path of the root.** From a child of the root that has
no name, a move down leads to a path with two slashes in front. -/
theorem not_forall_path_extends :
    ¬ ∀ changes : List TreeChange, initial.CanRun changes →
      let fs := initial.run changes
      fs.forest.Reachable fs.cwd → ∀ step next, NamesChild step.1 → fs.move step = .ok next →
        next.currentPath
          = (if fs.currentPath = "/" then "" else fs.currentPath) ++ "/"
            ++ next.forest.nameOf next.cwd := by
  intro hall
  let changes : List TreeChange :=
    [.createDirectory Forest.root "", .createDirectory Forest.root "x", .changeDirectory "x",
      .remove Forest.root "x", .attach 1 2, .changeDirectory ".."]
  let fs := initial.run changes
  have hfacts : initial.CanRun changes ∧ fs.forest.isAttached fs.cwd = true
      ∧ fs.currentPath = "/" ∧ NamesChild "x"
      ∧ (fs.move ("x", [])).map (fun next => (next.currentPath, next.forest.nameOf next.cwd))
        = .ok ("//x", "x") := by decide +kernel
  obtain ⟨hcan, hattached, hpath, hname, hmove⟩ := hfacts
  have hreachable : fs.forest.Reachable fs.cwd :=
    (sound_initial.run hcan).forest.isAttached_iff_reachable.1 hattached
  obtain ⟨next, hnext, hseen⟩ := map_eq_ok.1 hmove
  obtain ⟨hslashes, hstored⟩ := Prod.mk.inj hseen
  have hclaimed := hall changes hcan hreachable ("x", []) next hname hnext
  rw [if_pos hpath, hslashes, hstored] at hclaimed
  exact absurd hclaimed (by decide)

end FileSystem

end StoryShell
