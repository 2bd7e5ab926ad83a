/-
The bundled world can be played to its end from anywhere.

For every milestone of the bundled world there is an errand, and in the order of the table they are
ready in turn (`errands_inTurn`): that is computed once, from the file system of the start. So
whatever was done before, all of them can be run (`Errand.run_all`), and then the gate lets a walk
pass to the directory that was sealed.
-/
import StoryShell.Proofs.Session.Errands
import StoryShell.Proofs.Session.Sequence

set_option autoImplicit false

namespace StoryShell

namespace World.Bundled

/-- **The errands of the story**, in the order of its milestones. -/
def errands : List Errand :=
  -- the copies are of `find`, of `cat` in `core`, and of `pwd` in `secret`
  let tasks : List (Milestone → Errand) := [
    .mk Forest.root .cd "home" home,
    .mk home .cp "find" 10,
    .mk 12 .cp "cat" 13,
    .mk 15 .cp "pwd" 16,
    .mk 7 .cat "diary.txt" 8]
  tasks.zipWith (fun task milestone => task milestone) bundledMilestones

/-- There is an errand for every milestone. -/
theorem milestone_errands : errands.map (·.milestone) = bundled.milestones := rfl

/-- **The errands are ready in turn** from the start. -/
theorem errands_inTurn {fs : FileSystem} (h : bundled.build = .ok fs) :
    Errand.InTurn bundled fs [] errands := by
  have hbuilt : ∀ fs ∈ bundled.build.toOption, Errand.InTurn bundled fs [] errands := by
    decide +kernel
  exact hbuilt fs (mem_toOption h)

/-- **The walk to the sealed directory passes** once all milestones are achieved. -/
theorem walkPasses_rock :
    bundled.WalkPasses (bundled.milestones.map (·.id)) ["home", "rock"] := by
  decide +kernel

end World.Bundled

namespace Session

open World (bundled)

variable {first session : Session} {events : List Event}

/-- **All milestones of the bundled world** can be achieved from wherever one has come to. -/
theorem hasDone_bundled (hstart : ofWorld bundled false = .ok (first, events))
    (hreach : first.Reaches session) :
    ∃ lines, first.HasDone (bundled.milestones.map (·.id)) (session.submitAll lines).2 := by
  obtain ⟨history, hruns⟩ := hreach.runs
  have hbegin : first.HasDone [] session :=
    ⟨⟨history, hruns⟩, fun id hid => absurd hid List.not_mem_nil⟩
  obtain ⟨lines, hall⟩ := Errand.run_all World.allNames_bundled World.valid_bundled hstart hbegin
    (World.Bundled.errands_inTurn (build_of_ofWorld hstart))
  refine ⟨lines, hall.runs, fun id hid => hall.achieved id ?_⟩
  rw [← World.Bundled.milestone_errands, List.map_map] at hid
  exact List.mem_append_left _ (List.mem_reverse.2 hid)

/-- **The bundled world cannot be locked.** From every session that lines lead to from its start,
there are lines after which no milestone is pending, that is, all are achieved; then the sealed
directory is open, and there are lines that lead into it. -/
theorem bundled_never_locked {id : String} {world : World} (hload : World.load id = .ok world)
    (hstart : ofWorld world false = .ok (first, events)) (hreach : first.Reaches session) :
    ∃ lines,
      (session.submitAll lines).2.tracker.pending (session.submitAll lines).2.progress = []
        ∧ (∀ milestone ∈ world.milestones,
          milestone.id ∈ (session.submitAll lines).2.progress.achieved)
        ∧ "cd rock" ∉ (session.submitAll lines).2.gate.blocked
        ∧ ∃ more, ((session.submitAll lines).2.submitAll more).2.fs.currentPath = "/home/rock" := by
  obtain rfl := World.eq_bundled_of_load hload
  obtain ⟨lines, hdone⟩ := hasDone_bundled hstart hreach
  refine ⟨lines, ?_⟩
  generalize (session.submitAll lines).2 = after at hdone ⊢
  obtain ⟨history, hruns⟩ := hdone.runs
  have hstory := hruns.inStory World.valid_bundled hstart
  have hall : ∀ milestone ∈ bundled.milestones, milestone.id ∈ after.progress.achieved :=
    fun milestone hmem => hdone.achieved _ (List.mem_map_of_mem hmem)
  have hpending : after.tracker.pending after.progress = [] := by
    rw [Tracker.pending, hstory.tracker, List.filter_eq_nil_iff]
    exact fun milestone hmem => by simpa using hall milestone hmem
  have hopen : "open-rock" ∈ after.progress.achieved := hdone.achieved _ (by decide)
  refine ⟨hpending, hall, fun hblocked => hstory.bundled_gate.1.1 hblocked hopen, ?_⟩
  obtain ⟨hdirectory, -, hsegments, -⟩ := World.Bundled.rock_in_home (build_of_ofWorld hstart)
  obtain ⟨more, hwalked, hcwd⟩ := hdone.walk World.allNames_bundled World.valid_bundled hstart
    hdirectory (by rw [hsegments]; exact World.Bundled.walkPasses_rock)
  obtain ⟨turns, hturns⟩ := hwalked.runs
  exact ⟨more, (currentPath_eq_rock_iff hstart hturns).2 hcwd⟩

/-- A session in which `/bin` has been written over, before anything could be read. -/
theorem bundled_never_locked_below_home :
    ∃ (world : World) (first session : Session) (events : List Event),
      World.load "default" = .ok world ∧ ofWorld world false = .ok (first, events)
        ∧ first.Reaches session ∧ session.fs.currentPath = "/home/core"
        ∧ "cat-unlocked" ∉ session.progress.achieved
        ∧ ∃ lines,
          (session.submitAll lines).2.tracker.pending (session.submitAll lines).2.progress = []
            ∧ "cd rock" ∉ (session.submitAll lines).2.gate.blocked
            ∧ ∃ more,
              ((session.submitAll lines).2.submitAll more).2.fs.currentPath = "/home/rock" := by
  obtain ⟨world, first, session, events, hload, hstart, hreach, hpath, hnot⟩ :=
    exists_reached "default" (fun session => session.fs.currentPath = "/home/core"
      ∧ "cat-unlocked" ∉ session.progress.achieved)
    ⟨["cp fairy.exe", "cd bin", "cp ls", "cd rock", "cd /", "cd HOME", "cd rock/", "cp readme.txt",
      "cp find", "cd core", "cp diary.txt"], by decide +kernel⟩
  obtain ⟨lines, hpending, -, hopen, hrock⟩ := bundled_never_locked hload hstart hreach
  exact ⟨world, first, session, events, hload, hstart, hreach, hpath, hnot, lines, hpending, hopen,
    hrock⟩

end Session

end StoryShell
