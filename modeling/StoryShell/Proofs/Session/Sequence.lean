/-
The story of the bundled world keeps its order.

A milestone that a line newly achieves was triggered by the result of the line, so its command was
allowed before (`allowed_of_achieved`). In the bundled world `cat` is allowed only when the
milestone for it is achieved, and `open-rock` is for `cat`; so that milestone comes first, though
the table does not say so. And `/home/rock` can only be entered from `/home`, past the pattern that
`open-rock` alone takes away. These two facts are kept by every line (`BundledOrder`), and
everything else follows from the gate fitting what is achieved.
-/
import StoryShell.Proofs.Session.Passage
import StoryShell.Proofs.Session.Paths
import StoryShell.Proofs.Session.Unlocking
import StoryShell.Proofs.World.Bundled
import StoryShell.Proofs.World.Faithful

set_option autoImplicit false

namespace StoryShell.Session

variable {ok : String → Prop} {first session after : Session} {history : List Turn}

/-! ## What a line achieves -/

/-- What publishing newly achieves was triggered by the result. -/
theorem trigger_of_publish (hobservers : session.observers = [.console, .scene, .tracker])
    {result : Result} {id : String} (hnew : id ∉ session.progress.achieved)
    (hnow : id ∈ (session.publish result).1.progress.achieved) :
    ∃ milestone ∈ session.tracker.milestones, milestone.id = id
      ∧ milestone.isTriggeredBy session.fs.forest result = true := by
  rw [publish_of_observers result hobservers] at hnow
  exact Tracker.trigger_of_handle hnew hnow

/-- **A milestone that a line achieves** is for a command that was allowed. -/
theorem allowed_of_achieved (hgrown : session.Grown ok) {raw id : String}
    (hnew : id ∉ session.progress.achieved)
    (hnow : id ∈ (session.submit raw).2.1.progress.achieved) :
    ∃ milestone ∈ session.tracker.milestones, milestone.id = id
      ∧ (milestone.command ≠ "" → milestone.command ∈ session.gate.allowed) := by
  rcases hsubmit : session.submit raw with ⟨outcome, after, happened⟩
  rw [hsubmit] at hnow
  cases outcome with
  | none =>
    rw [submit_of_blank hsubmit] at hnow
    exact absurd hnow hnew
  | some result =>
    -- refused or carried out, what is achieved comes of publishing the result
    have htriggered : ∃ forest, ∃ milestone ∈ session.tracker.milestones, milestone.id = id
        ∧ milestone.isTriggeredBy forest result = true := by
      rcases submit_cases hsubmit with ⟨-, rfl⟩ | ⟨-, execution, -, -, rfl⟩
      · exact ⟨_, trigger_of_publish hgrown.observers hnew hnow⟩
      · have hobservers : ({ session with fs := execution.fs } : Session).observers
            = [.console, .scene, .tracker] := hgrown.observers
        exact ⟨_, trigger_of_publish hobservers hnew hnow⟩
    obtain ⟨forest, milestone, hmem, hid, htriggers⟩ := htriggered
    simp only [Milestone.isTriggeredBy, Bool.and_eq_true, Bool.not_eq_true', beq_iff_eq]
      at htriggers
    obtain ⟨⟨⟨hsuccess, hcommand⟩, -⟩, -⟩ := htriggers
    refine ⟨milestone, hmem, hid, fun hne => ?_⟩
    obtain ⟨hverdict, hcases⟩ := succeeds_of_submit hgrown.fs.sound hsubmit hsuccess
    rcases hcases with ⟨hblank, -⟩ | ⟨command, hname, hsucceeds⟩
    · rw [← hcommand, hblank] at hne
      exact absurd rfl hne
    · rw [← hcommand, hsucceeds.command, Command.name_of_ofName? hname]
      exact (Gate.of_passed hverdict).1

/-! ## The bundled world -/

open World (bundled)
open World.Bundled (rock)

variable {events : List Event}

/-- **What every line keeps in the bundled world**: the sealed directory is entered after it was
opened, and it is opened after `cat` was unlocked. -/
structure BundledOrder (session : Session) : Prop where
  rock : session.fs.cwd = rock → "open-rock" ∈ session.progress.achieved
  cat : "open-rock" ∈ session.progress.achieved → "cat-unlocked" ∈ session.progress.achieved

/-- **The gate in the bundled world** is told by one milestone for each entry that changes. -/
theorem InStory.bundled_gate (h : session.InStory bundled) :
    ("cd rock" ∈ session.gate.blocked ↔ "open-rock" ∉ session.progress.achieved)
      ∧ ("find" ∈ session.gate.allowed ↔ "find-unlocked" ∈ session.progress.achieved)
      ∧ ("cat" ∈ session.gate.allowed ↔ "cat-unlocked" ∈ session.progress.achieved)
      ∧ ("pwd" ∈ session.gate.allowed ↔ "pwd-unlocked" ∈ session.progress.achieved) := by
  refine ⟨h.fits.blocked_iff_of_only ?_ ?_ ?_, h.fits.allowed_iff_of_only ?_ ?_ ?_,
    h.fits.allowed_iff_of_only ?_ ?_ ?_, h.fits.allowed_iff_of_only ?_ ?_ ?_⟩
  all_goals decide +kernel

/-- The sealed directory is entered by a line only after it was opened. -/
theorem opened_of_entering (hgrown : session.Grown Seed.IsName) (hstory : session.InStory bundled)
    (hname : session.fs.forest.nameOf rock = "rock") {raw : String}
    (hchild : rock ∈ session.fs.list) (hmove : (session.submit raw).2.1.fs.cwd = rock) :
    "open-rock" ∈ session.progress.achieved := by
  obtain ⟨result, after, happened, hline, hsuccess, hcommand, htarget⟩ :=
    success_of_move hgrown hchild hmove
  obtain ⟨-, -, hpattern⟩ := passed_of_success hgrown hline hsuccess htarget hchild
  have hlower : "cd" ++ " " ++ Text.lower "rock" = "cd rock" := by decide +kernel
  rw [hcommand, hname, hlower, hstory.bundled_gate.1, not_not] at hpattern
  exact hpattern

/-- **A line keeps the order.** -/
theorem BundledOrder.submit (hstart : ofWorld bundled false = .ok (first, events))
    (hruns : first.Runs history session) (h : session.BundledOrder) (raw : String) :
    (session.submit raw).2.1.BundledOrder := by
  have hfirst : first.Grown Seed.IsName := grown_ofWorld World.allNames_bundled hstart
  have hgrown := hruns.grown hfirst
  have hframed := hruns.framed hstart
  have hstory := hruns.inStory World.valid_bundled hstart
  obtain ⟨hdirectory, hname, -, hnone⟩ := World.Bundled.rock_in_home (build_of_ofWorld hstart)
  have hkept := fun {id} (hid : id ∈ session.progress.achieved) =>
    mem_achieved_submit hgrown hid raw
  constructor
  · intro hmove
    refine hkept ?_
    rcases cwd_submit hgrown.fs.sound hgrown.observers raw with hstays | hroot | hup | hchild
    · exact h.rock (hstays.symm.trans hmove)
    · exact absurd (hmove.symm.trans hroot) (by decide)
    · -- no directory lies in the sealed one
      have hcwd := hgrown.fs.sound.cwd
      rw [hframed.forest.isDirectory] at hcwd
      rw [hmove, hframed.forest.parentOf _ hcwd] at hup
      exact absurd hup (hnone _ hcwd)
    · rw [hmove] at hchild
      exact opened_of_entering hgrown hstory ((hframed.forest.nameOf _ hdirectory).trans hname)
        hchild hmove
  · intro hnow
    refine hkept ?_
    by_cases hachieved : "open-rock" ∈ session.progress.achieved
    · exact h.cat hachieved
    · obtain ⟨milestone, hmem, hid, hallowed⟩ := allowed_of_achieved hgrown hachieved hnow
      rw [hstory.tracker] at hmem
      -- of the table, this is the milestone for `cat`
      have hcat : ∀ milestone ∈ bundled.milestones, milestone.id = "open-rock" →
          milestone.command = "cat" := by decide +kernel
      rw [hcat milestone hmem hid] at hallowed
      exact hstory.bundled_gate.2.2.1.1 (hallowed (by decide))

/-- **The order is kept all along.** -/
theorem Reaches.bundledOrder (hstart : ofWorld bundled false = .ok (first, events))
    (h : first.Reaches session) : session.BundledOrder := by
  induction h with
  | start =>
    have hroot := (World.fixed_build (build_of_ofWorld hstart)).1
    have hempty : "open-rock" ∉ (NameMap.empty : NameSet) := by decide
    obtain ⟨fs, -, -, hnew⟩ := ofWorld_eq_ok hstart
    rw [hnew rfl] at hroot ⊢
    exact ⟨fun hcwd => absurd (hroot.symm.trans hcwd) (by decide),
      fun hachieved => absurd hachieved hempty⟩
  | line earlier raw ih =>
    obtain ⟨history, hruns⟩ := earlier.runs
    exact ih.submit hstart hruns raw
  | tell earlier drains ih =>
    have hsame := (Progress.drain_fixed drains).1
    refine ⟨fun hcwd => ?_, fun hachieved => ?_⟩
    · exact hsame ▸ ih.rock hcwd
    · exact hsame ▸ ih.cat (hsame ▸ hachieved)
  | collect earlier held ih => exact ⟨ih.rock, ih.cat⟩

/-- The path of the sealed directory is that of no other. -/
theorem currentPath_eq_rock_iff (hstart : ofWorld bundled false = .ok (first, events))
    (hruns : first.Runs history session) :
    session.fs.currentPath = "/home/rock" ↔ session.fs.cwd = rock := by
  have hfirst : first.Grown Seed.IsName := grown_ofWorld World.allNames_bundled hstart
  have hgrown := (hruns.grown hfirst).fs
  obtain ⟨hdirectory, -, hnames, -⟩ := World.Bundled.rock_in_home (build_of_ofWorld hstart)
  have hsegments := (segments_of_isDirectory hstart hruns hdirectory).trans hnames
  have hbare : session.fs.forest.barePath rock = "/home/rock" := by
    rw [Forest.barePath, hsegments]
    decide +kernel
  constructor
  · intro hpath
    -- the path leads to one node
    have htree := (hruns.framed hstart).forest.inTree hfirst.fs.sound.forest
      (isTree_of_ofWorld hstart) hdirectory
    have hhere := hgrown.resolve_barePath (inTree_cwd hstart hruns)
    have hthere := hgrown.resolve_barePath htree
    rw [hbare, ← hpath, FileSystem.currentPath, hhere] at hthere
    exact Option.some.inj hthere
  · intro hcwd
    rw [FileSystem.currentPath, hcwd, hbare]

/-- With a milestone is achieved what it requires. -/
theorem InStory.required {world : World} (h : session.InStory world) {id required : String}
    (hknown : ∃ milestone ∈ world.milestones, milestone.id = id ∧ required ∈ milestone.requires)
    (hachieved : id ∈ session.progress.achieved) : required ∈ session.progress.achieved := by
  obtain ⟨milestone, hmem, rfl, hrequired⟩ := hknown
  exact h.closed milestone hmem hachieved required hrequired

/-- A session that given lines come to, of which something is computed. -/
theorem exists_reached (id : String) (holds : Session → Prop) [DecidablePred holds]
    (h : ∃ lines, (World.load id).toOption.any fun world =>
      (ofWorld world false).toOption.any fun start => holds (start.1.submitAll lines).2) :
    ∃ (world : World) (first session : Session) (events : List Event),
      World.load id = .ok world ∧ ofWorld world false = .ok (first, events)
        ∧ first.Reaches session ∧ holds session := by
  obtain ⟨lines, h⟩ := h
  obtain ⟨world, hworld, h⟩ := (Option.any_eq_true _ _).1 h
  obtain ⟨start, hstart, h⟩ := (Option.any_eq_true _ _).1 h
  exact ⟨world, start.1, (start.1.submitAll lines).2, start.2, ok_of_toOption hworld,
    ok_of_toOption hstart, start.1.reaches_submitAll lines, of_decide_eq_true h⟩

/-- **The bundled world cannot be played out of order.** In every session that lines lead to from
its start: who is in `/home/rock` has achieved `open-rock`, and until then `cd rock` is blocked;
`find`, `cat` and `pwd` are allowed just if their milestones are achieved; and with `open-rock` not
only what it requires is achieved, but also `cat-unlocked`. -/
theorem bundled_story_in_order {id : String} {world : World} (hload : World.load id = .ok world)
    (hstart : ofWorld world false = .ok (first, events)) (hreach : first.Reaches session) :
    (session.fs.currentPath = "/home/rock" → "open-rock" ∈ session.progress.achieved)
      ∧ ("cd rock" ∈ session.gate.blocked ↔ "open-rock" ∉ session.progress.achieved)
      ∧ ("find" ∈ session.gate.allowed ↔ "find-unlocked" ∈ session.progress.achieved)
      ∧ ("cat" ∈ session.gate.allowed ↔ "cat-unlocked" ∈ session.progress.achieved)
      ∧ ("pwd" ∈ session.gate.allowed ↔ "pwd-unlocked" ∈ session.progress.achieved)
      ∧ ("open-rock" ∈ session.progress.achieved →
        "enter-home" ∈ session.progress.achieved ∧ "find-unlocked" ∈ session.progress.achieved
          ∧ "cat-unlocked" ∈ session.progress.achieved) := by
  obtain rfl := World.eq_bundled_of_load hload
  obtain ⟨history, hruns⟩ := hreach.runs
  have horder := hreach.bundledOrder hstart
  have hstory := hruns.inStory World.valid_bundled hstart
  obtain ⟨hblocked, hfind, hcat, hpwd⟩ := hstory.bundled_gate
  refine ⟨fun hpath => horder.rock ((currentPath_eq_rock_iff hstart hruns).1 hpath), hblocked,
    hfind, hcat, hpwd, fun hopen => ?_⟩
  have hfound : "find-unlocked" ∈ session.progress.achieved :=
    hstory.required (by decide) hopen
  exact ⟨hstory.required (by decide) hfound, hfound, horder.cat hopen⟩

/-- A session that has come to the sealed directory, without `pwd`. -/
theorem bundled_story_in_order_at_rock :
    ∃ (world : World) (first session : Session) (events : List Event),
      World.load "default" = .ok world ∧ ofWorld world false = .ok (first, events)
        ∧ first.Reaches session ∧ session.fs.currentPath = "/home/rock"
        ∧ "open-rock" ∈ session.progress.achieved ∧ "cd rock" ∉ session.gate.blocked
        ∧ "cat" ∈ session.gate.allowed ∧ "pwd" ∉ session.gate.allowed
        ∧ "enter-home" ∈ session.progress.achieved ∧ "find-unlocked" ∈ session.progress.achieved
        ∧ "cat-unlocked" ∈ session.progress.achieved := by
  obtain ⟨world, first, session, events, hload, hstart, hreach, hpath, hnot⟩ :=
    exists_reached "default" (fun session => session.fs.currentPath = "/home/rock"
      ∧ "pwd-unlocked" ∉ session.progress.achieved)
    ⟨["cd home", "CP Find", "cd rock", "cd core", "cp cat", "cd /", "cd forest", "cat diary.txt",
      "cd /", "cd home", "cd ROCK//"], by decide +kernel⟩
  obtain ⟨hrock, hblocked, -, hcat, hpwd, hrequired⟩ :=
    bundled_story_in_order hload hstart hreach
  have hopen := hrock hpath
  obtain ⟨henter, hfind, hcopied⟩ := hrequired hopen
  exact ⟨world, first, session, events, hload, hstart, hreach, hpath, hopen,
    fun hmem => hblocked.1 hmem hopen, hcat.2 hcopied, fun hmem => hnot (hpwd.1 hmem), henter,
    hfind, hcopied⟩

end StoryShell.Session
