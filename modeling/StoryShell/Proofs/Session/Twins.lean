/-
Sessions that show the same.

Sessions that play the same game may also show the same all along: their consoles are the same, and
their scenes are the same but for the numbers of nodes (`Session.Twins`). The scene of a session has
the children of the current directory for its objects, so all that it shows belongs to the tree. A
line keeps all this (`Twins.submit`), and so does letting nodes go on either side.

Sessions of worlds that differ in order only are such twins from the start (`twins_of_reordered`).
-/
import StoryShell.Proofs.Session.Alike
import StoryShell.Proofs.Session.Staging
import StoryShell.Proofs.World.Reordered

set_option autoImplicit false

namespace StoryShell

/-! ## Scenes -/

namespace Scene

/-- A scene in which every node goes by another number. -/
def renumber (f : NodeId → NodeId) (scene : Scene) : Scene where
  directory := scene.directory.map f
  objects := scene.objects.map fun object => { object with node := f object.node }

section

variable {forest other : Forest} {f : NodeId → NodeId} (h : forest.Alike f other)

include h

/-- The scenes of directories that stand for each other. -/
theorem stage_renumber {directory : NodeId} (hdirectory : forest.InTree directory) :
    stage other (f directory) = (stage forest directory).renumber f := by
  simp only [stage, renumber, Option.map_some, h.listing hdirectory, List.map_map]
  rfl

/-- Nodes that stand for each other are uncovered alike. -/
theorem uncover_renumber (scene : Scene) (nodes : List NodeId) :
    (scene.renumber f).uncover (nodes.map f) = (scene.uncover nodes).renumber f := by
  simp only [uncover, renumber, List.map_map]
  congr 1
  refine List.map_congr_left fun object _ => ?_
  simp only [Function.comp, List.mem_map_of_injective h.injective]
  split
  · rfl
  · rfl

/-- Nodes that stand for each other are revealed alike. -/
theorem reveal_renumber (scene : Scene) (node : NodeId) :
    (scene.renumber f).reveal (f node) = (scene.reveal node).renumber f := by
  simp only [reveal, renumber, List.map_map]
  congr 1
  refine List.map_congr_left fun object _ => ?_
  simp only [Function.comp, h.injective.eq_iff]
  split
  · rfl
  · rfl

/-- **Scenes follow results that stand for each other alike.** -/
theorem observe_renumber (scene : Scene) {result : Result}
    (hmentions : ∀ id ∈ result.mentioned, forest.InTree id) :
    (scene.renumber f).observe other (result.renumber f)
      = (scene.observe forest result).renumber f := by
  rw [observe, observe, Result.renumber_isError, Result.renumber_command, Result.renumber_target,
    Result.renumber_nodes]
  split
  · rfl
  · cases Command.ofName? result.command with
    | none => rfl
    | some command =>
      cases command with
      | cd =>
        cases htarget : result.target with
        | none => rfl
        | some target =>
          have htree := hmentions target (Result.mem_mentioned_of_target htarget)
          simp only [Option.map_some, h.isDirectory htree]
          split
          · exact stage_renumber h htree
          · rfl
      | ls => exact uncover_renumber h scene result.nodes
      | cat =>
        cases result.target with
        | none => rfl
        | some target => exact reveal_renumber h scene target
      | cp | echo | find | pwd => rfl

end

end Scene

/-! ## Printing -/

/-- What a console prints of a result depends on its text only. -/
theorem Console.observe_renumber (console : Console) (f : NodeId → NodeId) (result : Result) :
    console.observe (result.renumber f) = console.observe result := rfl

/-- A tracker prints nothing. -/
theorem Tracker.printed_handle (tracker : Tracker) (progress : Progress) (forest : Forest)
    (result : Result) :
    (tracker.handle progress forest result).2.events.filterMap Event.text? = [] := by
  rw [Tracker.handle]
  cases tracker.next? progress forest result with
  | none => rfl
  | some milestone =>
    refine List.filterMap_eq_nil_iff.2 fun event hevent => ?_
    rcases Tracker.mem_events_reach hevent with rfl | ⟨listener, rfl⟩ | ⟨record, rfl⟩
    · rfl
    · rfl
    · rfl

namespace Session

variable {first second session after : Session} {f : NodeId → NodeId}

/-- **What publishing shows**: the console follows the result, and nobody else prints. -/
theorem console_publish (session : Session)
    (hobservers : session.observers = [.console, .scene, .tracker]) (result : Result) :
    (session.publish result).1.console = (session.console.observe result).1
      ∧ (session.publish result).2.filterMap Event.text?
        = (session.console.observe result).2.filterMap Event.text? := by
  rw [publish_of_observers result hobservers]
  refine ⟨rfl, ?_⟩
  have htracker := session.tracker.printed_handle session.progress session.fs.forest result
  simp only [List.filterMap_append, List.filterMap_cons, Event.text?, htracker, List.append_nil]
  split
  · simp [Event.text?]
  · simp

/-- **What a line shows** is what the console makes of its result, if it has one. -/
theorem console_submit (hobservers : session.observers = [.console, .scene, .tracker])
    {raw : String} {outcome : Option Result} {events : List Event}
    (h : session.submit raw = (outcome, after, events)) :
    after.console = outcome.elim session.console (fun result => (session.console.observe result).1)
      ∧ events.filterMap Event.text?
        = outcome.elim [] fun result =>
          (session.console.observe result).2.filterMap Event.text? := by
  rw [submit] at h
  split at h
  · obtain ⟨rfl, rfl, rfl⟩ := h
    exact ⟨rfl, rfl⟩
  · rename_i result hverdict
    obtain ⟨rfl, rfl, rfl⟩ := h
    exact console_publish session hobservers result
  · simp only [direct, execute] at h
    obtain ⟨rfl, rfl, rfl⟩ := h
    generalize session.interpreter.execute session.fs session.scene.nodes raw = execution
    obtain ⟨hconsole, hprinted⟩ :=
      console_publish { session with fs := execution.fs } hobservers execution.result
    refine ⟨hconsole, ?_⟩
    rw [List.filterMap_append, hprinted, List.filterMap_map]
    -- log records print nothing
    simp [Function.comp_def, Event.text?]

/-! ## Twins -/

/-- **Sessions that show the same**: they play the same game but for the numbers of nodes, with the
observers of a start, and so do their consoles and scenes. -/
structure Twins (f : NodeId → NodeId) (first second : Session) : Prop where
  game : first.Alike f second
  observers : first.observers = [.console, .scene, .tracker]
  otherObservers : second.observers = [.console, .scene, .tracker]
  console : second.console = first.console
  scene : second.scene = first.scene.renumber f
  staged : ∃ history, first.Staged history

namespace Twins

variable (h : first.Twins f second)

include h

/-- **What is on the stage belongs to the tree.** -/
theorem inTree_object {object : SceneObject} (hobject : object ∈ first.scene.objects) :
    first.fs.forest.InTree object.node := by
  obtain ⟨history, hstaged⟩ := h.staged
  refine h.game.fs.inTree_of_mem_list ?_
  rw [← hstaged.nodes]
  exact List.mem_map_of_mem hobject

/-- **Nodes that are let go** on the one side make no difference. -/
theorem collect (held : List NodeId) : (first.reclaim held).Twins f second where
  game := h.game.meddle (.collect held)
  observers := h.observers
  otherObservers := h.otherObservers
  console := h.console
  scene := h.scene
  staged := by
    obtain ⟨history, hstaged⟩ := h.staged
    refine ⟨history, hstaged.of_same rfl rfl (FileSystem.list_reclaim _) fun node hnode => ?_⟩
    rw [reclaim, FileSystem.reclaim, FileSystem.withForest, Forest.isDirectory_reclaim, hnode,
      Bool.and_false]

/-- Nor do nodes that are let go on the other side. -/
theorem collect_other (held : List NodeId) : first.Twins f (second.reclaim held) where
  game := h.game.meddle_other (.collect held)
  observers := h.observers
  otherObservers := h.otherObservers
  console := h.console
  scene := h.scene
  staged := h.staged

/-- **A line that is submitted** shows the same on both sides, and leaves twins. -/
theorem submit (raw : String) :
    (first.submit raw).2.1.Twins f (second.submit raw).2.1
      ∧ (second.submit raw).2.2.filterMap Event.text?
        = (first.submit raw).2.2.filterMap Event.text? := by
  have hreplies := h.game.submit raw
  have hgrown : first.Grown fun _ => True := ⟨h.game.fs.grown, h.observers⟩
  have hgrownOther : second.Grown fun _ => True := ⟨h.game.fs.otherGrown, h.otherObservers⟩
  rcases hfirst : first.submit raw with ⟨outcome, after, events⟩
  rcases hsecond : second.submit raw with ⟨otherOutcome, otherAfter, otherEvents⟩
  rw [hfirst, hsecond] at hreplies
  obtain ⟨hrenumbered, hgame, hmentions⟩ := hreplies
  dsimp only at hrenumbered hgame hmentions ⊢
  subst hrenumbered
  obtain ⟨hconsole, hprinted⟩ := console_submit h.observers hfirst
  obtain ⟨hconsoleOther, hprintedOther⟩ := console_submit h.otherObservers hsecond
  simp only [Option.elim_map, Function.comp_def, h.console, Console.observe_renumber]
    at hconsoleOther hprintedOther
  refine ⟨?_, hprintedOther.trans hprinted.symm⟩
  have hsame : otherAfter.console = after.console := hconsoleOther.trans hconsole.symm
  cases outcome with
  | none =>
    rw [submit_of_blank hfirst, submit_of_blank hsecond]
    exact h
  | some result =>
    have hanswers := answers_submit hgrown hfirst
    have hanswersOther := answers_submit hgrownOther hsecond
    obtain ⟨history, hstaged⟩ := h.staged
    refine ⟨hgame, hanswers.observers.trans h.observers,
      hanswersOther.observers.trans h.otherObservers, hsame, ?_,
      ⟨_, hstaged.answer hgrown.fs.sound hanswers⟩⟩
    rw [hanswers.scene, hanswersOther.scene, h.scene]
    exact Scene.observe_renumber hgame.fs.forest first.scene (hmentions result rfl)

end Twins

/-! ## The start -/

/-- Forcing milestones carries the story forward in the same way, whatever else there is. -/
theorem progress_forceAll (ids : List String) (htracker : second.tracker = first.tracker)
    (hprogress : second.progress = first.progress) :
    (forceAll ids second).1.progress = (forceAll ids first).1.progress := by
  induction ids generalizing first second with
  | nil => exact hprogress
  | cons id rest ih =>
    rw [forceAll, forceAll, htracker, hprogress]
    cases first.tracker.force id first.progress with
    | error unknown => exact ih htracker hprogress
    | ok forced => exact ih htracker rfl

/-- So does opening everything. -/
theorem progress_unlockAll (htracker : second.tracker = first.tracker)
    (hprogress : second.progress = first.progress) :
    second.unlockAll.1.progress = first.unlockAll.1.progress := by
  have hforced := progress_forceAll (first.tracker.milestones.map Milestone.id) htracker hprogress
  simp only [unlockAll, editGateAll, gate, htracker, hforced]

/-- Twins stay so if their stories are carried forward in the same way. -/
theorem Twins.with_progress (h : first.Twins f second) (progress : Progress) :
    Twins f { first with progress } { second with progress } where
  game := ⟨h.game.fs, h.game.interpreter, rfl, h.game.milestones, h.game.opensGate, h.game.tracked,
    h.game.otherTracked⟩
  observers := h.observers
  otherObservers := h.otherObservers
  console := h.console
  scene := h.scene
  staged := by
    obtain ⟨history, hstaged⟩ := h.staged
    exact ⟨history, hstaged.of_same rfl rfl rfl fun _ hnode => hnode⟩

/-- Commands in another order make the same gate. -/
theorem ofLists_of_perm {allowed blocked otherAllowed otherBlocked : List String}
    (hallowed : otherAllowed.Perm allowed) (hblocked : otherBlocked.Perm blocked) :
    Gate.ofLists otherAllowed otherBlocked = Gate.ofLists allowed blocked := by
  have hset : ∀ {list other : List String}, other.Perm list →
      NameSet.ofList ((other.filter (· ≠ "")).map Text.lower)
        = NameSet.ofList ((list.filter (· ≠ "")).map Text.lower) := by
    intro list other hperm
    refine NameSet.ext_mem fun name => ?_
    rw [NameSet.mem_ofList, NameSet.mem_ofList]
    exact ((hperm.filter _).map _).mem_iff
  simp only [Gate.ofLists, hset hallowed, hset hblocked]

variable {world twin : World} {fs built : FileSystem}

/-- **Worlds that differ in order only** start with twins, where they are built alike. -/
theorem twins_start (h : world.Reordered twin) (hfs : fs.Alike f built) :
    (start world fs).Twins f (start twin built) where
  game := {
    fs := hfs
    interpreter := rfl
    progress := by rw [start, start, ofLists_of_perm h.allowed h.blocked]
    milestones := h.milestones
    opensGate := rfl
    tracked := rfl
    otherTracked := rfl }
  observers := rfl
  otherObservers := rfl
  console := rfl
  scene := by
    simp only [start, hfs.cwd]
    exact Scene.stage_renumber hfs.forest hfs.inTree_cwd
  staged := ⟨[], staged_stage rfl rfl (by simp)⟩

/-- They do so also if everything is opened. -/
theorem twins_of_reordered (h : world.Reordered twin) (hfs : fs.Alike f built)
    (everythingOpen : Bool) :
    Twins f (if everythingOpen then (start world fs).unlockAll else (start world fs, [])).1
      (if everythingOpen then (start twin built).unlockAll else (start twin built, [])).1 := by
  have hstart := twins_start h hfs
  cases everythingOpen with
  | false => exact hstart
  | true =>
    have htracker : (start twin built).tracker = (start world fs).tracker := by
      simp only [start, h.milestones]
    rw [if_pos rfl, if_pos rfl, unlockAll_eq (start world fs), unlockAll_eq (start twin built),
      progress_unlockAll htracker hstart.game.progress]
    exact hstart.with_progress _

end Session

end StoryShell
