/-
The scene keeps up with the shell.

The scene is set up anew by a move only, and what has been seen and read of it is marked on its
objects afterwards. It stays true to the current directory because no other command can change what
this directory holds: a copy goes into another directory, or it is of a file onto itself and changes
nothing. And the marks are true to the history since the last move (`Staged`): a listing marks all
objects at once, reading a file marks the one that was read, and a file stays a file.
-/
import StoryShell.Proofs.Session.History

set_option autoImplicit false

namespace StoryShell

/-! ## Scenes -/

namespace Scene

variable {scene : Scene} {forest : Forest} {result : Result}

/-- What was moved to is the stage, and all on it is hidden. -/
theorem observe_cd (hsuccess : result.isError = false) (hcommand : result.command = Command.cd.name)
    {target : NodeId} (htarget : result.target = some target)
    (hdirectory : forest.isDirectory target = true) :
    scene.observe forest result = stage forest target := by
  have hofName : Command.ofName? result.command = some .cd := by
    rw [hcommand]
    rfl
  simp [observe, hsuccess, hofName, htarget, hdirectory]

/-- What was listed is visible. -/
theorem observe_ls (hsuccess : result.isError = false)
    (hcommand : result.command = Command.ls.name) :
    scene.observe forest result = scene.uncover result.nodes := by
  have hofName : Command.ofName? result.command = some .ls := by
    rw [hcommand]
    rfl
  simp [observe, hsuccess, hofName]

/-- What was read is revealed. -/
theorem observe_cat (hsuccess : result.isError = false)
    (hcommand : result.command = Command.cat.name) {target : NodeId}
    (htarget : result.target = some target) :
    scene.observe forest result = scene.reveal target := by
  have hofName : Command.ofName? result.command = some .cat := by
    rw [hcommand]
    rfl
  simp [observe, hsuccess, hofName, htarget]

/-- The other commands leave the scene as it is. -/
theorem observe_of_ne {command : Command} (hcommand : result.command = command.name)
    (hcd : command ≠ .cd) (hls : command ≠ .ls) (hcat : command ≠ .cat) :
    scene.observe forest result = scene := by
  have hofName : Command.ofName? result.command = some command := by
    rw [hcommand]
    cases command <;> rfl
  rw [observe, hofName]
  split
  · rfl
  · cases command <;> first | rfl | contradiction

end Scene

/-! ## Turns -/

namespace Turn

/-- **The turns since the last move**, latest first. -/
def sinceMove (history : List Turn) : List Turn := history.takeWhile (!·.succeeded .cd)

/-- A move leaves no turns behind it. -/
theorem sinceMove_of_moved {turn : Turn} (h : turn.succeeded .cd = true) (history : List Turn) :
    sinceMove (turn :: history) = [] := by
  rw [sinceMove, List.takeWhile_cons, h]
  rfl

/-- Any other turn is added to those since the last move. -/
theorem sinceMove_of_stayed {turn : Turn} (h : turn.succeeded .cd = false) (history : List Turn) :
    sinceMove (turn :: history) = turn :: sinceMove history := by
  rw [sinceMove, List.takeWhile_cons, h]
  rfl

/-- Whether a node was read in a turn. -/
def Reads (turn : Turn) (node : NodeId) : Prop :=
  turn.succeeded .cat = true ∧ turn.result.target = some node

/-- In a turn in which no file is read, no node is. -/
theorem not_reads {turn : Turn} (hcat : turn.succeeded .cat = false) (node : NodeId) :
    ¬ turn.Reads node := by
  intro hreads
  rw [hreads.1] at hcat
  exact absurd hcat (by decide)

end Turn

namespace Session

variable {first session after : Session} {history : List Turn}

/-- **A scene that is true to its session.** -/
structure Staged (history : List Turn) (session : Session) : Prop where
  directory : session.scene.directory = some session.fs.cwd
  nodes : session.scene.objects.map SceneObject.node = session.fs.list
  visible : ∀ object ∈ session.scene.objects,
    object.visible = true ↔ ∃ turn ∈ Turn.sinceMove history, turn.succeeded .ls = true
  revealed : ∀ object ∈ session.scene.objects,
    object.revealed = true ↔ ∃ turn ∈ Turn.sinceMove history, turn.Reads object.node
  files : ∀ turn ∈ history, ∀ node, turn.Reads node → session.fs.forest.isDirectory node = false

/-! ## The start and the moves -/

/-- **A scene that was just set up is true** as long as there is no turn after the move. -/
theorem staged_stage (hscene : session.scene = Scene.stage session.fs.forest session.fs.cwd)
    (hsince : Turn.sinceMove history = [])
    (hfiles : ∀ turn ∈ history, ∀ node, turn.Reads node →
      session.fs.forest.isDirectory node = false) : session.Staged history := by
  refine ⟨by rw [hscene]; rfl, ?_, ?_, ?_, hfiles⟩
  · rw [hscene, Scene.stage, List.map_map]
    exact List.map_id _
  · intro object hobject
    rw [hscene] at hobject
    obtain ⟨node, -, rfl⟩ := List.mem_map.1 hobject
    rw [hsince]
    simp
  · intro object hobject
    rw [hscene] at hobject
    obtain ⟨node, -, rfl⟩ := List.mem_map.1 hobject
    rw [hsince]
    simp

/-- What was read is a file, also in one more turn. -/
theorem Staged.files_cons (h : session.Staged history) {turn : Turn}
    (hturn : ∀ node, turn.Reads node → session.fs.forest.isDirectory node = false) :
    ∀ other ∈ turn :: history, ∀ node, other.Reads node →
      session.fs.forest.isDirectory node = false := by
  intro other hother node hreads
  rcases List.mem_cons.1 hother with rfl | hother
  · exact hturn node hreads
  · exact h.files other hother node hreads

/-! ## Staying -/

/-- A true scene stays true if it stays the same, and so do the current directory and its children,
and no file becomes a directory. -/
theorem Staged.of_same (h : session.Staged history) (hscene : after.scene = session.scene)
    (hcwd : after.fs.cwd = session.fs.cwd) (hlist : after.fs.list = session.fs.list)
    (hkept : ∀ node, session.fs.forest.isDirectory node = false →
      after.fs.forest.isDirectory node = false) : after.Staged history := by
  refine ⟨?_, ?_, ?_, ?_, fun turn hturn node hreads => hkept node (h.files turn hturn node hreads)⟩
  · rw [hscene, hcwd]
    exact h.directory
  · rw [hscene, hlist]
    exact h.nodes
  · rw [hscene]
    exact h.visible
  · rw [hscene]
    exact h.revealed

/-- A turn in which nothing is moved to, listed or read marks nothing. -/
theorem Staged.turn (h : session.Staged history) {turn : Turn} (hcd : turn.succeeded .cd = false)
    (hls : turn.succeeded .ls = false) (hcat : turn.succeeded .cat = false) :
    session.Staged (turn :: history) := by
  have hreads := Turn.not_reads hcat
  refine ⟨h.directory, h.nodes, ?_, ?_, h.files_cons fun node hnode => absurd hnode (hreads node)⟩
  · intro object hobject
    rw [h.visible object hobject, Turn.sinceMove_of_stayed hcd]
    simp [hls]
  · intro object hobject
    rw [h.revealed object hobject, Turn.sinceMove_of_stayed hcd]
    simp [hreads]

/-! ## Looking -/

/-- **A listing makes all objects visible.** -/
theorem Staged.listed (h : session.Staged history) {turn : Turn}
    (hscene : after.scene = session.scene.uncover session.fs.list) (hfs : after.fs = session.fs)
    (hls : turn.succeeded .ls = true) (hcd : turn.succeeded .cd = false)
    (hcat : turn.succeeded .cat = false) : after.Staged (turn :: history) := by
  have hreads := Turn.not_reads hcat
  -- every object is listed, for the objects are the children of the current directory
  have hobjects : after.scene.objects
      = session.scene.objects.map fun object => { object with visible := true } := by
    rw [hscene, Scene.uncover, ← h.nodes]
    apply List.map_congr_left
    intro object hobject
    rw [if_pos (List.mem_map_of_mem hobject)]
  refine ⟨by rw [hscene, hfs]; exact h.directory, ?_, ?_, ?_, ?_⟩
  · rw [hobjects, hfs, List.map_map]
    exact h.nodes
  · intro object hobject
    rw [hobjects] at hobject
    obtain ⟨old, -, rfl⟩ := List.mem_map.1 hobject
    rw [Turn.sinceMove_of_stayed hcd]
    simp [hls]
  · intro object hobject
    rw [hobjects] at hobject
    obtain ⟨old, hold, rfl⟩ := List.mem_map.1 hobject
    rw [Turn.sinceMove_of_stayed hcd]
    simpa [hreads] using h.revealed old hold
  · rw [hfs]
    exact h.files_cons fun node hnode => absurd hnode (hreads node)

/-- **Reading a file reveals its object**, and no other. -/
theorem Staged.read (h : session.Staged history) {turn : Turn} {file : NodeId}
    (hscene : after.scene = session.scene.reveal file) (hfs : after.fs = session.fs)
    (hcat : turn.succeeded .cat = true) (htarget : turn.result.target = some file)
    (hfile : session.fs.forest.isDirectory file = false) (hcd : turn.succeeded .cd = false)
    (hls : turn.succeeded .ls = false) : after.Staged (turn :: history) := by
  have hreads : ∀ node, turn.Reads node ↔ node = file := by
    intro node
    rw [Turn.Reads, htarget, Option.some.injEq, and_iff_right hcat]
    exact eq_comm
  have hobjects : after.scene.objects = session.scene.objects.map fun object =>
      if object.node = file then { object with revealed := true } else object := by
    rw [hscene, Scene.reveal]
  -- an object keeps its node and whether it is visible
  have hsame : ∀ object : SceneObject,
      (if object.node = file then { object with revealed := true } else object).node = object.node
        ∧ (if object.node = file then { object with revealed := true } else object).visible
          = object.visible := by
    intro object
    split
    · exact ⟨rfl, rfl⟩
    · exact ⟨rfl, rfl⟩
  refine ⟨by rw [hscene, hfs]; exact h.directory, ?_, ?_, ?_, ?_⟩
  · rw [hobjects, hfs, List.map_map, ← h.nodes]
    apply List.map_congr_left
    intro object _
    exact (hsame object).1
  · intro object hobject
    rw [hobjects] at hobject
    obtain ⟨old, hold, rfl⟩ := List.mem_map.1 hobject
    rw [(hsame old).2, Turn.sinceMove_of_stayed hcd]
    simpa [hls] using h.visible old hold
  · intro object hobject
    rw [hobjects] at hobject
    obtain ⟨old, hold, rfl⟩ := List.mem_map.1 hobject
    rw [(hsame old).1, Turn.sinceMove_of_stayed hcd]
    by_cases hnode : old.node = file
    · simp [hnode, hreads]
    · simpa [hnode, hreads] using h.revealed old hold
  · rw [hfs]
    apply h.files_cons
    intro node hnode
    rw [(hreads node).1 hnode]
    exact hfile

/-! ## Whole histories -/

/-- **A command that succeeds leaves a true scene true.** -/
theorem Staged.success (h : session.Staged history) (hsound : session.fs.Sound) {command : Command}
    {arguments : List String} {result : Result} {fs : FileSystem}
    (hsucceeds : session.interpreter.Succeeds session.fs command arguments result fs)
    (hfs : after.fs = fs) (hscene : after.scene = session.scene.observe fs.forest result) :
    after.Staged (⟨session.fs, result⟩ :: history) := by
  have hcommand := hsucceeds.command
  have hturn := Turn.succeeded_iff_of_succeeds hsucceeds
  have hnot : ∀ {other : Command}, command ≠ other →
      Turn.succeeded ⟨session.fs, result⟩ other = false := Turn.not_succeeded_of_ne hsucceeds
  cases hsucceeds with
  | @cd path rest target hleads =>
    have hdirectory := hsound.isDirectory_destination hleads
    rw [Scene.observe_cd rfl rfl rfl hdirectory] at hscene
    have hmoved : Turn.succeeded ⟨session.fs, .success "cd" "" [] (some target)⟩ .cd = true :=
      (hturn .cd).2 rfl
    apply staged_stage
    · rw [hscene, hfs]
    · exact Turn.sinceMove_of_moved hmoved history
    · rw [hfs]
      exact h.files_cons fun node hnode => absurd hnode (Turn.not_reads (hnot (by decide)) node)
  | ls =>
    rw [Scene.observe_ls rfl rfl] at hscene
    exact h.listed hscene hfs ((hturn .ls).2 rfl) (hnot (by decide)) (hnot (by decide))
  | @cat name rest file hreads =>
    rw [Scene.observe_cat rfl rfl rfl] at hscene
    exact h.read hscene hfs ((hturn .cat).2 rfl) rfl (FileSystem.readFile_eq_ok_iff.1 hreads).2
      (hnot (by decide)) (hnot (by decide))
  | echo | pwd | find =>
    rw [Scene.observe_of_ne hcommand (by decide) (by decide) (by decide)] at hscene
    have hsame := h.of_same hscene (by rw [hfs]) (by rw [hfs]) fun node hnode => by rwa [hfs]
    exact hsame.turn (hnot (by decide)) (hnot (by decide)) (hnot (by decide))
  | @cp name destination copied _ hknown hcopy =>
    rw [Scene.observe_of_ne hcommand (by decide) (by decide) (by decide)] at hscene
    have hsame : after.Staged history := by
      -- the copy has changed nothing, or it lies in another directory
      obtain ⟨-, ⟨-, rfl⟩ | hcopies⟩ :=
        FileSystem.copyInto_ok hsound.forest (hsound.isDirectory_wellKnown hknown) hcopy
      · exact h.of_same hscene (by rw [hfs]) (by rw [hfs]) fun node hnode => by rwa [hfs]
      · apply h.of_same hscene
        · rw [hfs, hcopies.cwd]
        · rw [hfs, hcopies.list hsound.cwd]
        · intro node hnode
          rw [hfs, hcopies.isDirectory]
          exact hnode
    exact hsame.turn (hnot (by decide)) (hnot (by decide)) (hnot (by decide))

/-- **A line leaves a true scene true.** -/
theorem Staged.answer (h : session.Staged history) (hsound : session.fs.Sound) {result : Result}
    (hanswers : session.Answers result after) :
    after.Staged (⟨session.fs, result⟩ :: history) := by
  rcases hanswers.carried with ⟨hidle, hfs⟩ | ⟨command, arguments, hsucceeds⟩
  · have hscene : after.scene = session.scene := by
      rw [hanswers.scene, Scene.observe_of_isIdle _ _ hidle]
    have hsame := h.of_same hscene (by rw [hfs]) (by rw [hfs]) fun node hnode => by rwa [hfs]
    exact hsame.turn (Turn.succeeded_of_isIdle hidle _) (Turn.succeeded_of_isIdle hidle _)
      (Turn.succeeded_of_isIdle hidle _)
  · exact h.success hsound hsucceeds rfl hanswers.scene

/-- **The scene never drifts from the shell.** In every session that a world comes to, the stage is
the current directory, and the objects are its children, in order. They are all visible if there was
a listing since the last move, and else none is; and those are revealed that are files which were
read since. -/
theorem scene_never_drifts {world : World} {everythingOpen : Bool} {first session : Session}
    {events : List Event} {history : List Turn}
    (hstart : ofWorld world everythingOpen = .ok (first, events))
    (hruns : first.Runs history session) :
    session.scene.directory = some session.fs.cwd
      ∧ session.scene.objects.map SceneObject.node = session.fs.list
      ∧ ∀ object ∈ session.scene.objects,
        (object.visible = true ↔ ∃ turn ∈ Turn.sinceMove history, turn.succeeded .ls = true)
          ∧ (object.revealed = true
            ↔ session.fs.forest.isDirectory object.node = false
              ∧ ∃ turn ∈ Turn.sinceMove history,
                turn.succeeded .cat = true ∧ turn.result.target = some object.node) := by
  have hfirst := grown_of_ofWorld hstart
  have hbegin : first.Staged [] := by
    obtain ⟨fs, -, heq, -⟩ := ofWorld_eq_ok hstart
    rw [heq]
    exact staged_stage rfl rfl (by simp)
  obtain ⟨hstaged, -⟩ := hruns.rec_grown (P := fun history session => session.Staged history)
    hfirst hbegin
    (fun hgrown h hanswers => h.answer hgrown.fs.sound hanswers)
    (fun _ h _ => h.of_same rfl rfl rfl fun _ => id)
    (fun _ h _ => h.of_same rfl rfl rfl fun _ => id)
    (fun held _ h => h.of_same rfl rfl (FileSystem.list_reclaim _) fun node hnode => by
      rw [reclaim, FileSystem.reclaim, FileSystem.withForest, Forest.isDirectory_reclaim, hnode,
        Bool.and_false])
  refine ⟨hstaged.directory, hstaged.nodes, fun object hobject =>
    ⟨hstaged.visible object hobject, (hstaged.revealed object hobject).trans ?_⟩⟩
  constructor
  · rintro ⟨turn, hturn, hreads⟩
    have hmem : turn ∈ history := (List.takeWhile_sublist _).subset hturn
    exact ⟨hstaged.files turn hmem _ hreads, turn, hturn, hreads⟩
  · rintro ⟨-, turn, hturn, hreads⟩
    exact ⟨turn, hturn, hreads⟩

/-- A file that is read in a directory that was moved to, and then copied onto itself. -/
theorem scene_never_drifts_in_box :
    let world : World := ⟨"w", "w", [], [.file "note" "hello",
      .directory "box" "" [.file "key" "1234", .file "map" ""]], [("bin", "/box")],
      ["cat", "cd", "cp", "ls"], [], []⟩
    ∃ (first session : Session) (events : List Event) (history : List Turn),
      ofWorld world false = .ok (first, events) ∧ first.Runs history session
        ∧ session.scene = ⟨some 2, [⟨3, true, true⟩, ⟨4, true, false⟩]⟩
        ∧ session.scene.directory = some session.fs.cwd
        ∧ session.scene.objects.map SceneObject.node = session.fs.list
        ∧ ∀ object ∈ session.scene.objects,
          (object.visible = true ↔ ∃ turn ∈ Turn.sinceMove history, turn.succeeded .ls = true)
            ∧ (object.revealed = true
              ↔ session.fs.forest.isDirectory object.node = false
                ∧ ∃ turn ∈ Turn.sinceMove history,
                  turn.succeeded .cat = true ∧ turn.result.target = some object.node) := by
  intro world
  have hrun : (ofWorld world false).toOption.map (fun start =>
      (start.1.submitAll ["cat note", "cd box", "ls", "cat key", "cp key"]).2.scene)
        = some ⟨some 2, [⟨3, true, true⟩, ⟨4, true, false⟩]⟩ := by decide +kernel
  obtain ⟨start, hstart, hscene⟩ := Option.map_eq_some_iff.1 hrun
  have hof := ok_of_toOption hstart
  have hruns := start.1.runs_submitAll ["cat note", "cd box", "ls", "cat key", "cp key"]
  exact ⟨start.1, _, start.2, _, hof, hruns, hscene, scene_never_drifts hof hruns⟩

end Session

end StoryShell
