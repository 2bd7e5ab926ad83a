/-
A session: everything that belongs to one running shell.

A line is judged by the gate, carried out by the interpreter, and its result is published to the
observers: the console, the scene and the tracker, and whoever else was subscribed. The observers
are those subscribed when the publishing begins. One that fails is noted in the log, and the others
are served all the same.
-/
import StoryShell.Bus
import StoryShell.Story.Tracker
import StoryShell.View.Console
import StoryShell.View.Scene
import StoryShell.World.Build

set_option autoImplicit false

namespace StoryShell

/-- **An observer of results.** A guest is someone from outside, who only listens and may fail. -/
inductive Observer where
  | console
  | scene
  | tracker
  | guest (name : String) (fails : Bool)
deriving DecidableEq, Repr

/-- The name of an observer in the log. -/
def Observer.label : Observer → String
  | .console => "<console>"
  | .scene => "<scene>"
  | .tracker => "<tracker>"
  | .guest name _ => "<" ++ name ++ ">"

/-- **A session.** -/
structure Session where
  fs : FileSystem
  interpreter : Interpreter
  progress : Progress
  tracker : Tracker
  console : Console
  scene : Scene
  observers : List Observer

namespace Session

/-- The gate of a session. -/
def gate (session : Session) : Gate := session.progress.gate

/-- Lets go of the nodes that nothing keeps: neither the file system nor the scene nor the list of
nodes that are held besides. -/
def reclaim (session : Session) (held : List NodeId) : Session :=
  { session with fs := session.fs.reclaim (session.scene.nodes ++ held) }

/-! ## Publishing -/

/-- Takes over an advance of the story. -/
def advance (session : Session) (advance : Advance) : Session :=
  { session with progress := advance.progress }

/-- Shows a result to one observer. The events are those so far, in order. -/
def observe (result : Result) (observer : Observer) (state : Session × List Event) :
    Bus.Ending × (Session × List Event) :=
  let (session, events) := state
  match observer with
  | .console =>
    let (console, more) := session.console.observe result
    (.returned, { session with console }, events ++ more)
  | .scene =>
    let scene := session.scene.observe session.fs.forest result
    (.returned, { session with scene }, events)
  | .tracker =>
    let (_, advance) := session.tracker.handle session.progress session.fs.forest result
    (if advance.failure.isSome then .failed else .returned,
      session.advance advance, events ++ advance.events)
  | .guest _ fails => (if fails then .failed else .returned, session, events)

/-- Notes that an observer failed on a result. -/
def note (result : Result) (observer : Observer) (state : Session × List Event) :
    Session × List Event :=
  (state.1, state.2 ++ [.logged (Bus.failureRecord observer.label result.command)])

/-- **Publishes a result** to the observers. -/
def publish (session : Session) (result : Result) : Session × List Event :=
  (Bus.deliver (observe result) (note result) session.observers
    (session, [.published result])).2

/-! ## Lines -/

/-- Carries out a line without publishing its result. -/
def execute (session : Session) (raw : String) : Result × Session × List Event :=
  let execution := session.interpreter.execute session.fs session.scene.nodes raw
  (execution.result, { session with fs := execution.fs }, execution.records.map .logged)

/-- Carries out a line, past the gate, and publishes its result. -/
def direct (session : Session) (raw : String) : Result × Session × List Event :=
  let (result, session, events) := session.execute raw
  let (session, more) := session.publish result
  (result, session, events ++ more)

/-- **Submits a line.** A blank line has no result; any other has one, and it is published. -/
def submit (session : Session) (raw : String) : Option Result × Session × List Event :=
  match session.gate.verdict raw with
  | .blank => (none, session, [])
  | .refused result =>
    let (session, events) := session.publish result
    (some result, session, events)
  | .passed =>
    let (result, session, events) := session.direct raw
    (some result, session, events)

/-! ## The gate and the story -/

/-- Makes an edit of the gate, and says whether it changed it. -/
def editGate (session : Session) (edit : GateEdit) (text : String) :
    Bool × Session × List Event :=
  let (progress, events) := session.progress.edit edit text
  ((session.gate.edit edit text).1, { session with progress }, events)

/-- Makes the same edit of the gate for each of a list of texts. -/
def editGateAll (session : Session) (edit : GateEdit) (texts : List String) :
    Session × List Event :=
  let (progress, events) := Progress.editAll edit texts session.progress
  ({ session with progress }, events)

/-- Forces milestones one by one; ids that cannot be forced are passed over. -/
def forceAll : List String → Session → Session × List Event
  | [], session => (session, [])
  | id :: rest, session =>
    match session.tracker.force id session.progress with
    | .error _ => forceAll rest session
    | .ok (_, advance) =>
      let (session, events) := forceAll rest (session.advance advance)
      (session, advance.events ++ events)

/-! ## Starting -/

/-- Opens everything: all milestones are achieved, all commands allowed and all blocks lifted. -/
def unlockAll (session : Session) : Session × List Event :=
  let (session, first) := forceAll (session.tracker.milestones.map Milestone.id) session
  let (session, second) := session.editGateAll .allow (Command.all.map Command.name)
  let (session, third) := session.editGateAll .unblock session.gate.blocked.names
  (session, first ++ second ++ third)

/-- The session that a world starts with, on its file system. -/
def start (world : World) (fs : FileSystem) : Session where
  fs := fs
  interpreter := .sound
  progress := ⟨NameMap.empty, Gate.ofLists world.allowed world.blocked, some []⟩
  tracker := ⟨world.milestones, true, []⟩
  console := ⟨[], "", true⟩
  scene := Scene.stage fs.forest fs.cwd
  observers := [.console, .scene, .tracker]

/-- **Starts a session in a world**, with everything open if that is asked for. -/
def ofWorld (world : World) (everythingOpen : Bool) : Except LoadError (Session × List Event) :=
  world.build.map fun fs =>
    let session := start world fs
    if everythingOpen then session.unlockAll else (session, [])

end Session

end StoryShell
