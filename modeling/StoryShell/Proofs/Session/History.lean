/-
The history of a session: the lines that were carried out, latest first.

A line is submitted, or it is carried out directly, past the gate. What it comes to is the same in
both cases as far as the file system, the scene and the story go (`Answers`): it is idle, that is
blank or an error, or a command succeeds. In between milestones may be forced, narrative may be
told and nodes may be let go, which adds nothing to the history (`Runs`). So what holds of a session
and its history has to be shown for these four things only (`Runs.rec_grown`).
-/
import StoryShell.Proofs.Gate.Verdict
import StoryShell.Proofs.Session.Announcements
import StoryShell.Proofs.Session.Lines

set_option autoImplicit false

namespace StoryShell

/-- **An idle result**: nothing was carried out that could have changed or shown anything. -/
def Result.IsIdle (result : Result) : Prop := result.isError = true ∨ result = .blank

/-- The scene ignores what is idle. -/
theorem Scene.observe_of_isIdle (scene : Scene) (forest : Forest) {result : Result}
    (h : result.IsIdle) : scene.observe forest result = scene := by
  rw [Scene.observe]
  rcases h with herror | rfl
  · rw [if_pos herror]
  · rfl

/-- **A turn of a session**: the file system that a line found, and its result. -/
structure Turn where
  fs : FileSystem
  result : Result

/-- Whether a command succeeded in a turn. -/
def Turn.succeeded (turn : Turn) (command : Command) : Bool :=
  !turn.result.isError && turn.result.command == command.name

/-- In an idle turn no command succeeded. -/
theorem Turn.succeeded_of_isIdle {fs : FileSystem} {result : Result} (h : result.IsIdle)
    (command : Command) : Turn.succeeded ⟨fs, result⟩ command = false := by
  rcases h with herror | rfl
  · simp [succeeded, herror]
  · cases command <;> rfl

/-- The name of a command is its own. -/
theorem Command.name_injective {first second : Command} (h : first.name = second.name) :
    first = second := by
  cases first <;> cases second <;> first | rfl | exact absurd h (by decide)

/-- The command that succeeds in a turn is the only one. -/
theorem Turn.succeeded_iff_of_succeeds {interpreter : Interpreter} {fs after : FileSystem}
    {command : Command} {arguments : List String} {result : Result}
    (h : interpreter.Succeeds fs command arguments result after) (other : Command) :
    Turn.succeeded ⟨fs, result⟩ other = true ↔ command = other := by
  simp only [succeeded, h.isError, h.command, Bool.not_false, Bool.true_and, beq_iff_eq]
  exact ⟨Command.name_injective, congrArg Command.name⟩

/-- So no other command succeeds in the turn. -/
theorem Turn.not_succeeded_of_ne {interpreter : Interpreter} {fs after : FileSystem}
    {command other : Command} {arguments : List String} {result : Result}
    (h : interpreter.Succeeds fs command arguments result after) (hne : command ≠ other) :
    Turn.succeeded ⟨fs, result⟩ other = false :=
  Bool.eq_false_iff.2 (mt (succeeded_iff_of_succeeds h other).1 hne)

namespace Session

variable {ok : String → Prop} {first session after : Session} {history : List Turn}

/-! ## What a line comes to -/

/-- **What a line with a result comes to**: it is idle and leaves the file system as it was, or it
is a command that succeeds. The scene follows the result, and the story advances. -/
structure Answers (session : Session) (result : Result) (after : Session) : Prop where
  carried : (result.IsIdle ∧ after.fs = session.fs)
    ∨ ∃ command arguments, session.interpreter.Succeeds session.fs command arguments result after.fs
  scene : after.scene = session.scene.observe after.fs.forest result
  interpreter : after.interpreter = session.interpreter
  tracker : after.tracker = session.tracker
  observers : after.observers = session.observers
  advances : ∃ ids, session.tracker.Advances session.progress ids after.progress

/-- Publishing shows the result to the scene once. -/
theorem scene_publish (session : Session)
    (hobservers : session.observers = [.console, .scene, .tracker]) (result : Result) :
    (session.publish result).1.scene = session.scene.observe session.fs.forest result := by
  rw [publish_of_observers result hobservers]

/-- **What is carried out and published** is answered. -/
theorem answers_publish (hobservers : session.observers = [.console, .scene, .tracker])
    (fs : FileSystem) {result : Result}
    (hcarried : (result.IsIdle ∧ fs = session.fs)
      ∨ ∃ command arguments, session.interpreter.Succeeds session.fs command arguments result fs) :
    session.Answers result ({ session with fs }.publish result).1 := by
  have hfixed := publish_fixed { session with fs } result
  refine ⟨?_, ?_, hfixed.2.1, hfixed.2.2.1, hfixed.2.2.2, _,
    advances_publish { session with fs } result⟩
  · rw [hfixed.1]
    exact hcarried
  · rw [hfixed.1]
    exact scene_publish { session with fs } hobservers result

/-- What carrying out a line comes to. -/
theorem carried_execute (hsound : session.fs.Sound) {raw : String}
    {execution : Interpreter.Execution}
    (h : session.interpreter.execute session.fs session.scene.nodes raw = execution) :
    (execution.result.IsIdle ∧ execution.fs = session.fs)
      ∨ ∃ command arguments,
        session.interpreter.Succeeds session.fs command arguments execution.result
          execution.fs := by
  rw [← h]
  rcases session.interpreter.execute_cases hsound session.scene.nodes raw with
    ⟨hblank, hsame⟩ | ⟨hfails, hsame⟩ | ⟨command, -, hsucceeds⟩
  · exact .inl ⟨.inr hblank, hsame⟩
  · exact .inl ⟨.inl hfails.isError, hsame⟩
  · exact .inr ⟨command, _, hsucceeds⟩

/-- **A line that is submitted and has a result** is answered. -/
theorem answers_submit (hgrown : session.Grown ok) {raw : String} {result : Result}
    {events : List Event} (h : session.submit raw = (some result, after, events)) :
    session.Answers result after := by
  rcases submit_cases h with ⟨hverdict, rfl⟩ | ⟨-, execution, hexecution, rfl, rfl⟩
  · -- what the gate refuses is an error, and it is published as such
    exact answers_publish hgrown.observers session.fs
      (.inl ⟨.inl (Gate.isError_of_refused hverdict), rfl⟩)
  · exact answers_publish hgrown.observers _ (carried_execute hgrown.fs.sound hexecution)

/-- **A line that is carried out directly** is answered. -/
theorem answers_direct (hgrown : session.Grown ok) (raw : String) :
    session.Answers (session.direct raw).1 (session.direct raw).2.1 := by
  simp only [direct, execute]
  exact answers_publish hgrown.observers _ (carried_execute hgrown.fs.sound rfl)

/-- An answer keeps what every session has. -/
theorem Answers.grown {result : Result} (h : session.Answers result after)
    (hgrown : session.Grown ok) : after.Grown ok := by
  refine ⟨?_, h.observers.trans hgrown.observers⟩
  rcases h.carried with ⟨-, hsame⟩ | ⟨command, arguments, hsucceeds⟩
  · rw [hsame]
    exact hgrown.fs
  · exact hsucceeds.grown hgrown.fs

/-! ## Histories -/

/-- **A session that another one comes to, with the turns on the way.** -/
inductive Runs (first : Session) : List Turn → Session → Prop where
  | start : first.Runs [] first
  | line {history : List Turn} {session : Session} (earlier : first.Runs history session)
    (raw : String) :
    first.Runs ((session.submit raw).1.toList.map (⟨session.fs, ·⟩) ++ history)
      (session.submit raw).2.1
  | direct {history : List Turn} {session : Session} (earlier : first.Runs history session)
    (raw : String) :
    first.Runs (⟨session.fs, (session.direct raw).1⟩ :: history) (session.direct raw).2.1
  | force {history : List Turn} {session : Session} (earlier : first.Runs history session)
    {id : String} {ids : List String} {advance : Advance}
    (forces : session.tracker.force id session.progress = .ok (ids, advance)) :
    first.Runs history (session.advance advance)
  | tell {history : List Turn} {session : Session} (earlier : first.Runs history session)
    {limit : Option Nat} {told : List NarrativeEntry} {progress : Progress}
    (drains : session.progress.drain limit = some (told, progress)) :
    first.Runs history { session with progress }
  | collect {history : List Turn} {session : Session} (earlier : first.Runs history session)
    (held : List NodeId) : first.Runs history (session.reclaim held)

/-- **A session that lines lead to** has a history. -/
theorem Reaches.runs (h : first.Reaches session) : ∃ history, first.Runs history session := by
  induction h with
  | start => exact ⟨[], .start⟩
  | line earlier raw ih =>
    obtain ⟨history, hruns⟩ := ih
    exact ⟨_, hruns.line raw⟩
  | tell earlier drains ih =>
    obtain ⟨history, hruns⟩ := ih
    exact ⟨history, hruns.tell drains⟩
  | collect earlier held ih =>
    obtain ⟨history, hruns⟩ := ih
    exact ⟨history, hruns.collect held⟩

/-- Turns so far with a session, after one line more. -/
def submitNext (state : List Turn × Session) (raw : String) : List Turn × Session :=
  ((state.2.submit raw).1.toList.map (⟨state.2.fs, ·⟩) ++ state.1, (state.2.submit raw).2.1)

/-- **Submits lines one after the other**: the turns, latest first, and the session that is left. -/
def submitAll (session : Session) (raws : List String) : List Turn × Session :=
  raws.foldl submitNext ([], session)

theorem session_submitAll_nil (session : Session) : (session.submitAll []).2 = session := rfl

/-- **The session that lines leave**: the turns so far have no part in it. -/
theorem session_submitAll (session : Session) (raws : List String) :
    (session.submitAll raws).2
      = raws.foldl (fun session raw => (session.submit raw).2.1) session := by
  have hfold : ∀ state : List Turn × Session, (raws.foldl submitNext state).2
      = raws.foldl (fun session raw => (session.submit raw).2.1) state.2 := by
    induction raws with
    | nil => exact fun _ => rfl
    | cons raw rest ih =>
      intro state
      rw [List.foldl_cons, List.foldl_cons, ih, submitNext]
  rw [submitAll, hfold]

/-- The session that lines leave is the one that the lines after the first leave of what this
leaves. -/
theorem session_submitAll_cons (session : Session) (raw : String) (rest : List String) :
    (session.submitAll (raw :: rest)).2 = ((session.submit raw).2.1.submitAll rest).2 := by
  rw [session_submitAll, session_submitAll, List.foldl_cons]

/-- What lines leave is left by the later ones of what the earlier ones leave. -/
theorem session_submitAll_append (session : Session) (raws more : List String) :
    (session.submitAll (raws ++ more)).2 = ((session.submitAll raws).2.submitAll more).2 := by
  rw [session_submitAll, session_submitAll, session_submitAll, List.foldl_append]

/-- **Lines that are submitted one after the other** are a history. -/
theorem runs_submitAll (first : Session) (raws : List String) :
    first.Runs (first.submitAll raws).1 (first.submitAll raws).2 := by
  rw [submitAll]
  refine List.foldlRecOn raws _
    (motive := fun state : List Turn × Session => first.Runs state.1 state.2) .start ?_
  intro state hstate raw _
  dsimp only [submitNext]
  exact hstate.line raw

/-- Lines that are submitted one after the other lead to a session. -/
theorem reaches_submitAll (first : Session) (raws : List String) :
    first.Reaches (first.submitAll raws).2 := by
  rw [submitAll]
  refine List.foldlRecOn raws _
    (motive := fun state : List Turn × Session => first.Reaches state.2) .start ?_
  intro state hstate raw _
  dsimp only [submitNext]
  exact hstate.line raw

/-- **What holds of a session and its history**: it has to hold at the start, and to be kept by
answers, by forcing, by telling and by letting nodes go. All along the session is grown. -/
theorem Runs.rec_grown {P : List Turn → Session → Prop} (h : first.Runs history session)
    (hfirst : first.Grown ok) (start : P [] first)
    (answer : ∀ {history session after result}, session.Grown ok → P history session →
      session.Answers result after → P (⟨session.fs, result⟩ :: history) after)
    (force : ∀ {history session id ids advance}, session.Grown ok → P history session →
      session.tracker.force id session.progress = .ok (ids, advance) →
        P history (session.advance advance))
    (tell : ∀ {history session limit told progress}, session.Grown ok → P history session →
      session.progress.drain limit = some (told, progress) → P history { session with progress })
    (collect : ∀ {history session} held, session.Grown ok → P history session →
      P history (session.reclaim held)) : P history session ∧ session.Grown ok := by
  induction h with
  | start => exact ⟨start, hfirst⟩
  | @line history session earlier raw ih =>
    rcases hsubmit : session.submit raw with ⟨outcome, after, events⟩
    cases outcome with
    | none =>
      -- a blank line is no turn
      rw [submit_of_blank hsubmit]
      exact ih
    | some result =>
      have hanswers := answers_submit ih.2 hsubmit
      exact ⟨answer ih.2 ih.1 hanswers, hanswers.grown ih.2⟩
  | @direct history session earlier raw ih =>
    have hanswers := answers_direct ih.2 raw
    exact ⟨answer ih.2 ih.1 hanswers, hanswers.grown ih.2⟩
  | force earlier forces ih => exact ⟨force ih.2 ih.1 forces, ih.2.fs, ih.2.observers⟩
  | tell earlier drains ih => exact ⟨tell ih.2 ih.1 drains, ih.2.fs, ih.2.observers⟩
  | collect earlier held ih => exact ⟨collect held ih.2 ih.1, ih.2.fs.reclaim _, ih.2.observers⟩

/-- Whatever is done, every session has what it had at its start. -/
theorem Runs.grown (h : first.Runs history session) (hfirst : first.Grown ok) : session.Grown ok :=
  (h.rec_grown (P := fun _ _ => True) hfirst trivial (fun _ _ _ => trivial) (fun _ _ _ => trivial)
    (fun _ _ _ => trivial) (fun _ _ _ => trivial)).2

end Session

end StoryShell
