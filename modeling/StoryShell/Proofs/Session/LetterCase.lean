/-
The whole shell ignores case.

Two sessions that are the same but for what their consoles have shown stay so when lines are
submitted to them that differ in case only, and the results agree in everything but what an echo or
an error shows (`submit_congr`). For the results agree before they are published, and no observer
but the console looks at what a result shows. By induction the same holds of any lines that are
submitted one after the other (`ignores_case`).
-/
import StoryShell.Proofs.Command.LetterCase
import StoryShell.Proofs.Session.History

set_option autoImplicit false

namespace StoryShell

/-! ## Observers -/

/-- The scene follows results that agree alike. -/
theorem Scene.observe_congr (scene : Scene) (forest : Forest) {result other : Result}
    (h : result.Agrees other) : scene.observe forest result = scene.observe forest other := by
  rw [observe, observe, h.isError, h.command, h.target, h.nodes]

/-- Results that agree trigger the same milestones. -/
theorem Milestone.isTriggeredBy_congr (milestone : Milestone) (forest : Forest)
    {result other : Result} (h : result.Agrees other) :
    milestone.isTriggeredBy forest result = milestone.isTriggeredBy forest other := by
  rw [isTriggeredBy, isTriggeredBy, Result.place, Result.place, h.isError, h.command, h.target]

/-- The tracker follows results that agree alike. -/
theorem Tracker.handle_congr (tracker : Tracker) (progress : Progress) (forest : Forest)
    {result other : Result} (h : result.Agrees other) :
    tracker.handle progress forest result = tracker.handle progress forest other := by
  simp only [handle, next?_eq, Milestone.isTriggeredBy_congr _ forest h]

/-- A console shows more and changes nothing else. -/
theorem Console.observe_keeps (console : Console) (result : Result) :
    ∃ transcript, (console.observe result).1 = { console with transcript } := by
  rcases console.observe_cases result with hsame | ⟨line, hmore⟩
  · exact ⟨console.transcript, hsame⟩
  · exact ⟨_, hmore⟩

namespace Session

/-- **Sessions that are the same** but for what their consoles have shown. -/
def SameButTranscript (session other : Session) : Prop :=
  ∃ transcript, other = { session with console := { session.console with transcript } }

theorem SameButTranscript.refl (session : Session) : session.SameButTranscript session :=
  ⟨session.console.transcript, rfl⟩

variable {session beside : Session}

/-- **Results that agree** are published alike in sessions that are the same but for what their
consoles have shown. -/
theorem publish_congr (h : session.SameButTranscript beside) {result other : Result}
    (hagrees : result.Agrees other) :
    (session.publish result).1.SameButTranscript (beside.publish other).1 := by
  have hobservers : beside.observers = session.observers := by
    obtain ⟨transcript, rfl⟩ := h
    rfl
  rw [publish, publish, hobservers]
  refine Bus.deliver_related (R := fun (state also : Session × List Event) =>
    state.1.SameButTranscript also.1) ?_ ?_ session.observers h
  · rintro observer ⟨state, events⟩ ⟨_, eventsAlso⟩ ⟨transcript, rfl⟩
    cases observer with
    | console =>
      obtain ⟨shown, hshown⟩ := state.console.observe_keeps result
      obtain ⟨shownAlso, hshownAlso⟩ :=
        Console.observe_keeps { state.console with transcript } other
      simp only [observe, hshown, hshownAlso]
      exact ⟨trivial, shownAlso, rfl⟩
    | scene =>
      simp only [observe, Scene.observe_congr _ _ hagrees]
      exact ⟨trivial, transcript, rfl⟩
    | tracker =>
      simp only [observe, Tracker.handle_congr _ _ _ hagrees]
      exact ⟨trivial, transcript, rfl⟩
    | guest name fails => exact ⟨rfl, transcript, rfl⟩
  · rintro observer state also hsame
    exact hsame

/-! ## Lines -/

/-- A line that is carried out and published. -/
theorem direct_of_execute {raw : String} {execution : Interpreter.Execution}
    (h : session.interpreter.execute session.fs session.scene.nodes raw = execution) :
    session.direct raw
      = (execution.result, ({ session with fs := execution.fs }.publish execution.result).1,
        execution.records.map Event.logged
          ++ ({ session with fs := execution.fs }.publish execution.result).2) := by
  rw [direct, execute, h]

/-- Lines that differ in case only are carried out alike, past the gate. -/
theorem direct_congr (h : session.SameButTranscript beside) {first second : String}
    (hwords : Text.SameWords first second) :
    (session.direct first).1.Agrees (beside.direct second).1
      ∧ (session.direct first).2.1.SameButTranscript (beside.direct second).2.1 := by
  obtain ⟨transcript, rfl⟩ := h
  obtain ⟨hagrees, hfs⟩ := session.interpreter.execute_congr session.fs session.scene.nodes hwords
  generalize hfirst : session.interpreter.execute session.fs session.scene.nodes first = execution
    at hagrees hfs
  generalize hsecond : session.interpreter.execute session.fs session.scene.nodes second = other
    at hagrees hfs
  have hbeside : (Session.mk session.fs session.interpreter session.progress session.tracker
      { session.console with transcript } session.scene session.observers).direct second = _ :=
    direct_of_execute hsecond
  rw [direct_of_execute hfirst, hbeside, hfs]
  exact ⟨hagrees, publish_congr ⟨transcript, rfl⟩ hagrees⟩

/-- **A line is submitted as another one** that differs from it in case only: the results agree, if
the lines have any, and the sessions are the same but for what their consoles have shown. -/
theorem submit_congr (h : session.SameButTranscript beside) {first second : String}
    (hwords : Text.SameWords first second) :
    Option.Rel Result.Agrees (session.submit first).1 (beside.submit second).1
      ∧ (session.submit first).2.1.SameButTranscript (beside.submit second).2.1 := by
  have hgate : beside.gate = session.gate := by
    obtain ⟨transcript, rfl⟩ := h
    rfl
  have hverdict := session.gate.verdict_congr hwords
  rw [submit, submit, hgate]
  generalize session.gate.verdict first = verdict at hverdict ⊢
  generalize session.gate.verdict second = other at hverdict ⊢
  cases hverdict with
  | blank => exact ⟨.none, h⟩
  | refused agrees => exact ⟨.some agrees, publish_congr h agrees⟩
  | passed =>
    have hdirect := direct_congr h hwords
    generalize session.direct first = answer at hdirect ⊢
    generalize beside.direct second = answerBeside at hdirect ⊢
    exact ⟨.some hdirect.1, hdirect.2⟩

/-- Turns that agree: the same file system was found, and the results agree. -/
structure TurnsAgree (turn other : Turn) : Prop where
  fs : turn.fs = other.fs
  result : turn.result.Agrees other.result

/-- Outcomes that agree are turns that agree, or none. -/
theorem turnsAgree_of_outcome {outcome other : Option Result}
    (h : Option.Rel Result.Agrees outcome other) (fs : FileSystem) :
    List.Forall₂ TurnsAgree (outcome.toList.map (⟨fs, ·⟩)) (other.toList.map (⟨fs, ·⟩)) := by
  cases h with
  | none => exact .nil
  | some hagrees => exact .cons ⟨rfl, hagrees⟩ .nil

/-- Histories that agree, with sessions that are the same but for what was shown. -/
structure HistoriesAgree (state also : List Turn × Session) : Prop where
  turns : List.Forall₂ TurnsAgree state.1 also.1
  session : state.2.SameButTranscript also.2

/-- **One line more** keeps histories in agreement. -/
theorem HistoriesAgree.submitNext {state also : List Turn × Session} (h : HistoriesAgree state also)
    {raw other : String} (hwords : Text.SameWords raw other) :
    HistoriesAgree (submitNext state raw) (submitNext also other) := by
  obtain ⟨houtcome, hafter⟩ := submit_congr h.session hwords
  have hfs : also.2.fs = state.2.fs := by
    obtain ⟨transcript, htranscript⟩ := h.session
    rw [htranscript]
  rw [Session.submitNext, Session.submitNext, hfs]
  generalize state.2.submit raw = answer at houtcome hafter ⊢
  generalize also.2.submit other = answerAlso at houtcome hafter ⊢
  exact ⟨List.rel_append (turnsAgree_of_outcome houtcome state.2.fs) h.turns, hafter⟩

/-- **The whole shell ignores case.** A line is answered as another one that differs in case only:
neither has a result, or both have results that agree, and the sessions that are left are the same
but for what their consoles have shown. The same holds of lines that are submitted one after the
other and differ in case only, one by one; in every turn the same file system was found. -/
theorem ignores_case (session : Session) :
    (∀ first second, Text.SameWords first second →
      Option.Rel Result.Agrees (session.submit first).1 (session.submit second).1
        ∧ (session.submit first).2.1.SameButTranscript (session.submit second).2.1)
      ∧ ∀ raws others, List.Forall₂ Text.SameWords raws others →
        HistoriesAgree (session.submitAll raws) (session.submitAll others) := by
  refine ⟨fun first second hwords => submit_congr (.refl session) hwords,
    fun raws others hlines => ?_⟩
  rw [submitAll, submitAll]
  exact List.rel_foldl (fun state also hsame raw other hwords => hsame.submitNext hwords)
    ⟨.nil, .refl session⟩ hlines

/-- A directory whose name ends in a sigma, entered by two spellings with slashes behind them. -/
theorem ignores_case_of_final_sigma :
    let world : World :=
      ⟨"w", "w", [], [.directory "ΟΔΟΣ" "" [.file "Note" "hello"]], [], ["cd", "cat"], [], []⟩
    ∃ (session : Session) (events : List Event),
      ofWorld world false = .ok (session, events)
        ∧ (session.submit "cd ΟΔΟΣ//").1.map Result.isError = some false
        ∧ Text.SameWords "cd ΟΔΟΣ//" "CD οδος//"
        ∧ Option.Rel Result.Agrees (session.submit "cd ΟΔΟΣ//").1 (session.submit "CD οδος//").1
        ∧ List.Forall₂ Text.SameWords ["cd ΟΔΟΣ//", "cat note"] ["CD οδος//", "Cat NOTE"]
        ∧ HistoriesAgree (session.submitAll ["cd ΟΔΟΣ//", "cat note"])
          (session.submitAll ["CD οδος//", "Cat NOTE"]) := by
  intro world
  have hrun : (ofWorld world false).toOption.map (fun start =>
      (start.1.submit "cd ΟΔΟΣ//").1.map Result.isError) = some (some false) := by decide +kernel
  obtain ⟨start, hstart, hrun⟩ := Option.map_eq_some_iff.1 hrun
  have hwords : Text.SameWords "cd ΟΔΟΣ//" "CD οδος//" := by decide +kernel
  have hlines : List.Forall₂ Text.SameWords ["cd ΟΔΟΣ//", "cat note"] ["CD οδος//", "Cat NOTE"] :=
    .cons hwords (.cons (by decide +kernel) .nil)
  exact ⟨start.1, start.2, ok_of_toOption hstart, hrun, hwords,
    ((ignores_case start.1).1 _ _ hwords).1, hlines, (ignores_case start.1).2 _ _ hlines⟩

end Session

end StoryShell
