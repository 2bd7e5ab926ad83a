/-
One line, one result, whatever fails.

The calls of the tree may throw anything (`TreeCalls`), and so may the observers, who may moreover
do with the session as they like (`Session.Watch`). Submitting a line and carrying it out directly
are written here for any such tree and any such observers, with everything that nobody catches left
to escape: what the taking of the first word throws, what comes out of the interpreter, and what
ends the delivery of a result. Nothing of this happens (`one_line_one_result`). A line without words
has no result, any other has one, and it is what the shell itself publishes, once.

The running session is the case of its own tree and its own observers (`submit_eq`, `direct_eq`),
and these publish nothing besides.
-/
import StoryShell.Proofs.Command.Faults
import StoryShell.Proofs.Gate.Verdict
import StoryShell.Proofs.Session.Publishing
import StoryShell.Proofs.Story.Advances

set_option autoImplicit false

namespace StoryShell

namespace Session

/-! ## Observers that may throw -/

/-- **What an observer does with a result**: what it throws, if anything, the session that it
leaves, and what it does outwardly. -/
abbrev Watch := Result → Observer → Session → Option Thrown × Session × List Event

/-- Calls an observer. The events are those of the observers so far. -/
def watched (watch : Watch) (result : Result) (observer : Observer)
    (state : Session × List Event) : Bus.Ending × (Session × List Event) :=
  let (thrown, session, events) := watch result observer state.1
  (if thrown.isSome then .failed else .returned, session, state.2 ++ events)

/-- **A publication**: the session that the observers leave, what the shell itself did, and what the
observers did. -/
structure Publication where
  session : Session
  done : List Event
  echoed : List Event

/-- **Publishes a result** to observers that may throw. What keeps the bus from calling all of them
would escape. -/
def publishAmong (watch : Watch) (session : Session) (result : Result) :
    Except Thrown Publication :=
  let (complete, after, echoed) :=
    Bus.deliver (watched watch result) (note result) session.observers (session, [])
  if complete then .ok ⟨after, [.published result], echoed⟩ else .error .unforeseen

/-! ## Lines -/

/-- **What comes of a line**: its result, if it has one, the session that is left, what the shell
itself did, and what the observers did. -/
structure Answer where
  outcome : Option Result
  session : Session
  done : List Event
  echoed : List Event

/-- The results that the shell itself publishes. -/
def Answer.published (answer : Answer) : List Result := answer.done.filterMap Event.result?

/-- Carries out a line, past the gate, on any tree and among any observers. -/
def directAmong (tree : TreeCalls) (watch : Watch) (session : Session) (raw : String) :
    Except Thrown Answer :=
  match (tree.execute session.interpreter.copyRole raw).run.run ⟨session.fs, []⟩ with
  | (.error thrown, _) => .error thrown
  | (.ok result, desk) => do
    let publication ← { session with fs := desk.fs }.publishAmong watch result
    return ⟨some result, publication.session, desk.records.map Event.logged ++ publication.done,
      publication.echoed⟩

/-- **Submits a line** on any tree and among any observers. The first word is taken of every line
that the gate does not find blank. -/
def submitAmong (tree : TreeCalls) (watch : Watch) (session : Session) (raw : String) :
    Except Thrown Answer :=
  match session.gate.verdict raw with
  | .blank => .ok ⟨none, session, [], []⟩
  | .refused result => do
    let _ ← firstWord raw
    let publication ← session.publishAmong watch result
    return ⟨some result, publication.session, publication.done, publication.echoed⟩
  | .passed => do
    let _ ← firstWord raw
    session.directAmong tree watch raw

/-! ## What comes of a line -/

variable {session : Session} {watch : Watch}

/-- What observers do does not keep the bus from going on: the result is published, once. -/
theorem publishAmong_eq (watch : Watch) (session : Session) (result : Result) :
    session.publishAmong watch result = .ok
      ⟨(Bus.deliver (watched watch result) (note result) session.observers (session, [])).2.1,
        [.published result],
        (Bus.deliver (watched watch result) (note result) session.observers
          (session, [])).2.2⟩ := by
  have hcall : ∀ observer state, (watched watch result observer state).1 ≠ .interrupted := by
    intro observer state
    simp only [watched]
    split <;> simp
  have hcomplete : (Bus.deliver (watched watch result) (note result) session.observers
      (session, [])).1 = true := Bus.deliver_completes hcall _ _
  rw [publishAmong]
  simp only [hcomplete, if_true]

/-- **What comes of a line that is answered**: a result in the name of its command, which is all
that the shell itself publishes. -/
structure Answer.Publishes (answer : Answer) (result : Result) (raw : String) : Prop where
  outcome : answer.outcome = some result
  published : answer.published = [result]
  inNameOf : result.InNameOf (Line.parse raw).command

/-- A line that is carried out directly is answered, whatever fails. -/
theorem directAmong_publishes (tree : TreeCalls) (watch : Watch) (session : Session)
    (raw : String) :
    ∃ answer result, session.directAmong tree watch raw = .ok answer
      ∧ answer.Publishes result raw := by
  obtain ⟨result, desk, hrun, hname⟩ :=
    tree.settles_execute session.interpreter.copyRole raw ⟨session.fs, []⟩
  simp only [directAmong, hrun, publishAmong_eq, bind, Except.bind]
  refine ⟨_, result, rfl, rfl, ?_, hname⟩
  -- log records publish nothing
  simp [Answer.published, Event.result?]

/-- A line that is submitted is answered, whatever fails; without words it has no result. -/
theorem submitAmong_ok (tree : TreeCalls) (watch : Watch) (session : Session) (raw : String) :
    ∃ answer, session.submitAmong tree watch raw = .ok answer
      ∧ (Text.words raw = [] ∧ answer.outcome = none ∧ answer.published = []
        ∨ Text.words raw ≠ [] ∧ ∃ result, answer.Publishes result raw) := by
  by_cases hblank : Text.words raw = []
  · refine ⟨⟨none, session, [], []⟩, ?_, .inl ⟨hblank, rfl, rfl⟩⟩
    rw [submitAmong, Gate.verdict_eq_blank_iff.2 hblank]
  · simp only [submitAmong, TreeCalls.firstWord_eq hblank, publishAmong_eq, bind, Except.bind]
    cases hverdict : session.gate.verdict raw with
    | blank => exact absurd (Gate.verdict_eq_blank_iff.1 hverdict) hblank
    | refused result =>
      obtain ⟨kind, message, -, hresult⟩ := Gate.eq_failure_of_refused hverdict
      refine ⟨_, rfl, .inr ⟨hblank, result, rfl, rfl, ?_⟩⟩
      rw [hresult]
      exact Result.inNameOf_failure _ _ _ _
    | passed =>
      obtain ⟨answer, result, hanswer, hpublishes⟩ := directAmong_publishes tree watch session raw
      exact ⟨answer, hanswer, .inr ⟨hblank, result, hpublishes⟩⟩

/-! ## The running session -/

/-- What the observers of a running session do. -/
def ownWatch : Watch := fun result observer session =>
  let (ending, after, events) := observe result observer (session, [])
  (if ending = .returned then none else some .unforeseen, after, events)

/-- What happened, with what happened before it. -/
def preceded (before : List Event) (state : Session × List Event) : Session × List Event :=
  (state.1, before ++ state.2)

/-- **An observer of a running session** does what it does whatever happened before. -/
theorem observe_preceded (result : Result) (observer : Observer) (before : List Event)
    (state : Session × List Event) :
    observe result observer (preceded before state)
      = ((watched ownWatch result observer state).1,
        preceded before (watched ownWatch result observer state).2) := by
  obtain ⟨session, echoed⟩ := state
  cases observer with
  | console => simp [preceded, observe, watched, ownWatch]
  | scene => simp [preceded, observe, watched, ownWatch]
  | tracker =>
    by_cases hfails :
        (session.tracker.handle session.progress session.fs.forest result).2.failure.isSome = true
    · simp [preceded, observe, watched, ownWatch, hfails]
    · simp [preceded, observe, watched, ownWatch, hfails]
  | guest name fails => cases fails <;> simp [preceded, observe, watched, ownWatch]

/-- **Publishing in a running session** is publishing among its own observers. -/
theorem publish_eq {session : Session} {result : Result} {publication : Publication}
    (h : session.publishAmong ownWatch result = .ok publication) :
    session.publish result
      = (publication.session, publication.done ++ publication.echoed) := by
  rw [publishAmong_eq, Except.ok.injEq] at h
  -- all along there is one event more, the publishing itself
  have hcall : ∀ observer state beside, state = preceded [.published result] beside →
      (observe result observer state).1 = (watched ownWatch result observer beside).1
        ∧ (observe result observer state).2
          = preceded [.published result] (watched ownWatch result observer beside).2 := by
    rintro observer _ beside rfl
    rw [observe_preceded]
    exact ⟨rfl, rfl⟩
  have hnote : ∀ observer state beside, state = preceded [.published result] beside →
      note result observer state = preceded [.published result] (note result observer beside) := by
    rintro observer _ beside rfl
    rfl
  have hstart : (session, [.published result]) = preceded [.published result] (session, []) := rfl
  rw [publish, Bus.deliver_related hcall hnote session.observers hstart, ← h]
  rfl

/-- **The running session carries a line out** as it is carried out on its own tree and among its
own observers. -/
theorem direct_eq {session : Session} {raw : String} {answer : Answer}
    (h : session.directAmong (session.interpreter.calls session.scene.nodes) ownWatch raw
      = .ok answer) :
    (some (session.direct raw).1, (session.direct raw).2)
      = (answer.outcome, answer.session, answer.done ++ answer.echoed) := by
  rw [directAmong, Interpreter.execute_calls] at h
  generalize hexecution : session.interpreter.execute session.fs session.scene.nodes raw
    = execution at h
  rcases hpublish : { session with fs := execution.fs }.publishAmong ownWatch execution.result with
    thrown | publication
  · simp [hpublish, bind, Except.bind] at h
  · simp only [hpublish, bind, Except.bind, pure, Except.pure, Except.ok.injEq] at h
    simp only [direct, execute, hexecution, publish_eq hpublish, ← h]
    simp

/-- **The running session submits a line** as it is submitted on its own tree and among its own
observers. -/
theorem submit_eq {session : Session} {raw : String} {answer : Answer}
    (h : session.submitAmong (session.interpreter.calls session.scene.nodes) ownWatch raw
      = .ok answer) :
    session.submit raw = (answer.outcome, answer.session, answer.done ++ answer.echoed) := by
  by_cases hblank : Text.words raw = []
  · simp only [submitAmong, Gate.verdict_eq_blank_iff.2 hblank, Except.ok.injEq] at h
    rw [submit, Gate.verdict_eq_blank_iff.2 hblank, ← h]
    rfl
  · simp only [submitAmong, TreeCalls.firstWord_eq hblank, bind, Except.bind] at h
    cases hverdict : session.gate.verdict raw with
    | blank => exact absurd (Gate.verdict_eq_blank_iff.1 hverdict) hblank
    | refused result =>
      rcases hpublish : session.publishAmong ownWatch result with thrown | publication
      · simp [hverdict, hpublish] at h
      · simp only [hverdict, hpublish, pure, Except.pure, Except.ok.injEq] at h
        simp [submit, hverdict, publish_eq hpublish, ← h]
    | passed =>
      simp only [hverdict] at h
      rw [submit, hverdict, ← direct_eq h]

/-- A tracker publishes nothing. -/
theorem published_handle (tracker : Tracker) (progress : Progress) (forest : Forest)
    (result : Result) :
    (tracker.handle progress forest result).2.events.filterMap Event.result? = [] := by
  rw [Tracker.handle]
  cases tracker.next? progress forest result with
  | none => rfl
  | some milestone =>
    refine List.filterMap_eq_nil_iff.2 fun event hevent => ?_
    rcases Tracker.mem_events_reach hevent with rfl | ⟨listener, rfl⟩ | ⟨record, rfl⟩
    · rfl
    · rfl
    · rfl

/-- **The observers of a running session publish nothing** of their own. -/
theorem published_publish (session : Session) (result : Result) :
    (session.publish result).2.filterMap Event.result? = [result] := by
  refine session.publish_preserves result (P := fun _ events =>
    events.filterMap Event.result? = [result]) ?_ ?_ ?_ rfl
  · intro progress events text h
    rw [List.filterMap_append, h]
    rfl
  · intro progress events record h
    rw [List.filterMap_append, h]
    rfl
  · intro progress events h
    rw [List.filterMap_append, h, published_handle, List.append_nil]

/-- What a running session publishes when it carries a line out. -/
theorem published_direct (session : Session) (raw : String) :
    (session.direct raw).2.2.filterMap Event.result? = [(session.direct raw).1] := by
  simp only [direct, execute, List.filterMap_append, published_publish, List.filterMap_map]
  -- log records publish nothing
  simp [Function.comp_def, Event.result?]

/-- What a running session publishes when a line is submitted. -/
theorem published_submit (session : Session) (raw : String) :
    (session.submit raw).2.2.filterMap Event.result? = (session.submit raw).1.toList := by
  rw [submit]
  cases session.gate.verdict raw with
  | blank => rfl
  | refused result => exact session.published_publish result
  | passed => exact session.published_direct raw

/-- **One line, one result.** Whatever the calls of the tree and the observers throw or do, nothing
escapes from a line. Submitting a line without words comes to no result and publishes nothing; any
other line has a result in the name of its command, which is all that the shell publishes, and so
has every line that is carried out directly. The running session is the case of its own tree and its
own observers, who publish nothing. -/
theorem one_line_one_result (tree : TreeCalls) (watch : Watch) (session : Session)
    (raw : String) :
    (∃ answer, session.submitAmong tree watch raw = .ok answer
        ∧ (Text.words raw = [] ∧ answer.outcome = none ∧ answer.published = []
          ∨ Text.words raw ≠ [] ∧ ∃ result, answer.Publishes result raw))
      ∧ (∃ answer result, session.directAmong tree watch raw = .ok answer
        ∧ answer.Publishes result raw)
      ∧ (∃ answer,
        session.submitAmong (session.interpreter.calls session.scene.nodes) ownWatch raw
            = .ok answer
          ∧ session.submit raw = (answer.outcome, answer.session, answer.done ++ answer.echoed)
          ∧ (session.submit raw).2.2.filterMap Event.result? = answer.published)
      ∧ ∃ answer,
        session.directAmong (session.interpreter.calls session.scene.nodes) ownWatch raw
            = .ok answer
          ∧ (some (session.direct raw).1, (session.direct raw).2)
            = (answer.outcome, answer.session, answer.done ++ answer.echoed)
          ∧ (session.direct raw).2.2.filterMap Event.result? = answer.published := by
  refine ⟨submitAmong_ok tree watch session raw, directAmong_publishes tree watch session raw,
    ?_, ?_⟩
  · obtain ⟨answer, hanswer, houtcome⟩ :=
      submitAmong_ok (session.interpreter.calls session.scene.nodes) ownWatch session raw
    have hsubmit := submit_eq hanswer
    refine ⟨answer, hanswer, hsubmit, ?_⟩
    rw [published_submit, hsubmit]
    rcases houtcome with ⟨-, hnone, hpublished⟩ | ⟨-, result, hpublishes⟩
    · rw [hnone, hpublished]
      rfl
    · rw [hpublishes.outcome, hpublishes.published]
      rfl
  · obtain ⟨answer, result, hanswer, hpublishes⟩ :=
      directAmong_publishes (session.interpreter.calls session.scene.nodes) ownWatch session raw
    have hdirect := direct_eq hanswer
    refine ⟨answer, hanswer, hdirect, ?_⟩
    have hresult : some (session.direct raw).1 = answer.outcome := congrArg Prod.fst hdirect
    rw [hpublishes.outcome, Option.some.injEq] at hresult
    rw [published_direct, hresult, hpublishes.published]

end Session

end StoryShell
