/-
The narrative of a session.

A line is answered in the same way whatever narrative waits, and it adds to the narrative what the
milestone has to tell that it reaches, if it reaches one (`submit_queued`); this is the milestone
that is announced (`announced_submit`). So a session whose narrative is told after each line keeps
step with one whose narrative is left to wait: the two differ in nothing but the narrative.
-/
import StoryShell.Proofs.Session.LetterCase
import StoryShell.Proofs.Story.Narrative

set_option autoImplicit false

namespace StoryShell

open Event (announced)

namespace Session

/-! ## Lines -/

/-- **The milestone that a line reaches**, if it has a result and this reaches one. -/
def fired (session : Session) (raw : String) : Option Milestone :=
  (session.submit raw).1.bind fun result =>
    (session.tracker.handle session.progress (session.submit raw).2.1.fs.forest result).1

/-- What a line adds to the narrative. -/
def entries (session : Session) (raw : String) : List NarrativeEntry :=
  (session.fired raw).toList.flatMap Milestone.entries

/-- **What a line makes the narrative tell.** -/
def narrative (session : Session) (raw : String) : List String :=
  (session.entries raw).flatMap NarrativeEntry.lines

/-- A line adds an entry to the narrative, or nothing. -/
theorem entries_cases (session : Session) (raw : String) :
    session.entries raw = [] ∨ ∃ entry, session.entries raw = [entry] := by
  rw [entries]
  cases session.fired raw with
  | none => exact .inl rfl
  | some milestone =>
    simp only [Option.toList_some, List.flatMap_singleton, Milestone.entries]
    split
    · exact .inl rfl
    · exact .inr ⟨_, rfl⟩

/-- A session with another narrative waiting. -/
def queued (session : Session) (queue : Option (List NarrativeEntry)) : Session :=
  { session with progress := session.progress.withQueue queue }

@[simp] theorem queued_queue (session : Session) :
    session.queued session.progress.queue = session := rfl

@[simp] theorem queue_queued (session : Session) (queue : Option (List NarrativeEntry)) :
    (session.queued queue).progress.queue = queue := rfl

variable {session : Session}

/-- Publishing goes the same way with another narrative waiting, and adds what there is to tell of
the milestone that is reached. -/
theorem publish_queued (hobservers : session.observers = [.console, .scene, .tracker])
    (queue : Option (List NarrativeEntry)) (result : Result) :
    (session.queued queue).publish result
      = ((session.publish result).1.queued (queue.map
          (· ++ (session.tracker.handle session.progress session.fs.forest result).1.toList.flatMap
            Milestone.entries)),
        (session.publish result).2) := by
  have hqueued : (session.queued queue).observers = [.console, .scene, .tracker] := hobservers
  rw [publish_of_observers result hobservers, publish_of_observers result hqueued]
  simp only [queued, Tracker.handle_withQueue]

/-- **A line is carried out and its result published** in the session that is left, where the story
is as it was; and this goes the same way with another narrative waiting. -/
theorem exists_carried (session : Session) (raw : String) :
    ∃ (carried : Session) (result : Result) (records : List Log.Record),
      carried.tracker = session.tracker ∧ carried.progress = session.progress
        ∧ carried.observers = session.observers
        ∧ ∀ queue, (session.queued queue).direct raw
          = (result, ((carried.queued queue).publish result).1,
            records.map Event.logged ++ ((carried.queued queue).publish result).2) := by
  generalize hexecution : session.interpreter.execute session.fs session.scene.nodes raw = execution
  exact ⟨{ session with fs := execution.fs }, execution.result, execution.records, rfl, rfl, rfl,
    fun queue => direct_of_execute hexecution⟩

/-- A line is carried out in the same way with another narrative waiting, past the gate. -/
theorem direct_queued (hobservers : session.observers = [.console, .scene, .tracker])
    (queue : Option (List NarrativeEntry)) (raw : String) :
    (session.queued queue).direct raw
      = ((session.direct raw).1,
        (session.direct raw).2.1.queued (queue.map
          (· ++ (session.tracker.handle session.progress (session.direct raw).2.1.fs.forest
            (session.direct raw).1).1.toList.flatMap Milestone.entries)),
        (session.direct raw).2.2) := by
  obtain ⟨carried, result, records, htracker, hprogress, hcarried, hdirect⟩ :=
    session.exists_carried raw
  have hown := hdirect session.progress.queue
  rw [queued_queue, ← hprogress, queued_queue] at hown
  rw [hdirect, publish_queued (hcarried.trans hobservers), hown, htracker, hprogress]
  simp only [(carried.publish_fixed result).1]

/-- **A line is answered in the same way** with another narrative waiting, and adds to it what it
would add to any. -/
theorem submit_queued (hobservers : session.observers = [.console, .scene, .tracker])
    (queue : Option (List NarrativeEntry)) (raw : String) :
    (session.queued queue).submit raw
      = ((session.submit raw).1,
        (session.submit raw).2.1.queued (queue.map (· ++ session.entries raw)),
        (session.submit raw).2.2) := by
  have hgate : (session.queued queue).gate = session.gate := rfl
  rw [entries, fired, submit, submit, hgate]
  cases session.gate.verdict raw with
  | blank => simp
  | refused result =>
    simp only [publish_queued hobservers, Option.bind_some, (session.publish_fixed result).1]
  | passed => simp only [direct_queued hobservers, Option.bind_some]

/-- What is announced when a result is published. -/
theorem announced_publish (hobservers : session.observers = [.console, .scene, .tracker])
    (result : Result) :
    announced (session.publish result).2
      = (session.tracker.handle session.progress session.fs.forest result).1.toList.map
          Milestone.id := by
  have hnoted : ∀ failure : Option String, announced (if failure.isSome then
      [.logged (Bus.failureRecord Observer.tracker.label result.command)] else []) = [] := by
    rintro (_ | _) <;> rfl
  simp only [publish_of_observers result hobservers, Event.announced_append,
    Event.announced_published, Console.announced_observe, Tracker.announced_handle, hnoted]
  rw [Tracker.handle]
  cases session.tracker.next? session.progress session.fs.forest result <;> rfl

/-- **The milestone that a line reaches is announced**, and nothing else is. -/
theorem announced_submit (hobservers : session.observers = [.console, .scene, .tracker])
    (raw : String) :
    announced (session.submit raw).2.2 = (session.fired raw).toList.map Milestone.id := by
  rw [fired, submit]
  cases session.gate.verdict raw with
  | blank => rfl
  | refused result =>
    simp only [Option.bind_some, (session.publish_fixed result).1]
    exact announced_publish hobservers result
  | passed =>
    obtain ⟨carried, result, records, htracker, hprogress, hcarried, hdirect⟩ :=
      session.exists_carried raw
    have hown := hdirect session.progress.queue
    rw [queued_queue, ← hprogress, queued_queue] at hown
    simp only [hown, Option.bind_some, Event.announced_append, Event.announced_records,
      (carried.publish_fixed result).1, announced_publish (hcarried.trans hobservers), htracker,
      hprogress]
    rfl

/-! ## Starting -/

/-- Forcing milestones leaves the narrative. -/
theorem queue_forceAll (ids : List String) (session : Session) :
    (forceAll ids session).1.progress.queue = session.progress.queue := by
  induction ids generalizing session with
  | nil => rfl
  | cons id rest ih =>
    rw [forceAll]
    cases hforce : session.tracker.force id session.progress with
    | error unknown => exact ih session
    | ok forced =>
      have hqueue := session.tracker.queue_of_force session.progress hforce
      exact (ih (session.advance forced.2)).trans hqueue

/-- **At the start of a session no narrative waits**, also if everything is opened. -/
theorem queue_ofWorld {world : World} {everythingOpen : Bool} {first : Session}
    {events : List Event} (h : ofWorld world everythingOpen = .ok (first, events)) :
    first.progress.queue = some [] := by
  obtain ⟨fs, -, hfirst⟩ := start_of_ofWorld h
  cases everythingOpen with
  | false =>
    rw [if_neg Bool.false_ne_true] at hfirst
    rw [← hfirst]
    rfl
  | true =>
    rw [if_pos rfl] at hfirst
    rw [← hfirst, unlockAll]
    simp only [editGateAll, Progress.queue_editAll, queue_forceAll]
    rfl

end Session

end StoryShell
