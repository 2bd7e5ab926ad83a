/-
The tracker: follows the results of the shell and carries the story forward.

A result reaches at most one milestone, the first of the table that is not achieved, has all its
requirements achieved and is triggered. Reaching it opens the gate as it says, queues its narrative
and announces it to the listeners. A listener may fail, and then those after it hear nothing and
whoever caused the announcement learns of it, but the milestone stays achieved.

A milestone can also be forced, with all that it requires; then no narrative is queued.
-/
import StoryShell.Event
import StoryShell.Gate
import StoryShell.Story.Prerequisites

set_option autoImplicit false

namespace StoryShell

/-- The narrative of a milestone, waiting to be told. -/
structure NarrativeEntry where
  milestone : String
  lines : List String
deriving DecidableEq, Repr

/-- **How far the story has come**: the milestones achieved, the gate, and the narrative that waits;
a story may go without narrative. -/
structure Progress where
  achieved : NameSet
  gate : Gate
  queue : Option (List NarrativeEntry)
deriving DecidableEq, Repr

/-- One who hears of milestones, and fails on some of them. -/
structure Listener where
  /-- The words with which the listener fails on a milestone. -/
  failure? : String → Option String

/-- **The tracker**: its table, whether milestones open the gate, and the listeners. -/
structure Tracker where
  milestones : List Milestone
  opensGate : Bool
  listeners : List Listener

/-- **What an advance of the story gives**: how far it has come, the events on the way, and the
words of a listener that failed. -/
structure Advance where
  progress : Progress
  events : List Event
  failure : Option String

/-- **Calls listeners with a milestone**, one after the other up to one that fails, whose words come
second. They are numbered from a number on. -/
def Listener.callAll (milestone : String) : Nat → List Listener → List Event × Option String
  | _, [] => ([], none)
  | number, listener :: rest =>
    match listener.failure? milestone with
    | some words => ([.heard number milestone], some words)
    | none =>
      let (events, failure) := callAll milestone (number + 1) rest
      (.heard number milestone :: events, failure)

namespace Progress

/-- Makes an edit of the gate. -/
def edit (progress : Progress) (edit : GateEdit) (text : String) : Progress × List Event :=
  let (changed, gate) := progress.gate.edit edit text
  ({ progress with gate }, if changed then [.logged (Gate.editRecord edit text)] else [])

/-- Makes the same edit for each of a list of texts. -/
def editAll (edit : GateEdit) : List String → Progress → Progress × List Event
  | [], progress => (progress, [])
  | text :: rest, progress =>
    let (progress, events) := progress.edit edit text
    let (progress, more) := editAll edit rest progress
    (progress, events ++ more)

/-- Opens the gate as a milestone says. -/
def openGate (progress : Progress) (milestone : Milestone) : Progress × List Event :=
  let (progress, events) := editAll .allow milestone.unlocks progress
  let (progress, more) := editAll .unblock milestone.unblocks progress
  (progress, events ++ more)

/-- Adds an entry to the narrative that waits, if there is any narrative. -/
def enqueue (progress : Progress) (entry : NarrativeEntry) : Progress :=
  { progress with queue := progress.queue.map (· ++ [entry]) }

/-- Takes the entries that wait longest out of the narrative, all of them or up to a limit. -/
def drain (progress : Progress) (limit : Option Nat) :
    Option (List NarrativeEntry × Progress) :=
  progress.queue.map fun queue =>
    let count := limit.getD queue.length
    (queue.take count, { progress with queue := some (queue.drop count) })

end Progress

namespace Tracker

/-- The milestones that are not achieved, in the order of the table. -/
def pending (tracker : Tracker) (progress : Progress) : List Milestone :=
  tracker.milestones.filter fun milestone => milestone.id ∉ progress.achieved

/-- **Reaches a milestone.** -/
def reach (tracker : Tracker) (milestone : Milestone) (withNarrative : Bool)
    (progress : Progress) : Advance :=
  let progress := { progress with achieved := progress.achieved.add milestone.id }
  let (progress, edits) :=
    if tracker.opensGate then progress.openGate milestone else (progress, [])
  let progress :=
    if withNarrative && !milestone.narrative.isEmpty then
      progress.enqueue ⟨milestone.id, milestone.narrative⟩
    else progress
  let (calls, failure) := Listener.callAll milestone.id 0 tracker.listeners
  { progress
    events := .logged ⟨.info, .progress, "Milestone reached: " ++ milestone.id⟩
      :: edits ++ .reached milestone.id :: calls
    failure }

/-- Whether a milestone is due: not achieved, though all it requires is. -/
def isDue (progress : Progress) (milestone : Milestone) : Bool :=
  milestone.id ∉ progress.achieved && milestone.requires.all fun id => id ∈ progress.achieved

/-- The milestone that a result reaches. -/
def next? (tracker : Tracker) (progress : Progress) (forest : Forest) (result : Result) :
    Option Milestone :=
  if result.isError then none
  else
    tracker.milestones.find? fun milestone =>
      isDue progress milestone && milestone.isTriggeredBy forest result

/-- **Follows a result**: gives the milestone that it reaches, and what comes of that. -/
def handle (tracker : Tracker) (progress : Progress) (forest : Forest) (result : Result) :
    Option Milestone × Advance :=
  match tracker.next? progress forest result with
  | none => (none, ⟨progress, [], none⟩)
  | some milestone => (some milestone, tracker.reach milestone true progress)

/-- Reaches the milestones with the given ids that are not achieved, one by one, until a listener
fails. -/
def reachAll (tracker : Tracker) : List String → Progress → Advance
  | [], progress => ⟨progress, [], none⟩
  | id :: rest, progress =>
    if id ∈ progress.achieved then tracker.reachAll rest progress
    else
      match Milestone.withId? tracker.milestones id with
      | none => tracker.reachAll rest progress
      | some milestone =>
        let advance := tracker.reach milestone false progress
        match advance.failure with
        | some _ => advance
        | none =>
          let later := tracker.reachAll rest advance.progress
          { later with events := advance.events ++ later.events }

/-- **Forces a milestone**: gives the ids that had to be achieved for it, in order, and what comes
of that, or an id that is not in the table. -/
def force (tracker : Tracker) (id : String) (progress : Progress) :
    Except String (List String × Advance) :=
  (Milestone.order tracker.milestones id).map fun ids => (ids, tracker.reachAll ids progress)

end Tracker

end StoryShell
