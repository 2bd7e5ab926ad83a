/-
The narrative that waits, apart from the rest of a story.

Nothing in a story looks at the narrative that waits. So with another one waiting the story goes on
in the same way, and following a result adds the same to the narrative, which is what the milestone
has to tell that the result reaches (`handle_withQueue`). In particular nothing is added when the
gate is edited or a milestone is forced.
-/
import StoryShell.Proofs.Story.Advances

set_option autoImplicit false

namespace StoryShell

/-- **What a milestone adds to the narrative**: one entry, or none if it has nothing to tell. -/
def Milestone.entries (milestone : Milestone) : List NarrativeEntry :=
  if milestone.narrative.isEmpty then [] else [⟨milestone.id, milestone.narrative⟩]

namespace Progress

/-- How far a story has come, with another narrative waiting. -/
def withQueue (progress : Progress) (queue : Option (List NarrativeEntry)) : Progress :=
  { progress with queue }

variable (progress : Progress) (queue : Option (List NarrativeEntry))

@[simp] theorem gate_withQueue : (progress.withQueue queue).gate = progress.gate := rfl

/-- What is added to the narrative is added to the one that waits. -/
theorem enqueue_withQueue (entry : NarrativeEntry) :
    (progress.withQueue queue).enqueue entry
      = (progress.enqueue entry).withQueue (queue.map (· ++ [entry])) := rfl

/-- An edit of the gate goes the same way with another narrative waiting. -/
theorem edit_withQueue (edit : GateEdit) (text : String) :
    (progress.withQueue queue).edit edit text
      = ((progress.edit edit text).1.withQueue queue, (progress.edit edit text).2) := by
  rw [Progress.edit, Progress.edit, gate_withQueue]
  generalize progress.gate.edit edit text = edited
  rfl

/-- Edits of the gate go the same way with another narrative waiting. -/
theorem editAll_withQueue (edit : GateEdit) (texts : List String) :
    editAll edit texts (progress.withQueue queue)
      = ((editAll edit texts progress).1.withQueue queue, (editAll edit texts progress).2) := by
  induction texts generalizing progress with
  | nil => rfl
  | cons text rest ih => simp only [editAll, edit_withQueue, ih]

/-- The gate is opened in the same way with another narrative waiting. -/
theorem openGate_withQueue (milestone : Milestone) :
    (progress.withQueue queue).openGate milestone
      = ((progress.openGate milestone).1.withQueue queue, (progress.openGate milestone).2) := by
  simp only [openGate, editAll_withQueue]

/-- Edits of the gate leave the narrative. -/
theorem queue_editAll (edit : GateEdit) (texts : List String) :
    (editAll edit texts progress).1.queue = progress.queue :=
  congrArg (·.1.queue) (progress.editAll_withQueue progress.queue edit texts)

end Progress

namespace Tracker

variable (tracker : Tracker) (progress : Progress) (queue : Option (List NarrativeEntry))

/-- **A milestone is reached in the same way** with another narrative waiting, and adds to it what
it has to tell, unless it is forced. -/
theorem reach_withQueue (milestone : Milestone) (withNarrative : Bool) :
    tracker.reach milestone withNarrative (progress.withQueue queue)
      = { tracker.reach milestone withNarrative progress with
          progress := (tracker.reach milestone withNarrative progress).progress.withQueue
            (if withNarrative then queue.map (· ++ milestone.entries) else queue) } := by
  -- the story with the milestone achieved, before anything is queued
  have hachieved : { progress.withQueue queue with
      achieved := (progress.withQueue queue).achieved.add milestone.id }
      = Progress.withQueue { progress with achieved := progress.achieved.add milestone.id } queue :=
    rfl
  simp only [reach, hachieved, Progress.openGate_withQueue]
  generalize Progress.mk (progress.achieved.add milestone.id) progress.gate progress.queue = reached
  cases tracker.opensGate <;> cases withNarrative <;> cases hlines : milestone.narrative <;>
    simp [Milestone.entries, hlines, Progress.enqueue_withQueue]

/-- The narrative has no part in which milestone a result reaches. -/
theorem next?_withQueue (forest : Forest) (result : Result) :
    tracker.next? (progress.withQueue queue) forest result
      = tracker.next? progress forest result := rfl

/-- **A result is followed in the same way** with another narrative waiting, and what is added to it
is what the milestone has to tell that the result reaches. -/
theorem handle_withQueue (forest : Forest) (result : Result) :
    tracker.handle (progress.withQueue queue) forest result
      = ((tracker.handle progress forest result).1,
        { (tracker.handle progress forest result).2 with
          progress := (tracker.handle progress forest result).2.progress.withQueue (queue.map
            (· ++ (tracker.handle progress forest result).1.toList.flatMap
              Milestone.entries)) }) := by
  simp only [handle, next?_withQueue]
  cases tracker.next? progress forest result with
  | none => simp
  | some milestone => simp [reach_withQueue]

/-- Forcing milestones leaves the narrative. -/
theorem queue_reachAll (ids : List String) :
    (tracker.reachAll ids progress).progress.queue = progress.queue := by
  induction ids generalizing progress with
  | nil => rfl
  | cons id rest ih =>
    rw [reachAll]
    split
    · exact ih progress
    · split
      · exact ih progress
      · rename_i milestone hmilestone
        have hreach : (tracker.reach milestone false progress).progress.queue = progress.queue :=
          congrArg (·.progress.queue)
            (tracker.reach_withQueue progress progress.queue milestone false)
        dsimp only
        -- a listener may fail on the milestone
        split
        · exact hreach
        · exact (ih _).trans hreach

/-- Forcing a milestone leaves the narrative. -/
theorem queue_of_force {id : String} {ids : List String} {advance : Advance}
    (h : tracker.force id progress = .ok (ids, advance)) :
    advance.progress.queue = progress.queue := by
  obtain ⟨-, rfl⟩ := force_eq_ok_iff.1 h
  exact tracker.queue_reachAll progress ids

end Tracker

end StoryShell
