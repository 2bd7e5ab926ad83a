/-
Sessions that play the same game.

Two sessions play the same game if their file systems are the same but for the numbers of nodes, and
they have come as far in the same story, with one tracker each among their observers
(`Session.Alike`). Who else observes, what was shown, and who listens to milestones makes no
difference: observers touch nothing but themselves, the tracker is the only one of them that carries
the story forward (`progress_publish`), and it does so before its listeners hear of it
(`progress_reach`). So a line that is submitted has results that stand for each other, and the game
goes on the same (`Alike.submit`).

Between lines observers may come and go, listeners may be added and nodes may be let go
(`Meddling`), on either side. A course of lines with such meddling in between is compared line by
line (`forall₂_course`).
-/
import StoryShell.Proofs.Command.Alike
import StoryShell.Proofs.Gate.Verdict
import StoryShell.Proofs.Session.Lines
import StoryShell.Proofs.Story.Advances

set_option autoImplicit false

namespace StoryShell

/-! ## The story -/

/-- The words of the listeners come after all else that reaching a milestone does. -/
theorem Tracker.progress_reach {tracker other : Tracker}
    (hopens : other.opensGate = tracker.opensGate) (milestone : Milestone) (withNarrative : Bool)
    (progress : Progress) :
    (other.reach milestone withNarrative progress).progress
      = (tracker.reach milestone withNarrative progress).progress := by
  simp only [reach, hopens]

section

variable {forest other : Forest} {f : NodeId → NodeId} (h : forest.Alike f other) {result : Result}
  (hmentions : ∀ id ∈ result.mentioned, forest.InTree id)

include h hmentions

/-- Results that stand for each other came about in directories of the same name. -/
theorem Result.place_renumber : (result.renumber f).place other = result.place forest := by
  rw [place, place, renumber_target, renumber_command]
  cases htarget : result.target with
  | none => rfl
  | some target =>
    have htree := hmentions target (mem_mentioned_of_target htarget)
    simp only [Option.map_some]
    rw [h.nameOf htree, h.parentOf htree, Option.map_map]
    congr 1
    refine Option.map_congr fun parent hparent => ?_
    -- what has a directory above it in the tree is not the root, so that belongs to the tree
    rcases Forest.inTree_iff.1 htree with rfl | ⟨above, habove, haboveTree⟩
    · rw [h.top] at hparent
      exact absurd hparent (by simp)
    · rw [habove] at hparent
      rw [← Option.some.inj hparent]
      exact h.nameOf haboveTree

/-- **Results that stand for each other trigger the same milestones.** -/
theorem Milestone.isTriggeredBy_renumber (milestone : Milestone) :
    milestone.isTriggeredBy other (result.renumber f) = milestone.isTriggeredBy forest result := by
  have hname : (result.renumber f).target.map other.nameOf = result.target.map forest.nameOf := by
    rw [Result.renumber_target, Option.map_map]
    exact Option.map_congr fun target htarget =>
      h.nameOf (hmentions target (Result.mem_mentioned_of_target htarget))
  rw [isTriggeredBy, isTriggeredBy, hname, Result.place_renumber h hmentions,
    Result.renumber_isError, Result.renumber_command]

/-- **The tracker follows results that stand for each other alike**, whoever listens. -/
theorem Tracker.progress_handle {tracker also : Tracker}
    (hmilestones : also.milestones = tracker.milestones)
    (hopens : also.opensGate = tracker.opensGate) (progress : Progress) :
    (also.handle progress other (result.renumber f)).2.progress
      = (tracker.handle progress forest result).2.progress := by
  have hnext : also.next? progress other (result.renumber f)
      = tracker.next? progress forest result := by
    rw [next?, next?, hmilestones, Result.renumber_isError]
    simp only [Milestone.isTriggeredBy_renumber h hmentions]
  rw [handle, handle, hnext]
  cases tracker.next? progress forest result with
  | none => rfl
  | some milestone => exact progress_reach hopens milestone true progress

end

namespace Session

/-! ## Publishing -/

/-- **What serving one observer comes to**, with the note of a failure. -/
def serve (result : Result) (observer : Observer) (state : Session × List Event) :
    Session × List Event :=
  match observe result observer state with
  | (.failed, after) => note result observer after
  | (_, after) => after

/-- No observer interrupts, so **publishing serves all of them in turn**. -/
theorem publish_eq_foldl (session : Session) (result : Result) :
    session.publish result
      = session.observers.foldl (fun state observer => serve result observer state)
        (session, [.published result]) := by
  have hdeliver : ∀ (observers : List Observer) (state : Session × List Event),
      (Bus.deliver (observe result) (note result) observers state).2
        = observers.foldl (fun state observer => serve result observer state) state := by
    intro observers
    induction observers with
    | nil => exact fun _ => rfl
    | cons observer rest ih =>
      rintro ⟨session, events⟩
      rw [Bus.deliver, List.foldl_cons, serve]
      cases observer with
      | console | scene => exact ih _
      | tracker =>
        simp only [observe]
        cases (session.tracker.handle session.progress session.fs.forest
          result).2.failure.isSome with
        | false => exact ih _
        | true => exact ih _
      | guest name fails =>
        cases fails with
        | false => exact ih _
        | true => exact ih _
  exact hdeliver session.observers _

/-- **What an observer changes** of the game: the tracker carries the story forward, and the others
do nothing. -/
theorem serve_game (result : Result) (observer : Observer) (state : Session × List Event) :
    (serve result observer state).1.fs = state.1.fs
      ∧ (serve result observer state).1.tracker = state.1.tracker
      ∧ (serve result observer state).1.progress
        = if observer = .tracker then
            (state.1.tracker.handle state.1.progress state.1.fs.forest result).2.progress
          else state.1.progress := by
  obtain ⟨session, events⟩ := state
  cases observer with
  | console | scene => exact ⟨rfl, rfl, rfl⟩
  | tracker =>
    simp only [serve, observe]
    cases (session.tracker.handle session.progress session.fs.forest result).2.failure.isSome with
    | false => exact ⟨rfl, rfl, rfl⟩
    | true => exact ⟨rfl, rfl, rfl⟩
  | guest name fails =>
    cases fails with
    | false => exact ⟨rfl, rfl, rfl⟩
    | true => exact ⟨rfl, rfl, rfl⟩

/-- Without a tracker among them, observers carry no story forward. -/
theorem progress_foldl_of_not_mem {observers : List Observer} (h : .tracker ∉ observers)
    (result : Result) (state : Session × List Event) :
    (observers.foldl (fun state observer => serve result observer state) state).1.progress
      = state.1.progress := by
  induction observers generalizing state with
  | nil => rfl
  | cons observer rest ih =>
    rw [List.mem_cons, not_or] at h
    rw [List.foldl_cons, ih h.2, (serve_game result observer state).2.2, if_neg (Ne.symm h.1)]

/-- With one tracker among them, observers carry it forward as that does. -/
theorem progress_foldl_of_count {observers : List Observer} (h : observers.count .tracker = 1)
    (result : Result) (state : Session × List Event) :
    (observers.foldl (fun state observer => serve result observer state) state).1.progress
      = (state.1.tracker.handle state.1.progress state.1.fs.forest result).2.progress := by
  induction observers generalizing state with
  | nil => exact absurd h (by simp)
  | cons observer rest ih =>
    obtain ⟨hfs, htracker, hprogress⟩ := serve_game result observer state
    rw [List.foldl_cons]
    by_cases hobserver : observer = .tracker
    · -- no other tracker comes after it
      have hrest : .tracker ∉ rest := by
        rw [hobserver, List.count_cons_self] at h
        exact List.count_eq_zero.1 (by omega)
      rw [progress_foldl_of_not_mem hrest, hprogress, if_pos hobserver]
    · have hrest : rest.count .tracker = 1 := by rwa [List.count_cons_of_ne hobserver] at h
      rw [ih hrest, hfs, htracker, hprogress, if_neg hobserver]

/-- **Where one tracker observes, publishing carries the story forward as it does**, whoever else
observes. -/
theorem progress_publish {session : Session} (h : session.observers.count .tracker = 1)
    (result : Result) :
    (session.publish result).1.progress
      = (session.tracker.handle session.progress session.fs.forest result).2.progress := by
  rw [publish_eq_foldl, progress_foldl_of_count h]

/-! ## Sessions -/

/-- **Sessions that play the same game**, but for the numbers of nodes. -/
structure Alike (f : NodeId → NodeId) (first second : Session) : Prop where
  fs : first.fs.Alike f second.fs
  interpreter : second.interpreter = first.interpreter
  progress : second.progress = first.progress
  milestones : second.tracker.milestones = first.tracker.milestones
  opensGate : second.tracker.opensGate = first.tracker.opensGate
  tracked : first.observers.count .tracker = 1
  otherTracked : second.observers.count .tracker = 1

variable {first second : Session} {f : NodeId → NodeId}

/-- **Results that stand for each other are published alike.** -/
theorem Alike.publish (h : first.Alike f second) {result : Result}
    (hmentions : ∀ id ∈ result.mentioned, first.fs.forest.InTree id) :
    (first.publish result).1.Alike f (second.publish (result.renumber f)).1 := by
  obtain ⟨hfs, hinterpreter, htracker, hobservers⟩ := first.publish_fixed result
  obtain ⟨hfs', hinterpreter', htracker', hobservers'⟩ := second.publish_fixed (result.renumber f)
  refine ⟨?_, ?_, ?_, ?_, ?_, ?_, ?_⟩
  · rw [hfs, hfs']
    exact h.fs
  · rw [hinterpreter, hinterpreter', h.interpreter]
  · rw [progress_publish h.tracked, progress_publish h.otherTracked, h.progress]
    exact Tracker.progress_handle h.fs.forest hmentions h.milestones h.opensGate first.progress
  · rw [htracker, htracker', h.milestones]
  · rw [htracker, htracker', h.opensGate]
  · rw [hobservers, h.tracked]
  · rw [hobservers', h.otherTracked]

/-- **What a line comes to on both sides**: results that stand for each other, and that speak of
nodes of the tree that is left. -/
structure AlikeReplies (f : NodeId → NodeId) (outcome : Option Result) (after : Session)
    (otherOutcome : Option Result) (otherAfter : Session) : Prop where
  renumbered : otherOutcome = outcome.map (Result.renumber f)
  game : after.Alike f otherAfter
  mentions : ∀ result ∈ outcome, ∀ id ∈ result.mentioned, after.fs.forest.InTree id

/-- What was published and what that left. -/
theorem Alike.replies (h : first.Alike f second) {result : Result}
    (hmentions : ∀ id ∈ result.mentioned, first.fs.forest.InTree id) :
    AlikeReplies f (some result) (first.publish result).1 (some (result.renumber f))
      (second.publish (result.renumber f)).1 where
  renumbered := rfl
  game := h.publish hmentions
  mentions := by
    intro found hfound id hid
    rw [← Option.some.inj hfound] at hid
    rw [(first.publish_fixed result).1]
    exact hmentions id hid

/-- **A line that is submitted** comes to the same on both sides. -/
theorem Alike.submit (h : first.Alike f second) (raw : String) :
    AlikeReplies f (first.submit raw).1 (first.submit raw).2.1 (second.submit raw).1
      (second.submit raw).2.1 := by
  have hgate : second.gate = first.gate := by rw [gate, gate, h.progress]
  rw [Session.submit, Session.submit, hgate]
  cases hverdict : first.gate.verdict raw with
  | blank => exact ⟨rfl, h, by simp⟩
  | refused result =>
    -- what the gate refuses speaks of no node
    obtain ⟨kind, message, -, rfl⟩ := Gate.eq_failure_of_refused hverdict
    exact h.replies fun id hid => by simp [Result.mentioned, Result.failure] at hid
  | passed =>
    obtain ⟨hresult, hfs, hmentions⟩ := Interpreter.alike_execute h.fs first.interpreter
      first.scene.nodes second.scene.nodes raw
    simp only [direct, execute, h.interpreter]
    generalize first.interpreter.execute first.fs first.scene.nodes raw = execution
      at hresult hfs hmentions ⊢
    generalize first.interpreter.execute second.fs second.scene.nodes raw = other at hresult hfs ⊢
    have hcarried : Alike f { first with fs := execution.fs }
        { second with fs := other.fs, interpreter := first.interpreter } :=
      ⟨hfs, rfl, h.progress, h.milestones, h.opensGate, h.tracked, h.otherTracked⟩
    rw [hresult]
    exact hcarried.replies hmentions

end Session

/-! ## Meddling -/

/-- **The views**: the observers that show what happens and do nothing else. -/
inductive View where
  | console
  | scene
deriving DecidableEq, Repr

/-- The observer that a view is. -/
def View.observer : View → Observer
  | .console => .console
  | .scene => .scene

/-- **What may happen between lines** without being part of the game: nodes are let go, views are
unsubscribed and subscribed, and a listener is added. -/
inductive Meddling where
  | collect (held : List NodeId)
  | unsubscribe (view : View)
  | subscribe (view : View)
  | listen (listener : Listener)

/-- Whether nothing happens but that nodes are let go. -/
def Meddling.isCollection : Meddling → Bool
  | .collect _ => true
  | .unsubscribe _ | .subscribe _ | .listen _ => false

/-- A line, and the meddling before it. -/
structure Round where
  meddlings : List Meddling
  line : String

namespace Session

/-- Meddles with a session. -/
def meddle (session : Session) : Meddling → Session
  | .collect held => session.reclaim held
  | .unsubscribe view => { session with observers := session.observers.erase view.observer }
  | .subscribe view => { session with observers := session.observers ++ [view.observer] }
  | .listen listener =>
    { session with tracker :=
        { session.tracker with listeners := session.tracker.listeners ++ [listener] } }

/-- A session after the meddling before a line. -/
def meddled (session : Session) (round : Round) : Session := round.meddlings.foldl meddle session

/-- Submits a line, after the meddling before it. -/
def play (session : Session) (round : Round) : Option Result × Session × List Event :=
  (session.meddled round).submit round.line

/-- **Submits lines one after the other**, with meddling in between: the result of each line, the
session after it, and the events. -/
def course : List Round → Session → List (Option Result × Session × List Event)
  | [], _ => []
  | round :: rest, session => session.play round :: course rest (session.play round).2.1

variable {first second : Session} {f : NodeId → NodeId}

/-- Views that come and go leave the tracker where it is. -/
theorem count_observers_meddle (session : Session) (meddling : Meddling) :
    (session.meddle meddling).observers.count .tracker = session.observers.count .tracker := by
  cases meddling with
  | collect held => rfl
  | unsubscribe view =>
    rw [meddle, List.count_erase_of_ne]
    cases view <;> decide
  | subscribe view =>
    rw [meddle, List.count_append]
    cases view <;> rfl
  | listen listener => rfl

/-- **Meddling on the one side** makes no difference to the game. -/
theorem Alike.meddle (h : first.Alike f second) (meddling : Meddling) :
    (first.meddle meddling).Alike f second where
  fs := by
    cases meddling with
    | collect held => exact h.fs.reclaim _
    | unsubscribe _ | subscribe _ | listen _ => exact h.fs
  interpreter := by cases meddling <;> exact h.interpreter
  progress := by cases meddling <;> exact h.progress
  milestones := by cases meddling <;> exact h.milestones
  opensGate := by cases meddling <;> exact h.opensGate
  tracked := (first.count_observers_meddle meddling).trans h.tracked
  otherTracked := h.otherTracked

/-- Nor does meddling on the other side. -/
theorem Alike.meddle_other (h : first.Alike f second) (meddling : Meddling) :
    first.Alike f (second.meddle meddling) where
  fs := by
    cases meddling with
    | collect held => exact h.fs.reclaim_other _
    | unsubscribe _ | subscribe _ | listen _ => exact h.fs
  interpreter := by cases meddling <;> exact h.interpreter
  progress := by cases meddling <;> exact h.progress
  milestones := by cases meddling <;> exact h.milestones
  opensGate := by cases meddling <;> exact h.opensGate
  tracked := h.tracked
  otherTracked := (second.count_observers_meddle meddling).trans h.otherTracked

/-- **Courses of the same lines are compared line by line**: what holds of two sessions, and is kept
by the meddling on both sides and by a line, holds all along. -/
theorem forall₂_course (Related : Session → Session → Prop)
    {Shown : Option Result × Session × List Event → Option Result × Session × List Event → Prop}
    (allowed : Meddling → Prop)
    (meddle : ∀ {first second meddling}, allowed meddling → Related first second →
      Related (first.meddle meddling) second)
    (meddleOther : ∀ {first second meddling}, allowed meddling → Related first second →
      Related first (second.meddle meddling))
    (line : ∀ {first second} raw, Related first second →
      Shown (first.submit raw) (second.submit raw)
        ∧ Related (first.submit raw).2.1 (second.submit raw).2.1)
    {rounds others : List Round} (hlines : rounds.map Round.line = others.map Round.line)
    (hrounds : ∀ round ∈ rounds, ∀ meddling ∈ round.meddlings, allowed meddling)
    (hothers : ∀ round ∈ others, ∀ meddling ∈ round.meddlings, allowed meddling)
    (h : Related first second) :
    List.Forall₂ Shown (course rounds first) (course others second) := by
  induction rounds generalizing others first second with
  | nil =>
    rw [List.map_nil, eq_comm, List.map_eq_nil_iff] at hlines
    rw [hlines]
    exact .nil
  | cons round rest ih =>
    obtain ⟨other, later, rfl, hline, hlater⟩ := List.map_eq_cons_iff.1 hlines.symm
    obtain ⟨hhere, hrest⟩ := List.forall_mem_cons.1 hrounds
    obtain ⟨hthere, hmore⟩ := List.forall_mem_cons.1 hothers
    have hfirst : Related (first.meddled round) second :=
      List.foldlRecOn round.meddlings _ (motive := fun session => Related session second) h
        fun session hsession meddling hmem => meddle (hhere meddling hmem) hsession
    have hboth : Related (first.meddled round) (second.meddled other) :=
      List.foldlRecOn other.meddlings _ (motive := fun session => Related _ session) hfirst
        fun session hsession meddling hmem => meddleOther (hthere meddling hmem) hsession
    obtain ⟨hshown, hafter⟩ := line round.line hboth
    have hrestShown := ih hlater.symm hrest hmore hafter
    simp only [course, play, hline]
    exact .cons hshown hrestShown

end Session

end StoryShell
