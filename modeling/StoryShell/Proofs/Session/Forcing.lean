/-
What comes of forcing a milestone, in any table.

If something that the milestone needs, directly or through others, is not in the table, then nothing
is done. Otherwise what has to be achieved for it (`Milestone.IsOrder`) is gone through in order,
and what is not achieved yet is reached: it is announced, and the gate is opened for it as the
milestone says that decides its id, but nothing is added to the narrative (`Tracker.Reached`). The
table may have ids twice, and requirements that are unknown or go round in circles; only the
listeners must not fail (`forced_in_any_table`).
-/
import StoryShell.Proofs.Session.Narrative
import StoryShell.Proofs.Story.Gating

set_option autoImplicit false

namespace StoryShell

namespace Tracker

variable {tracker : Tracker} {progress : Progress} {later : Advance} {id : String}
  {ids rest : List String} {milestone : Milestone}

/-! ## Reaching ids -/

/-- **Silent listeners** fail on no milestone. -/
def Silent (tracker : Tracker) : Prop :=
  ∀ listener ∈ tracker.listeners, ∀ id, listener.failure? id = none

/-- Silent listeners do not fail on a milestone that is reached. -/
theorem Silent.failure_reach (h : tracker.Silent) (milestone : Milestone) (withNarrative : Bool)
    (progress : Progress) : (tracker.reach milestone withNarrative progress).failure = none := by
  rw [tracker.failure_reach, List.findSome?_eq_none_iff]
  exact fun listener hlistener => h listener hlistener milestone.id

/-- Among silent listeners everyone attends. -/
theorem Silent.attends (h : tracker.Silent) {index : Nat}
    (hpresent : index < tracker.listeners.length) : tracker.Attends index :=
  ⟨hpresent, fun listener hmem => h listener (List.mem_of_mem_take hmem)⟩

/-- The gate after a milestone is reached. -/
theorem gate_reach_eq (tracker : Tracker) (milestone : Milestone) (withNarrative : Bool)
    (progress : Progress) :
    (tracker.reach milestone withNarrative progress).progress.gate
      = if tracker.opensGate then progress.gate.opened milestone else progress.gate := by
  cases hopens : tracker.opensGate with
  | true => rw [gate_reach hopens, Progress.gate_openGate, if_pos rfl]
  | false =>
    simp only [reach, hopens, if_false, Bool.false_eq_true]
    split
    · rfl
    · rfl

/-- **What reaching ids comes to**: they are achieved besides what was. Those that were not are
announced, in order, and the gate is opened for them, in order as well, if milestones open the gate
at all. The narrative stays as it was, and no listener fails. -/
structure Reached (tracker : Tracker) (progress : Progress) (ids : List String)
    (advance : Advance) : Prop where
  achieved : ∀ id, id ∈ advance.progress.achieved ↔ id ∈ progress.achieved ∨ id ∈ ids
  announced : Event.announced advance.events = ids.filter (· ∉ progress.achieved)
  gate : ∃ milestones,
    List.Forall₂ (Milestone.Decides tracker.milestones) (ids.filter (· ∉ progress.achieved))
      milestones
    ∧ advance.progress.gate
      = if tracker.opensGate then milestones.foldl Gate.opened progress.gate else progress.gate
  queue : advance.progress.queue = progress.queue
  failure : advance.failure = none

/-- Nothing is reached where there are no ids. -/
theorem reached_nil (tracker : Tracker) (progress : Progress) :
    tracker.Reached progress [] ⟨progress, [], none⟩ where
  achieved := by simp
  announced := rfl
  gate := ⟨[], .nil, (ite_self progress.gate).symm⟩
  queue := rfl
  failure := rfl

/-- An id that is achieved makes no difference. -/
theorem Reached.cons_of_achieved (h : tracker.Reached progress rest later)
    (hid : id ∈ progress.achieved) : tracker.Reached progress (id :: rest) later where
  achieved := by
    intro other
    rw [h.achieved, List.mem_cons, or_left_comm]
    refine ⟨.inr, ?_⟩
    rintro (rfl | hother)
    · exact .inl hid
    · exact hother
  announced := by
    rw [h.announced, List.filter_cons_of_neg (by simpa using hid)]
  gate := by
    rw [List.filter_cons_of_neg (by simpa using hid)]
    exact h.gate
  queue := h.queue
  failure := h.failure

/-- **An id that is not achieved** is reached by the milestone that decides it, before the others.
-/
theorem Reached.cons_of_new (hnew : id ∉ progress.achieved) (hrest : id ∉ rest)
    (hdecides : Milestone.Decides tracker.milestones id milestone)
    (h : tracker.Reached (tracker.reach milestone false progress).progress rest later) :
    tracker.Reached progress (id :: rest)
      { later with
        events := (tracker.reach milestone false progress).events ++ later.events } := by
  have hid : milestone.id = id :=
    (Milestone.of_withId? (Milestone.withId?_eq_some_iff.2 hdecides)).2
  have hachieved := tracker.achieved_reach milestone false progress
  rw [hid] at hachieved
  -- of the rest as much is new as was before
  have hsame : rest.filter (· ∉ (tracker.reach milestone false progress).progress.achieved)
      = rest.filter (· ∉ progress.achieved) := by
    refine List.filter_congr fun other hother => ?_
    have hne : other ≠ id := ne_of_mem_of_not_mem hother hrest
    rw [hachieved, decide_eq_decide, NameSet.mem_add, or_iff_right hne]
  have hfilter : (id :: rest).filter (· ∉ progress.achieved)
      = id :: rest.filter (· ∉ progress.achieved) :=
    List.filter_cons_of_pos (by simpa using hnew)
  obtain ⟨milestones, hmilestones, hgate⟩ := h.gate
  refine ⟨fun other => ?_, ?_, ⟨milestone :: milestones, ?_, ?_⟩, ?_, h.failure⟩
  · rw [h.achieved, hachieved, NameSet.mem_add, List.mem_cons, or_assoc, or_left_comm]
  · rw [Event.announced_append, tracker.announced_reach, h.announced, hsame, hfilter, hid]
    rfl
  · rw [hfilter]
    rw [hsame] at hmilestones
    exact .cons hdecides hmilestones
  · rw [hgate, gate_reach_eq]
    cases tracker.opensGate with
    | true => rfl
    | false => rfl
  · have hqueue := congrArg (·.progress.queue)
      (tracker.reach_withQueue progress progress.queue milestone false)
    exact h.queue.trans hqueue

/-- **Ids of the table are reached**, if they are different and the listeners silent. -/
theorem reached_reachAll (hsilent : tracker.Silent) (hnodup : ids.Nodup)
    (hknown : ids ⊆ tracker.milestones.map Milestone.id) (progress : Progress) :
    tracker.Reached progress ids (tracker.reachAll ids progress) := by
  induction ids generalizing progress with
  | nil => exact tracker.reached_nil progress
  | cons id rest ih =>
    obtain ⟨hid, hrest⟩ := List.cons_subset.1 hknown
    obtain ⟨hfirst, hnodup⟩ := List.nodup_cons.1 hnodup
    rw [reachAll]
    by_cases hachieved : id ∈ progress.achieved
    · rw [if_pos hachieved]
      exact (ih hnodup hrest progress).cons_of_achieved hachieved
    · obtain ⟨milestone, hdecides⟩ := Milestone.exists_decides_iff.2 hid
      have hfailure := hsilent.failure_reach milestone false progress
      rw [if_neg hachieved, Milestone.withId?_eq_some_iff.2 hdecides]
      simp only [hfailure]
      exact .cons_of_new hachieved hfirst hdecides (ih hnodup hrest _)

/-! ## Forcing a milestone -/

/-- **A milestone can be forced** just if all that it needs is in the table; then what has to be
achieved is reached. -/
theorem exists_force_iff (hsilent : tracker.Silent) :
    (∃ ids advance, tracker.force id progress = .ok (ids, advance)
        ∧ Milestone.IsOrder tracker.milestones id ids ∧ tracker.Reached progress ids advance)
      ↔ ∀ other, Milestone.Reaches tracker.milestones id other →
        other ∈ tracker.milestones.map Milestone.id := by
  constructor
  · rintro ⟨ids, advance, -, horder, -⟩ other hother
    exact horder.known ((horder.mem_iff other).2 hother)
  · intro hknown
    obtain ⟨ids, horder⟩ := Milestone.exists_order_iff.2 hknown
    have hids := Milestone.isOrder_of_order horder
    exact ⟨ids, tracker.reachAll ids progress, force_eq_ok_iff.2 ⟨horder, rfl⟩, hids,
      reached_reachAll hsilent hids.nodup hids.known progress⟩

/-- **A milestone cannot be forced** if something that it needs is not in the table. -/
theorem reaches_of_force {missing : String} (h : tracker.force id progress = .error missing) :
    Milestone.Reaches tracker.milestones id missing
      ∧ missing ∉ tracker.milestones.map Milestone.id :=
  Milestone.reaches_of_order (map_eq_error.1 h)

end Tracker

namespace Session

open Milestone (Visits)

variable {session : Session} {id : String}

theorem forceAll_singleton_of_error {missing : String}
    (h : session.tracker.force id session.progress = .error missing) :
    forceAll [id] session = (session, []) := by
  rw [forceAll, h]
  rfl

theorem forceAll_singleton_of_ok {ids : List String} {advance : Advance}
    (h : session.tracker.force id session.progress = .ok (ids, advance)) :
    forceAll [id] session = (session.advance advance, advance.events) := by
  rw [forceAll, h]
  simp [forceAll]

/-- **Forcing a milestone in any table**, with silent listeners. The walk down the requirements, by
its steps and with no bound on its depth, comes to an end, to one end only, and that is what is gone
by. The milestone cannot be forced exactly if something is reached from it that is not in the table;
one such id is named then, and the session stays as it was, with no event. Otherwise what has to be
achieved is all that is reached, each id once, the milestone last, and in order if nothing goes
round in a circle; and it is reached, and every listener hears of just what is announced. -/
theorem forced_in_any_table (session : Session) (id : String) (hsilent : session.tracker.Silent) :
    (∃ outcome, Visits session.tracker.milestones .start id outcome
        ∧ (∀ other, Visits session.tracker.milestones .start id other → other = outcome)
        ∧ Milestone.order session.tracker.milestones id = outcome.map Milestone.Walk.left)
      ∧ ((∃ missing, session.tracker.force id session.progress = .error missing)
        ↔ ∃ other, Milestone.Reaches session.tracker.milestones id other
          ∧ other ∉ session.tracker.milestones.map Milestone.id)
      ∧ (∀ missing, session.tracker.force id session.progress = .error missing →
        Milestone.Reaches session.tracker.milestones id missing
          ∧ missing ∉ session.tracker.milestones.map Milestone.id
          ∧ forceAll [id] session = (session, []))
      ∧ ((∀ other, Milestone.Reaches session.tracker.milestones id other →
          other ∈ session.tracker.milestones.map Milestone.id) →
        ∃ ids advance, session.tracker.force id session.progress = .ok (ids, advance)
          ∧ forceAll [id] session = (session.advance advance, advance.events)
          ∧ Milestone.IsOrder session.tracker.milestones id ids
          ∧ session.tracker.Reached session.progress ids advance
          ∧ ∀ index < session.tracker.listeners.length,
            Event.heardBy index advance.events = Event.announced advance.events) := by
  refine ⟨?_, ⟨?_, ?_⟩, ?_, ?_⟩
  · have hvisits := Milestone.visits_start session.tracker.milestones id
    exact ⟨_, hvisits, fun other hother => hother.unique hvisits, rfl⟩
  · rintro ⟨missing, hforce⟩
    exact ⟨missing, Tracker.reaches_of_force hforce⟩
  · rintro ⟨other, hother, hunknown⟩
    rcases hforce : session.tracker.force id session.progress with missing | ⟨ids, advance⟩
    · exact ⟨missing, rfl⟩
    · -- what was gone through would have the unknown id in it
      have horder := Milestone.isOrder_of_order (Tracker.force_eq_ok_iff.1 hforce).1
      exact absurd (horder.known ((horder.mem_iff other).2 hother)) hunknown
  · intro missing hforce
    obtain ⟨hreaches, hunknown⟩ := Tracker.reaches_of_force hforce
    exact ⟨hreaches, hunknown, forceAll_singleton_of_error hforce⟩
  · intro hknown
    obtain ⟨ids, advance, hforce, horder, hreached⟩ := (Tracker.exists_force_iff hsilent).2 hknown
    exact ⟨ids, advance, hforce, forceAll_singleton_of_ok hforce, horder, hreached,
      fun _ hpresent => (hsilent.attends hpresent).heardBy_force hforce⟩

/-- A table with an id that is given twice, a circle and an id that requires itself; and beside it
an id that needs one that is not in the table. -/
theorem forced_in_table_with_circle :
    let table : List Milestone := [⟨"a", "ls", none, none, ["lost"], ["pwd"], [], []⟩,
      ⟨"b", "ls", none, none, ["a", "c"], [], ["cd"], ["b!"]⟩,
      ⟨"c", "ls", none, none, [], ["find"], [], []⟩,
      ⟨"a", "ls", none, none, ["b", "a"], [" LS "], [], []⟩,
      ⟨"d", "ls", none, none, ["e"], [], [], []⟩,
      ⟨"e", "ls", none, none, ["c", "lost"], [], [], []⟩]
    let session : Session := { start ⟨"w", "w", [], [], [], ["echo"], ["cd"], table⟩
      FileSystem.initial with tracker := ⟨table, true, [⟨fun _ => none⟩]⟩ }
    session.tracker.Silent
      ∧ (∃ ids advance, session.tracker.force "a" session.progress = .ok (ids, advance)
        ∧ ids = ["c", "b", "a"] ∧ Milestone.IsOrder table "a" ids
        ∧ session.tracker.Reached session.progress ids advance
        ∧ Event.heardBy 0 advance.events = Event.announced advance.events
        ∧ "ls" ∈ advance.progress.gate.allowed ∧ "pwd" ∉ advance.progress.gate.allowed)
      ∧ forceAll ["d"] session = (session, [])
      ∧ ∃ other, Milestone.Reaches table "d" other ∧ other ∉ table.map Milestone.id := by
  intro table session
  have hsilent : session.tracker.Silent := by
    intro listener hlistener id
    rw [List.mem_singleton.1 hlistener]
  obtain ⟨-, hfails, -, hforces⟩ := forced_in_any_table session "a" hsilent
  obtain ⟨-, hfails', hstays, -⟩ := forced_in_any_table session "d" hsilent
  have hrun : (session.tracker.force "a" session.progress).toOption.map (fun forced =>
      (forced.1, decide ("ls" ∈ forced.2.progress.gate.allowed),
        decide ("pwd" ∈ forced.2.progress.gate.allowed)))
      = some (["c", "b", "a"], true, false) := by decide +kernel
  obtain ⟨forced, hforced, hrun⟩ := Option.map_eq_some_iff.1 hrun
  have hforce := ok_of_toOption hforced
  simp only [Prod.mk.injEq, decide_eq_true_eq, decide_eq_false_iff_not] at hrun
  obtain ⟨hids, hls, hpwd⟩ := hrun
  have hknown : ∀ other, Milestone.Reaches table "a" other → other ∈ table.map Milestone.id := by
    intro other hother
    by_contra hunknown
    obtain ⟨missing, hmissing⟩ := hfails.2 ⟨other, hother, hunknown⟩
    rw [hforce] at hmissing
    exact absurd hmissing (by simp)
  obtain ⟨ids, advance, hother, -, horder, hreached, hheard⟩ := hforces hknown
  rw [hforce] at hother
  obtain ⟨rfl, rfl⟩ := Prod.mk.inj (Except.ok.inj hother)
  have hfailed : (session.tracker.force "d" session.progress).isOk = false := by decide +kernel
  obtain ⟨missing, hmissing⟩ := exists_error_of_isOk hfailed
  exact ⟨hsilent, ⟨_, _, hforce, hids, horder, hreached, hheard 0 Nat.one_pos, hls, hpwd⟩,
    (hstays missing hmissing).2.2, hfails'.1 ⟨missing, hmissing⟩⟩

end Session

end StoryShell
