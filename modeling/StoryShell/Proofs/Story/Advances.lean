/-
What carries a story forward, and how.

A story advances by one milestone at a time: one of the table that is not achieved, though all that
it requires is (`Tracker.Advances`). Following a result is an advance by at most one milestone
(`advances_handle`), and forcing a milestone is one by as many as there are left to achieve for it,
in the order of the requirements. It may end early because a listener fails, and what was achieved
until then is an advance as well (`advances_force`).

So what holds of a story has to be shown for a single milestone only. In particular the milestones
that were announced since the story began are a faithful record of it (`IsRecord.advances`): each is
announced once and after all that it requires, and the announced ones are the achieved ones.

A milestone is announced by calling the listeners one after the other. The first of them hears of
every milestone that is announced, and so does any other before which none fails (`Attends`).
-/
import StoryShell.Proofs.Story.Visits
import StoryShell.Story.Tracker

set_option autoImplicit false

namespace StoryShell

/-! ## Announcements -/

namespace Event

/-- **The milestones that events announce**, in the order of the events. -/
def announced (events : List Event) : List String := events.filterMap milestone?

@[simp] theorem announced_nil : announced [] = [] := rfl

@[simp] theorem announced_append (first second : List Event) :
    announced (first ++ second) = announced first ++ announced second :=
  List.filterMap_append

@[simp] theorem announced_printed (text : String) (events : List Event) :
    announced (.printed text :: events) = announced events := rfl

@[simp] theorem announced_reached (id : String) (events : List Event) :
    announced (.reached id :: events) = id :: announced events := rfl

@[simp] theorem announced_logged (record : Log.Record) (events : List Event) :
    announced (.logged record :: events) = announced events := rfl

@[simp] theorem announced_records (records : List Log.Record) :
    announced (records.map .logged) = [] := by
  rw [announced, List.filterMap_map]
  exact List.filterMap_eq_nil_iff.2 fun _ _ => rfl

@[simp] theorem announced_published (result : Result) (events : List Event) :
    announced (.published result :: events) = announced events := rfl

@[simp] theorem announced_heard (listener : Nat) (id : String) (events : List Event) :
    announced (.heard listener id :: events) = announced events := rfl

/-- **The milestones that a listener hears of**, in the order of the events. -/
def heardBy (listener : Nat) (events : List Event) : List String :=
  events.filterMap (Event.heardBy? listener)

variable {listener : Nat}

@[simp] theorem heardBy_nil : heardBy listener [] = [] := rfl

@[simp] theorem heardBy_append (first second : List Event) :
    heardBy listener (first ++ second) = heardBy listener first ++ heardBy listener second :=
  List.filterMap_append

@[simp] theorem heardBy_printed (text : String) (events : List Event) :
    heardBy listener (.printed text :: events) = heardBy listener events := rfl

@[simp] theorem heardBy_reached (id : String) (events : List Event) :
    heardBy listener (.reached id :: events) = heardBy listener events := rfl

@[simp] theorem heardBy_logged (record : Log.Record) (events : List Event) :
    heardBy listener (.logged record :: events) = heardBy listener events := rfl

@[simp] theorem heardBy_published (result : Result) (events : List Event) :
    heardBy listener (.published result :: events) = heardBy listener events := rfl

theorem heardBy_heard (number : Nat) (id : String) (events : List Event) :
    heardBy listener (.heard number id :: events)
      = if number = listener then id :: heardBy listener events else heardBy listener events := by
  by_cases h : number = listener
  · have hheard : heardBy? listener (.heard number id) = some id := if_pos h
    rw [if_pos h, heardBy, List.filterMap_cons_some hheard, heardBy]
  · have hother : heardBy? listener (.heard number id) = none := if_neg h
    rw [if_neg h, heardBy, List.filterMap_cons_none hother, heardBy]

/-- In log records no milestone is heard of. -/
theorem heardBy_of_logged {events : List Event}
    (h : ∀ event ∈ events, ∃ record, event = .logged record) : heardBy listener events = [] := by
  refine List.filterMap_eq_nil_iff.2 fun event hevent => ?_
  obtain ⟨record, rfl⟩ := h event hevent
  rfl

end Event

namespace Progress

/-- An edit of the gate achieves nothing and announces nothing. -/
theorem edit_fixed (progress : Progress) (edit : GateEdit) (text : String) :
    (progress.edit edit text).1.achieved = progress.achieved
      ∧ Event.announced (progress.edit edit text).2 = [] := by
  simp only [Progress.edit]
  refine ⟨trivial, ?_⟩
  split
  · rfl
  · rfl

/-- Edits of the gate achieve nothing and announce nothing. -/
theorem editAll_fixed (edit : GateEdit) (texts : List String) (progress : Progress) :
    (editAll edit texts progress).1.achieved = progress.achieved
      ∧ Event.announced (editAll edit texts progress).2 = [] := by
  induction texts generalizing progress with
  | nil => exact ⟨rfl, rfl⟩
  | cons text rest ih =>
    obtain ⟨hachieved, hannounced⟩ := progress.edit_fixed edit text
    obtain ⟨hrestAchieved, hrestAnnounced⟩ := ih (progress.edit edit text).1
    simp only [editAll, Event.announced_append, hannounced, hrestAnnounced, List.nil_append]
    exact ⟨hrestAchieved.trans hachieved, trivial⟩

/-- Opening the gate achieves nothing and announces nothing. -/
theorem openGate_fixed (progress : Progress) (milestone : Milestone) :
    (progress.openGate milestone).1.achieved = progress.achieved
      ∧ Event.announced (progress.openGate milestone).2 = [] := by
  obtain ⟨hallowed, hallowedEvents⟩ := editAll_fixed .allow milestone.unlocks progress
  obtain ⟨hblocked, hblockedEvents⟩ :=
    editAll_fixed .unblock milestone.unblocks (editAll .allow milestone.unlocks progress).1
  simp only [openGate, Event.announced_append, hallowedEvents, hblockedEvents, List.nil_append]
  exact ⟨hblocked.trans hallowed, trivial⟩

/-- Of edits of the gate there are log records only. -/
theorem logged_of_mem_editAll {edit : GateEdit} {texts : List String} {progress : Progress}
    {event : Event} (h : event ∈ (editAll edit texts progress).2) :
    ∃ record, event = .logged record := by
  induction texts generalizing progress with
  | nil => simp [editAll] at h
  | cons text rest ih =>
    rw [editAll] at h
    rcases List.mem_append.1 h with h | h
    · simp only [Progress.edit] at h
      split at h
      · exact ⟨_, List.mem_singleton.1 h⟩
      · simp at h
    · exact ih h

/-- Of the opening of the gate there are log records only. -/
theorem logged_of_mem_openGate {progress : Progress} {milestone : Milestone} {event : Event}
    (h : event ∈ (progress.openGate milestone).2) : ∃ record, event = .logged record := by
  rcases List.mem_append.1 h with h | h
  · exact logged_of_mem_editAll h
  · exact logged_of_mem_editAll h

end Progress

/-! ## Listeners -/

namespace Listener

variable {milestone : String}

/-- **The failure of a call of listeners** is that of the first of them that fails. -/
theorem failure_callAll (number : Nat) (listeners : List Listener) :
    (callAll milestone number listeners).2 = listeners.findSome? (·.failure? milestone) := by
  induction listeners generalizing number with
  | nil => rfl
  | cons listener rest ih =>
    rw [callAll, List.findSome?_cons]
    cases listener.failure? milestone with
    | some words => rfl
    | none => exact ih (number + 1)

/-- In a call of listeners they hear of the milestone, and nothing else happens. -/
theorem eq_heard_of_mem_callAll {number : Nat} {listeners : List Listener} {event : Event}
    (h : event ∈ (callAll milestone number listeners).1) :
    ∃ listener, number ≤ listener ∧ event = .heard listener milestone := by
  induction listeners generalizing number with
  | nil => simp [callAll] at h
  | cons listener rest ih =>
    rw [callAll] at h
    cases hfailure : listener.failure? milestone with
    | some words =>
      simp only [hfailure, List.mem_singleton] at h
      exact ⟨number, Nat.le_refl number, h⟩
    | none =>
      simp only [hfailure, List.mem_cons] at h
      rcases h with h | h
      · exact ⟨number, Nat.le_refl number, h⟩
      · obtain ⟨other, hother, hevent⟩ := ih h
        exact ⟨other, Nat.le_of_succ_le hother, hevent⟩

/-- Listeners with other numbers do not hear of it. -/
theorem heardBy_callAll_of_lt {listener number : Nat} (h : listener < number)
    (listeners : List Listener) :
    Event.heardBy listener (callAll milestone number listeners).1 = [] := by
  refine List.filterMap_eq_nil_iff.2 fun event hevent => ?_
  obtain ⟨other, hother, rfl⟩ := eq_heard_of_mem_callAll hevent
  exact if_neg (by omega)

/-- **A listener hears of a milestone**, once, if none before it fails on that. -/
theorem heardBy_callAll (milestone : String) (number index : Nat) (listeners : List Listener) :
    Event.heardBy (number + index) (callAll milestone number listeners).1
      = if index < listeners.length
          ∧ ∀ listener ∈ listeners.take index, listener.failure? milestone = none
        then [milestone] else [] := by
  induction listeners generalizing number index with
  | nil => simp [callAll]
  | cons listener rest ih =>
    rw [callAll]
    cases index with
    | zero =>
      cases listener.failure? milestone with
      | some words => simp [Event.heardBy_heard]
      | none => simp [Event.heardBy_heard, heardBy_callAll_of_lt (Nat.lt_succ_self number)]
    | succ index =>
      have hother : number ≠ number + (index + 1) := by omega
      cases hfailure : listener.failure? milestone with
      | some words => simp [Event.heardBy_heard, hfailure]
      | none =>
        have hrest := ih (number + 1) index
        rw [show number + 1 + index = number + (index + 1) by omega] at hrest
        simp only [Event.heardBy_heard, if_neg hother, hrest, List.length_cons,
          Nat.add_lt_add_iff_right, List.take_succ_cons, List.forall_mem_cons, hfailure, true_and]

end Listener

namespace Tracker

variable {tracker : Tracker} {progress after : Progress} {milestone : Milestone}

/-! ## One milestone -/

/-- **A milestone that is reached is achieved**, and nothing else is. -/
theorem achieved_reach (tracker : Tracker) (milestone : Milestone) (withNarrative : Bool)
    (progress : Progress) :
    (tracker.reach milestone withNarrative progress).progress.achieved
      = progress.achieved.add milestone.id := by
  have hqueue : ∀ (entry : NarrativeEntry) (state : Progress),
      (if (withNarrative && !milestone.narrative.isEmpty) = true then state.enqueue entry
        else state).achieved = state.achieved := by
    intro entry state
    split
    · rfl
    · rfl
  simp only [reach, hqueue]
  cases tracker.opensGate with
  | false => rfl
  | true => exact (Progress.openGate_fixed _ milestone).1

/-- **A milestone that is reached is announced**, and nothing else is. -/
theorem announced_reach (tracker : Tracker) (milestone : Milestone) (withNarrative : Bool)
    (progress : Progress) :
    Event.announced (tracker.reach milestone withNarrative progress).events = [milestone.id] := by
  have hcalls : Event.announced (Listener.callAll milestone.id 0 tracker.listeners).1 = [] := by
    refine List.filterMap_eq_nil_iff.2 fun event hevent => ?_
    obtain ⟨listener, -, rfl⟩ := Listener.eq_heard_of_mem_callAll hevent
    rfl
  simp only [reach]
  cases tracker.opensGate with
  | false => simp [hcalls]
  | true =>
    simp [hcalls, (Progress.openGate_fixed { progress with
      achieved := progress.achieved.add milestone.id } milestone).2]

/-- The failure of the listeners when a milestone is reached. -/
theorem failure_reach (tracker : Tracker) (milestone : Milestone) (withNarrative : Bool)
    (progress : Progress) :
    (tracker.reach milestone withNarrative progress).failure
      = tracker.listeners.findSome? (·.failure? milestone.id) :=
  Listener.failure_callAll 0 tracker.listeners

/-- **A listener hears of a milestone that is reached** if none before it fails on that. -/
theorem heardBy_reach (tracker : Tracker) (milestone : Milestone) (withNarrative : Bool)
    (progress : Progress) (index : Nat) :
    Event.heardBy index (tracker.reach milestone withNarrative progress).events
      = if index < tracker.listeners.length
          ∧ ∀ listener ∈ tracker.listeners.take index, listener.failure? milestone.id = none
        then [milestone.id] else [] := by
  have hcalls := Listener.heardBy_callAll milestone.id 0 index tracker.listeners
  rw [Nat.zero_add] at hcalls
  have hopened : Event.heardBy index (Progress.openGate { progress with
      achieved := progress.achieved.add milestone.id } milestone).2 = [] :=
    Event.heardBy_of_logged fun _ hevent => Progress.logged_of_mem_openGate hevent
  simp only [reach]
  cases tracker.opensGate with
  | false => simpa using hcalls
  | true => simpa [hopened] using hcalls

/-- **Of a milestone that is reached** there are log records, the announcement, and that listeners
hear of it. -/
theorem mem_events_reach {tracker : Tracker} {milestone : Milestone} {withNarrative : Bool}
    {progress : Progress} {event : Event}
    (h : event ∈ (tracker.reach milestone withNarrative progress).events) :
    event = .reached milestone.id ∨ (∃ listener, event = .heard listener milestone.id)
      ∨ ∃ record, event = .logged record := by
  simp only [reach] at h
  rcases List.mem_append.1 h with h | h
  · rcases List.mem_cons.1 h with h | h
    · exact .inr (.inr ⟨_, h⟩)
    · cases hopens : tracker.opensGate with
      | false => simp [hopens] at h
      | true =>
        rw [hopens] at h
        exact .inr (.inr (Progress.logged_of_mem_openGate h))
  · rcases List.mem_cons.1 h with h | h
    · exact .inl h
    · obtain ⟨listener, -, hevent⟩ := Listener.eq_heard_of_mem_callAll h
      exact .inr (.inl ⟨listener, hevent⟩)

/-- A milestone is due if it is not achieved, and all that it requires is. -/
theorem isDue_iff :
    isDue progress milestone = true
      ↔ milestone.id ∉ progress.achieved
        ∧ ∀ required ∈ milestone.requires, required ∈ progress.achieved := by
  simp [isDue]

/-! ## Advances -/

/-- **An advance of the story** by some milestones, each of which is of the table and due when it is
reached. -/
inductive Advances (tracker : Tracker) : Progress → List String → Progress → Prop where
  | rest (progress : Progress) : tracker.Advances progress [] progress
  | reach {progress after : Progress} {milestone : Milestone} {ids : List String}
    (withNarrative : Bool) (known : milestone ∈ tracker.milestones)
    (due : isDue progress milestone = true)
    (later : tracker.Advances (tracker.reach milestone withNarrative progress).progress ids after) :
    tracker.Advances progress (milestone.id :: ids) after

/-- Reaching a milestone is an advance. -/
theorem advances_reach (withNarrative : Bool) (hknown : milestone ∈ tracker.milestones)
    (hdue : isDue progress milestone = true) :
    tracker.Advances progress [milestone.id]
      (tracker.reach milestone withNarrative progress).progress :=
  .reach withNarrative hknown hdue (.rest _)

/-- An advance can be followed by another one. -/
theorem Advances.trans {ids more : List String} {further : Progress}
    (h : tracker.Advances progress ids after) (h' : tracker.Advances after more further) :
    tracker.Advances progress (ids ++ more) further := by
  induction h with
  | rest => exact h'
  | reach withNarrative known due later ih => exact .reach withNarrative known due (ih h')

/-- What was achieved stays achieved. -/
theorem Advances.mem_achieved {ids : List String} (h : tracker.Advances progress ids after)
    {id : String} (hid : id ∈ progress.achieved) : id ∈ after.achieved := by
  induction h with
  | rest => exact hid
  | reach withNarrative known due later ih =>
    refine ih ?_
    rw [achieved_reach, NameSet.mem_add]
    exact .inr hid

/-! ## Following a result -/

/-- **A result can reach a milestone** that is not achieved, with all that it requires achieved, and
that the result triggers. -/
def CanReach (progress : Progress) (forest : Forest) (result : Result) (milestone : Milestone) :
    Prop :=
  milestone.id ∉ progress.achieved ∧ (∀ required ∈ milestone.requires, required ∈ progress.achieved)
    ∧ milestone.isTriggeredBy forest result = true

/-- The milestone that is looked for is one that the result can reach. -/
theorem canReach_iff {forest : Forest} {result : Result} :
    CanReach progress forest result milestone
      ↔ (isDue progress milestone && milestone.isTriggeredBy forest result) = true := by
  rw [Bool.and_eq_true, isDue_iff, and_assoc]
  rfl

/-- The milestone that a result reaches is looked for in the whole table: an error triggers none of
it anyway. -/
theorem next?_eq (tracker : Tracker) (progress : Progress) (forest : Forest) (result : Result) :
    tracker.next? progress forest result
      = tracker.milestones.find? fun milestone =>
          isDue progress milestone && milestone.isTriggeredBy forest result := by
  rw [next?]
  by_cases herror : result.isError = true
  · rw [if_pos herror, eq_comm, List.find?_eq_none]
    simp [Milestone.isTriggeredBy, herror]
  · rw [if_neg herror]

/-- **The milestone that a result reaches** is the first of the table that it can reach. -/
theorem next?_eq_some_iff {forest : Forest} {result : Result} :
    tracker.next? progress forest result = some milestone
      ↔ CanReach progress forest result milestone
        ∧ ∃ before rest, tracker.milestones = before ++ milestone :: rest
          ∧ ∀ other ∈ before, ¬ CanReach progress forest result other := by
  rw [next?_eq, List.find?_eq_some_iff_append]
  simp only [canReach_iff, Bool.not_eq_true, Bool.not_eq_true']

/-- A result reaches nothing if there is no milestone that it can reach. -/
theorem next?_eq_none_iff {forest : Forest} {result : Result} :
    tracker.next? progress forest result = none
      ↔ ∀ milestone ∈ tracker.milestones, ¬ CanReach progress forest result milestone := by
  rw [next?_eq, List.find?_eq_none]
  simp only [canReach_iff]

/-- **Following a result** announces the milestone that it reaches, and nothing else. -/
theorem announced_handle (tracker : Tracker) (progress : Progress) (forest : Forest)
    (result : Result) :
    Event.announced (tracker.handle progress forest result).2.events
      = ((tracker.next? progress forest result).map Milestone.id).toList := by
  rw [handle]
  cases tracker.next? progress forest result with
  | none => rfl
  | some milestone => exact tracker.announced_reach milestone true progress

/-- **Following a result is an advance.** -/
theorem advances_handle (tracker : Tracker) (progress : Progress) (forest : Forest)
    (result : Result) :
    tracker.Advances progress (Event.announced (tracker.handle progress forest result).2.events)
      (tracker.handle progress forest result).2.progress := by
  rw [announced_handle, handle]
  cases hnext : tracker.next? progress forest result with
  | none => exact .rest progress
  | some milestone =>
    obtain ⟨⟨hnew, hrequired, -⟩, before, rest, htable, -⟩ := next?_eq_some_iff.1 hnext
    refine advances_reach true ?_ (isDue_iff.2 ⟨hnew, hrequired⟩)
    rw [htable]
    exact List.mem_append_right before List.mem_cons_self

/-- **What following a result newly achieves** is a milestone that the result triggered. -/
theorem trigger_of_handle {forest : Forest} {result : Result} {id : String}
    (hnew : id ∉ progress.achieved)
    (hnow : id ∈ (tracker.handle progress forest result).2.progress.achieved) :
    ∃ milestone ∈ tracker.milestones, milestone.id = id
      ∧ milestone.isTriggeredBy forest result = true := by
  rw [handle] at hnow
  cases hnext : tracker.next? progress forest result with
  | none =>
    rw [hnext] at hnow
    exact absurd hnow hnew
  | some milestone =>
    rw [hnext] at hnow
    obtain ⟨⟨-, -, htriggers⟩, before, rest, htable, -⟩ := next?_eq_some_iff.1 hnext
    rw [achieved_reach, NameSet.mem_add] at hnow
    refine ⟨milestone, ?_, (hnow.resolve_right hnew).symm, htriggers⟩
    rw [htable]
    exact List.mem_append_right before List.mem_cons_self

/-- **A milestone that a result alone can be for** is achieved after the result, if all that it
requires was. -/
theorem mem_achieved_handle {forest : Forest} {result : Result}
    (hmem : milestone ∈ tracker.milestones)
    (hrequired : ∀ required ∈ milestone.requires, required ∈ progress.achieved)
    (htriggers : milestone.isTriggeredBy forest result = true)
    (halone : ∀ other ∈ tracker.milestones, other.isTriggeredBy forest result = true →
      other = milestone) :
    milestone.id ∈ (tracker.handle progress forest result).2.progress.achieved := by
  by_cases hachieved : milestone.id ∈ progress.achieved
  · exact (tracker.advances_handle progress forest result).mem_achieved hachieved
  · rw [handle]
    cases hnext : tracker.next? progress forest result with
    | none =>
      exact absurd ⟨hachieved, hrequired, htriggers⟩ (next?_eq_none_iff.1 hnext milestone hmem)
    | some found =>
      -- the first milestone that the result can reach is the only one that it triggers
      obtain ⟨⟨-, -, hfound⟩, before, rest, htable, -⟩ := next?_eq_some_iff.1 hnext
      have hsame : found = milestone := by
        refine halone found ?_ hfound
        rw [htable]
        exact List.mem_append_right before List.mem_cons_self
      rw [hsame]
      exact (achieved_reach tracker milestone true progress).symm ▸ NameSet.mem_add.2 (.inl rfl)

/-! ## Forcing a milestone -/

/-- **Reaching ids in order is an advance**, also if a listener ends it early. All before the ids in
the order is achieved. -/
theorem advances_reachAll (hvalid : Milestone.Valid tracker.milestones) (done : List String)
    {ids : List String}
    (horder : Milestone.InOrder tracker.milestones (done ++ ids))
    (hids : ids ⊆ tracker.milestones.map Milestone.id)
    (hdone : ∀ id ∈ done, id ∈ progress.achieved) :
    tracker.Advances progress (Event.announced (tracker.reachAll ids progress).events)
      (tracker.reachAll ids progress).progress := by
  induction ids generalizing done progress with
  | nil => exact .rest progress
  | cons id rest ih =>
    obtain ⟨hid, hrest⟩ := List.cons_subset.1 hids
    -- the id belongs to what is done, as soon as it is achieved
    have hmoved : Milestone.InOrder tracker.milestones ((done ++ [id]) ++ rest) := by
      rwa [List.append_assoc, List.singleton_append]
    have hmore : ∀ {state : Progress}, (∀ other ∈ done, other ∈ state.achieved) →
        id ∈ state.achieved → ∀ other ∈ done ++ [id], other ∈ state.achieved := by
      intro state hstate hachieved other hother
      rcases List.mem_append.1 hother with hother | hother
      · exact hstate other hother
      · rw [List.mem_singleton.1 hother]
        exact hachieved
    rw [reachAll]
    by_cases hachieved : id ∈ progress.achieved
    · rw [if_pos hachieved]
      exact ih _ hmoved hrest (hmore hdone hachieved)
    · rw [if_neg hachieved]
      obtain ⟨milestone, hmem, rfl⟩ := List.mem_map.1 hid
      rw [Milestone.withId?_of_mem hvalid.nodup hmem]
      have hrequired : milestone.requires ⊆ done := by
        rw [← hvalid.requirements_eq hmem]
        exact horder done milestone.id rest rfl
      have hdue : isDue progress milestone = true :=
        isDue_iff.2 ⟨hachieved, fun required h => hdone required (hrequired h)⟩
      have hadvances := advances_reach false hmem hdue
      have hannounced := tracker.announced_reach milestone false progress
      have hafter := tracker.achieved_reach milestone false progress
      dsimp only
      generalize tracker.reach milestone false progress = advance at hadvances hannounced hafter ⊢
      -- the listeners may end it here
      split
      · rwa [hannounced]
      · have hstill : ∀ other ∈ done, other ∈ advance.progress.achieved :=
          fun other hother => hadvances.mem_achieved (hdone other hother)
        have hnow : milestone.id ∈ advance.progress.achieved := by
          rw [hafter, NameSet.mem_add]
          exact .inl rfl
        rw [Event.announced_append, hannounced]
        exact hadvances.trans (ih _ hmoved hrest (hmore hstill hnow))

/-- **What forcing a milestone gives** is what reaching all that has to be achieved for it gives. -/
theorem force_eq_ok_iff {id : String} {ids : List String} {advance : Advance} :
    tracker.force id progress = .ok (ids, advance)
      ↔ Milestone.order tracker.milestones id = .ok ids
        ∧ tracker.reachAll ids progress = advance := by
  rw [force, map_eq_ok]
  constructor
  · rintro ⟨found, horder, hforced⟩
    obtain ⟨rfl, hadvance⟩ := Prod.mk.inj hforced
    exact ⟨horder, hadvance⟩
  · rintro ⟨horder, hadvance⟩
    exact ⟨ids, horder, congrArg (ids, ·) hadvance⟩

/-- **Forcing a milestone is an advance**, if the table is valid. -/
theorem advances_force (hvalid : Milestone.Valid tracker.milestones) {id : String}
    {ids : List String} {advance : Advance}
    (h : tracker.force id progress = .ok (ids, advance)) :
    tracker.Advances progress (Event.announced advance.events) advance.progress := by
  obtain ⟨horder, rfl⟩ := force_eq_ok_iff.1 h
  obtain ⟨hinOrder, -, hknown⟩ := Milestone.inOrder_of_order hvalid horder
  exact advances_reachAll hvalid [] hinOrder hknown (by simp)

end Tracker

/-! ## Listeners that hear of everything -/

namespace Tracker

variable {tracker : Tracker} {index : Nat}

/-- **A listener attends** if it is there and none before it ever fails. -/
structure Attends (tracker : Tracker) (index : Nat) : Prop where
  present : index < tracker.listeners.length
  unhindered : ∀ listener ∈ tracker.listeners.take index, ∀ id, listener.failure? id = none

/-- The first listener attends, if there is one. -/
theorem attends_first (h : tracker.listeners ≠ []) : tracker.Attends 0 :=
  ⟨List.length_pos_iff.2 h, by simp⟩

/-- A listener that attends hears of a milestone that is reached. -/
theorem Attends.heardBy_reach (h : tracker.Attends index) (milestone : Milestone)
    (withNarrative : Bool) (progress : Progress) :
    Event.heardBy index (tracker.reach milestone withNarrative progress).events
      = Event.announced (tracker.reach milestone withNarrative progress).events := by
  rw [tracker.heardBy_reach, announced_reach,
    if_pos ⟨h.present, fun listener hmem => h.unhindered listener hmem milestone.id⟩]

/-- It hears of the milestone that a result reaches. -/
theorem Attends.heardBy_handle (h : tracker.Attends index) (progress : Progress) (forest : Forest)
    (result : Result) :
    Event.heardBy index (tracker.handle progress forest result).2.events
      = Event.announced (tracker.handle progress forest result).2.events := by
  rw [handle]
  cases tracker.next? progress forest result with
  | none => rfl
  | some milestone => exact h.heardBy_reach milestone true progress

/-- It hears of all milestones that are reached one by one, also if another one ends that early. -/
theorem Attends.heardBy_reachAll (h : tracker.Attends index) (ids : List String)
    (progress : Progress) :
    Event.heardBy index (tracker.reachAll ids progress).events
      = Event.announced (tracker.reachAll ids progress).events := by
  induction ids generalizing progress with
  | nil => rfl
  | cons id rest ih =>
    rw [reachAll]
    split
    · exact ih progress
    · split
      · exact ih progress
      · rename_i milestone hmilestone
        have hreach := h.heardBy_reach milestone false progress
        dsimp only
        generalize tracker.reach milestone false progress = advance at hreach ⊢
        -- the listeners may end it here
        split
        · exact hreach
        · rw [Event.heardBy_append, Event.announced_append, hreach, ih]

/-- **It hears of all milestones that are forced.** -/
theorem Attends.heardBy_force (h : tracker.Attends index) {progress : Progress} {id : String}
    {ids : List String} {advance : Advance}
    (hforce : tracker.force id progress = .ok (ids, advance)) :
    Event.heardBy index advance.events = Event.announced advance.events := by
  obtain ⟨-, rfl⟩ := force_eq_ok_iff.1 hforce
  exact h.heardBy_reachAll ids progress

end Tracker

/-! ## Records -/

namespace Milestone

/-- **A record of a story**: it has every milestone that is achieved, each of them once, and each
after all that it requires. -/
structure IsRecord (table : List Milestone) (record : List String) (achieved : NameSet) : Prop where
  nodup : record.Nodup
  mem_iff : ∀ id, id ∈ achieved ↔ id ∈ record
  known : record ⊆ table.map Milestone.id
  inOrder : InOrder table record

/-- A story that has not begun has an empty record. -/
theorem isRecord_empty (table : List Milestone) : IsRecord table [] NameMap.empty :=
  ⟨List.nodup_nil, fun id => by simp [NameSet.mem_iff], List.nil_subset _, inOrder_nil⟩

/-- A record goes on with a milestone that is due. -/
theorem IsRecord.concat {table : List Milestone} (hvalid : Valid table) {record : List String}
    {progress : Progress} (h : IsRecord table record progress.achieved) {milestone : Milestone}
    (hmem : milestone ∈ table) (hdue : Tracker.isDue progress milestone = true) :
    IsRecord table (record ++ [milestone.id]) (progress.achieved.add milestone.id) := by
  obtain ⟨hnew, hrequired⟩ := Tracker.isDue_iff.1 hdue
  refine ⟨?_, fun id => ?_, fun id hid => ?_, h.inOrder.concat fun required hmemRequired => ?_⟩
  · rw [List.nodup_append_comm]
    exact List.nodup_cons.2 ⟨mt (h.mem_iff _).2 hnew, h.nodup⟩
  · rw [NameSet.mem_add, h.mem_iff, List.mem_append, List.mem_singleton, or_comm]
  · rcases List.mem_append.1 hid with hid | hid
    · exact h.known hid
    · rw [List.mem_singleton.1 hid]
      exact List.mem_map_of_mem hmem
  · rw [hvalid.requirements_eq hmem] at hmemRequired
    exact (h.mem_iff required).1 (hrequired required hmemRequired)

/-- **A record goes on with what an advance announces.** -/
theorem IsRecord.advances {tracker : Tracker} (hvalid : Valid tracker.milestones)
    {record ids : List String} {progress after : Progress}
    (h : IsRecord tracker.milestones record progress.achieved)
    (hadvances : tracker.Advances progress ids after) :
    IsRecord tracker.milestones (record ++ ids) after.achieved := by
  induction hadvances generalizing record with
  | rest => rwa [List.append_nil]
  | reach withNarrative known due later ih =>
    have hnext := h.concat hvalid known due
    rw [← Tracker.achieved_reach] at hnext
    have hall := ih hnext
    rwa [List.append_assoc, List.singleton_append] at hall

/-- What is achieved in a story with a record is closed: all that it requires is achieved. -/
theorem IsRecord.closed {table : List Milestone} (hvalid : Valid table) {record : List String}
    {achieved : NameSet} (h : IsRecord table record achieved) {milestone : Milestone}
    (hmem : milestone ∈ table) (hachieved : milestone.id ∈ achieved) {required : String}
    (hrequired : required ∈ milestone.requires) : required ∈ achieved := by
  obtain ⟨before, rest, hrecord⟩ := List.append_of_mem ((h.mem_iff _).1 hachieved)
  rw [← hvalid.requirements_eq hmem] at hrequired
  rw [h.mem_iff, hrecord]
  exact List.mem_append_left _ (h.inOrder before milestone.id rest hrecord hrequired)

end Milestone

end StoryShell
