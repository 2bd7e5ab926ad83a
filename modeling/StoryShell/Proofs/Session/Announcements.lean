/-
What is announced in the course of a story.

The tracker of a session follows results, either shown to it alone or published to all observers,
and milestones are forced. In between anything may happen that leaves the table and what is achieved
alone: lines are carried out, the gate is edited, narrative is told, and listeners start or stop
failing (`Session.Follows`). Whatever the order, and even if a listener ends the forcing of a
milestone early, the milestones that are announced are those that are achieved, each of them once
and after all that it requires (`announced_once_in_order`). As long as there is a listener, the
first one hears of just these milestones.
-/
import StoryShell.Proofs.Session.Publishing
import StoryShell.Proofs.Story.Advances
import StoryShell.Proofs.World.Build

set_option autoImplicit false

namespace StoryShell

open Event (announced announced_nil announced_append announced_printed announced_logged heardBy
  heardBy_nil heardBy_append heardBy_printed heardBy_logged)

/-- A console announces nothing. -/
theorem Console.announced_observe (console : Console) (result : Result) :
    announced (console.observe result).2 = [] := by
  rcases console.events_observe result with hsilent | ⟨text, hprints⟩
  · rw [hsilent]
    rfl
  · rw [hprints]
    rfl

namespace Session

variable {first session : Session} {events : List Event}

/-- **Publishing a result is an advance of the story**, whoever observes. -/
theorem advances_publish (session : Session) (result : Result) :
    session.tracker.Advances session.progress (announced (session.publish result).2)
      (session.publish result).1.progress := by
  refine session.publish_preserves result (P := fun progress events =>
    session.tracker.Advances session.progress (announced events) progress) ?_ ?_ ?_ (.rest _)
  · intro progress events text hadvances
    rwa [announced_append, announced_printed, announced_nil, List.append_nil]
  · intro progress events record hadvances
    rwa [announced_append, announced_logged, announced_nil, List.append_nil]
  · -- only the tracker carries the story forward, and by what it announces
    intro progress events hadvances
    rw [announced_append]
    exact hadvances.trans (session.tracker.advances_handle progress session.fs.forest result)

/-- **Whoever attends hears of all that is announced** when a result is published, whoever
observes. -/
theorem heardBy_publish {session : Session} {index : Nat} (h : session.tracker.Attends index)
    (result : Result) :
    heardBy index (session.publish result).2 = announced (session.publish result).2 := by
  refine session.publish_preserves result (P := fun _ events =>
    heardBy index events = announced events) ?_ ?_ ?_ rfl
  · intro progress events text hheard
    rw [heardBy_append, announced_append, hheard, heardBy_printed, announced_printed, heardBy_nil,
      announced_nil]
  · intro progress events record hheard
    rw [heardBy_append, announced_append, hheard, heardBy_logged, announced_logged, heardBy_nil,
      announced_nil]
  · intro progress events hheard
    rw [heardBy_append, announced_append, hheard, h.heardBy_handle]

/-- **A session that another one comes to as its story goes on**, with the events on the way. The
tracker follows results, alone or among the observers, and milestones are forced, each time in a
session that has what is wanted; what else happens meanwhile keeps the table and what is achieved.
-/
inductive FollowsWhile (wanted : Session → Prop) (first : Session) :
    List Event → Session → Prop where
  | start : FollowsWhile wanted first [] first
  | handle {events : List Event} {session : Session}
    (earlier : FollowsWhile wanted first events session) (has : wanted session)
    (forest : Forest) (result : Result) :
    FollowsWhile wanted first
      (events ++ (session.tracker.handle session.progress forest result).2.events)
      (session.advance (session.tracker.handle session.progress forest result).2)
  | publish {events : List Event} {session : Session}
    (earlier : FollowsWhile wanted first events session) (has : wanted session)
    (result : Result) :
    FollowsWhile wanted first (events ++ (session.publish result).2) (session.publish result).1
  | force {events : List Event} {session : Session}
    (earlier : FollowsWhile wanted first events session) (has : wanted session)
    {id : String} {ids : List String} {advance : Advance}
    (forces : session.tracker.force id session.progress = .ok (ids, advance)) :
    FollowsWhile wanted first (events ++ advance.events) (session.advance advance)
  | meanwhile {events : List Event} {session other : Session}
    (earlier : FollowsWhile wanted first events session)
    (sameTable : other.tracker.milestones = session.tracker.milestones)
    (sameAchieved : other.progress.achieved = session.progress.achieved) :
    FollowsWhile wanted first events other

/-- **A session that another one comes to as its story goes on**, whatever the sessions on the way
have. -/
abbrev Follows : Session → List Event → Session → Prop := FollowsWhile fun _ => True

/-- **A session that another one comes to while there is a listener.** -/
abbrev FollowsAttended : Session → List Event → Session → Prop :=
  FollowsWhile fun session => session.tracker.listeners ≠ []

/-- **While there is a listener the first one hears of all that is announced**, and of nothing
else. -/
theorem FollowsWhile.heardBy_first (h : first.FollowsAttended events session) :
    heardBy 0 events = announced events := by
  induction h with
  | start => rfl
  | @handle events session earlier has forest result ih =>
    rw [heardBy_append, announced_append, ih,
      (Tracker.attends_first has).heardBy_handle session.progress forest result]
  | @publish events session earlier has result ih =>
    rw [heardBy_append, announced_append, ih, heardBy_publish (Tracker.attends_first has) result]
  | @force events session earlier has id ids advance forces ih =>
    rw [heardBy_append, announced_append, ih, (Tracker.attends_first has).heardBy_force forces]
  | meanwhile earlier sameTable sameAchieved ih => exact ih

/-- **All along what was announced is a record of the story.** -/
theorem FollowsWhile.isRecord (h : first.Follows events session)
    (hvalid : Milestone.Valid first.tracker.milestones)
    (hnew : first.progress.achieved = NameMap.empty) :
    session.tracker.milestones = first.tracker.milestones
      ∧ Milestone.IsRecord first.tracker.milestones (announced events)
        session.progress.achieved := by
  induction h with
  | start =>
    rw [hnew]
    exact ⟨rfl, Milestone.isRecord_empty _⟩
  | @handle events session earlier has forest result ih =>
    obtain ⟨htable, hrecord⟩ := ih
    refine ⟨htable, ?_⟩
    rw [← htable] at hrecord hvalid ⊢
    rw [announced_append]
    exact hrecord.advances hvalid
      (session.tracker.advances_handle session.progress forest result)
  | @publish events session earlier has result ih =>
    obtain ⟨htable, hrecord⟩ := ih
    have htracker := (session.publish_fixed result).2.2.1
    refine ⟨by rw [htracker, htable], ?_⟩
    rw [← htable] at hrecord hvalid ⊢
    rw [announced_append]
    exact hrecord.advances hvalid (session.advances_publish result)
  | @force events session earlier has id ids advance forces ih =>
    obtain ⟨htable, hrecord⟩ := ih
    refine ⟨htable, ?_⟩
    rw [← htable] at hrecord hvalid ⊢
    rw [announced_append]
    exact hrecord.advances hvalid (Tracker.advances_force hvalid forces)
  | meanwhile earlier sameTable sameAchieved ih =>
    rw [sameTable, sameAchieved]
    exact ih

/-- **Milestones are announced once and in the order of their requirements**, from a story's
beginning on. The announced ones are the achieved ones, so what is achieved is closed under
requirements; a result that the tracker follows next announces the first milestone of the table that
it can reach, or nothing if there is none; and if there was a listener all along, then the announced
milestones are those that the first one has heard of, in this order. -/
theorem announced_once_in_order
    (hvalid : Milestone.validate first.tracker.milestones = .ok ())
    (hnew : first.progress.achieved = NameMap.empty) (h : first.Follows events session) :
    (announced events).Nodup
      ∧ (∀ id, id ∈ session.progress.achieved ↔ id ∈ announced events)
      ∧ (∀ before id rest, announced events = before ++ id :: rest →
          ∃ milestone ∈ first.tracker.milestones,
            milestone.id = id ∧ milestone.requires ⊆ before)
      ∧ (∀ milestone ∈ first.tracker.milestones, milestone.id ∈ session.progress.achieved →
          ∀ required ∈ milestone.requires, required ∈ session.progress.achieved)
      ∧ (∀ forest result,
          announced (session.tracker.handle session.progress forest result).2.events = []
            ∧ (∀ milestone ∈ first.tracker.milestones,
              ¬ Tracker.CanReach session.progress forest result milestone)
          ∨ ∃ before milestone rest, first.tracker.milestones = before ++ milestone :: rest
            ∧ announced (session.tracker.handle session.progress forest result).2.events
              = [milestone.id]
            ∧ Tracker.CanReach session.progress forest result milestone
            ∧ ∀ other ∈ before, ¬ Tracker.CanReach session.progress forest result other)
      ∧ (first.FollowsAttended events session → heardBy 0 events = announced events) := by
  have htableValid := Milestone.valid_of_validate hvalid
  obtain ⟨htable, hrecord⟩ := h.isRecord htableValid hnew
  refine ⟨hrecord.nodup, hrecord.mem_iff, ?_,
    fun milestone hmem hachieved required => hrecord.closed htableValid hmem hachieved, ?_,
    fun hattended => hattended.heardBy_first⟩
  · intro before id rest hsplit
    have hmem : id ∈ announced events := by
      rw [hsplit]
      exact List.mem_append_right before List.mem_cons_self
    obtain ⟨milestone, hmilestone, rfl⟩ := List.mem_map.1 (hrecord.known hmem)
    have hrequired := hrecord.inOrder before milestone.id rest hsplit
    rw [htableValid.requirements_eq hmilestone] at hrequired
    exact ⟨milestone, hmilestone, rfl, hrequired⟩
  · intro forest result
    rw [Tracker.announced_handle, ← htable]
    cases hnext : session.tracker.next? session.progress forest result with
    | none => exact .inl ⟨rfl, Tracker.next?_eq_none_iff.1 hnext⟩
    | some milestone =>
      obtain ⟨hreach, before, rest, hsplit, hbefore⟩ := Tracker.next?_eq_some_iff.1 hnext
      exact .inr ⟨before, milestone, rest, hsplit, rfl, hreach, hbefore⟩

/-- A forced milestone whose first requirement a listener fails on, and which a result then
reaches. -/
theorem announced_once_in_order_despite_listener :
    let table : List Milestone := [⟨"b", "echo", none, none, ["a"], ["pwd"], [], []⟩,
      ⟨"a", "pwd", none, none, [], [], [], []⟩]
    let first : Session := { start ⟨"w", "w", [], [], [], [], [], table⟩ FileSystem.initial with
      tracker := ⟨table, true, [⟨fun id => if id = "a" then some "no" else none⟩]⟩ }
    ∃ (ids : List String) (advance : Advance) (events : List Event) (session : Session),
      first.tracker.force "b" first.progress = .ok (ids, advance) ∧ advance.failure = some "no"
        ∧ first.Follows events session ∧ announced events = ["a", "b"]
        ∧ (announced events).Nodup
        ∧ (∀ id, id ∈ session.progress.achieved ↔ id ∈ announced events)
        ∧ (∀ before id rest, announced events = before ++ id :: rest →
            ∃ milestone ∈ table, milestone.id = id ∧ milestone.requires ⊆ before)
        ∧ (∀ milestone ∈ table, milestone.id ∈ session.progress.achieved →
            ∀ required ∈ milestone.requires, required ∈ session.progress.achieved)
        ∧ (∀ forest result,
            announced (session.tracker.handle session.progress forest result).2.events = []
              ∧ (∀ milestone ∈ table,
                ¬ Tracker.CanReach session.progress forest result milestone)
            ∨ ∃ before milestone rest, table = before ++ milestone :: rest
              ∧ announced (session.tracker.handle session.progress forest result).2.events
                = [milestone.id]
              ∧ Tracker.CanReach session.progress forest result milestone
              ∧ ∀ other ∈ before, ¬ Tracker.CanReach session.progress forest result other)
        ∧ heardBy 0 events = announced events := by
  intro table first
  have hrun : (first.tracker.force "b" first.progress).toOption.map (fun forced =>
      (forced.2.failure, announced (forced.2.events
        ++ ((first.advance forced.2).publish (.success "echo" "" [] none)).2)))
      = some (some "no", ["a", "b"]) := by decide +kernel
  have hvalid : Milestone.validate first.tracker.milestones = .ok () :=
    ok_of_toOption (by decide +kernel)
  obtain ⟨⟨ids, advance⟩, hforced, hrun⟩ := Option.map_eq_some_iff.1 hrun
  have hforce := ok_of_toOption hforced
  obtain ⟨hfailure, hannounced⟩ := Prod.mk.inj hrun
  have hfollows : first.Follows _ _ :=
    .publish (.force .start trivial hforce) trivial (.success "echo" "" [] none)
  have hattended : first.FollowsAttended _ _ :=
    .publish (.force .start (List.cons_ne_nil _ _) hforce) (List.cons_ne_nil _ _)
      (.success "echo" "" [] none)
  obtain ⟨hnodup, hachieved, horder, hclosed, hnext, hheard⟩ :=
    announced_once_in_order hvalid rfl hfollows
  exact ⟨ids, advance, _, _, hforce, hfailure, hfollows, hannounced, hnodup, hachieved, horder,
    hclosed, hnext, hheard hattended⟩

end Session

end StoryShell
