/-
The gate in the course of a session.

Lines, forced milestones, told narrative and nodes that are let go all keep the gate fitting the
milestones that are achieved (`Runs.fitting`), since only an advance of the story changes either
(`Runs.rec_progress`). So the gate is a function of what is achieved, whatever the lines were and in
whatever order the milestones were reached; the longer a session goes on, the wider the gate is
open; and a command for which it was opened neither at the start nor by a milestone is always
refused (`gate_follows_achieved`).
-/
import StoryShell.Proofs.Session.History
import StoryShell.Proofs.Story.Gating
import StoryShell.Proofs.World.Decode

set_option autoImplicit false

namespace StoryShell

/-- Telling narrative achieves nothing and leaves the gate. -/
theorem Progress.drain_fixed {progress after : Progress} {limit : Option Nat}
    {told : List NarrativeEntry} (h : progress.drain limit = some (told, after)) :
    after.achieved = progress.achieved ∧ after.gate = progress.gate := by
  rw [drain, Option.map_eq_some_iff] at h
  obtain ⟨queue, -, hdrained⟩ := h
  rw [← (Prod.mk.inj hdrained).2]
  exact ⟨rfl, rfl⟩

namespace Session

variable {ok : String → Prop} {first session after : Session} {history : List Turn} {start : Gate}

/-- **What a session keeps to**: its gate fits what is achieved, and what was achieved at first
still is. -/
structure Fitting (first : Session) (start : Gate) (session : Session) : Prop where
  tracker : session.tracker = first.tracker
  fits : session.progress.Fits first.tracker.milestones start
  kept : ∀ id ∈ first.progress.achieved, id ∈ session.progress.achieved

/-- **What holds of the story all along**: it has to hold at the start, and to be kept by whatever
the story advances by and by what leaves the milestones and the gate. -/
theorem Runs.rec_progress {P : Progress → Prop} (h : first.Runs history session)
    (hfirst : first.Grown ok) (hvalid : Milestone.Valid first.tracker.milestones)
    (begins : P first.progress)
    (advances : ∀ {progress later ids}, P progress → first.tracker.Advances progress ids later →
      P later)
    (rests : ∀ {progress later : Progress}, P progress → later.achieved = progress.achieved →
      later.gate = progress.gate → P later) :
    session.tracker = first.tracker ∧ P session.progress := by
  refine (h.rec_grown (P := fun _ session => session.tracker = first.tracker ∧ P session.progress)
    hfirst ⟨rfl, begins⟩ ?_ ?_ ?_ ?_).1
  · rintro history session after result - ⟨htracker, hsession⟩ hanswers
    obtain ⟨ids, hadvances⟩ := hanswers.advances
    rw [htracker] at hadvances
    exact ⟨hanswers.tracker.trans htracker, advances hsession hadvances⟩
  · rintro history session id ids advance - ⟨htracker, hsession⟩ hforce
    have hvalidNow : Milestone.Valid session.tracker.milestones := by
      rw [htracker]
      exact hvalid
    have hadvances := Tracker.advances_force hvalidNow hforce
    rw [htracker] at hadvances
    exact ⟨htracker, advances hsession hadvances⟩
  · rintro history session limit told progress - ⟨htracker, hsession⟩ hdrain
    obtain ⟨hachieved, hgate⟩ := Progress.drain_fixed hdrain
    exact ⟨htracker, rests hsession hachieved hgate⟩
  · exact fun held _ hsession => hsession

/-- **All along the gate fits what is achieved**, and what was achieved stays achieved. -/
theorem Runs.fitting (h : first.Runs history session) (hfirst : first.Grown ok)
    (hvalid : Milestone.Valid first.tracker.milestones) (hopens : first.tracker.opensGate = true)
    (hfits : first.progress.Fits first.tracker.milestones start) :
    first.Fitting start session := by
  have hadvance : ∀ {progress later : Progress} {ids : List String},
      progress.Fits first.tracker.milestones start
        ∧ (∀ id ∈ first.progress.achieved, id ∈ progress.achieved) →
      first.tracker.Advances progress ids later →
      later.Fits first.tracker.milestones start
        ∧ ∀ id ∈ first.progress.achieved, id ∈ later.achieved := by
    rintro progress later ids ⟨hprogress, hkept⟩ hadvances
    exact ⟨hadvances.fits hvalid.nodup hopens hprogress,
      fun id hid => hadvances.mem_achieved (hkept id hid)⟩
  obtain ⟨htracker, hnow, hkept⟩ := h.rec_progress hfirst hvalid ⟨hfits, fun _ hid => hid⟩
    hadvance fun ⟨hprogress, hkept⟩ hachieved hgate =>
      ⟨hprogress.of_same hachieved hgate, fun id hid => by rw [hachieved]; exact hkept id hid⟩
  exact ⟨htracker, hnow, hkept⟩

/-- **All along there is a record of the story**, if it has not begun at first. -/
theorem Runs.isRecord (h : first.Runs history session) (hfirst : first.Grown ok)
    (hvalid : Milestone.Valid first.tracker.milestones)
    (hnew : first.progress.achieved = NameMap.empty) :
    ∃ record, Milestone.IsRecord first.tracker.milestones record session.progress.achieved := by
  refine (h.rec_progress (P := fun progress =>
    ∃ record, Milestone.IsRecord first.tracker.milestones record progress.achieved)
    hfirst hvalid ⟨[], ?_⟩ ?_ ?_).2
  · rw [hnew]
    exact Milestone.isRecord_empty _
  · rintro progress later ids ⟨record, hrecord⟩ hadvances
    exact ⟨_, hrecord.advances hvalid hadvances⟩
  · rintro progress later ⟨record, hrecord⟩ hachieved -
    rw [hachieved]
    exact ⟨record, hrecord⟩

/-- **What a session keeps to that was started in a world**: the tracker of the start, the gate that
fits what is achieved, and with each milestone all that it requires. -/
structure InStory (world : World) (session : Session) : Prop where
  tracker : session.tracker = ⟨world.milestones, true, []⟩
  fits : session.progress.Fits world.milestones (Gate.ofLists world.allowed world.blocked)
  closed : ∀ milestone ∈ world.milestones, milestone.id ∈ session.progress.achieved →
    ∀ required ∈ milestone.requires, required ∈ session.progress.achieved

/-- **All along a session keeps to the story of its world**, if the milestones are valid. -/
theorem Runs.inStory {world : World} {events : List Event} (hruns : first.Runs history session)
    (hvalid : Milestone.Valid world.milestones)
    (hstart : ofWorld world false = .ok (first, events)) : session.InStory world := by
  obtain ⟨fs, -, -, heq⟩ := ofWorld_eq_ok hstart
  have hfirst := grown_of_ofWorld hstart
  have htracker : first.tracker = ⟨world.milestones, true, []⟩ := by rw [heq rfl]; rfl
  have hgate : first.progress.gate = Gate.ofLists world.allowed world.blocked := by
    rw [heq rfl]; rfl
  have hnew : first.progress.achieved = NameMap.empty := by rw [heq rfl]; rfl
  have htable : first.tracker.milestones = world.milestones := by rw [htracker]
  have hopens : first.tracker.opensGate = true := by rw [htracker]
  rw [← htable] at hvalid
  obtain ⟨hsame, hfits, -⟩ := hruns.fitting hfirst hvalid hopens (Progress.fits_of_new hnew)
  obtain ⟨record, hrecord⟩ := hruns.isRecord hfirst hvalid hnew
  rw [htable] at hfits hrecord hvalid
  rw [hgate] at hfits
  exact ⟨hsame.trans htracker, hfits, fun milestone hmem hachieved required hrequired =>
    hrecord.closed hvalid hmem hachieved hrequired⟩

/-- A line takes back no milestone. -/
theorem mem_achieved_submit (hgrown : session.Grown ok) {id : String}
    (h : id ∈ session.progress.achieved) (raw : String) :
    id ∈ (session.submit raw).2.1.progress.achieved := by
  rcases hsubmit : session.submit raw with ⟨outcome, after, happened⟩
  change id ∈ after.progress.achieved
  cases outcome with
  | none =>
    rw [submit_of_blank hsubmit]
    exact h
  | some result =>
    obtain ⟨ids, hadvances⟩ := (answers_submit hgrown hsubmit).advances
    exact hadvances.mem_achieved h

/-- A line that the gate does not let pass is answered by the gate. -/
theorem refused_of_not_allowed {raw : String} (h : (Line.parse raw).command ∉ session.gate.allowed)
    {result : Result} {happened : List Event}
    (hline : session.submit raw = (some result, after, happened)) :
    result.isError = true
      ∧ (result.errorKind = some .blocked ∨ result.errorKind = some .notAllowed) := by
  rcases submit_cases hline with ⟨hverdict, -⟩ | ⟨hverdict, -⟩
  · rcases Gate.verdict_of_not_allowed h with hblank | ⟨refusal, hrefusal, herror, hkind⟩
    · rw [hverdict] at hblank
      exact absurd hblank (by simp)
    · rw [hverdict, Verdict.refused.injEq] at hrefusal
      rw [hrefusal]
      exact ⟨herror, hkind⟩
  · exact absurd (Gate.of_passed hverdict).1 h

/-- **The gate is a function of what is achieved**, in every session that a world which was read
comes to. Allowed is what was so at the start and what the achieved milestones unlock; blocked is
what was so at the start and what none of them unblocks. So sessions with the same milestones
achieved have the same gate, and what a session goes on to has more achieved, more allowed and less
blocked. A command that was neither allowed at the start nor is unlocked by an achieved milestone is
refused in every line that has a result. -/
theorem gate_follows_achieved {json : Json} {world : World} {first session : Session}
    {events : List Event} {history : List Turn} (hread : World.decode json = .ok world)
    (hstart : ofWorld world false = .ok (first, events)) (hruns : first.Runs history session) :
    first.gate = Gate.ofLists world.allowed world.blocked
      ∧ (∀ entry, entry ∈ session.gate.allowed
        ↔ entry ∈ first.gate.allowed ∨ ∃ milestone ∈ world.milestones,
          milestone.id ∈ session.progress.achieved ∧ entry ∈ Gate.entriesOf milestone.unlocks)
      ∧ (∀ entry, entry ∈ session.gate.blocked
        ↔ entry ∈ first.gate.blocked ∧ ∀ milestone ∈ world.milestones,
          milestone.id ∈ session.progress.achieved → entry ∉ Gate.entriesOf milestone.unblocks)
      ∧ (∀ turns other, first.Runs turns other →
        other.progress.achieved = session.progress.achieved → other.gate = session.gate)
      ∧ (∀ turns later, session.Runs turns later →
        (∀ id ∈ session.progress.achieved, id ∈ later.progress.achieved)
          ∧ (∀ entry ∈ session.gate.allowed, entry ∈ later.gate.allowed)
          ∧ ∀ entry ∈ later.gate.blocked, entry ∈ session.gate.blocked)
      ∧ ∀ raw, (Line.parse raw).command ∉ first.gate.allowed →
        (∀ milestone ∈ world.milestones, milestone.id ∈ session.progress.achieved →
          (Line.parse raw).command ∉ Gate.entriesOf milestone.unlocks) →
        ∀ result after happened, session.submit raw = (some result, after, happened) →
          result.isError = true
            ∧ (result.errorKind = some .blocked ∨ result.errorKind = some .notAllowed) := by
  obtain ⟨fs, -, -, heq⟩ := ofWorld_eq_ok hstart
  have hfirstEq := heq rfl
  have hfirst := grown_of_ofWorld hstart
  have htable : first.tracker.milestones = world.milestones := by rw [hfirstEq]; rfl
  have hopens : first.tracker.opensGate = true := by rw [hfirstEq]; rfl
  have hvalid : Milestone.Valid first.tracker.milestones := by
    rw [htable]
    exact World.valid_of_decode hread
  have hnew : first.progress.Fits first.tracker.milestones first.gate := by
    apply Progress.fits_of_new
    rw [hfirstEq]
    rfl
  obtain ⟨htracker, hfits, -⟩ := hruns.fitting hfirst hvalid hopens hnew
  have hallowed := hfits.allowed
  have hblocked := hfits.blocked
  rw [htable] at hallowed hblocked
  refine ⟨by rw [hfirstEq]; rfl, hallowed, hblocked, ?_, ?_, ?_⟩
  · intro turns other hother hsame
    exact hfits.gate_eq (hother.fitting hfirst hvalid hopens hnew).fits hsame
  · intro turns later hlater
    -- the session is as good a beginning as the first one
    have hgrown := hruns.grown hfirst
    rw [← htracker] at hvalid hopens hfits
    have hlaterFits := hlater.fitting hgrown hvalid hopens hfits
    exact ⟨hlaterFits.kept, hfits.opens hlaterFits.fits hlaterFits.kept⟩
  · intro raw hnot hnone result after happened hline
    refine refused_of_not_allowed (fun hmem => ?_) hline
    rcases (hallowed _).1 hmem with hstart | ⟨milestone, hmilestone, hachieved, hunlocks⟩
    · exact hnot hstart
    · exact hnone milestone hmilestone hachieved hunlocks

/-- A command that a milestone unlocks, beside one that stays locked. -/
theorem gate_follows_achieved_after_echo :
    let json : Json := .object [("id", .string "w"), ("allowed_commands", .array [.string "echo"]),
      ("milestones", .array [.object [("id", .string "a"), ("command", .string "echo"),
        ("unlocks", .array [.string " LS "])]])]
    ∃ (world : World) (first session : Session) (events : List Event) (history : List Turn),
      World.decode json = .ok world ∧ ofWorld world false = .ok (first, events)
        ∧ first.Runs history session
        ∧ "ls" ∉ first.gate.allowed ∧ "ls" ∈ session.gate.allowed
        ∧ ∃ result after happened, session.submit "pwd" = (some result, after, happened)
          ∧ result.isError = true
          ∧ (result.errorKind = some .blocked ∨ result.errorKind = some .notAllowed) := by
  intro json
  have hrun : (World.decode json).toOption.bind (fun world =>
      (ofWorld world false).toOption.map fun start =>
        let session := (start.1.submitAll ["ls", "echo hi"]).2
        (decide ("ls" ∈ start.1.gate.allowed), decide ("pwd" ∈ start.1.gate.allowed),
          decide (∃ milestone ∈ world.milestones, milestone.id ∈ session.progress.achieved
            ∧ "ls" ∈ Gate.entriesOf milestone.unlocks),
          decide (∃ milestone ∈ world.milestones, milestone.id ∈ session.progress.achieved
            ∧ "pwd" ∈ Gate.entriesOf milestone.unlocks),
          (session.submit "pwd").1.isSome))
      = some (false, false, true, false, true) := by decide +kernel
  obtain ⟨world, hworld, hrun⟩ := Option.bind_eq_some_iff.1 hrun
  obtain ⟨start, hstart, hrun⟩ := Option.map_eq_some_iff.1 hrun
  have hdecode := ok_of_toOption hworld
  have hof := ok_of_toOption hstart
  have hruns := start.1.runs_submitAll ["ls", "echo hi"]
  dsimp only at hrun
  generalize start.1.submitAll _ = run at hrun hruns
  simp only [Prod.mk.injEq, decide_eq_true_eq, decide_eq_false_iff_not,
    Option.isSome_iff_exists] at hrun
  obtain ⟨hlocked, hpwd, hunlocked, hnone, result, hresult⟩ := hrun
  obtain ⟨-, hallowed, -, -, -, hrefused⟩ := gate_follows_achieved hdecode hof hruns
  refine ⟨world, start.1, run.2, start.2, run.1, hdecode, hof, hruns, hlocked,
    (hallowed "ls").2 (.inr hunlocked), result, (run.2.submit "pwd").2.1,
    (run.2.submit "pwd").2.2, ?_⟩
  have hcommand : (Line.parse "pwd").command = "pwd" := by decide +kernel
  have hline : run.2.submit "pwd"
      = (some result, (run.2.submit "pwd").2.1, (run.2.submit "pwd").2.2) :=
    Prod.ext hresult rfl
  refine ⟨hline, hrefused "pwd" ?_ ?_ _ _ _ hline⟩
  · rw [hcommand]
    exact hpwd
  · rw [hcommand]
    exact fun milestone hmem hachieved hentry => hnone ⟨milestone, hmem, hachieved, hentry⟩

end Session

end StoryShell
