/-
Sessions in which everything is open.

To open everything, each milestone of the table is forced, each command is allowed, and each block
is lifted. A block may survive that: one that a world gives with blanks to spare is not found when
it is to be lifted. But only normal forms are ever looked up, and every block that is one is found;
so the gate that is left stops nothing (`Gate.isOpen_unlocked`), and lets every command through
(`Gate.IsOpen.verdict_eq`).

It stays that way. With all milestones achieved a story has nowhere to go, so neither the gate nor
the narrative changes any more, whatever is done in the session (`Runs.everything_stays`).
-/
import StoryShell.Proofs.Gate.Seeding
import StoryShell.Proofs.Session.Forcing
import StoryShell.Proofs.Session.Unlocking

set_option autoImplicit false

namespace StoryShell

/-! ## Open gates -/

namespace Gate

variable {gate : Gate}

/-- **An open gate**: every command is allowed, and nothing is blocked that could be looked up. -/
structure IsOpen (gate : Gate) : Prop where
  allowed : ∀ command : Command, command.name ∈ gate.allowed
  blocked : ∀ text, normalForm text ∉ gate.blocked

/-- **What an open gate makes of a line**: it is blank, or not allowed, or it passes. -/
theorem IsOpen.verdict_eq (h : gate.IsOpen) (raw : String) :
    gate.verdict raw
      = if Text.trim raw = "" then .blank
        else if (Line.parse raw).command ∉ gate.allowed then
          .refused (.failure .notAllowed ("command not found: " ++ (Line.parse raw).token)
            (Line.parse raw).command none)
        else .passed := by
  -- the gate judges like the one that blocks nothing
  have hbare : ∀ edit text, normalForm text ∈ gate.entries edit
      ↔ normalForm text ∈ (Gate.mk gate.allowed NameMap.empty).entries edit := by
    have hblocked : ∀ text, normalForm text ∈ gate.blocked
        ↔ normalForm text ∈ (NameMap.empty : NameSet) := by
      intro text
      refine iff_of_false (h.blocked text) ?_
      simp [NameSet.mem_iff]
    intro edit text
    cases edit with
    | allow | disallow => exact Iff.rfl
    | block | unblock => exact hblocked text
  have hnothing : ∀ entry : String, entry ∉ (NameMap.empty : NameSet) := by
    simp [NameSet.mem_iff]
  have hargument : (Gate.mk gate.allowed NameMap.empty).stopsArgument (Line.parse raw) = false := by
    rw [stopsArgument]
    split
    · rfl
    · simp [hnothing]
  rw [verdict_eq_of_normalForms hbare, verdict]
  simp only [hnothing, if_false, hargument, Bool.false_eq_true]

/-- **An open gate blocks no line.** -/
theorem IsOpen.not_blocked (h : gate.IsOpen) {raw : String} {result : Result}
    (hrefused : gate.verdict raw = .refused result) : result.errorKind ≠ some .blocked := by
  rw [h.verdict_eq] at hrefused
  split at hrefused
  · exact absurd hrefused (by simp)
  · split at hrefused
    · rw [← Verdict.refused.inj hrefused]
      simp [Result.failure]
    · exact absurd hrefused (by simp)

/-- **An open gate lets every command pass.** -/
theorem IsOpen.passes (h : gate.IsOpen) {raw : String}
    (hcommand : (Line.parse raw).command ∈ Command.all.map Command.name) :
    gate.verdict raw = .passed := by
  obtain ⟨command, -, hname⟩ := List.mem_map.1 hcommand
  have htrim : Text.trim raw ≠ "" := by
    rw [ne_eq, Text.trim_eq_empty_iff, ← Line.command_eq_empty_iff, ← hname]
    cases command <;> decide
  have hallowed : (Line.parse raw).command ∈ gate.allowed := hname ▸ h.allowed command
  rw [h.verdict_eq, if_neg htrim, if_neg (Decidable.not_not.2 hallowed)]

/-- **The gate with everything open**: all commands allowed, and then all blocks lifted. -/
def unlocked (gate : Gate) : Gate :=
  let wide := gate.editAll .allow (Command.all.map Command.name)
  wide.editAll .unblock wide.blocked.names

/-- The name of a command is an entry as it stands. -/
theorem name_mem_entriesOf (command : Command) :
    command.name ∈ entriesOf (Command.all.map Command.name) := by
  rw [mem_entriesOf]
  refine ⟨?_, command.name, List.mem_map.2 ⟨command, ?_, rfl⟩, ?_⟩
  · cases command <;> decide
  · cases command <;> decide
  · cases command <;> decide +kernel

/-- **Opening everything makes a gate open**: a block that could be looked up is its own normal
form, and so it is found and lifted. -/
theorem isOpen_unlocked (hempty : "" ∉ gate.blocked) : gate.unlocked.IsOpen where
  allowed := by
    intro command
    have hsame : gate.unlocked.entries .allow
        = (gate.editAll .allow (Command.all.map Command.name)).entries .allow :=
      entries_editAll_of_ne _ _ (by decide)
    have hmem : command.name ∈ gate.unlocked.entries .allow := by
      rw [hsame, mem_entries_editAll]
      exact .inr (name_mem_entriesOf command)
    exact hmem
  blocked := by
    intro text hmem
    have hsame : (gate.editAll .allow (Command.all.map Command.name)).entries .unblock
        = gate.entries .unblock :=
      entries_editAll_of_ne _ _ (by decide)
    have hstays : normalForm text ∈ gate.unlocked.entries .unblock := hmem
    rw [unlocked, mem_entries_editAll, hsame] at hstays
    obtain ⟨hblocked, hkept⟩ := hstays
    have hwide : normalForm text
        ∈ (gate.editAll .allow (Command.all.map Command.name)).entries .unblock := by
      rwa [hsame]
    refine hkept (mem_entriesOf.2
      ⟨?_, normalForm text, NameSet.mem_names.2 hwide, normalForm_normalForm text⟩)
    intro hnone
    rw [hnone] at hblocked
    exact hempty hblocked

end Gate

/-! ## Stories that are over -/

namespace Milestone

/-- What is reached from an id of a valid table is in the table. -/
theorem Valid.known_of_reaches {table : List Milestone} (hvalid : Valid table) {id other : String}
    (hid : id ∈ table.map Milestone.id) (h : Reaches table id other) :
    other ∈ table.map Milestone.id :=
  mem_of_reaches hid (fun _ _ _ hrequired => hvalid.known_of_requirements hrequired) h

end Milestone

namespace Tracker

/-- **A story that is over**: every milestone of the table is achieved. -/
def IsOver (tracker : Tracker) (progress : Progress) : Prop :=
  ∀ milestone ∈ tracker.milestones, milestone.id ∈ progress.achieved

variable {tracker : Tracker} {progress after : Progress}

/-- In a story that is over nothing is pending. -/
theorem IsOver.pending (h : tracker.IsOver progress) : tracker.pending progress = [] := by
  rw [Tracker.pending, List.filter_eq_nil_iff]
  intro milestone hmem
  simpa using h milestone hmem

/-- **A story that is over does not advance.** -/
theorem IsOver.eq_of_advances (h : tracker.IsOver progress) {ids : List String}
    (hadvances : tracker.Advances progress ids after) : after = progress := by
  cases hadvances with
  | rest => rfl
  | reach withNarrative known due later => exact absurd (h _ known) (isDue_iff.1 due).1

end Tracker

namespace Session

variable {ok : String → Prop} {first session after : Session} {history : List Turn}

/-! ## Opening everything -/

/-- Forcing milestones of a valid table is an advance. -/
theorem advances_forceAll (ids : List String) (session : Session)
    (hvalid : Milestone.Valid session.tracker.milestones) :
    ∃ reached, session.tracker.Advances session.progress reached
      (forceAll ids session).1.progress := by
  induction ids generalizing session with
  | nil => exact ⟨[], .rest _⟩
  | cons id rest ih =>
    rw [forceAll]
    cases hforce : session.tracker.force id session.progress with
    | error missing => exact ih session hvalid
    | ok forced =>
      obtain ⟨reached, hlater⟩ := ih (session.advance forced.2) hvalid
      exact ⟨_, (Tracker.advances_force hvalid hforce).trans hlater⟩

/-- **Ids of a valid table that are forced are achieved**, if the listeners are silent. -/
theorem mem_achieved_forceAll {ids : List String} (session : Session)
    (hvalid : Milestone.Valid session.tracker.milestones) (hsilent : session.tracker.Silent)
    (hknown : ids ⊆ session.tracker.milestones.map Milestone.id) :
    ∀ id ∈ ids, id ∈ (forceAll ids session).1.progress.achieved := by
  induction ids generalizing session with
  | nil => exact fun id hid => absurd hid List.not_mem_nil
  | cons id rest ih =>
    obtain ⟨hid, hrest⟩ := List.cons_subset.1 hknown
    obtain ⟨order, advance, hforce, horder, hreached⟩ := (Tracker.exists_force_iff hsilent).2
      fun other hother => hvalid.known_of_reaches hid hother
    rw [forceAll, hforce]
    obtain ⟨reached, hlater⟩ := advances_forceAll rest (session.advance advance) hvalid
    intro other hother
    rcases List.mem_cons.1 hother with rfl | hother
    · -- the id is the last of what has to be achieved for it, and it stays so
      refine hlater.mem_achieved ((hreached.achieved other).2 (.inr ?_))
      exact (horder.mem_iff other).2 .refl
    · exact ih (session.advance advance) hvalid hsilent hrest other hother

/-- **The gate after everything is opened.** -/
theorem gate_unlockAll (session : Session) :
    session.unlockAll.1.gate
      = (forceAll (session.tracker.milestones.map Milestone.id) session).1.gate.unlocked := by
  simp only [unlockAll, editGateAll, gate, Progress.gate_editAll, Gate.unlocked]

/-- What is achieved after everything is opened was forced. -/
theorem achieved_unlockAll (session : Session) :
    session.unlockAll.1.progress.achieved
      = (forceAll (session.tracker.milestones.map Milestone.id) session).1.progress.achieved := by
  simp only [unlockAll, editGateAll, Progress.editAll_fixed]

/-- **A session with everything open**: the story is over, the gate is open, and no narrative
waits. -/
structure EverythingOpen (session : Session) : Prop where
  isOver : session.tracker.IsOver session.progress
  gate : session.gate.IsOpen
  queue : session.progress.queue = some []

/-- **Opening everything at the start** leaves a session with everything open. -/
theorem everythingOpen_ofWorld {world : World} {events : List Event}
    (hvalid : Milestone.Valid world.milestones)
    (hstart : ofWorld world true = .ok (first, events)) : first.EverythingOpen := by
  have hqueue := queue_ofWorld hstart
  obtain ⟨fs, -, hfirst⟩ := start_of_ofWorld hstart
  rw [if_pos rfl] at hfirst
  have hsilent : (start world fs).tracker.Silent :=
    fun listener hlistener => absurd hlistener List.not_mem_nil
  have htracker : first.tracker = (start world fs).tracker := by rw [← hfirst, unlockAll_eq]
  refine ⟨fun milestone hmem => ?_, ?_, hqueue⟩
  · rw [htracker] at hmem
    rw [← hfirst, achieved_unlockAll]
    exact mem_achieved_forceAll (start world fs) hvalid hsilent (List.Subset.refl _) _
      (List.mem_map_of_mem hmem)
  · rw [← hfirst, gate_unlockAll]
    refine Gate.isOpen_unlocked fun hempty => ?_
    -- what is blocked was blocked at the start, where no entry is empty
    have hfits : (start world fs).progress.Fits world.milestones (start world fs).gate :=
      Progress.fits_of_new rfl
    obtain ⟨reached, hadvances⟩ := advances_forceAll
      ((start world fs).tracker.milestones.map Milestone.id) (start world fs) hvalid
    have hblocked : "" ∈ (Gate.ofLists world.allowed world.blocked).entries .block :=
      (((hadvances.fits hvalid.nodup rfl hfits).blocked "").1 hempty).1
    obtain ⟨text, -, hne, hlower⟩ := Gate.mem_entries_ofLists.1 hblocked
    exact hne (Text.lower_eq_empty_iff.1 hlower)

/-! ## What is done with everything open -/

/-- Telling a narrative in which nothing waits changes nothing. -/
theorem eq_of_drain {progress : Progress} {limit : Option Nat} {told : List NarrativeEntry}
    {later : Progress} (hqueue : progress.queue = some [])
    (h : progress.drain limit = some (told, later)) : later = progress := by
  simp only [Progress.drain, hqueue, Option.map_some, List.drop_nil] at h
  rw [← hqueue] at h
  exact (Prod.mk.inj (Option.some.inj h)).2.symm

/-- **With everything open, everything stays as it is**, as far as the story is concerned. -/
theorem Runs.everything_stays (h : first.Runs history session) (hfirst : first.Grown ok)
    (hvalid : Milestone.Valid first.tracker.milestones) (hopen : first.EverythingOpen) :
    session.tracker = first.tracker ∧ session.progress = first.progress := by
  refine (h.rec_grown (P := fun _ session =>
    session.tracker = first.tracker ∧ session.progress = first.progress) hfirst ⟨rfl, rfl⟩
    ?_ ?_ ?_ ?_).1
  · rintro history session after result - ⟨htracker, hprogress⟩ hanswers
    obtain ⟨ids, hadvances⟩ := hanswers.advances
    rw [htracker, hprogress] at hadvances
    exact ⟨hanswers.tracker.trans htracker, hopen.isOver.eq_of_advances hadvances⟩
  · rintro history session id ids advance - ⟨htracker, hprogress⟩ hforce
    rw [htracker, hprogress] at hforce
    exact ⟨htracker, hopen.isOver.eq_of_advances (Tracker.advances_force hvalid hforce)⟩
  · rintro history session limit told progress - ⟨htracker, hprogress⟩ hdrain
    rw [hprogress] at hdrain
    exact ⟨htracker, eq_of_drain hopen.queue hdrain⟩
  · exact fun held _ hsession => hsession

/-- So everything stays open. -/
theorem EverythingOpen.of_same (h : first.EverythingOpen)
    (htracker : session.tracker = first.tracker)
    (hprogress : session.progress = first.progress) : session.EverythingOpen := by
  refine ⟨?_, ?_, ?_⟩
  · rw [htracker, hprogress]
    exact h.isOver
  · rw [Session.gate, hprogress]
    exact h.gate
  · rw [hprogress]
    exact h.queue

/-- **No line is blocked where the gate is open**: neither the gate nor a command says so. -/
theorem not_blocked_of_submit (hsound : session.fs.Sound) (hopen : session.gate.IsOpen)
    {raw : String} {result : Result} {happened : List Event}
    (h : session.submit raw = (some result, after, happened)) :
    result.errorKind ≠ some .blocked := by
  rcases submit_cases h with ⟨hverdict, -⟩ | ⟨-, execution, hexecution, hresult, -⟩
  · exact hopen.not_blocked hverdict
  · have hcases := session.interpreter.execute_cases hsound session.scene.nodes raw
    rw [hexecution, hresult] at hcases
    rcases hcases with ⟨hblank, -⟩ | ⟨hfails, -⟩ | ⟨command, -, hsucceeds⟩
    · rw [hblank]
      simp [Result.blank]
    · exact hfails.not_blocked
    · rw [hsucceeds.errorKind]
      simp

/-- **A line that passes** is carried out. -/
theorem submit_of_passed {raw : String} (h : session.gate.verdict raw = .passed) :
    session.submit raw = (some (session.direct raw).1, (session.direct raw).2) := by
  rw [submit, h]

/-- **Everything is open, for good**, in every session that a world which was read comes to when it
is started with everything open, whatever the blocks that it gives. No line is answered as blocked,
and every line with a command is carried out. No milestone is pending, and no narrative waits. -/
theorem open_for_good {json : Json} {world : World} {events : List Event}
    (hread : World.decode json = .ok world)
    (hstart : ofWorld world true = .ok (first, events)) (hruns : first.Runs history session) :
    (∀ raw result after happened, session.submit raw = (some result, after, happened) →
        result.errorKind ≠ some .blocked)
      ∧ (∀ raw, (Line.parse raw).command ∈ Command.all.map Command.name →
        session.gate.verdict raw = .passed
          ∧ session.submit raw = (some (session.direct raw).1, (session.direct raw).2))
      ∧ session.tracker.pending session.progress = []
      ∧ session.progress.queue = some [] := by
  have hgrown := grown_of_ofWorld hstart
  have hvalid := World.valid_of_decode hread
  have hfirst := everythingOpen_ofWorld hvalid hstart
  have htable : first.tracker.milestones = world.milestones := by
    obtain ⟨fs, -, heq, -⟩ := ofWorld_eq_ok hstart
    rw [heq]
    rfl
  rw [← htable] at hvalid
  obtain ⟨htracker, hprogress⟩ := hruns.everything_stays hgrown hvalid hfirst
  have hopen := hfirst.of_same htracker hprogress
  refine ⟨fun raw result after happened hline => ?_, fun raw hcommand => ?_, hopen.isOver.pending,
    hopen.queue⟩
  · exact not_blocked_of_submit (hruns.grown hgrown).fs.sound hopen.gate hline
  · have hpassed := hopen.gate.passes hcommand
    exact ⟨hpassed, submit_of_passed hpassed⟩

/-- A world with blocks that are padded, blank or given twice, of which some survive, and with a
milestone that has something to tell. -/
theorem open_for_good_despite_padding :
    let json : Json := .object [("id", .string "w"),
      ("blocked_commands", .array [.string " ls", .string "LS", .string "   ", .string "",
        .string "cat  Note", .string "cat note"]),
      ("milestones", .array [.object [("id", .string "a"), ("command", .string "ls"),
        ("requires", .array [.string "b"]), ("narrative", .array [.string "Well done."])],
        .object [("id", .string "b"), ("command", .string "pwd")]])]
    ∃ (world : World) (first session : Session) (events : List Event) (history : List Turn),
      World.decode json = .ok world ∧ ofWorld world true = .ok (first, events)
        ∧ first.Runs history session
        ∧ session.gate.blocked.names = ["   ", " ls", "cat  note"]
        ∧ (∀ raw result after happened, session.submit raw = (some result, after, happened) →
          result.errorKind ≠ some .blocked)
        ∧ session.submit " LS" = (some (session.direct " LS").1, (session.direct " LS").2)
        ∧ session.tracker.pending session.progress = []
        ∧ session.progress.queue = some [] := by
  intro json
  have hrun : (World.decode json).toOption.bind (fun world =>
      (ofWorld world true).toOption.map fun start =>
        (start.1.submitAll ["pwd", "ls", " cat  Note ", "dance"]).2.gate.blocked.names)
      = some ["   ", " ls", "cat  note"] := by decide +kernel
  obtain ⟨world, hworld, hrun⟩ := Option.bind_eq_some_iff.1 hrun
  obtain ⟨start, hstart, hrun⟩ := Option.map_eq_some_iff.1 hrun
  have hdecode := ok_of_toOption hworld
  have hof := ok_of_toOption hstart
  have hruns := start.1.runs_submitAll ["pwd", "ls", " cat  Note ", "dance"]
  generalize start.1.submitAll _ = run at hrun hruns
  obtain ⟨hanswers, hcommands, hpending, hqueue⟩ := open_for_good hdecode hof hruns
  exact ⟨world, start.1, run.2, start.2, run.1, hdecode, hof, hruns, hrun, hanswers,
    (hcommands " LS" (by decide +kernel)).2, hpending, hqueue⟩

end Session

end StoryShell
