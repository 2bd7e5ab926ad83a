/-
How the shell takes its inputs, and how it tells narrative.

A run is its inputs one after the other, and then that nothing more comes (`run_eq_feed`).

A telling of lines takes one acknowledgment between a line and the next, if acknowledgments are
asked for, and none otherwise (`owed`). Whatever is typed meanwhile is taken for one. Given as many
as it takes, the shell has told all lines and asks for the next command (`feed_acknowledgments`);
given fewer, it has told one line for each of them and waits before the next (`feed_too_few`).
-/
import StoryShell.Proofs.Session.Narrative
import StoryShell.Shell

set_option autoImplicit false

namespace StoryShell

namespace Shell

variable {session : Session} {acknowledges : Bool} {raw line : String}
  {lines waiting typed : List String}

/-! ## One input -/

/-- A shell that has ended takes no notice of what comes. -/
theorem receive_of_hasEnded {shell : Shell} (h : shell.hasEnded = true) (input : Input) :
    shell.receive input = (shell, []) := by
  obtain ⟨session, acknowledges, awaiting⟩ := shell
  cases awaiting with
  | nothing code => cases input <;> rfl
  | command => simp [hasEnded, exitCode?] at h
  | acknowledgment lines => simp [hasEnded, exitCode?] at h

/-- A command that leaves the shell. -/
theorem receive_of_isExit (h : isExit raw = true) :
    receive ⟨session, acknowledges, .command⟩ (.line raw)
      = (⟨session, acknowledges, .nothing 0⟩, []) := by
  -- what is compared with the commands that leave must not be evaluated here
  delta receive
  dsimp only
  rw [if_pos h]
  rfl

/-- Any other command is submitted, and then the narrative is told. -/
theorem receive_of_not_isExit (h : isExit raw = false) :
    receive ⟨session, acknowledges, .command⟩ (.line raw)
      = ((narrate ⟨(session.submit raw).2.1, acknowledges, .command⟩ []).1,
        (session.submit raw).2.2
          ++ (narrate ⟨(session.submit raw).2.1, acknowledges, .command⟩ []).2) := by
  delta receive
  dsimp only
  rw [if_neg (Bool.eq_false_iff.1 h)]

/-- What is typed as an acknowledgment makes the shell go on telling. -/
theorem receive_acknowledgment :
    receive ⟨session, acknowledges, .acknowledgment lines⟩ (.line raw)
      = narrate ⟨session, acknowledges, .acknowledgment lines⟩ lines := rfl

/-- Anything but a line ends the shell, if it has not ended; at a prompt for a command it ends the
line there. -/
theorem receive_of_not_line (shell : Shell) {input : Input} (h : ∀ raw, input ≠ .line raw) :
    shell.receive input
      = (⟨shell.session, shell.acknowledges, .nothing (shell.exitCode?.getD 0)⟩,
        if shell.awaiting = .command then [.printed ""] else []) := by
  obtain ⟨session, acknowledges, awaiting⟩ := shell
  cases input with
  | line raw => exact absurd rfl (h raw)
  | interruption => cases awaiting <;> rfl
  | endOfInput => cases awaiting <;> rfl

/-- When nothing more comes, the shell ends. -/
theorem receive_endOfInput (shell : Shell) :
    shell.receive .endOfInput
      = (⟨shell.session, shell.acknowledges, .nothing (shell.exitCode?.getD 0)⟩,
        if shell.awaiting = .command then [.printed ""] else []) :=
  shell.receive_of_not_line fun _ => Input.noConfusion

/-! ## Inputs one after the other -/

/-- **The shell after inputs**, and what it did. -/
def feed (shell : Shell) : List Input → Shell × List Event
  | [] => (shell, [])
  | input :: rest =>
    let (next, events) := shell.receive input
    let (last, more) := next.feed rest
    (last, events ++ more)

@[simp] theorem feed_nil (shell : Shell) : shell.feed [] = (shell, []) := rfl

theorem feed_cons (shell : Shell) (input : Input) (rest : List Input) :
    shell.feed (input :: rest)
      = (((shell.receive input).1.feed rest).1,
        (shell.receive input).2 ++ ((shell.receive input).1.feed rest).2) := rfl

theorem feed_append (shell : Shell) (inputs rest : List Input) :
    shell.feed (inputs ++ rest)
      = (((shell.feed inputs).1.feed rest).1,
        (shell.feed inputs).2 ++ ((shell.feed inputs).1.feed rest).2) := by
  induction inputs generalizing shell with
  | nil => rfl
  | cons input inputs ih => simp only [List.cons_append, feed_cons, ih, List.append_assoc]

/-- A shell that has ended takes no notice of whatever comes. -/
theorem feed_of_hasEnded {shell : Shell} (h : shell.hasEnded = true) (inputs : List Input) :
    shell.feed inputs = (shell, []) := by
  induction inputs with
  | nil => rfl
  | cons input inputs ih => rw [feed_cons, receive_of_hasEnded h, ih, List.append_nil]

theorem run_nil (shell : Shell) :
    shell.run [] = ⟨(shell.receive .endOfInput).1, (shell.receive .endOfInput).2, []⟩ := rfl

theorem run_cons (shell : Shell) (input : Input) (rest : List Input) :
    shell.run (input :: rest)
      = if shell.hasEnded then ⟨shell, [], input :: rest⟩
        else { (shell.receive input).1.run rest with
          events := (shell.receive input).2 ++ ((shell.receive input).1.run rest).events } := rfl

/-- **A run** is the inputs one after the other, and then that nothing more comes. -/
theorem run_eq_feed (shell : Shell) (inputs : List Input) :
    (shell.run inputs).shell = ((shell.feed inputs).1.receive .endOfInput).1
      ∧ (shell.run inputs).events
        = (shell.feed inputs).2 ++ ((shell.feed inputs).1.receive .endOfInput).2 := by
  induction inputs generalizing shell with
  | nil => simp only [run_nil, feed_nil, List.nil_append, and_self]
  | cons input inputs ih =>
    rw [run_cons]
    cases hended : shell.hasEnded with
    | true =>
      rw [if_pos rfl, feed_of_hasEnded hended, receive_of_hasEnded hended]
      exact ⟨rfl, rfl⟩
    | false =>
      rw [if_neg Bool.false_ne_true, feed_cons, List.append_assoc, ← (ih _).2]
      exact ⟨(ih _).1, rfl⟩

/-- A run of inputs goes on from where the first of them lead. -/
theorem run_append (shell : Shell) (inputs rest : List Input) :
    (shell.run (inputs ++ rest)).shell = ((shell.feed inputs).1.run rest).shell
      ∧ (shell.run (inputs ++ rest)).events
        = (shell.feed inputs).2 ++ ((shell.feed inputs).1.run rest).events := by
  obtain ⟨hshell, hevents⟩ := shell.run_eq_feed (inputs ++ rest)
  obtain ⟨hlast, hlater⟩ := (shell.feed inputs).1.run_eq_feed rest
  rw [feed_append] at hshell hevents
  refine ⟨hshell.trans hlast.symm, ?_⟩
  rw [hevents, hlater, List.append_assoc]

/-- The run of a shell that has ended is over. -/
theorem run_of_hasEnded {shell : Shell} (h : shell.hasEnded = true) (inputs : List Input) :
    (shell.run inputs).shell = shell ∧ (shell.run inputs).events = [] := by
  obtain ⟨hshell, hevents⟩ := shell.run_eq_feed inputs
  rw [feed_of_hasEnded h, receive_of_hasEnded h] at hshell hevents
  exact ⟨hshell, hevents⟩

/-! ## The telling of lines -/

/-- **How many acknowledgments a telling takes**: one between a line and the next, if they are asked
for. -/
def owed (acknowledges : Bool) (lines : List String) : Nat :=
  if acknowledges then lines.length - 1 else 0

/-- **The telling of lines**, with a prompt for an acknowledgment between a line and the next, if
acknowledgments are asked for. -/
def narration (acknowledges : Bool) (lines : List String) : List Event :=
  if acknowledges then (lines.map Event.printed).intersperse (.prompted acknowledgmentPrompt)
  else lines.map Event.printed

/-- The telling of lines when more are to come: there is a prompt after each. -/
def brokenOff (lines : List String) : List Event :=
  lines.flatMap fun line => [.printed line, .prompted acknowledgmentPrompt]

@[simp] theorem owed_nil (acknowledges : Bool) : owed acknowledges [] = 0 := by
  cases acknowledges <;> rfl

@[simp] theorem narration_nil (acknowledges : Bool) : narration acknowledges [] = [] := by
  cases acknowledges <;> rfl

theorem narration_cons_cons (line next : String) (rest : List String) :
    narration true (line :: next :: rest)
      = .printed line :: .prompted acknowledgmentPrompt :: narration true (next :: rest) := rfl

theorem brokenOff_cons (line : String) (rest : List String) :
    brokenOff (line :: rest)
      = .printed line :: .prompted acknowledgmentPrompt :: brokenOff rest := rfl

/-- **A telling prints each line**, once and in order, and nothing else. -/
theorem text_narration (acknowledges : Bool) (lines : List String) :
    (narration acknowledges lines).filterMap Event.text? = lines := by
  cases acknowledges with
  | false => simp [narration, List.filterMap_map, Function.comp_def, Event.text?]
  | true =>
    induction lines with
    | nil => rfl
    | cons line rest ih =>
      cases rest with
      | nil => rfl
      | cons next rest => simpa [narration_cons_cons, List.filterMap_cons, Event.text?] using ih

/-- A telling that was broken off has printed each line, once and in order, and nothing else. -/
theorem text_brokenOff (lines : List String) :
    (brokenOff lines).filterMap Event.text? = lines := by
  induction lines with
  | nil => rfl
  | cons line rest ih => simpa [brokenOff_cons, List.filterMap_cons, Event.text?] using ih

/-- If no acknowledgment is due, lines are told at once. -/
theorem tellLines_of_owed (h : owed acknowledges lines = 0) :
    tellLines acknowledges lines = (narration acknowledges lines, []) := by
  induction lines with
  | nil => cases acknowledges <;> rfl
  | cons line rest ih =>
    cases rest with
    | nil => cases acknowledges <;> rfl
    | cons next rest =>
      cases acknowledges with
      | false =>
        have hrest := ih rfl
        rw [tellLines.eq_3 _ _ _ (by simp), hrest]
        rfl
      | true => simp [owed] at h

/-- If one is due, the first line is told, and the rest waits. -/
theorem tellLines_cons (hwaiting : waiting ≠ []) :
    tellLines true (line :: waiting)
      = ([.printed line, .prompted acknowledgmentPrompt], waiting) := by
  cases waiting with
  | nil => exact absurd rfl hwaiting
  | cons next rest => rfl

/-! ## The telling of narrative -/

/-- What the shell leaves to wait is what waits, whatever did before. -/
theorem withQueue_queued (session : Session) (before after : List NarrativeEntry) :
    withQueue (session.queued (some before)) after = session.queued (some after) := rfl

/-- Lines of which some have to wait. -/
theorem narrate_of_waiting (awaiting : Awaiting) (hwaiting : waiting ≠ []) :
    narrate ⟨session, true, awaiting⟩ (line :: waiting)
      = (⟨session, true, .acknowledgment waiting⟩,
        [.printed line, .prompted acknowledgmentPrompt]) := by
  cases waiting with
  | nil => exact absurd rfl hwaiting
  | cons next rest => rfl

/-- **Lines after which nothing waits**: the shell asks for a command. -/
theorem narrate_of_told (hqueue : session.progress.queue = some []) (awaiting : Awaiting)
    (h : owed acknowledges lines = 0) :
    narrate ⟨session, acknowledges, awaiting⟩ lines
      = (⟨session, acknowledges, .command⟩,
        narration acknowledges lines ++ [.prompted (commandPrompt session)]) := by
  have hsame : withQueue session [] = session := by
    rw [withQueue, hqueue]
    exact congrArg session.queued hqueue.symm
  simp only [narrate, tellLines_of_owed h, hqueue, Option.getD_some, tellEntries, hsame]
  simp

/-- What is noted when the telling of an entry begins. -/
def begun (entry : NarrativeEntry) : Event :=
  .logged ⟨.debug, .shell, "Showing narrative for " ++ entry.milestone⟩

/-- **An entry after which nothing waits**: the shell asks for a command. -/
theorem narrate_entry_of_told (entry : NarrativeEntry) (awaiting : Awaiting)
    (h : owed acknowledges entry.lines = 0) :
    narrate ⟨session.queued (some [entry]), acknowledges, awaiting⟩ []
      = (⟨session.queued (some []), acknowledges, .command⟩,
        begun entry :: narration acknowledges entry.lines
          ++ [.prompted (commandPrompt session)]) := by
  have htold : tellEntries acknowledges [entry]
      = ⟨begun entry :: narration acknowledges entry.lines, [], []⟩ := by
    simp [tellEntries, tellLines_of_owed h, begun]
  simp only [narrate, tellLines, Session.queue_queued, Option.getD_some, htold, withQueue_queued]
  rfl

/-- An entry of which some lines have to wait. -/
theorem narrate_entry_of_waiting {entry : NarrativeEntry} (awaiting : Awaiting)
    (hlines : entry.lines = line :: waiting) (hwaiting : waiting ≠ []) :
    narrate ⟨session.queued (some [entry]), true, awaiting⟩ []
      = (⟨session.queued (some []), true, .acknowledgment waiting⟩,
        [begun entry, .printed line, .prompted acknowledgmentPrompt]) := by
  have htold : tellEntries true [entry]
      = ⟨[begun entry, .printed line, .prompted acknowledgmentPrompt], waiting, []⟩ := by
    simp only [tellEntries, hlines, tellLines_cons hwaiting]
    rfl
  simp only [narrate, tellLines, Session.queue_queued, Option.getD_some, htold, withQueue_queued,
    if_neg hwaiting]
  rfl

/-! ## Acknowledgments -/

/-- **Enough acknowledgments** make the shell tell all lines that wait and ask for a command,
whatever was typed. -/
theorem feed_acknowledgments (hqueue : session.progress.queue = some []) (hwaiting : waiting ≠ [])
    (henough : typed.length = waiting.length) :
    feed ⟨session, true, .acknowledgment waiting⟩ (typed.map .line)
      = (⟨session, true, .command⟩,
        narration true waiting ++ [.prompted (commandPrompt session)]) := by
  induction waiting generalizing typed with
  | nil => exact absurd rfl hwaiting
  | cons line rest ih =>
    obtain ⟨first, typed, rfl⟩ := List.exists_cons_of_length_eq_add_one henough
    rw [List.map_cons, feed_cons, receive_acknowledgment]
    cases rest with
    | nil =>
      have hnone : typed = [] := by simpa using henough
      rw [narrate_of_told hqueue _ rfl, hnone, List.map_nil, feed_nil, List.append_nil]
    | cons next rest =>
      have hmore : next :: rest ≠ [] := List.cons_ne_nil _ _
      rw [narrate_of_waiting _ hmore, ih hmore (by simpa using henough), narration_cons_cons]
      rfl

/-- **Too few acknowledgments** make the shell tell a line for each, and wait before the next. -/
theorem feed_too_few (hfew : typed.length < waiting.length) :
    feed ⟨session, true, .acknowledgment waiting⟩ (typed.map .line)
      = (⟨session, true, .acknowledgment (waiting.drop typed.length)⟩,
        brokenOff (waiting.take typed.length)) := by
  induction typed generalizing waiting with
  | nil => rfl
  | cons first typed ih =>
    cases waiting with
    | nil => exact absurd hfew (Nat.not_lt_zero _)
    | cons line rest =>
      have hrest : typed.length < rest.length := Nat.lt_of_succ_lt_succ hfew
      have hmore : rest ≠ [] := List.ne_nil_of_length_pos (Nat.zero_lt_of_lt hrest)
      rw [List.map_cons, feed_cons, receive_acknowledgment, narrate_of_waiting _ hmore, ih hrest]
      rfl

end Shell

end StoryShell
