/-
A shell plays a script in rounds.

In a round one answer is a command, which is submitted to the session, and the answers after it are
the acknowledgments that the telling of what it has fired takes. The last round may lack some of
them, and the script may end or leave the shell at a prompt for a command (`Plays`). How a script is
played is said of the session alone, whose narrative is left to wait; the shell tells it, and keeps
step with the session in everything else (`Plays.run_eq`). So a run of the shell leaves the session
that comes of submitting the commands (`plays_commands_only`).
-/
import StoryShell.Proofs.Shell.Telling

set_option autoImplicit false

namespace StoryShell

namespace Shell

open Session (queued)

variable {acknowledges : Bool} {session : Session} {raw line : String}
  {answers taken commands typed waiting : List String} {events : List Event}

/-- What a command comes to before anything is told: what comes of the line, and that the telling
begins. -/
def response (session : Session) (raw : String) : List Event :=
  (session.submit raw).2.2 ++ (session.entries raw).map begun

/-! ## One round -/

/-- **How a script of answers is played**: which of them are commands, and what happens from the
first prompt on, when a session is at its beginning that is left to itself. -/
inductive Plays (acknowledges : Bool) :
    Session → List String → List String → List Event → Prop where
  /-- The script ends at a prompt for a command. -/
  | ends (session : Session) :
    Plays acknowledges session [] [] [.prompted (commandPrompt session), .printed ""]
  /-- An answer leaves the shell, whatever comes after it. -/
  | leaves {session : Session} {raw : String} (exits : isExit raw = true) (rest : List String) :
    Plays acknowledges session (raw :: rest) [] [.prompted (commandPrompt session)]
  /-- An answer is a command, and those after it are the acknowledgments that it takes. -/
  | round {session : Session} {raw : String} {typed rest commands : List String}
    {events : List Event} (stays : isExit raw = false)
    (enough : typed.length = owed acknowledges (session.narrative raw))
    (later : Plays acknowledges (session.submit raw).2.1 rest commands events) :
    Plays acknowledges session (raw :: (typed ++ rest)) (raw :: commands)
      (.prompted (commandPrompt session) :: response session raw
        ++ narration acknowledges (session.narrative raw) ++ events)
  /-- An answer is a command, and the script ends before the acknowledgments that it takes. -/
  | cut {session : Session} {raw : String} {typed : List String} (stays : isExit raw = false)
    (few : typed.length < owed acknowledges (session.narrative raw)) :
    Plays acknowledges session (raw :: typed) [raw]
      (.prompted (commandPrompt session) :: response session raw
        ++ brokenOff ((session.narrative raw).take (typed.length + 1)))

/-- **A command after which nothing waits**: all is told, and the shell asks for the next one. -/
theorem receive_of_told (hobservers : session.observers = [.console, .scene, .tracker])
    (hstays : isExit raw = false) (h : owed acknowledges (session.narrative raw) = 0) :
    receive ⟨session.queued (some []), acknowledges, .command⟩ (.line raw)
      = (⟨(session.submit raw).2.1.queued (some []), acknowledges, .command⟩,
        response session raw ++ narration acknowledges (session.narrative raw)
          ++ [.prompted (commandPrompt (session.submit raw).2.1)]) := by
  rw [receive_of_not_isExit hstays, Session.submit_queued hobservers, Option.map_some,
    List.nil_append, response]
  rw [Session.narrative] at h ⊢
  generalize session.submit raw = answer
  rcases session.entries_cases raw with hentries | ⟨entry, hentries⟩
  · rw [hentries, narrate_of_told (Session.queue_queued _ _) _ (owed_nil _)]
    simp [commandPrompt, queued]
  · rw [hentries, List.flatMap_singleton] at h
    rw [hentries, List.flatMap_singleton, narrate_entry_of_told entry _ h]
    simp

/-- A command after which some lines wait for an acknowledgment. -/
theorem receive_of_waiting (hobservers : session.observers = [.console, .scene, .tracker])
    (hstays : isExit raw = false) (hlines : session.narrative raw = line :: waiting)
    (hwaiting : waiting ≠ []) :
    receive ⟨session.queued (some []), true, .command⟩ (.line raw)
      = (⟨(session.submit raw).2.1.queued (some []), true, .acknowledgment waiting⟩,
        response session raw ++ [.printed line, .prompted acknowledgmentPrompt]) := by
  rw [receive_of_not_isExit hstays, Session.submit_queued hobservers, Option.map_some,
    List.nil_append, response]
  rw [Session.narrative] at hlines
  generalize session.submit raw = answer
  rcases session.entries_cases raw with hentries | ⟨entry, hentries⟩
  · rw [hentries] at hlines
    exact absurd hlines (by simp)
  · rw [hentries, List.flatMap_singleton] at hlines
    rw [hentries, narrate_entry_of_waiting _ hlines hwaiting]
    simp

/-- If acknowledgments are owed, then they are asked for, and there is a line before them. -/
theorem exists_of_owed {lines : List String} (h : 0 < owed acknowledges lines) :
    acknowledges = true ∧ ∃ line waiting, lines = line :: waiting ∧ waiting ≠ []
      ∧ owed acknowledges lines = waiting.length := by
  cases acknowledges with
  | false => exact absurd h (Nat.lt_irrefl 0)
  | true =>
    cases lines with
    | nil => exact absurd h (Nat.lt_irrefl 0)
    | cons line waiting => exact ⟨rfl, line, waiting, rfl, List.ne_nil_of_length_pos h, rfl⟩

/-- **A round with enough acknowledgments**: all is told, and the shell asks for the next
command. -/
theorem feed_round (hobservers : session.observers = [.console, .scene, .tracker])
    (hstays : isExit raw = false)
    (henough : typed.length = owed acknowledges (session.narrative raw)) :
    feed ⟨session.queued (some []), acknowledges, .command⟩ ((raw :: typed).map .line)
      = (⟨(session.submit raw).2.1.queued (some []), acknowledges, .command⟩,
        response session raw ++ narration acknowledges (session.narrative raw)
          ++ [.prompted (commandPrompt (session.submit raw).2.1)]) := by
  rw [List.map_cons, feed_cons]
  rcases Nat.eq_zero_or_pos (owed acknowledges (session.narrative raw)) with hnone | howed
  · have htyped : typed = [] := List.length_eq_zero_iff.1 (henough.trans hnone)
    rw [receive_of_told hobservers hstays hnone, htyped, List.map_nil, feed_nil, List.append_nil]
  · obtain ⟨rfl, line, waiting, hlines, hwaiting, hlength⟩ := exists_of_owed howed
    rw [receive_of_waiting hobservers hstays hlines hwaiting,
      feed_acknowledgments (Session.queue_queued _ _) hwaiting (henough.trans hlength), hlines]
    obtain ⟨next, rest, rfl⟩ := List.exists_cons_of_ne_nil hwaiting
    rw [narration_cons_cons]
    generalize session.submit raw = answer
    simp [commandPrompt, queued]

/-- **A round that is cut short**: a line is told, and one more for each acknowledgment, and the
shell waits before the next. -/
theorem feed_cut (hobservers : session.observers = [.console, .scene, .tracker])
    (hstays : isExit raw = false)
    (hfew : typed.length < owed acknowledges (session.narrative raw)) :
    feed ⟨session.queued (some []), acknowledges, .command⟩ ((raw :: typed).map .line)
      = (⟨(session.submit raw).2.1.queued (some []), acknowledges,
          .acknowledgment ((session.narrative raw).drop (typed.length + 1))⟩,
        response session raw ++ brokenOff ((session.narrative raw).take (typed.length + 1))) := by
  obtain ⟨rfl, line, waiting, hlines, hwaiting, hlength⟩ :=
    exists_of_owed (Nat.zero_lt_of_lt hfew)
  rw [List.map_cons, feed_cons, receive_of_waiting hobservers hstays hlines hwaiting,
    feed_too_few (hfew.trans_eq hlength), hlines, List.take_succ_cons, List.drop_succ_cons,
    brokenOff_cons, List.append_assoc]
  rfl

/-! ## Whole scripts -/

/-- **The shell keeps step with a session that is left to itself.** It ends, with the exit code 0
and the session that comes of submitting the commands, but for the narrative, of which nothing
waits; and the same happens. -/
theorem Plays.run_eq (h : Plays acknowledges session answers commands events) {ok : String → Prop}
    (hgrown : session.Grown ok) :
    (run ⟨session.queued (some []), acknowledges, .command⟩ (answers.map .line)).shell
        = ⟨(session.submitAll commands).2.queued (some []), acknowledges, .nothing 0⟩
      ∧ .prompted (commandPrompt session)
          :: (run ⟨session.queued (some []), acknowledges, .command⟩ (answers.map .line)).events
        = events := by
  induction h with
  | ends session =>
    rw [List.map_nil, run_nil, receive_endOfInput]
    exact ⟨rfl, rfl⟩
  | @leaves session raw exits rest =>
    have hleaves : feed ⟨session.queued (some []), acknowledges, .command⟩ [.line raw]
        = (⟨session.queued (some []), acknowledges, .nothing 0⟩, []) := by
      rw [feed_cons, receive_of_isExit exits, feed_nil, List.append_nil]
    obtain ⟨hshell, hevents⟩ := run_append ⟨session.queued (some []), acknowledges, .command⟩
      [.line raw] (rest.map .line)
    rw [hleaves] at hshell hevents
    have hended : hasEnded ⟨session.queued (some []), acknowledges, .nothing 0⟩ = true := rfl
    obtain ⟨hover, hsilent⟩ := run_of_hasEnded hended (rest.map .line)
    rw [List.map_cons, ← List.singleton_append, hshell, hevents, hover, hsilent]
    exact ⟨rfl, rfl⟩
  | @round session raw typed rest commands events stays enough later ih =>
    obtain ⟨hshell, hevents⟩ := run_append ⟨session.queued (some []), acknowledges, .command⟩
      ((raw :: typed).map .line) (rest.map .line)
    rw [feed_round hgrown.observers stays enough] at hshell hevents
    obtain ⟨hlast, hlater⟩ := ih (hgrown.submit raw)
    rw [← List.cons_append, List.map_append, hshell, hevents, hlast, ← hlater,
      Session.session_submitAll_cons]
    simp
  | @cut session raw typed stays few =>
    obtain ⟨hshell, hevents⟩ := run_eq_feed ⟨session.queued (some []), acknowledges, .command⟩
      ((raw :: typed).map .line)
    rw [feed_cut hgrown.observers stays few, receive_endOfInput] at hshell hevents
    rw [hshell, hevents, Session.session_submitAll_cons, Session.session_submitAll_nil,
      if_neg (by simp), List.append_nil]
    simp only [List.cons_append, exitCode?, Option.getD_none, and_self]

/-- **Every script can be played.** -/
theorem exists_plays (acknowledges : Bool) (session : Session) (answers : List String) :
    ∃ commands events, Plays acknowledges session answers commands events := by
  -- a round uses up the command at least
  induction hlength : answers.length using Nat.strong_induction_on generalizing session answers with
  | _ count ih =>
    cases answers with
    | nil => exact ⟨_, _, .ends session⟩
    | cons raw rest =>
      cases hexit : isExit raw with
      | true => exact ⟨_, _, .leaves hexit rest⟩
      | false =>
        by_cases hfew : rest.length < owed acknowledges (session.narrative raw)
        · exact ⟨_, _, .cut hexit hfew⟩
        · have hshorter :
              (rest.drop (owed acknowledges (session.narrative raw))).length < count := by
            rw [← hlength, List.length_drop, List.length_cons]
            omega
          obtain ⟨commands, events, hlater⟩ := ih _ hshorter (session.submit raw).2.1 _ rfl
          have henough : (rest.take (owed acknowledges (session.narrative raw))).length
              = owed acknowledges (session.narrative raw) :=
            List.length_take_of_le (Nat.le_of_not_lt hfew)
          have hround := Plays.round hexit henough hlater
          rw [List.take_append_drop] at hround
          exact ⟨_, _, hround⟩

/-- **A script is played in one way only.** -/
theorem Plays.unique (h : Plays acknowledges session answers commands events)
    {others : List String} {also : List Event}
    (hother : Plays acknowledges session answers others also) :
    others = commands ∧ also = events := by
  induction h generalizing others also with
  | ends =>
    cases hother
    exact ⟨rfl, rfl⟩
  | leaves exits rest =>
    cases hother with
    | leaves => exact ⟨rfl, rfl⟩
    | round stays => exact absurd (stays.symm.trans exits) Bool.false_ne_true
    | cut stays => exact absurd (stays.symm.trans exits) Bool.false_ne_true
  | @round session raw typed rest commands events stays enough later ih =>
    generalize hanswers : typed ++ rest = answers at hother
    cases hother with
    | leaves exits => exact absurd (stays.symm.trans exits) Bool.false_ne_true
    | @round _ _ typedAlso restAlso _ _ _ enoughAlso laterAlso =>
      -- both take the same acknowledgments, for there are as many of them
      obtain ⟨rfl, rfl⟩ := List.append_inj hanswers (enough.trans enoughAlso.symm)
      obtain ⟨rfl, rfl⟩ := ih laterAlso
      exact ⟨rfl, rfl⟩
    | cut _ few =>
      rw [← hanswers, List.length_append, ← enough] at few
      omega
  | @cut session raw typed stays few =>
    cases hother with
    | leaves exits => exact absurd (stays.symm.trans exits) Bool.false_ne_true
    | @round _ _ typedAlso restAlso _ _ _ enoughAlso laterAlso =>
      rw [List.length_append, ← enoughAlso] at few
      omega
    | cut => exact ⟨rfl, rfl⟩

/-- **The beginning of a script is played as the script is**: its commands are the first of them. -/
theorem Plays.of_prefix (h : Plays acknowledges session answers commands events)
    (htaken : taken <+: answers) :
    ∃ done told, Plays acknowledges session taken done told ∧ done <+: commands := by
  induction h generalizing taken with
  | ends session =>
    rw [List.prefix_nil.1 htaken]
    exact ⟨_, _, .ends session, List.prefix_rfl⟩
  | @leaves session raw exits rest =>
    rcases List.prefix_cons_iff.1 htaken with rfl | ⟨others, rfl, -⟩
    · exact ⟨_, _, .ends session, List.prefix_rfl⟩
    · exact ⟨_, _, .leaves exits others, List.prefix_rfl⟩
  | @round session raw typed rest commands events stays enough later ih =>
    rcases List.prefix_cons_iff.1 htaken with rfl | ⟨others, rfl, hothers⟩
    · exact ⟨_, _, .ends session, List.nil_prefix⟩
    · rcases List.prefix_or_prefix_of_prefix hothers (List.prefix_append typed rest) with
        hshort | ⟨others, rfl⟩
      · -- the beginning ends among the acknowledgments, or right after them
        rcases hshort.length_le.lt_or_eq with hfew | hsame
        · exact ⟨_, _, .cut stays (hfew.trans_eq enough), List.cons_prefix_cons.2
            ⟨rfl, List.nil_prefix⟩⟩
        · have hround : Plays acknowledges session (raw :: (others ++ [])) _ _ :=
            .round stays (hsame.trans enough) (.ends _)
          rw [List.append_nil] at hround
          exact ⟨_, _, hround, List.cons_prefix_cons.2 ⟨rfl, List.nil_prefix⟩⟩
      · obtain ⟨done, told, hplays, hdone⟩ := ih ((List.prefix_append_right_inj typed).1 hothers)
        exact ⟨_, _, .round stays enough hplays, List.cons_prefix_cons.2 ⟨rfl, hdone⟩⟩
  | @cut session raw typed stays few =>
    rcases List.prefix_cons_iff.1 htaken with rfl | ⟨others, rfl, hothers⟩
    · exact ⟨_, _, .ends session, List.nil_prefix⟩
    · exact ⟨_, _, .cut stays (hothers.length_le.trans_lt few), List.prefix_rfl⟩

/-- Without acknowledgments every answer is a command, up to one that leaves the shell. -/
theorem Plays.commands_eq (h : Plays false session answers commands events) :
    commands = answers.takeWhile fun raw => !isExit raw := by
  induction h with
  | ends => rfl
  | leaves exits rest => rw [List.takeWhile_cons_of_neg (by simp [exits])]
  | @round session raw typed rest commands events stays enough later ih =>
    rw [List.eq_nil_of_length_eq_zero enough, List.nil_append,
      List.takeWhile_cons_of_pos (by simp [stays]), ih]
  | cut stays few => exact absurd few (Nat.not_lt_zero _)

/-! ## Prompts -/

/-- A shell that has told narrative and asks for a command has just shown the prompt. -/
theorem narrate_prompts {shell : Shell} {lines : List String}
    (h : (shell.narrate lines).1.awaiting = .command) :
    ∃ before, (shell.narrate lines).2
      = before ++ [.prompted (commandPrompt (shell.narrate lines).1.session)] := by
  rcases htell : tellLines shell.acknowledges lines with ⟨events, waiting⟩
  cases waiting with
  | cons line rest => simp [narrate, htell] at h
  | nil =>
    by_cases htold :
        (tellEntries shell.acknowledges (shell.session.progress.queue.getD [])).waiting = []
    · simp only [narrate, htell, if_pos htold]
      exact ⟨_, rfl⟩
    · simp [narrate, htell, htold] at h

/-- **A shell that asks for a command** has just shown the prompt. -/
theorem receive_prompts {shell : Shell} {input : Input} (hrunning : shell.hasEnded = false)
    (h : (shell.receive input).1.awaiting = .command) :
    ∃ before, (shell.receive input).2
      = before ++ [.prompted (commandPrompt (shell.receive input).1.session)] := by
  by_cases hline : ∃ raw, input = .line raw
  · obtain ⟨raw, rfl⟩ := hline
    obtain ⟨session, acknowledges, awaiting⟩ := shell
    cases awaiting with
    | nothing code => simp [hasEnded, exitCode?] at hrunning
    | acknowledgment lines => exact narrate_prompts h
    | command =>
      cases hexit : isExit raw with
      | true =>
        rw [receive_of_isExit hexit] at h
        cases h
      | false =>
        rw [receive_of_not_isExit hexit] at h ⊢
        dsimp only at h ⊢
        obtain ⟨before, hbefore⟩ := narrate_prompts h
        refine ⟨(session.submit raw).2.2 ++ before, ?_⟩
        rw [hbefore, List.append_assoc]
  · rw [shell.receive_of_not_line (not_exists.1 hline)] at h
    cases h

/-- **Whenever a shell asks for a command**, the prompt is the last that happened, and shows where
its session is. -/
theorem feed_prompts {shell : Shell} {happened : List Event} (inputs : List Input)
    (hbegin : shell.awaiting = .command →
      happened.getLast? = some (.prompted (commandPrompt shell.session)))
    (h : (shell.feed inputs).1.awaiting = .command) :
    (happened ++ (shell.feed inputs).2).getLast?
      = some (.prompted (commandPrompt (shell.feed inputs).1.session)) := by
  induction inputs generalizing shell happened with
  | nil =>
    rw [feed_nil, List.append_nil]
    exact hbegin h
  | cons input inputs ih =>
    cases hended : shell.hasEnded with
    | true =>
      rw [feed_of_hasEnded hended] at h ⊢
      rw [List.append_nil]
      exact hbegin h
    | false =>
      rw [feed_cons] at h ⊢
      dsimp only at h ⊢
      rw [← List.append_assoc]
      refine ih (fun hasks => ?_) h
      obtain ⟨before, hbefore⟩ := receive_prompts hended hasks
      rw [hbefore, ← List.append_assoc, List.getLast?_concat]

/-! ## Running a world -/

/-- **A run of the shell submits the commands of its script and nothing else.** Every script is
played in one way, and without acknowledgments every answer is a command, up to one that leaves the
shell. A shell that is run on the script ends, and with the exit code 0. It leaves the session that
comes of submitting the commands, but that no narrative waits there, and what has happened is what
the script comes to, after the texts of the world. And whenever it asked for a command on the way,
no narrative was waiting, the prompt was the last that had happened and showed the current path, and
the session was the one that the commands until then had led to. -/
theorem plays_commands_only {world : World} {everythingOpen : Bool} {first : Session}
    {before : List Event} (hstart : Session.ofWorld world everythingOpen = .ok (first, before))
    (acknowledges : Bool) (answers : List String) :
    let opened := start world first acknowledges
    let run := opened.1.run (answers.map .line)
    ∃ commands events, Plays acknowledges first answers commands events
      ∧ (∀ others also, Plays acknowledges first answers others also →
        others = commands ∧ also = events)
      ∧ (acknowledges = false → commands = answers.takeWhile fun raw => !isExit raw)
      ∧ run.shell.hasEnded = true
      ∧ run.code? = some 0
      ∧ run.shell.session = (first.submitAll commands).2.queued (some [])
      ∧ opened.2 ++ run.events
        = (("=== " ++ world.title ++ " ===") :: world.intro).map .printed ++ events
      ∧ ∀ taken, taken <+: answers →
        let reached := opened.1.feed (taken.map .line)
        reached.1.awaiting = .command →
          reached.1.session.progress.queue = some []
            ∧ (opened.2 ++ reached.2).getLast?
              = some (.prompted (reached.1.session.fs.currentPath ++ "> "))
            ∧ ∃ done, done <+: commands
              ∧ reached.1.session = (first.submitAll done).2.queued (some []) := by
  intro opened run
  have hgrown := Session.grown_of_ofWorld hstart
  have hqueue : first.queued (some []) = first := by
    rw [← Session.queue_ofWorld hstart, Session.queued_queue]
  obtain ⟨commands, events, hplays⟩ := exists_plays acknowledges first answers
  obtain ⟨hshell, hevents⟩ := hplays.run_eq hgrown
  rw [hqueue] at hshell hevents
  refine ⟨commands, events, hplays, fun _ _ => hplays.unique, ?_, ?_, ?_, ?_, ?_, ?_⟩
  · rintro rfl
    exact hplays.commands_eq
  · exact congrArg hasEnded hshell
  · exact congrArg exitCode? hshell
  · exact congrArg Shell.session hshell
  · rw [← hevents]
    exact List.append_assoc _ _ _
  · intro taken htaken reached hasks
    obtain ⟨done, told, hdone, hprefix⟩ := hplays.of_prefix htaken
    -- the session that is reached is the one that the run would leave if nothing more came
    have hleft := (hdone.run_eq hgrown).1
    rw [hqueue, (run_eq_feed _ _).1, receive_endOfInput] at hleft
    have hreached : reached.1.session = (first.submitAll done).2.queued (some []) :=
      congrArg Shell.session hleft
    refine ⟨?_, ?_, done, hprefix, hreached⟩
    · rw [hreached, Session.queue_queued]
    · exact feed_prompts _ (fun _ => List.getLast?_concat) hasks

/-- A listing that fires three lines of narrative: of the commands typed after it, the first two are
taken for acknowledgments, and the third one, a move, leads to the next prompt. -/
theorem plays_commands_only_of_listing :
    let world : World := ⟨"w", "Room", ["Look around."], [.directory "box" "" []], [], ["ls", "cd"],
      [], [⟨"look", "ls", none, none, [], [], [], ["One.", "Two.", "Three."]⟩]⟩
    let answers := ["ls", "cd box", "", "cd BOX", " :Q", "cd .."]
    ∃ (first : Session) (before : List Event),
      Session.ofWorld world false = .ok (first, before)
        ∧ let opened := start world first true
          let run := opened.1.run (answers.map .line)
          String.join ((opened.2 ++ run.events).map Event.written)
            = "=== Room ===\nLook around.\n/> box/\n"
              ++ "One.\n(press Enter) Two.\n(press Enter) Three.\n/> /box> "
          ∧ ∃ commands events, Plays true first answers commands events
            ∧ (∀ others also, Plays true first answers others also →
              others = commands ∧ also = events)
            ∧ (true = false → commands = answers.takeWhile fun raw => !isExit raw)
            ∧ run.shell.hasEnded = true
            ∧ run.code? = some 0
            ∧ run.shell.session = (first.submitAll commands).2.queued (some [])
            ∧ opened.2 ++ run.events
              = (("=== " ++ world.title ++ " ===") :: world.intro).map .printed ++ events
            ∧ ∀ taken, taken <+: answers →
              let reached := opened.1.feed (taken.map .line)
              reached.1.awaiting = .command →
                reached.1.session.progress.queue = some []
                  ∧ (opened.2 ++ reached.2).getLast?
                    = some (.prompted (reached.1.session.fs.currentPath ++ "> "))
                  ∧ ∃ done, done <+: commands
                    ∧ reached.1.session = (first.submitAll done).2.queued (some []) := by
  intro world answers
  have hrun : (Session.ofWorld world false).toOption.map (fun launch =>
      let opened := start world launch.1 true
      String.join ((opened.2 ++ (opened.1.run (answers.map .line)).events).map Event.written))
        = some ("=== Room ===\nLook around.\n/> box/\n"
          ++ "One.\n(press Enter) Two.\n(press Enter) Three.\n/> /box> ") := by decide +kernel
  obtain ⟨launch, hlaunch, hrun⟩ := Option.map_eq_some_iff.1 hrun
  have hstart := ok_of_toOption hlaunch
  exact ⟨launch.1, launch.2, hstart, hrun, plays_commands_only hstart true answers⟩

end Shell

end StoryShell
