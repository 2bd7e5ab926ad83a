/-
The shell: a session that someone sits before.

It takes one input after the other. At a command prompt a line is submitted to the session, and then
the narrative that the line has queued is told: line by line, with an acknowledgment asked for after
each but the last of an entry, unless acknowledgments are turned off. What is typed as an
acknowledgment is never carried out. The shell ends at an exit command, at the end of input and at
an interruption, and each time it says with which exit code.

What the shell waits for is part of its state, so every input is one step (`Shell.receive`), and a
run is the steps of its inputs (`Shell.run`).
-/
import StoryShell.Session

set_option autoImplicit false

namespace StoryShell

/-- What is typed: a line, an interruption, or that nothing more will come. -/
inductive Input where
  | line (raw : String)
  | interruption
  | endOfInput
deriving DecidableEq, Repr

/-- What the shell waits for: a command, an acknowledgment before the given lines of an entry are
told, or nothing any more, after it has ended with an exit code. -/
inductive Awaiting where
  | command
  | acknowledgment (lines : List String)
  | nothing (code : UInt32)
deriving DecidableEq, Repr

/-- **The shell.** -/
structure Shell where
  session : Session
  acknowledges : Bool
  awaiting : Awaiting

namespace Shell

/-- The commands that leave the shell. -/
def exitCommands : List String := [":exit", ":q", ":quit"]

/-- The prompt for an acknowledgment. -/
def acknowledgmentPrompt : String := "(press Enter) "

/-- The prompt for a command shows where one is. -/
def commandPrompt (session : Session) : String := session.fs.currentPath ++ "> "

/-- Whether a line leaves the shell. -/
def isExit (raw : String) : Bool := Text.lower (Text.trim raw) ∈ exitCommands

/-! ## Telling the narrative -/

/-- Tells lines up to the next acknowledgment; the lines that have to wait for one come second. -/
def tellLines (acknowledges : Bool) : List String → List Event × List String
  | [] => ([], [])
  | [line] => ([.printed line], [])
  | line :: rest =>
    if acknowledges then ([.printed line, .prompted acknowledgmentPrompt], rest)
    else
      let (events, waiting) := tellLines acknowledges rest
      (.printed line :: events, waiting)

/-- What telling comes to: the events, the lines that wait for an acknowledgment, and the entries
that are not begun. -/
structure Telling where
  events : List Event
  waiting : List String
  queue : List NarrativeEntry

/-- Tells entries up to the next acknowledgment. -/
def tellEntries (acknowledges : Bool) : List NarrativeEntry → Telling
  | [] => ⟨[], [], []⟩
  | entry :: rest =>
    let begun : Event :=
      .logged ⟨.debug, .shell, "Showing narrative for " ++ entry.milestone⟩
    match tellLines acknowledges entry.lines with
    | (events, []) =>
      let later := tellEntries acknowledges rest
      { later with events := begun :: events ++ later.events }
    | (events, waiting) => ⟨begun :: events, waiting, rest⟩

/-- A session with another narrative waiting. -/
def withQueue (session : Session) (queue : List NarrativeEntry) : Session :=
  { session with progress := { session.progress with
      queue := session.progress.queue.map fun _ => queue } }

/-- **Tells the given lines and then the entries that wait**, up to the next acknowledgment; when
all is told, the shell asks for a command. -/
def narrate (shell : Shell) (lines : List String) : Shell × List Event :=
  match tellLines shell.acknowledges lines with
  | (events, []) =>
    let telling := tellEntries shell.acknowledges (shell.session.progress.queue.getD [])
    let session := withQueue shell.session telling.queue
    let told := events ++ telling.events
    if telling.waiting = [] then
      ({ shell with session, awaiting := .command }, told ++ [.prompted (commandPrompt session)])
    else ({ shell with session, awaiting := .acknowledgment telling.waiting }, told)
  | (events, waiting) => ({ shell with awaiting := .acknowledgment waiting }, events)

/-! ## Running -/

/-- Opens a shell on a session with the texts of its world. -/
def start (world : World) (session : Session) (acknowledges : Bool) : Shell × List Event :=
  let texts := ("=== " ++ world.title ++ " ===") :: world.intro
  (⟨session, acknowledges, .command⟩,
    texts.map .printed ++ [.prompted (commandPrompt session)])

/-- A shell that waits for nothing any more. -/
def ended (shell : Shell) (code : UInt32) : Shell := { shell with awaiting := .nothing code }

/-- The exit code of a shell that has ended. -/
def exitCode? (shell : Shell) : Option UInt32 :=
  match shell.awaiting with
  | .nothing code => some code
  | .command | .acknowledgment _ => none

/-- Whether a shell has ended. -/
def hasEnded (shell : Shell) : Bool := shell.exitCode?.isSome

/-- **Takes one input.** -/
def receive (shell : Shell) (input : Input) : Shell × List Event :=
  match shell.awaiting, input with
  | .nothing _, _ => (shell, [])
  | .command, .line raw =>
    if isExit raw then (shell.ended 0, [])
    else
      let (_, session, events) := shell.session.submit raw
      let (shell, more) := { shell with session }.narrate []
      (shell, events ++ more)
  | .command, _ => (shell.ended 0, [.printed ""])
  | .acknowledgment lines, .line _ => shell.narrate lines
  | .acknowledgment _, _ => (shell.ended 0, [])

/-- What a run comes to: the shell at its end, the events, and the inputs that were not taken. -/
structure Run where
  shell : Shell
  events : List Event
  unread : List Input

/-- The exit code of a run: the one with which its shell has ended. -/
def Run.code? (run : Run) : Option UInt32 := run.shell.exitCode?

/-- **Runs a shell on inputs**, after which nothing more will come. -/
def run (shell : Shell) : List Input → Run
  | [] =>
    let (shell, events) := shell.receive .endOfInput
    ⟨shell, events, []⟩
  | input :: rest =>
    if shell.hasEnded then ⟨shell, [], input :: rest⟩
    else
      let (shell, events) := shell.receive input
      let later := shell.run rest
      { later with events := events ++ later.events }

end Shell

end StoryShell
