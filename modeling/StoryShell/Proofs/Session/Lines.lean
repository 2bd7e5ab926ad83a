/-
Sessions that lines lead to, and what a line does to one.

Starting from the session of a world, lines are submitted, the narrative is told and nodes are let
go, in any order (`Reaches`). All along the file system has grown from its root, and the observers
are the three that the session started with (`Reaches.grown`).

A line that is submitted is blank, or refused by the gate, or it passes and is carried out
(`submit_cases`). If its result is an error, then all that may have changed is the console, and that
by one more text at most (`error_reaches_console_only`).
-/
import StoryShell.Proofs.Command.Execution
import StoryShell.Proofs.Session.Publishing
import StoryShell.Proofs.World.Build

set_option autoImplicit false

namespace StoryShell

namespace Session

variable {ok : String → Prop} {first session after : Session}

/-! ## Starting -/

/-- Forcing milestones carries the story forward and does nothing else. -/
theorem forceAll_eq (ids : List String) (session : Session) :
    (forceAll ids session).1 = { session with progress := (forceAll ids session).1.progress } := by
  induction ids generalizing session with
  | nil => rfl
  | cons id rest ih =>
    rw [forceAll]
    cases session.tracker.force id session.progress with
    | error unknown => exact ih session
    | ok forced => exact ih (session.advance forced.2)

/-- Opening everything carries the story forward and does nothing else. -/
theorem unlockAll_eq (session : Session) :
    session.unlockAll.1 = { session with progress := session.unlockAll.1.progress } := by
  have hforced := forceAll_eq (session.tracker.milestones.map Milestone.id) session
  simp only [unlockAll, editGateAll]
  rw [hforced]

/-- **What every session has at its start, and keeps.** -/
structure Grown (ok : String → Prop) (session : Session) : Prop where
  fs : session.fs.Grown ok
  observers : session.observers = [.console, .scene, .tracker]

/-- The session of a world is started on what is built of it, and opened if that is asked for. -/
theorem start_of_ofWorld {world : World} {everythingOpen : Bool} {events : List Event}
    (h : ofWorld world everythingOpen = .ok (first, events)) :
    ∃ fs, world.build = .ok fs
      ∧ (if everythingOpen then (start world fs).unlockAll else (start world fs, [])).1
        = first := by
  obtain ⟨fs, hbuild, hstart⟩ := map_eq_ok.1 h
  exact ⟨fs, hbuild, congrArg Prod.fst hstart⟩

/-- **The session of a world** is the one that the world starts with, but that its story has been
carried forward if everything is opened. -/
theorem ofWorld_eq_ok {world : World} {everythingOpen : Bool} {events : List Event}
    (h : ofWorld world everythingOpen = .ok (first, events)) :
    ∃ fs, world.build = .ok fs ∧ first = { start world fs with progress := first.progress }
      ∧ (everythingOpen = false → first = start world fs) := by
  obtain ⟨fs, hbuild, hfirst⟩ := start_of_ofWorld h
  refine ⟨fs, hbuild, ?_, ?_⟩
  · cases everythingOpen with
    | false =>
      rw [← hfirst]
      rfl
    | true =>
      rw [if_pos rfl] at hfirst
      rw [← hfirst, unlockAll_eq]
  · rintro rfl
    rw [← hfirst]
    rfl

/-- The file system of a session of a world is the one that is built. -/
theorem build_of_ofWorld {world : World} {everythingOpen : Bool} {events : List Event}
    (h : ofWorld world everythingOpen = .ok (first, events)) : world.build = .ok first.fs := by
  obtain ⟨fs, hbuild, hfirst, -⟩ := ofWorld_eq_ok h
  rw [hfirst]
  exact hbuild

/-- A session of a world has what it should have at its start. -/
theorem grown_ofWorld {world : World} {everythingOpen : Bool} {events : List Event}
    (hnames : Seed.AllNames ok world.seeds)
    (h : ofWorld world everythingOpen = .ok (first, events)) : first.Grown ok := by
  obtain ⟨fs, hbuild, hfirst, -⟩ := ofWorld_eq_ok h
  have hfs : fs.Grown ok := World.grown_build hnames hbuild
  rw [hfirst]
  exact ⟨hfs, rfl⟩

/-- A session of a world has what it should have at its start, whatever the names in the world. -/
theorem grown_of_ofWorld {world : World} {everythingOpen : Bool} {events : List Event}
    (h : ofWorld world everythingOpen = .ok (first, events)) : first.Grown fun _ => True :=
  grown_ofWorld (Seed.allNames_of_forall (fun _ => trivial) world.seeds) h

/-! ## Lines -/

/-- **What submitting a line comes to.** A line that the gate refuses is published; one that passes
is carried out first. -/
theorem submit_cases {raw : String} {result : Result} {events : List Event}
    (h : session.submit raw = (some result, after, events)) :
    (session.gate.verdict raw = .refused result ∧ after = (session.publish result).1)
      ∨ session.gate.verdict raw = .passed
        ∧ ∃ execution, session.interpreter.execute session.fs session.scene.nodes raw = execution
          ∧ execution.result = result
          ∧ after = ({ session with fs := execution.fs }.publish result).1 := by
  rw [submit] at h
  split at h
  · exact absurd (congrArg Prod.fst h) (by simp)
  · rename_i refusal hverdict
    have hresult : refusal = result := Option.some.inj (congrArg Prod.fst h)
    have hafter : (session.publish refusal).1 = after := congrArg (·.2.1) h
    rw [hresult] at hafter hverdict
    exact .inl ⟨hverdict, hafter.symm⟩
  · rename_i hverdict
    simp only [direct, execute, Prod.mk.injEq, Option.some.injEq] at h
    obtain ⟨hresult, hafter, -⟩ := h
    rw [hresult] at hafter
    exact .inr ⟨hverdict, _, rfl, hresult, hafter.symm⟩

/-- A blank line leaves a session as it is. -/
theorem submit_of_blank {raw : String} {events : List Event}
    (h : session.submit raw = (none, after, events)) : after = session := by
  rw [submit] at h
  split at h
  · exact (congrArg (·.2.1) h).symm
  · exact absurd (congrArg Prod.fst h) (by simp)
  · exact absurd (congrArg Prod.fst h) (by simp)

/-- Publishing keeps what every session has. -/
theorem Grown.publish (hgrown : session.Grown ok) (result : Result) :
    (session.publish result).1.Grown ok := by
  obtain ⟨hfs, -, -, hobservers⟩ := session.publish_fixed result
  refine ⟨?_, hobservers.trans hgrown.observers⟩
  rw [hfs]
  exact hgrown.fs

/-- **Submitting a line keeps what every session has.** -/
theorem Grown.submit (hgrown : session.Grown ok) (raw : String) :
    (session.submit raw).2.1.Grown ok := by
  rcases hsubmit : session.submit raw with ⟨outcome, after, events⟩
  cases outcome with
  | none =>
    rw [submit_of_blank hsubmit]
    exact hgrown
  | some result =>
    rcases submit_cases hsubmit with ⟨-, rfl⟩ | ⟨-, execution, hexecution, -, rfl⟩
    · exact hgrown.publish result
    · -- the line is carried out first, and what it leaves is published
      have hfs := session.interpreter.grown_execute hgrown.fs session.scene.nodes raw
      rw [hexecution] at hfs
      have hcarried : Grown ok { session with fs := execution.fs } := ⟨hfs, hgrown.observers⟩
      exact hcarried.publish result

/-- **A session that another one comes to**, by lines that are submitted, narrative that is told and
nodes that are let go. -/
inductive Reaches (first : Session) : Session → Prop where
  | start : first.Reaches first
  | line {session : Session} (earlier : first.Reaches session) (raw : String) :
    first.Reaches (session.submit raw).2.1
  | tell {session : Session} (earlier : first.Reaches session) {limit : Option Nat}
    {told : List NarrativeEntry} {progress : Progress}
    (drains : session.progress.drain limit = some (told, progress)) :
    first.Reaches { session with progress }
  | collect {session : Session} (earlier : first.Reaches session) (held : List NodeId) :
    first.Reaches (session.reclaim held)

/-- **Whatever is done, every session has what it had at its start.** -/
theorem Reaches.grown (h : first.Reaches session) (hfirst : first.Grown ok) : session.Grown ok := by
  induction h with
  | start => exact hfirst
  | line earlier raw ih => exact ih.submit raw
  | tell earlier drains ih => exact ⟨ih.fs, ih.observers⟩
  | collect earlier held ih => exact ⟨ih.fs.reclaim _, ih.observers⟩

/-! ## Errors -/

/-- **A line that ends in an error reaches the console only**, in any session on a sound file
system, and whatever calls of the tree are out of order. -/
theorem submit_of_isError (hsound : session.fs.Sound)
    (hobservers : session.observers = [.console, .scene, .tracker]) {raw : String} {result : Result}
    {events : List Event} (h : session.submit raw = (some result, after, events))
    (herror : result.isError = true) :
    after = { session with console := (session.console.observe result).1 } := by
  rcases submit_cases h with ⟨-, rfl⟩ | ⟨-, execution, hexecution, rfl, rfl⟩
  · exact publish_of_isError herror hobservers
  · -- past the gate the error is the interpreter's, which has left the file system alone
    have hfs := Interpreter.fs_execute_of_isError hsound (hexecution ▸ herror)
    rw [hexecution] at hfs
    rw [hfs]
    exact publish_of_isError herror hobservers

/-- **A failing line changes nothing but the transcript**, in every session that a world comes to.
The file system, the gate, the milestones achieved, the narrative that waits and the scene are as
they were, and the transcript is so or has one more text. -/
theorem error_reaches_console_only {world : World} {everythingOpen : Bool} {first session : Session}
    {events : List Event} (hstart : ofWorld world everythingOpen = .ok (first, events))
    (hreach : first.Reaches session) {raw : String} {result : Result} {after : Session}
    {happened : List Event} (hline : session.submit raw = (some result, after, happened))
    (herror : result.isError = true) :
    ∃ console, after = { session with console }
      ∧ (console = session.console
        ∨ ∃ line, console
          = { session.console with transcript := session.console.transcript ++ [line] }) := by
  have hfirst : first.Grown (fun _ => True) :=
    grown_ofWorld (Seed.allNames_of_forall (fun _ => trivial) world.seeds) hstart
  have hgrown := hreach.grown hfirst
  exact ⟨_, submit_of_isError hgrown.fs.sound hgrown.observers hline herror,
    session.console.observe_cases result⟩

/-- A copy of a directory that fails after a copy of a file. -/
theorem error_reaches_console_only_of_copy :
    let world : World := ⟨"w", "w", [], [.file "Note" "hello", .directory "bin" "" []],
      [("bin", "/bin")], ["cp"], [], []⟩
    ∃ (first session after : Session) (result : Result) (events happened : List Event),
      ofWorld world false = .ok (first, events) ∧ first.Reaches session
        ∧ session.submit "cp bin" = (some result, after, happened) ∧ result.isError = true
        ∧ ∃ console, after = { session with console }
          ∧ (console = session.console
            ∨ ∃ line, console
              = { session.console with transcript := session.console.transcript ++ [line] }) := by
  intro world
  have hrun : (ofWorld world false).toOption.map (fun start =>
      ((start.1.submit "cp note").2.1.submit "cp bin").1.map Result.isError)
        = some (some true) := by decide +kernel
  obtain ⟨start, hstart, hrun⟩ := Option.map_eq_some_iff.1 hrun
  have hof := ok_of_toOption hstart
  have hreach : start.1.Reaches (start.1.submit "cp note").2.1 := .line .start "cp note"
  generalize (start.1.submit "cp note").2.1 = session at hrun hreach
  rcases hline : session.submit "cp bin" with ⟨outcome, after, happened⟩
  rw [hline] at hrun
  obtain ⟨result, rfl, herror⟩ := Option.map_eq_some_iff.1 hrun
  exact ⟨start.1, session, after, result, start.2, happened, hof, hreach, hline, herror,
    error_reaches_console_only hof hreach hline herror⟩

end Session

end StoryShell
