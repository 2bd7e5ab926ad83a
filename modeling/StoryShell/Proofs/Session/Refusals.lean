/-
The shell is to blame for one thing only.

In every session that a world comes to, the directory that files are copied to has its role from
the start and stays in the tree, since all directories do. So a copy of one file has somewhere to
go just if the world names such a directory, and by `errorKind_execute` nothing else can end with a
failure for which the shell is to blame (`only_copies_fail_internally`).
-/
import StoryShell.Proofs.Command.Refusals
import StoryShell.Proofs.Session.Frame
import StoryShell.Proofs.World.Faithful

set_option autoImplicit false

namespace StoryShell.Session

variable {first session after : Session} {history : List Turn}

/-- What the gate refuses is no fault of the shell. -/
theorem blameless_of_refused {raw : String} {result : Result}
    (h : session.gate.verdict raw = .refused result) : result.Blameless := by
  obtain ⟨kind, message, rfl | rfl, rfl⟩ := Gate.eq_failure_of_refused h
  · exact Result.blameless_failure ⟨by decide, by decide⟩ _ _ _
  · exact Result.blameless_failure ⟨by decide, by decide⟩ _ _ _

/-- **When the shell is to blame for what a line comes to**, on a sound file system and without
outages. -/
theorem errorKind_submit (hsound : session.fs.Sound)
    (houtages : session.interpreter.outages = []) {raw : String} {result : Result}
    {happened : List Event} (h : session.submit raw = (some result, after, happened)) :
    result.errorKind ≠ some .nameConflict
      ∧ (result.errorKind = some .internal
        ↔ session.gate.verdict raw = .passed ∧ (Line.parse raw).command = "cp"
          ∧ (∃ name, (Line.parse raw).arguments = [name])
          ∧ ∀ directory, session.fs.wellKnown session.interpreter.copyRole ≠ .ok directory) := by
  rcases submit_cases h with ⟨hverdict, -⟩ | ⟨hverdict, execution, hexecution, hresult, -⟩
  · have hblameless := blameless_of_refused hverdict
    refine ⟨hblameless.ne_nameConflict, iff_of_false hblameless.ne_internal ?_⟩
    rintro ⟨hpassed, -⟩
    rw [hpassed] at hverdict
    exact absurd hverdict (by simp)
  · have hkind := Interpreter.errorKind_execute hsound houtages session.scene.nodes raw
    rw [hexecution, hresult] at hkind
    exact ⟨hkind.1, hkind.2.trans ⟨fun hlost => ⟨hverdict, hlost⟩, And.right⟩⟩

/-- The session of a world has the role just if the world names it. -/
theorem get?_bin_eq_none_iff {world : World} {everythingOpen : Bool} {events : List Event}
    (hstart : ofWorld world everythingOpen = .ok (first, events)) :
    first.fs.roles.get? "bin" = none ↔ "bin" ∉ world.wellKnown.map Prod.fst :=
  (World.fixed_build (build_of_ofWorld hstart)).2 "bin"

/-- **Only copies without a destination are the fault of the shell**, in every session that a world
comes to. No line is answered by a name conflict. A line is answered by an internal failure just if
it passes the gate, is a copy of one file, and the world names no directory to copy to. If it names
one, the same directory is known as such all along, and it is in the tree. -/
theorem only_copies_fail_internally {world : World} {everythingOpen : Bool} {events : List Event}
    (hstart : ofWorld world everythingOpen = .ok (first, events))
    (hruns : first.Runs history session) :
    (∀ raw result after happened, session.submit raw = (some result, after, happened) →
        result.errorKind ≠ some .nameConflict
          ∧ (result.errorKind = some .internal
            ↔ session.gate.verdict raw = .passed ∧ (Line.parse raw).command = "cp"
              ∧ (∃ name, (Line.parse raw).arguments = [name])
              ∧ "bin" ∉ world.wellKnown.map Prod.fst))
      ∧ ("bin" ∈ world.wellKnown.map Prod.fst →
        ∃ bin, first.fs.wellKnown "bin" = .ok bin ∧ session.fs.wellKnown "bin" = .ok bin
          ∧ session.fs.forest.isAttached bin = true) := by
  have hknown : ∀ {bin}, session.fs.wellKnown "bin" = .ok bin
      ↔ first.fs.roles.get? "bin" = some bin :=
    wellKnown_bin hstart hruns
  have hnames := get?_bin_eq_none_iff hstart
  have hsound := (hruns.grown (grown_of_ofWorld hstart)).fs.sound
  have hinterpreter := (hruns.framed hstart).interpreter
  refine ⟨fun raw result after happened hline => ?_, fun hnamed => ?_⟩
  · have hkind := errorKind_submit hsound (hruns.no_outages hstart) hline
    -- that no directory is known is the world's doing
    have hlost : (∀ directory, session.fs.wellKnown session.interpreter.copyRole ≠ .ok directory)
        ↔ "bin" ∉ world.wellKnown.map Prod.fst := by
      rw [← hnames, hinterpreter, Option.eq_none_iff_forall_ne_some]
      exact forall_congr' fun directory => not_congr hknown
    rwa [hlost] at hkind
  · cases hrole : first.fs.roles.get? "bin" with
    | none => exact absurd hnamed (hnames.1 hrole)
    | some bin =>
      have hnow := hknown.2 hrole
      exact ⟨bin, (wellKnown_bin hstart .start).2 hrole, hnow,
        (FileSystem.wellKnown_eq_ok_iff.1 hnow).2⟩

/-- A copy with nowhere to go, and the directory that copies go to after some of them. -/
theorem only_copies_fail_internally_of_note :
    let bare : World := ⟨"w", "w", [], [.file "Note" "hello"], [], ["cp"], [], []⟩
    let full : World := ⟨"w", "w", [], [.file "Note" "hello", .directory "Bin" "" [
      .file "note" "old"]], [("bin", "/bin")], ["cd", "cp"], [], []⟩
    (∃ (first session after : Session) (events happened : List Event) (history : List Turn)
      (result : Result), ofWorld bare false = .ok (first, events) ∧ first.Runs history session
        ∧ session.submit "CP note" = (some result, after, happened)
        ∧ result.errorKind = some .internal)
      ∧ ∃ (first session : Session) (events : List Event) (history : List Turn) (bin : NodeId),
        ofWorld full false = .ok (first, events) ∧ first.Runs history session
          ∧ first.fs.wellKnown "bin" = .ok bin ∧ session.fs.wellKnown "bin" = .ok bin
          ∧ session.fs.forest.isAttached bin = true := by
  intro bare full
  have hbare : (ofWorld bare false).toOption.map (fun start =>
      let session := (start.1.submitAll ["cp"]).2
      ((session.submit "CP note").1.isSome, session.gate.verdict "CP note"))
        = some (true, .passed) := by decide +kernel
  have hfull : (ofWorld full false).toOption.isSome = true := by decide +kernel
  refine ⟨?_, ?_⟩
  · obtain ⟨start, hstart, hrun⟩ := Option.map_eq_some_iff.1 hbare
    have hof := ok_of_toOption hstart
    have hruns := start.1.runs_submitAll ["cp"]
    dsimp only at hrun
    generalize start.1.submitAll _ = run at hrun hruns
    simp only [Prod.mk.injEq, Option.isSome_iff_exists] at hrun
    obtain ⟨⟨result, hresult⟩, hverdict⟩ := hrun
    have hline : run.2.submit "CP note"
        = (some result, (run.2.submit "CP note").2.1, (run.2.submit "CP note").2.2) :=
      Prod.ext hresult rfl
    have hparsed : (Line.parse "CP note").command = "cp"
        ∧ (Line.parse "CP note").arguments = ["note"] := by decide +kernel
    exact ⟨start.1, run.2, _, start.2, _, run.1, result, hof, hruns, hline,
      ((only_copies_fail_internally hof hruns).1 _ _ _ _ hline).2.2
        ⟨hverdict, hparsed.1, ⟨_, hparsed.2⟩, by decide⟩⟩
  · obtain ⟨start, hstart⟩ := Option.isSome_iff_exists.1 hfull
    have hof := ok_of_toOption hstart
    have hruns := start.1.runs_submitAll ["cp note", "cp note", "cd bin", "cp note"]
    obtain ⟨bin, hbin⟩ := (only_copies_fail_internally hof hruns).2 (by decide)
    exact ⟨start.1, _, start.2, _, bin, hof, hruns, hbin⟩

end StoryShell.Session
