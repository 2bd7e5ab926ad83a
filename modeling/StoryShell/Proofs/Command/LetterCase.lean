/-
Lines that differ in case only come to the same.

The tree looks a name up by its lower case, and tells the root and the parent by names that have no
other spelling. So with names that differ in case only it does the same, and what it refuses it
refuses for the same cause; only the wording repeats what was typed (`destination_congr`,
`readFile_congr`, `copyInto_congr`). The gate looks at the lower case of the first argument without
the slashes at its end (`verdict_congr`), and the interpreter at that of the command. So the results
agree in everything but what an echo or an error shows (`Result.Agrees`), and the same file system
is left (`execute_congr`).
-/
import StoryShell.Proofs.Command.Execution
import StoryShell.Proofs.Gate.Verdict
import StoryShell.Proofs.Outcome
import StoryShell.Proofs.Text.SameName

set_option autoImplicit false

namespace StoryShell

/-! ## Results -/

/-- **Results that agree**: they may differ in what they show if they are errors or echoes, and in
nothing else. -/
structure Result.Agrees (result other : Result) : Prop where
  nodes : result.nodes = other.nodes
  isError : result.isError = other.isError
  command : result.command = other.command
  target : result.target = other.target
  errorKind : result.errorKind = other.errorKind
  output : result.isError = false → result.command ≠ Command.echo.name →
    result.output = other.output

theorem Result.Agrees.refl (result : Result) : result.Agrees result :=
  ⟨rfl, rfl, rfl, rfl, rfl, fun _ _ => rfl⟩

/-- Failures of a kind agree whatever they say. -/
theorem Result.agrees_failure (kind : ErrorKind) (message other command : String)
    (target : Option NodeId) :
    (failure kind message command target).Agrees (failure kind other command target) :=
  ⟨rfl, rfl, rfl, rfl, rfl, fun herror => absurd herror (by simp [failure])⟩

/-! ## The tree -/

/-- What an error of the tree comes from, its wording apart. -/
def TreeError.cause (error : TreeError) : Option ErrorKind × Option NodeId :=
  (error.kind?, error.node?)

namespace FileSystem

variable {first second : String}

/-- Names that differ in case only are those of the same child. -/
theorem child?_congr (fs : FileSystem) (h : Text.lower first = Text.lower second) :
    fs.child? first = fs.child? second := by
  rw [child?, child?, Forest.child?, Forest.child?, h]

/-- Where a path leads to, in terms of the path without the slashes at its end. -/
theorem destination_eq (fs : FileSystem) (path : String) :
    fs.destination path
      = if Text.slashless path = "" ∨ Text.slashless path = "~" then .ok Forest.root
        else if Text.slashless path = ".." then .ok ((fs.forest.parentOf fs.cwd).getD fs.cwd)
        else
          match fs.child? (Text.slashless path) with
          | none => .error (.noSuchPath path)
          | some id =>
            if fs.forest.isDirectory id then .ok id else .error (.notADirectory path id) := by
  simp only [destination, Text.slashless, Bool.or_eq_true, decide_eq_true_eq]
  rfl

/-- **Paths that differ in case only** lead to the same directory, or to none for the same cause. -/
theorem destination_congr (fs : FileSystem) (h : Text.lower first = Text.lower second) :
    (fs.destination first).mapError TreeError.cause
      = (fs.destination second).mapError TreeError.cause := by
  have hslashless := Text.lower_slashless_congr h
  have hroot := Text.slashless_eq_empty_congr h
  have hhome : Text.slashless first = "~" ↔ Text.slashless second = "~" :=
    Text.eq_mark_iff (by simp [Text.marks]) (by decide +kernel) hslashless
  have hparent : Text.slashless first = ".." ↔ Text.slashless second = ".." :=
    Text.eq_mark_iff (by simp [Text.marks]) (by decide +kernel) hslashless
  have hchild := fs.child?_congr hslashless
  simp only [destination_eq, hroot, hhome, hparent, hchild]
  split
  · rfl
  · split
    · rfl
    · cases fs.child? (Text.slashless second) with
      | none => rfl
      | some id =>
        dsimp only
        split
        · rfl
        · rfl

/-- Moves by paths that differ in case only are the same, or fail for the same cause. -/
theorem changeDirectory_congr (fs : FileSystem) (h : Text.lower first = Text.lower second) :
    (fs.changeDirectory first).mapError TreeError.cause
      = (fs.changeDirectory second).mapError TreeError.cause := by
  rw [changeDirectory, changeDirectory]
  rcases cases_of_mapError_eq (fs.destination_congr h) with
    ⟨target, hfirst, hsecond⟩ | ⟨error, other, hfirst, hsecond, hcause⟩
  · rw [hfirst, hsecond]
  · rw [hfirst, hsecond]
    exact congrArg Except.error hcause

/-- **Names that differ in case only** are those of the same file, or of none for the same cause. -/
theorem readFile_congr (fs : FileSystem) (h : Text.lower first = Text.lower second) :
    (fs.readFile first).mapError TreeError.cause
      = (fs.readFile second).mapError TreeError.cause := by
  rw [readFile, readFile, fs.child?_congr h]
  cases fs.child? second with
  | none => rfl
  | some id =>
    dsimp only
    split
    · rfl
    · rfl

/-- **Copies by names that differ in case only** are the same, or fail for the same cause, and leave
the same file system. -/
theorem copyInto_congr (fs : FileSystem) (destination : NodeId)
    (h : Text.lower first = Text.lower second) :
    (fs.copyInto first destination).1.mapError TreeError.cause
        = (fs.copyInto second destination).1.mapError TreeError.cause
      ∧ (fs.copyInto first destination).2 = (fs.copyInto second destination).2 := by
  rw [copyInto, copyInto, fs.child?_congr h]
  split
  · exact ⟨rfl, rfl⟩
  · cases fs.child? second with
    | none => exact ⟨rfl, rfl⟩
    | some source =>
      -- the typed name is only used to say that directories are not copied
      dsimp only
      split
      · exact ⟨rfl, rfl⟩
      · exact ⟨rfl, rfl⟩

/-- Names that differ in case only are found at the same place. -/
theorem find_congr (fs : FileSystem) (h : Text.lower first = Text.lower second) :
    fs.find first = fs.find second := by
  rw [find, find, Forest.find, Forest.find, h]

end FileSystem

/-! ## The interpreter -/

/-- What trouble comes from, its wording apart; an outage comes from nothing in the tree. -/
def Trouble.cause : Trouble → Option (Option ErrorKind × Option NodeId)
  | .refused error => some error.cause
  | .outage => none

namespace Interpreter

variable {interpreter : Interpreter}

/-- Calls with outcomes that are the same but for wording are so themselves. -/
theorem call_congr {α : Type} (interpreter : Interpreter) (what : TreeCall)
    {outcome other : Except TreeError α}
    (h : outcome.mapError TreeError.cause = other.mapError TreeError.cause) :
    (interpreter.call what outcome).mapError Trouble.cause
      = (interpreter.call what other).mapError Trouble.cause := by
  unfold call
  split
  · rfl
  · rcases cases_of_mapError_eq h with ⟨value, rfl, rfl⟩ | ⟨error, otherError, rfl, rfl, hcause⟩
    · rfl
    · exact congrArg (fun cause => Except.error (some cause)) hcause

/-- **Attempts that agree**: they leave the same file system, and give results that agree or fail
for the same cause. -/
inductive AttemptsAgree : Attempt → Attempt → Prop where
  | given {result other : Result} {after : FileSystem} (agrees : result.Agrees other) :
    AttemptsAgree (.ok result, after) (.ok other, after)
  | failed {trouble other : Trouble} {after : FileSystem}
    (sameCause : trouble.cause = other.cause) :
    AttemptsAgree (.error trouble, after) (.error other, after)

/-- An attempt agrees with itself. -/
theorem AttemptsAgree.refl (attempt : Attempt) : AttemptsAgree attempt attempt := by
  obtain ⟨outcome, after⟩ := attempt
  cases outcome with
  | ok result => exact .given (.refl result)
  | error trouble => exact .failed rfl

/-- Echoes agree. -/
theorem agrees_echo (output other : String) (nodes : List NodeId) (target : Option NodeId) :
    (Result.success "echo" output nodes target).Agrees (.success "echo" other nodes target) :=
  ⟨rfl, rfl, rfl, rfl, rfl, fun _ hecho => absurd rfl hecho⟩

/-- What becomes of trouble of the same cause agrees. -/
theorem agrees_failureOf (command : Command) {trouble other : Trouble}
    (h : trouble.cause = other.cause) :
    (failureOf command trouble).Agrees (failureOf command other) := by
  cases trouble with
  | outage =>
    cases other with
    | outage => exact .refl _
    | refused error => exact absurd h (by simp [Trouble.cause])
  | refused error =>
    cases other with
    | outage => exact absurd h (by simp [Trouble.cause])
    | refused other =>
      have hkind : error.kind? = other.kind? := congrArg Prod.fst (Option.some.inj h)
      rw [failureOf, failureOf, ← hkind]
      cases error.kind? with
      | none => exact .refl _
      | some kind => exact Result.agrees_failure _ _ _ _ _

/-- A refusal of the same cause as that to read a directory is such a refusal as well. -/
theorem eq_isADirectory_of_cause {name : String} {node : NodeId} {other : Trouble}
    (h : (Trouble.refused (.isADirectory name node)).cause = other.cause) :
    ∃ name, other = .refused (.isADirectory name node) := by
  cases other with
  | outage => exact absurd h (by simp [Trouble.cause])
  | refused error =>
    cases error <;>
      simp_all [Trouble.cause, TreeError.cause, TreeError.kind?, TreeError.node?]

/-- Arguments that are the same names, one by one. -/
abbrev SameArguments (arguments others : List String) : Prop :=
  List.Forall₂ (fun argument other => Text.lower argument = Text.lower other) arguments others

variable {arguments others : List String}

theorem cd_congr (interpreter : Interpreter) (fs : FileSystem)
    (h : SameArguments arguments others) :
    AttemptsAgree (interpreter.cd arguments fs) (interpreter.cd others fs) := by
  cases h with
  | nil => exact .refl _
  | @cons path other rest others hpath hrest =>
    have hcall := interpreter.call_congr .changeDirectory (fs.changeDirectory_congr hpath)
    rw [cd, cd]
    rcases cases_of_mapError_eq hcall with
      ⟨moved, hfirst, hsecond⟩ | ⟨_, _, hfirst, hsecond, hcause⟩
    · rw [hfirst, hsecond]
      exact .refl _
    · rw [hfirst, hsecond]
      exact .failed hcause

theorem cat_congr (interpreter : Interpreter) (fs : FileSystem)
    (h : SameArguments arguments others) :
    AttemptsAgree (interpreter.cat arguments fs) (interpreter.cat others fs) := by
  cases h with
  | nil => exact .refl _
  | @cons name other rest others hname hrest =>
    have hcall := interpreter.call_congr .read (fs.readFile_congr hname)
    rw [cat, cat]
    rcases cases_of_mapError_eq hcall with
      ⟨file, hfirst, hsecond⟩ | ⟨trouble, otherTrouble, hfirst, hsecond, hcause⟩
    · rw [hfirst, hsecond]
      exact .refl _
    · rw [hfirst, hsecond]
      -- both are refused because of a directory, or neither is
      split
      · exact absurd ‹_› (by simp)
      · rename_i name node heq
        rw [Except.error.inj heq] at hcause
        obtain ⟨typed, rfl⟩ := eq_isADirectory_of_cause hcause
        exact .given (Result.agrees_failure _ _ _ _ _)
      · rename_i _ hnot heq
        rw [← Except.error.inj heq] at hnot ⊢
        split
        · exact absurd ‹_› (by simp)
        · rename_i name node heqOther
          rw [Except.error.inj heqOther] at hcause
          obtain ⟨typed, rfl⟩ := eq_isADirectory_of_cause hcause.symm
          exact absurd rfl (hnot typed node)
        · rename_i heqOther
          rw [← Except.error.inj heqOther]
          exact .failed hcause

theorem find_congr (interpreter : Interpreter) (fs : FileSystem)
    (h : SameArguments arguments others) :
    AttemptsAgree (interpreter.find arguments fs) (interpreter.find others fs) := by
  cases h with
  | nil => exact .refl _
  | cons hname hrest =>
    cases hrest with
    | nil =>
      simp only [find, fs.find_congr hname]
      cases interpreter.call .find (.ok (fs.find _)) with
      | error trouble => exact .refl _
      | ok found =>
        cases found with
        | none => exact .given (Result.agrees_failure _ _ _ _ _)
        | some path => exact .refl _
    | cons hsecond hrest => exact .refl _

theorem cp_congr (interpreter : Interpreter) (fs : FileSystem)
    (h : SameArguments arguments others) :
    AttemptsAgree (interpreter.cp arguments fs) (interpreter.cp others fs) := by
  cases h with
  | nil => exact .refl _
  | @cons name other rest others hname hrest =>
    cases hrest with
    | cons hsecond hrest => exact .refl _
    | nil =>
      simp only [cp]
      cases interpreter.call .wellKnown (fs.wellKnown interpreter.copyRole) with
      | error trouble => exact .refl _
      | ok destination =>
        obtain ⟨houtcome, hafter⟩ := fs.copyInto_congr destination hname
        have hcall := interpreter.call_congr .copy houtcome
        dsimp only
        rw [hafter]
        rcases cases_of_mapError_eq hcall with
          ⟨copied, hfirst, hsecond⟩ | ⟨trouble, otherTrouble, hfirst, hsecond, hcause⟩
        · rw [hfirst, hsecond]
          exact .refl _
        · rw [hfirst, hsecond]
          cases trouble with
          | outage =>
            cases otherTrouble with
            | outage => exact .refl _
            | refused error => exact absurd hcause (by simp [Trouble.cause])
          | refused error =>
            cases otherTrouble with
            | outage => exact absurd hcause (by simp [Trouble.cause])
            | refused otherError => exact .failed hcause

/-- **A command with arguments that differ in case only** comes to the same. -/
theorem carryOut_congr (interpreter : Interpreter) (fs : FileSystem) (command : Command)
    (h : SameArguments arguments others) :
    AttemptsAgree (interpreter.carryOut command arguments fs)
      (interpreter.carryOut command others fs) := by
  cases command with
  | echo => exact .given (agrees_echo _ _ _ _)
  | ls => exact .refl _
  | cd => exact interpreter.cd_congr fs h
  | cat => exact interpreter.cat_congr fs h
  | pwd => exact .refl _
  | find => exact interpreter.find_congr fs h
  | cp => exact interpreter.cp_congr fs h

variable {first second : String}

/-- **Lines that differ in case only** are carried out alike: their results agree, and the same file
system is left. -/
theorem execute_congr (interpreter : Interpreter) (fs : FileSystem) (held : List NodeId)
    (h : Text.SameWords first second) :
    (interpreter.execute fs held first).result.Agrees (interpreter.execute fs held second).result
      ∧ (interpreter.execute fs held first).fs = (interpreter.execute fs held second).fs := by
  simp only [execute, Line.command_congr h]
  split
  · exact ⟨.refl _, rfl⟩
  · cases Command.ofName? (Line.parse second).command with
    | none => exact ⟨Result.agrees_failure _ _ _ _ _, rfl⟩
    | some command =>
      have hagree := interpreter.carryOut_congr fs command (Line.arguments_congr h)
      dsimp only
      generalize interpreter.carryOut command (Line.parse first).arguments fs = attempt at hagree ⊢
      generalize interpreter.carryOut command (Line.parse second).arguments fs = other at hagree ⊢
      cases hagree with
      | given agrees => exact ⟨agrees, rfl⟩
      | failed sameCause => exact ⟨agrees_failureOf command sameCause, rfl⟩

end Interpreter

/-! ## The gate -/

namespace Gate

variable {first second : String}

/-- An argument stands in the pattern by its lower case without the slashes at its end. -/
theorem lower_bareArgument_congr (h : Text.lower first = Text.lower second) :
    Text.lower (bareArgument first) = Text.lower (bareArgument second) := by
  have hempty := Text.slashless_eq_empty_congr h
  by_cases hfirst : Text.slashless first = ""
  · rw [show bareArgument first = first from if_pos hfirst,
      show bareArgument second = second from if_pos (hempty.1 hfirst), h]
  · rw [bareArgument_of_ne hfirst, bareArgument_of_ne (mt hempty.2 hfirst)]
    exact Text.lower_slashless_congr h

/-- Lines that differ in case only are stopped by the same patterns. -/
theorem stopsArgument_congr (gate : Gate) (h : Text.SameWords first second) :
    gate.stopsArgument (Line.parse first) = gate.stopsArgument (Line.parse second) := by
  rw [stopsArgument, stopsArgument, Line.command_congr h]
  have harguments := Line.arguments_congr h
  generalize (Line.parse first).arguments = arguments at harguments ⊢
  generalize (Line.parse second).arguments = others at harguments ⊢
  cases harguments with
  | nil => rfl
  | cons hargument hrest =>
    dsimp only
    rw [pattern, pattern, lower_bareArgument_congr hargument]

/-- Verdicts that agree. -/
inductive VerdictsAgree : Verdict → Verdict → Prop where
  | blank : VerdictsAgree .blank .blank
  | refused {result other : Result} (agrees : result.Agrees other) :
    VerdictsAgree (.refused result) (.refused other)
  | passed : VerdictsAgree .passed .passed

/-- **The gate says the same to lines that differ in case only**, but for its wording. -/
theorem verdict_congr (gate : Gate) (h : Text.SameWords first second) :
    VerdictsAgree (gate.verdict first) (gate.verdict second) := by
  by_cases hblank : Text.words first = []
  · rw [verdict_eq_blank_iff.2 hblank, verdict_eq_blank_iff.2 (h.words_eq_nil_iff.1 hblank)]
    exact .blank
  · have hfirst := mt Text.trim_eq_empty_iff.1 hblank
    have hsecond := mt Text.trim_eq_empty_iff.1 (mt h.words_eq_nil_iff.2 hblank)
    simp only [verdict, if_neg hfirst, if_neg hsecond, Line.command_congr h,
      gate.stopsArgument_congr h]
    split
    · exact .refused (Result.agrees_failure _ _ _ _ _)
    · split
      · exact .refused (Result.agrees_failure _ _ _ _ _)
      · split
        · exact .refused (Result.agrees_failure _ _ _ _ _)
        · exact .passed

end Gate

end StoryShell
