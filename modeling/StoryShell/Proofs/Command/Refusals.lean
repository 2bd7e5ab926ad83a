/-
Which failures a command can end with.

Two kinds of failure blame the shell and not the request: a name conflict and an internal failure. A
command on a sound file system never ends with them (`blameless_carryOut`), but for a copy while no
directory of the tree has the copy role. What stands behind it is that no request gets as far as a
misuse of the tree: moving and reading are refused for what they find under a name
(`blameless_of_destination`, `blameless_of_readFile`), and a copy that has a destination in the tree
for its source or for the directory in its way, since the name is free once room is made
(`blameless_of_copyInto`).
-/
import StoryShell.Proofs.Command.Execution
import StoryShell.Proofs.Tree.Counterpart

set_option autoImplicit false

namespace StoryShell

/-! ## Blame -/

/-- **A kind of failure that does not blame the shell.** -/
structure ErrorKind.Blameless (kind : ErrorKind) : Prop where
  ne_nameConflict : kind ≠ .nameConflict
  ne_internal : kind ≠ .internal

/-- An error of the tree that is shown, and does not blame the shell. -/
def TreeError.Blameless (error : TreeError) : Prop :=
  ∃ kind, error.kind? = some kind ∧ kind.Blameless

/-- A result that does not blame the shell. -/
def Result.Blameless (result : Result) : Prop :=
  ∀ kind, result.errorKind = some kind → kind.Blameless

/-- A success blames nobody. -/
theorem Result.blameless_success (command output : String) (nodes : List NodeId)
    (target : Option NodeId) : (Result.success command output nodes target).Blameless :=
  fun _ hkind => absurd hkind (by simp [Result.success])

/-- A failure blames whom its kind blames. -/
theorem Result.blameless_failure {kind : ErrorKind} (hkind : kind.Blameless)
    (message command : String) (target : Option NodeId) :
    (Result.failure kind message command target).Blameless := by
  intro other hother
  rwa [← Option.some.inj hother]

/-- A result that does not blame the shell is no name conflict. -/
theorem Result.Blameless.ne_nameConflict {result : Result} (h : result.Blameless) :
    result.errorKind ≠ some .nameConflict :=
  fun hkind => (h _ hkind).ne_nameConflict rfl

/-- A result that does not blame the shell is not internal. -/
theorem Result.Blameless.ne_internal {result : Result} (h : result.Blameless) :
    result.errorKind ≠ some .internal :=
  fun hkind => (h _ hkind).ne_internal rfl

/-! ## The tree -/

namespace FileSystem

variable {fs after : FileSystem} {error : TreeError}

/-- A move is refused for what it finds under the name. -/
theorem blameless_of_destination {path : String} (h : fs.destination path = .error error) :
    error.Blameless := by
  simp only [destination] at h
  -- to the root and one step up there is always a way
  split at h
  · exact absurd h (by simp)
  · split at h
    · exact absurd h (by simp)
    · split at h
      · rw [← Except.error.inj h]
        exact ⟨_, rfl, by decide, by decide⟩
      · split at h
        · exact absurd h (by simp)
        · rw [← Except.error.inj h]
          exact ⟨_, rfl, by decide, by decide⟩

/-- Reading is refused for what it finds under the name. -/
theorem blameless_of_readFile {name : String} (h : fs.readFile name = .error error) :
    error.Blameless := by
  rw [readFile] at h
  split at h
  · rw [← Except.error.inj h]
    exact ⟨_, rfl, by decide, by decide⟩
  · split at h
    · rw [← Except.error.inj h]
      exact ⟨_, rfl, by decide, by decide⟩
    · exact absurd h (by simp)

/-- **A copy into a directory of the tree** is refused for its source, or for a directory that has
its name. Nothing that it does to the tree is refused. -/
theorem blameless_of_copyInto (hsound : fs.forest.Sound) {name : String} {destination : NodeId}
    (hdestination : fs.forest.isDirectory destination = true)
    (hattached : fs.forest.isAttached destination = true)
    (h : (fs.copyInto name destination).1 = .error error) : error.Blameless := by
  rw [outcome_copyInto hsound name hdestination hattached, copyOutcome] at h
  split at h
  · rw [← Except.error.inj h]
    exact ⟨_, rfl, by decide, by decide⟩
  · split at h
    · rw [← Except.error.inj h]
      exact ⟨_, rfl, by decide, by decide⟩
    · -- the name is free, it is that of the source itself, or something else has it
      split at h
      · exact absurd h (by simp)
      · split at h
        · exact absurd h (by simp)
        · split at h
          · rw [← Except.error.inj h]
            exact ⟨_, rfl, by decide, by decide⟩
          · exact absurd h (by simp)

end FileSystem

/-! ## Commands -/

namespace Interpreter

variable {interpreter : Interpreter} {fs : FileSystem}

/-- A command comes to a result or to an error of the tree, and neither blames the shell. -/
def BlamelessOutcome : Except Trouble Result → Prop
  | .ok result => result.Blameless
  | .error (.refused error) => error.Blameless
  | .error .outage => False

theorem blameless_ls (houtages : interpreter.outages = []) :
    BlamelessOutcome (interpreter.ls fs).1 := by
  rw [ls, call_of_no_outages houtages]
  exact Result.blameless_success _ _ _ _

theorem blameless_cd (houtages : interpreter.outages = []) (arguments : List String) :
    BlamelessOutcome (interpreter.cd arguments fs).1 := by
  cases arguments with
  | nil => exact Result.blameless_failure ⟨by decide, by decide⟩ _ _ _
  | cons path rest =>
    rw [cd, call_of_no_outages houtages, FileSystem.changeDirectory]
    cases hleads : fs.destination path with
    | error error => exact FileSystem.blameless_of_destination hleads
    | ok target => exact Result.blameless_success _ _ _ _

theorem blameless_cat (houtages : interpreter.outages = []) (arguments : List String) :
    BlamelessOutcome (interpreter.cat arguments fs).1 := by
  cases arguments with
  | nil => exact Result.blameless_failure ⟨by decide, by decide⟩ _ _ _
  | cons name rest =>
    rw [cat, call_of_no_outages houtages]
    cases hreads : fs.readFile name with
    | ok file => exact Result.blameless_success _ _ _ _
    | error error =>
      have hblameless := FileSystem.blameless_of_readFile hreads
      -- a directory of that name is shown by `cat` itself
      cases error with
      | isADirectory name node => exact Result.blameless_failure ⟨by decide, by decide⟩ _ _ _
      | _ => exact hblameless

theorem blameless_find (houtages : interpreter.outages = []) (arguments : List String) :
    BlamelessOutcome (interpreter.find arguments fs).1 := by
  unfold find
  split
  · rename_i name
    rw [call_of_no_outages houtages]
    cases fs.find name with
    | none => exact Result.blameless_failure ⟨by decide, by decide⟩ _ _ _
    | some path => exact Result.blameless_success _ _ _ _
  · exact Result.blameless_failure ⟨by decide, by decide⟩ _ _ _

/-- **A copy** does not blame the shell if a directory of the tree has the copy role. -/
theorem blameless_cp (hsound : fs.Sound) (houtages : interpreter.outages = [])
    {arguments : List String}
    (hknown : ∀ name, arguments = [name] →
      ∃ directory, fs.wellKnown interpreter.copyRole = .ok directory) :
    BlamelessOutcome (interpreter.cp arguments fs).1 := by
  unfold cp
  split
  · rename_i name
    obtain ⟨directory, hdirectory⟩ := hknown name rfl
    rw [call_of_no_outages houtages, hdirectory]
    simp only [Except.mapError, call_of_no_outages houtages]
    rcases hcopy : fs.copyInto name directory with ⟨outcome, after⟩
    cases outcome with
    | ok copied => exact Result.blameless_success _ _ _ _
    | error error =>
      exact FileSystem.blameless_of_copyInto hsound.forest (hsound.isDirectory_wellKnown hdirectory)
        (FileSystem.wellKnown_eq_ok_iff.1 hdirectory).2 (congrArg Prod.fst hcopy)
  · exact Result.blameless_failure ⟨by decide, by decide⟩ _ _ _

/-- **No command blames the shell**, but for a copy that has nowhere to go. -/
theorem blameless_carryOut (hsound : fs.Sound) (houtages : interpreter.outages = [])
    {command : Command} {arguments : List String}
    (hknown : command = .cp → ∀ name, arguments = [name] →
      ∃ directory, fs.wellKnown interpreter.copyRole = .ok directory) :
    BlamelessOutcome (interpreter.carryOut command arguments fs).1 := by
  cases command with
  | echo => exact Result.blameless_success _ _ _ _
  | ls => exact blameless_ls houtages
  | cd => exact blameless_cd houtages arguments
  | cat => exact blameless_cat houtages arguments
  | pwd => exact Result.blameless_success _ _ _ _
  | find => exact blameless_find houtages arguments
  | cp => exact blameless_cp hsound houtages (hknown rfl)

/-- What becomes of an error that does not blame the shell does not blame it either. -/
theorem blameless_failureOf (command : Command) {error : TreeError} (h : error.Blameless) :
    (failureOf command (.refused error)).Blameless := by
  obtain ⟨kind, hkind, hblameless⟩ := h
  rw [failureOf, hkind]
  exact Result.blameless_failure hblameless _ _ _

/-! ## Lines -/

/-- **No line blames the shell**, but for a copy that has nowhere to go. -/
theorem blameless_execute (hsound : fs.Sound) (houtages : interpreter.outages = [])
    (held : List NodeId) {raw : String}
    (hknown : (Line.parse raw).command = "cp" → ∀ name, (Line.parse raw).arguments = [name] →
      ∃ directory, fs.wellKnown interpreter.copyRole = .ok directory) :
    (interpreter.execute fs held raw).result.Blameless := by
  simp only [execute]
  split
  · exact Result.blameless_success _ _ _ _
  · split
    · exact Result.blameless_failure ⟨by decide, by decide⟩ _ _ _
    · rename_i command hcommand
      have hname := Command.name_of_ofName? hcommand
      have hblameless : BlamelessOutcome
          (interpreter.carryOut command (Line.parse raw).arguments fs).1 := by
        refine blameless_carryOut hsound houtages fun hcp => hknown ?_
        rw [← hname, hcp]
        rfl
      generalize interpreter.carryOut command (Line.parse raw).arguments fs = attempt at hblameless
      rcases attempt with ⟨trouble | result, after⟩
      · rcases trouble with error | _
        · exact blameless_failureOf command hblameless
        · exact absurd hblameless id
      · exact hblameless

/-- **A copy that has nowhere to go** is an internal failure. -/
theorem errorKind_execute_of_unknown (houtages : interpreter.outages = []) (held : List NodeId)
    {raw name : String} (hcommand : (Line.parse raw).command = "cp")
    (harguments : (Line.parse raw).arguments = [name])
    (hunknown : ∀ directory, fs.wellKnown interpreter.copyRole ≠ .ok directory) :
    (interpreter.execute fs held raw).result.errorKind = some .internal := by
  have hcarried : interpreter.carryOut .cp [name] fs
      = (.error (.refused (.roleUnavailable interpreter.copyRole)), fs) := by
    rw [carryOut, cp, call_of_no_outages houtages]
    cases hknown : fs.wellKnown interpreter.copyRole with
    | ok directory => exact absurd hknown (hunknown directory)
    | error error =>
      rw [(FileSystem.wellKnown_eq_error_iff.1 hknown).2]
      rfl
  have hne : (Line.parse raw).command ≠ "" := by
    rw [hcommand]
    decide
  have hcp : Command.ofName? (Line.parse raw).command = some .cp := by
    rw [hcommand]
    decide
  simp only [execute, if_neg hne, hcp, harguments, hcarried]
  rfl

/-- **When the shell is to blame.** A line is never answered by a name conflict, and by an internal
failure just if it is a copy of one file and no directory of the tree has the copy role. -/
theorem errorKind_execute (hsound : fs.Sound) (houtages : interpreter.outages = [])
    (held : List NodeId) (raw : String) :
    (interpreter.execute fs held raw).result.errorKind ≠ some .nameConflict
      ∧ ((interpreter.execute fs held raw).result.errorKind = some .internal
        ↔ (Line.parse raw).command = "cp" ∧ (∃ name, (Line.parse raw).arguments = [name])
          ∧ ∀ directory, fs.wellKnown interpreter.copyRole ≠ .ok directory) := by
  by_cases hlost : (Line.parse raw).command = "cp" ∧ (∃ name, (Line.parse raw).arguments = [name])
      ∧ ∀ directory, fs.wellKnown interpreter.copyRole ≠ .ok directory
  · obtain ⟨hcommand, ⟨name, harguments⟩, hunknown⟩ := hlost
    have hinternal := errorKind_execute_of_unknown houtages held hcommand harguments hunknown
    refine ⟨?_, iff_of_true hinternal ⟨hcommand, ⟨name, harguments⟩, hunknown⟩⟩
    rw [hinternal]
    decide
  · have hblameless : (interpreter.execute fs held raw).result.Blameless := by
      refine blameless_execute hsound houtages held fun hcommand name harguments => ?_
      by_contra hnone
      exact hlost ⟨hcommand, ⟨name, harguments⟩, fun directory hknown => hnone ⟨directory, hknown⟩⟩
    exact ⟨hblameless.ne_nameConflict, iff_of_false hblameless.ne_internal hlost⟩

end Interpreter

end StoryShell
