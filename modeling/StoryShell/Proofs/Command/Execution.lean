/-
What carrying out a line comes to.

A command succeeds in one way each (`Succeeds`), and what it then gives and leaves is told by the
tree. In every other case the line fails, with a kind that is not one of the gate's, and leaves the
file system as it was (`comesTo_carryOut`, `execute_cases`). For a copy this rests on
`copyInto_cases`: once the file in the way is taken out, nothing stops the copy. The other way
round, a command that can succeed does, if no call of the tree is out of order
(`execute_of_succeeds`).
-/
import StoryShell.Command.Interpreter
import StoryShell.Proofs.Text.Words
import StoryShell.Proofs.Tree.Growth

set_option autoImplicit false

namespace StoryShell

/-- **A line has a command** just if it has words. -/
theorem Line.command_eq_empty_iff {raw : String} :
    (Line.parse raw).command = "" ↔ Text.words raw = [] := by
  rw [Line.command, Text.lower_eq_empty_iff, Line.parse]
  cases hwords : Text.words raw with
  | nil => simp
  | cons token arguments =>
    have hword : Text.IsWord token :=
      Text.isWord_of_mem_words (by rw [hwords]; exact List.mem_cons_self)
    simp [hword.ne_empty]

/-- The arguments of a line are words. -/
theorem Line.isWord_of_mem_arguments {raw argument : String}
    (h : argument ∈ (parse raw).arguments) : Text.IsWord argument := by
  rw [parse] at h
  split at h
  · exact absurd h List.not_mem_nil
  · rename_i token arguments hwords
    exact Text.isWord_of_mem_words (by rw [hwords]; exact List.mem_cons_of_mem _ h)

/-- The command that a name stands for has this name. -/
theorem Command.name_of_ofName? {name : String} {command : Command}
    (h : ofName? name = some command) : command.name = name := by
  simpa using List.find?_some h

/-! ## Failures -/

/-- **A failure of a command**: an error that is not the gate's. -/
structure Result.IsFailure (result : Result) : Prop where
  isError : result.isError = true
  not_blocked : result.errorKind ≠ some .blocked
  not_notAllowed : result.errorKind ≠ some .notAllowed

/-- No refusal of the tree is of a kind of the gate. -/
theorem TreeError.kind?_ne (error : TreeError) :
    error.kind? ≠ some .blocked ∧ error.kind? ≠ some .notAllowed := by
  cases error <;> simp [TreeError.kind?]

namespace Interpreter

variable {interpreter : Interpreter} {fs : FileSystem}

/-- What becomes of trouble in a command is a failure. -/
theorem isFailure_failureOf (command : Command) (trouble : Trouble) :
    (failureOf command trouble).IsFailure := by
  have hinternal : (failureOf.internal command).IsFailure := by
    refine ⟨rfl, ?_, ?_⟩ <;> simp [failureOf.internal, Result.failure]
  cases trouble with
  | outage => exact hinternal
  | refused error =>
    obtain ⟨hblocked, hallowed⟩ := error.kind?_ne
    rw [failureOf]
    -- a refusal with a kind shows it, and the other ones are internal
    split
    · rename_i kind hkind
      rw [hkind] at hblocked hallowed
      exact ⟨rfl, hblocked, hallowed⟩
    · exact hinternal

/-- A call of the tree has a value if it is in order and the tree gives one. -/
theorem call_eq_ok_iff {α : Type} {what : TreeCall} {outcome : Except TreeError α} {value : α} :
    interpreter.call what outcome = .ok value
      ↔ what ∉ interpreter.outages ∧ outcome = .ok value := by
  unfold call
  by_cases hout : what ∈ interpreter.outages
  · simp [hout]
  · cases outcome <;> simp [hout]

/-- A call that is in order gives what the tree gives. -/
theorem call_of_no_outages (houtages : interpreter.outages = []) {α : Type} (what : TreeCall)
    (outcome : Except TreeError α) : interpreter.call what outcome = outcome.mapError .refused := by
  unfold call
  rw [houtages]
  cases outcome <;> rfl

/-! ## Commands -/

/-- **How a command succeeds**: its result, and the file system that it leaves. -/
inductive Succeeds (interpreter : Interpreter) (fs : FileSystem) :
    Command → List String → Result → FileSystem → Prop where
  | echo (arguments : List String) : interpreter.Succeeds fs .echo arguments
    (.success "echo" (Text.joinWords arguments) [] none) fs
  | ls (arguments : List String) : interpreter.Succeeds fs .ls arguments
    (.success "ls" (String.intercalate "\n" (fs.list.map fs.forest.displayName)) fs.list none) fs
  | cd {path : String} {rest : List String} {target : NodeId}
    (leads : fs.destination path = .ok target) : interpreter.Succeeds fs .cd (path :: rest)
      (.success "cd" "" [] (some target)) { fs with cwd := target }
  | cat {name : String} {rest : List String} {file : NodeId} (reads : fs.readFile name = .ok file) :
    interpreter.Succeeds fs .cat (name :: rest)
      (.success "cat" (fs.forest.textOf file) [] (some file)) fs
  | pwd (arguments : List String) : interpreter.Succeeds fs .pwd arguments
    (.success "pwd" fs.currentPath [] none) fs
  | find {name path : String} (finds : fs.find name = some path) :
    interpreter.Succeeds fs .find [name] (.success "find" path [] none) fs
  | cp {name : String} {destination : NodeId} {copied : FileSystem.Copied} {after : FileSystem}
    (known : fs.wellKnown interpreter.copyRole = .ok destination)
    (copies : fs.copyInto name destination = (.ok copied, after)) :
    interpreter.Succeeds fs .cp [name] (.success "cp" "" [] (some copied.source)) after

/-- What a command comes to: it succeeds, or it fails and the file system is as before. -/
inductive ComesTo (interpreter : Interpreter) (fs : FileSystem) (command : Command)
    (arguments : List String) : Attempt → Prop where
  | success {result : Result} {after : FileSystem}
    (succeeds : interpreter.Succeeds fs command arguments result after) :
    interpreter.ComesTo fs command arguments (.ok result, after)
  | failure {result : Result} (fails : result.IsFailure) :
    interpreter.ComesTo fs command arguments (.ok result, fs)
  | trouble (trouble : Trouble) : interpreter.ComesTo fs command arguments (.error trouble, fs)

/-- A failure with a kind that is not the gate's. -/
theorem isFailure_failure {kind : ErrorKind} (hblocked : kind ≠ .blocked)
    (hallowed : kind ≠ .notAllowed) (message command : String) (target : Option NodeId) :
    (Result.failure kind message command target).IsFailure :=
  ⟨rfl, fun h => hblocked (Option.some.inj h), fun h => hallowed (Option.some.inj h)⟩

theorem comesTo_ls (arguments : List String) :
    interpreter.ComesTo fs .ls arguments (interpreter.ls fs) := by
  rw [ls]
  cases hcall : interpreter.call .list (.ok fs.list) with
  | error trouble => exact .trouble trouble
  | ok nodes =>
    obtain ⟨-, hnodes⟩ := call_eq_ok_iff.1 hcall
    have hlist : fs.list = nodes := by simpa using hnodes
    rw [← hlist]
    exact .success (.ls arguments)

theorem comesTo_cd (arguments : List String) :
    interpreter.ComesTo fs .cd arguments (interpreter.cd arguments fs) := by
  cases arguments with
  | nil => exact .failure (isFailure_failure (by decide) (by decide) _ _ _)
  | cons path rest =>
    rw [cd]
    cases hcall : interpreter.call .changeDirectory (fs.changeDirectory path) with
    | error trouble => exact .trouble trouble
    | ok moved =>
      obtain ⟨-, hmoved⟩ := call_eq_ok_iff.1 hcall
      obtain ⟨hleads, hafter⟩ := FileSystem.changeDirectory_eq_ok_iff.1 hmoved
      rw [show moved = (moved.1, { fs with cwd := moved.1 }) from Prod.ext rfl hafter]
      exact .success (.cd hleads)

theorem comesTo_cat (arguments : List String) :
    interpreter.ComesTo fs .cat arguments (interpreter.cat arguments fs) := by
  cases arguments with
  | nil => exact .failure (isFailure_failure (by decide) (by decide) _ _ _)
  | cons name rest =>
    rw [cat]
    -- a file, a directory of that name, or other trouble
    split
    · rename_i file hcall
      exact .success (.cat (call_eq_ok_iff.1 hcall).2)
    · exact .failure (isFailure_failure (by decide) (by decide) _ _ _)
    · exact .trouble _

theorem comesTo_find (arguments : List String) :
    interpreter.ComesTo fs .find arguments (interpreter.find arguments fs) := by
  unfold find
  split
  · rename_i name
    cases hcall : interpreter.call .find (.ok (fs.find name)) with
    | error trouble => exact .trouble trouble
    | ok found =>
      obtain ⟨-, hfound⟩ := call_eq_ok_iff.1 hcall
      have hfinds : fs.find name = found := by simpa using hfound
      -- an answer without a path is no trouble, but it is a failure all the same
      cases found with
      | none => exact .failure (isFailure_failure (by decide) (by decide) _ _ _)
      | some path => exact .success (.find hfinds)
  · exact .failure (isFailure_failure (by decide) (by decide) _ _ _)

theorem comesTo_cp (hsound : fs.Sound) (arguments : List String) :
    interpreter.ComesTo fs .cp arguments (interpreter.cp arguments fs) := by
  unfold cp
  split
  · rename_i name
    cases hcall : interpreter.call .wellKnown (fs.wellKnown interpreter.copyRole) with
    | error trouble => exact .trouble trouble
    | ok destination =>
      obtain ⟨-, hknown⟩ := call_eq_ok_iff.1 hcall
      have hdirectory := hsound.isDirectory_wellKnown hknown
      rcases hcopy : fs.copyInto name destination with ⟨outcome, after⟩
      simp only [hcopy]
      cases outcome with
      | error error =>
        -- a refusal leaves what was there, and so does an outage
        have hafter : after = fs := FileSystem.copyInto_error hsound.forest hdirectory hcopy
        rw [hafter]
        by_cases hout : TreeCall.copy ∈ interpreter.outages
        · simpa [call, hout] using .trouble .outage
        · simpa [call, hout] using .trouble (.refused error)
      | ok copied =>
        by_cases hout : TreeCall.copy ∈ interpreter.outages
        · simpa [call, hout] using .trouble .outage
        · simpa [call, hout] using .success (.cp hknown hcopy)
  · exact .failure (isFailure_failure (by decide) (by decide) _ _ _)

/-- **What a command comes to.** -/
theorem comesTo_carryOut (interpreter : Interpreter) (hsound : fs.Sound) (command : Command)
    (arguments : List String) :
    interpreter.ComesTo fs command arguments (interpreter.carryOut command arguments fs) := by
  cases command with
  | echo => exact .success (.echo arguments)
  | ls => exact comesTo_ls arguments
  | cd => exact comesTo_cd arguments
  | cat => exact comesTo_cat arguments
  | pwd => exact .success (.pwd arguments)
  | find => exact comesTo_find arguments
  | cp => exact comesTo_cp hsound arguments

/-- **What a line comes to**: it is blank, or it fails, and in both cases the file system is as
before; or it is a command that succeeds. -/
theorem execute_cases (interpreter : Interpreter) (hsound : fs.Sound) (held : List NodeId)
    (raw : String) :
    ((interpreter.execute fs held raw).result = .blank
        ∧ (interpreter.execute fs held raw).fs = fs)
      ∨ ((interpreter.execute fs held raw).result.IsFailure
        ∧ (interpreter.execute fs held raw).fs = fs)
      ∨ ∃ command, Command.ofName? (Line.parse raw).command = some command
        ∧ interpreter.Succeeds fs command (Line.parse raw).arguments
          (interpreter.execute fs held raw).result (interpreter.execute fs held raw).fs := by
  simp only [execute]
  by_cases hblank : (Line.parse raw).command = ""
  · exact .inl (by simp [hblank])
  · simp only [hblank, if_false]
    cases hcommand : Command.ofName? (Line.parse raw).command with
    | none => exact .inr (.inl ⟨isFailure_failure (by decide) (by decide) _ _ _, rfl⟩)
    | some command =>
      have hcomes := comesTo_carryOut interpreter hsound command
        (Line.parse raw).arguments
      -- what the command comes to decides, and not how it came to that
      dsimp only
      generalize interpreter.carryOut command (Line.parse raw).arguments fs = attempt at hcomes ⊢
      cases hcomes with
      | success hsucceeds => exact .inr (.inr ⟨command, rfl, hsucceeds⟩)
      | failure hfails => exact .inr (.inl ⟨hfails, rfl⟩)
      | trouble trouble => exact .inr (.inl ⟨isFailure_failureOf command trouble, rfl⟩)

/-- **A command that can succeed does**, if all calls are in order. -/
theorem carryOut_of_succeeds (houtages : interpreter.outages = []) {command : Command}
    {arguments : List String} {result : Result} {after : FileSystem}
    (h : interpreter.Succeeds fs command arguments result after) :
    interpreter.carryOut command arguments fs = (.ok result, after) := by
  cases h with
  | echo | pwd => rfl
  | ls =>
    rw [carryOut, ls, call_of_no_outages houtages]
    rfl
  | cd hleads =>
    rw [carryOut, cd, call_of_no_outages houtages, FileSystem.changeDirectory, hleads]
    rfl
  | cat hreads =>
    rw [carryOut, cat, call_of_no_outages houtages, hreads]
    rfl
  | find hfinds =>
    rw [carryOut, find, call_of_no_outages houtages, hfinds]
    rfl
  | cp hknown hcopies =>
    rw [carryOut, cp, call_of_no_outages houtages, hknown]
    simp only [Except.mapError, hcopies, call_of_no_outages houtages]

/-- **A line whose command can succeed** comes to that success, if all calls are in order. -/
theorem execute_of_succeeds (houtages : interpreter.outages = []) (held : List NodeId)
    {raw : String} {command : Command} {result : Result} {after : FileSystem}
    (hcommand : Command.ofName? (Line.parse raw).command = some command)
    (h : interpreter.Succeeds fs command (Line.parse raw).arguments result after) :
    (interpreter.execute fs held raw).result = result
      ∧ (interpreter.execute fs held raw).fs = after := by
  have hne : (Line.parse raw).command ≠ "" := by
    rw [← Command.name_of_ofName? hcommand]
    cases command <;> decide
  simp only [execute, if_neg hne, hcommand, carryOut_of_succeeds houtages h]
  exact ⟨trivial, trivial⟩

/-- A success is no error. -/
theorem Succeeds.isError {command : Command} {arguments : List String} {result : Result}
    {after : FileSystem} (h : interpreter.Succeeds fs command arguments result after) :
    result.isError = false := by
  cases h <;> rfl

theorem Succeeds.errorKind {command : Command} {arguments : List String} {result : Result}
    {after : FileSystem} (h : interpreter.Succeeds fs command arguments result after) :
    result.errorKind = none := by
  cases h <;> rfl

/-- A success names its command. -/
theorem Succeeds.command {command : Command} {arguments : List String} {result : Result}
    {after : FileSystem} (h : interpreter.Succeeds fs command arguments result after) :
    result.command = command.name := by
  cases h <;> rfl

/-- **A success keeps a file system grown from its root.** -/
theorem Succeeds.grown {command : Command} {arguments : List String} {result : Result}
    {after : FileSystem} (h : interpreter.Succeeds fs command arguments result after)
    {ok : String → Prop} (hgrown : fs.Grown ok) : after.Grown ok := by
  cases h with
  | echo | ls | cat | pwd | find => exact hgrown
  | cd hleads => exact hgrown.changeDirectory hleads
  | @cp name destination copied _ hknown hcopy =>
    have hafter := hgrown.copyInto name (hgrown.sound.isDirectory_wellKnown hknown)
    rwa [hcopy] at hafter

/-- **A line keeps a file system grown from its root.** -/
theorem grown_execute (interpreter : Interpreter) {ok : String → Prop} (hgrown : fs.Grown ok)
    (held : List NodeId) (raw : String) : (interpreter.execute fs held raw).fs.Grown ok := by
  rcases execute_cases interpreter hgrown.sound held raw with
    ⟨-, hsame⟩ | ⟨-, hsame⟩ | ⟨command, -, hsucceeds⟩
  · rwa [hsame]
  · rwa [hsame]
  · exact hsucceeds.grown hgrown

/-- **A line that ends in an error leaves the file system as it was.** -/
theorem fs_execute_of_isError (hsound : fs.Sound) {held : List NodeId} {raw : String}
    (h : (interpreter.execute fs held raw).result.isError = true) :
    (interpreter.execute fs held raw).fs = fs := by
  rcases execute_cases interpreter hsound held raw with
    ⟨-, hsame⟩ | ⟨-, hsame⟩ | ⟨command, -, hsucceeds⟩
  · exact hsame
  · exact hsame
  · rw [hsucceeds.isError] at h
    exact absurd h (by decide)

end Interpreter

end StoryShell
