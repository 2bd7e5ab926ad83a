/-
Carrying out a line on a tree whose calls may fail in any way.

The tree of a running shell refuses what it refuses in words of its own, and an outage is the only
other thing that stops it. Here a tree is whatever answers the calls that the interpreter makes
(`TreeCalls`): a call may give any value, throw any error of a tree or anything else, log what it
likes and leave any file system. The commands are written over such calls, each with what it
catches itself, and a line is carried out by its command with whatever that throws caught outside.
The only other thing that could throw is the taking of the first word of a line
(`firstWord`), which nobody catches.

A line nevertheless always comes to a result, in the name of its command (`settles_execute`). The
tree of a running shell is one of these trees (`Interpreter.calls`), and on it this is the
interpreter that runs (`execute_calls`).
-/
import StoryShell.Proofs.Outcome
import StoryShell.Proofs.Command.Execution

set_option autoImplicit false

namespace StoryShell

/-! ## Trees that may throw -/

/-- **What may be thrown**: an error of a tree, with its kind, its wording and the node that stood
in the way, or anything else. -/
inductive Thrown where
  | refusal (kind : ErrorKind) (message : String) (node : Option NodeId)
  | unforeseen
deriving DecidableEq, Repr

/-- What a line is carried out on: a file system, and the log of the line. -/
structure Desk where
  fs : FileSystem
  records : List Log.Record

/-- Computations on a desk that may throw; what they did to the desk stays all the same. -/
abbrev TreeM := ExceptT Thrown (StateM Desk)

/-- Adds a record to the log. -/
def TreeM.log (record : Log.Record) : TreeM Unit :=
  modify fun desk => { desk with records := desk.records ++ [record] }

/-- **The calls of a tree that the interpreter makes.** -/
structure TreeCalls where
  listing : TreeM (List NodeId)
  changeDirectory (path : String) : TreeM NodeId
  readFile (name : String) : TreeM NodeId
  currentPath : TreeM String
  findByName (name : String) : TreeM (Option String)
  wellKnown (role : String) : TreeM NodeId
  copyInto (name : String) (destination : NodeId) : TreeM FileSystem.Copied

/-- The first word of a line as it was typed. Taking it from a line without words throws. -/
def firstWord (raw : String) : Except Thrown String :=
  match Text.words raw with
  | [] => .error .unforeseen
  | token :: _ => .ok token

namespace TreeCalls

/-! ## Commands -/

/-- `echo` makes no call. -/
def echo (arguments : List String) : TreeM Result :=
  return .success "echo" (Text.joinWords arguments) [] none

/-- `ls` over any calls. -/
def ls (tree : TreeCalls) : TreeM Result := do
  let nodes ← tree.listing
  let desk ← get
  return .success "ls" (String.intercalate "\n" (nodes.map desk.fs.forest.displayName)) nodes none

/-- `cd` over any calls. -/
def cd (tree : TreeCalls) : List String → TreeM Result
  | [] => return .failure .pathRequired "path required" "cd" none
  | path :: _ => do
    let target ← tree.changeDirectory path
    return .success "cd" "" [] (some target)

/-- `cat` over any calls. It catches the refusal to read a directory, whose node it passes on. -/
def cat (tree : TreeCalls) : List String → TreeM Result
  | [] => return .failure .filenameRequired "filename required" "cat" none
  | name :: _ => do
    match ← observing (tree.readFile name) with
    | .ok file =>
      let desk ← get
      return .success "cat" (desk.fs.forest.textOf file) [] (some file)
    | .error (.refusal .isADirectory message node) =>
      return .failure .isADirectory message "cat" node
    | .error thrown => throw thrown

/-- `pwd` over any calls. -/
def pwd (tree : TreeCalls) : TreeM Result := do
  let path ← tree.currentPath
  return .success "pwd" path [] none

/-- `find` over any calls. -/
def find (tree : TreeCalls) : List String → TreeM Result
  | [name] => do
    match ← tree.findByName name with
    | none => return .failure .notFound ("find: " ++ name ++ ": not found") "find" none
    | some path => return .success "find" path [] none
  | _ => return .failure .usageError "usage: find <name>" "find" none

/-- `cp` over any calls. -/
def cp (tree : TreeCalls) (copyRole : String) : List String → TreeM Result
  | [name] => do
    let destination ← tree.wellKnown copyRole
    let copied ← tree.copyInto name destination
    return .success "cp" "" [] (some copied.source)
  | _ => return .failure .usageError "usage: cp <name>" "cp" none

/-- Carries out a command. -/
def carryOut (tree : TreeCalls) (copyRole : String) (command : Command)
    (arguments : List String) : TreeM Result :=
  match command with
  | .echo => echo arguments
  | .ls => tree.ls
  | .cd => tree.cd arguments
  | .cat => tree.cat arguments
  | .pwd => tree.pwd
  | .find => tree.find arguments
  | .cp => tree.cp copyRole arguments

/-- What becomes of what a command throws: an error of the tree is shown, anything else is not. -/
def caught (command : Command) : Thrown → TreeM Result
  | .refusal kind message _ => return .failure kind message command.name none
  | .unforeseen => do
    TreeM.log (Interpreter.troubleRecords.unexpected command)
    return Interpreter.failureOf.internal command

/-- **Carries out a line**, and catches whatever its command throws. -/
def execute (tree : TreeCalls) (copyRole : String) (raw : String) : TreeM Result :=
  let line := Line.parse raw
  if line.command = "" then return .blank
  else
    match Command.ofName? line.command with
    | none => do
      let token ← MonadExcept.ofExcept (firstWord raw)
      return .failure .commandNotFound ("command not found: " ++ token) line.command none
    | some command => do
      TreeM.log ⟨.debug, .interpreter,
        "Dispatching " ++ command.name ++ " " ++ Text.quotedList line.arguments⟩
      tryCatch (tree.carryOut copyRole command line.arguments) (caught command)

end TreeCalls

/-! ## What comes of a line -/

namespace TreeM

variable {α β : Type} {P : α → Prop}

/-- **A computation that gives nothing but such values**, if it gives any. -/
def Gives (computation : TreeM α) (P : α → Prop) : Prop :=
  ∀ desk value after, computation.run.run desk = (.ok value, after) → P value

/-- **A computation that throws nothing**, and gives such a value on every desk. -/
def Settles (computation : TreeM α) (P : α → Prop) : Prop :=
  ∀ desk, ∃ value after, computation.run.run desk = (.ok value, after) ∧ P value

theorem gives_pure {value : α} (h : P value) : (pure value : TreeM α).Gives P := by
  intro desk found after hrun
  have hfound : value = found := Except.ok.inj (congrArg Prod.fst hrun)
  rwa [← hfound]

theorem gives_throw (thrown : Thrown) : (throw thrown : TreeM α).Gives P := by
  intro desk found after hrun
  have hfalse : Except.error thrown = Except.ok found := congrArg Prod.fst hrun
  exact absurd hfalse (by simp)

/-- After a record is logged, the rest goes on with it. -/
theorem run_log_bind (record : Log.Record) (rest : Unit → TreeM α) (desk : Desk) :
    (log record >>= rest).run.run desk
      = (rest ()).run.run { desk with records := desk.records ++ [record] } := rfl

/-- What is given is not caught. -/
theorem run_tryCatch_of_ok {computation : TreeM α} {handler : Thrown → TreeM α}
    {desk middle : Desk} {value : α} (h : computation.run.run desk = (.ok value, middle)) :
    (tryCatch computation handler).run.run desk = (.ok value, middle) := by
  rw [ExceptT.run_tryCatch, StateT.run_bind, h]
  rfl

/-- What is thrown is handled. -/
theorem run_tryCatch_of_error {computation : TreeM α} {handler : Thrown → TreeM α}
    {desk middle : Desk} {thrown : Thrown}
    (h : computation.run.run desk = (.error thrown, middle)) :
    (tryCatch computation handler).run.run desk = (handler thrown).run.run middle := by
  rw [ExceptT.run_tryCatch, StateT.run_bind, h]
  rfl

/-- What is observed is given and not thrown. -/
theorem run_observing {computation : TreeM α} {desk middle : Desk} {outcome : Except Thrown α}
    (h : computation.run.run desk = (outcome, middle)) :
    (observing computation).run.run desk = (.ok outcome, middle) := by
  cases outcome with
  | ok value => exact run_tryCatch_of_ok (run_bind_of_ok h)
  | error thrown => exact run_tryCatch_of_error (run_bind_of_error h)

/-- What comes last decides what is given. -/
theorem gives_bind {first : TreeM β} {rest : β → TreeM α} (h : ∀ found, (rest found).Gives P) :
    (first >>= rest).Gives P := by
  intro desk value after hrun
  rcases hfirst : first.run.run desk with ⟨outcome, middle⟩
  cases outcome with
  | error thrown =>
    have hfalse := congrArg Prod.fst ((run_bind_of_error hfirst).symm.trans hrun)
    exact absurd hfalse (by simp)
  | ok found => exact h found middle value after ((run_bind_of_ok hfirst).symm.trans hrun)

theorem settles_pure {value : α} (h : P value) : (pure value : TreeM α).Settles P :=
  fun desk => ⟨value, desk, rfl, h⟩

/-- What settles after a record is logged, settles. -/
theorem settles_log_bind {record : Log.Record} {rest : Unit → TreeM α} (h : (rest ()).Settles P) :
    (log record >>= rest).Settles P := by
  intro desk
  rw [run_log_bind]
  exact h { desk with records := desk.records ++ [record] }

/-- **What is caught is settled**: what the computation gives is such a value, and so is what comes
of everything that it may throw. -/
theorem settles_tryCatch {computation : TreeM α} {handler : Thrown → TreeM α}
    (hgives : computation.Gives P) (hhandler : ∀ thrown, (handler thrown).Settles P) :
    (tryCatch computation handler).Settles P := by
  intro desk
  rcases hrun : computation.run.run desk with ⟨outcome, middle⟩
  cases outcome with
  | ok value => exact ⟨value, middle, run_tryCatch_of_ok hrun, hgives desk value middle hrun⟩
  | error thrown =>
    obtain ⟨value, after, hcaught, hvalue⟩ := hhandler thrown middle
    exact ⟨value, after, (run_tryCatch_of_error hrun).trans hcaught, hvalue⟩

end TreeM

/-- **A result in the name of a command**: it bears that name, and has a kind of error just if it
is an error. -/
structure Result.InNameOf (result : Result) (command : String) : Prop where
  command : result.command = command
  isError_iff : result.isError = true ↔ result.errorKind ≠ none

theorem Result.inNameOf_success (command output : String) (nodes : List NodeId)
    (target : Option NodeId) : (success command output nodes target).InNameOf command :=
  ⟨rfl, by simp [success]⟩

theorem Result.inNameOf_failure (kind : ErrorKind) (message command : String)
    (target : Option NodeId) : (failure kind message command target).InNameOf command :=
  ⟨rfl, by simp [failure]⟩

namespace TreeCalls

open TreeM

variable (tree : TreeCalls)

/-- **What a command gives, it gives in its own name**, whatever the calls do. -/
theorem gives_carryOut (copyRole : String) (command : Command) (arguments : List String) :
    (tree.carryOut copyRole command arguments).Gives (·.InNameOf command.name) := by
  cases command with
  | echo => exact gives_pure (Result.inNameOf_success _ _ _ _)
  | ls =>
    refine gives_bind fun nodes => gives_bind fun desk => ?_
    exact gives_pure (Result.inNameOf_success _ _ _ _)
  | cd =>
    cases arguments with
    | nil => exact gives_pure (Result.inNameOf_failure _ _ _ _)
    | cons path rest =>
      exact gives_bind fun target => gives_pure (Result.inNameOf_success _ _ _ _)
  | cat =>
    cases arguments with
    | nil => exact gives_pure (Result.inNameOf_failure _ _ _ _)
    | cons name rest =>
      refine gives_bind fun outcome => ?_
      -- a file, a directory in its place, or anything else, which is thrown on
      split
      · exact gives_bind fun desk => gives_pure (Result.inNameOf_success _ _ _ _)
      · exact gives_pure (Result.inNameOf_failure _ _ _ _)
      · exact gives_throw _
  | pwd => exact gives_bind fun path => gives_pure (Result.inNameOf_success _ _ _ _)
  | find =>
    simp only [carryOut]
    unfold find
    split
    · refine gives_bind fun found => ?_
      cases found with
      | none => exact gives_pure (Result.inNameOf_failure _ _ _ _)
      | some path => exact gives_pure (Result.inNameOf_success _ _ _ _)
    · exact gives_pure (Result.inNameOf_failure _ _ _ _)
  | cp =>
    simp only [carryOut]
    unfold cp
    split
    · refine gives_bind fun destination => gives_bind fun copied => ?_
      exact gives_pure (Result.inNameOf_success _ _ _ _)
    · exact gives_pure (Result.inNameOf_failure _ _ _ _)

/-- A line with words has a first word. -/
theorem firstWord_eq {raw : String} (h : Text.words raw ≠ []) :
    firstWord raw = .ok (Line.parse raw).token := by
  rw [firstWord, Line.parse]
  cases hwords : Text.words raw with
  | nil => exact absurd hwords h
  | cons token arguments => rfl

/-- **Of a line that is carried out nothing escapes**: on any tree and any desk it comes to a result
in the name of its command. -/
theorem settles_execute (copyRole raw : String) :
    (tree.execute copyRole raw).Settles (·.InNameOf (Line.parse raw).command) := by
  intro desk
  by_cases hblank : (Line.parse raw).command = ""
  · rw [execute, if_pos hblank, hblank]
    exact ⟨.blank, desk, rfl, rfl, by simp [Result.blank]⟩
  · simp only [execute, if_neg hblank]
    cases hcommand : Command.ofName? (Line.parse raw).command with
    | none =>
      -- the first word is there to be taken
      simp only [firstWord_eq (mt Line.command_eq_empty_iff.2 hblank)]
      exact ⟨_, desk, rfl, Result.inNameOf_failure _ _ _ _⟩
    | some command =>
      rw [← Command.name_of_ofName? hcommand]
      refine settles_log_bind (settles_tryCatch ?_ ?_) desk
      · exact tree.gives_carryOut copyRole command (Line.parse raw).arguments
      · intro thrown
        cases thrown with
        | refusal kind message node => exact settles_pure (Result.inNameOf_failure _ _ _ _)
        | unforeseen => exact settles_log_bind (settles_pure (Result.inNameOf_failure _ _ _ _))

end TreeCalls

/-! ## The tree of a running shell -/

/-- What trouble is to those who catch it: a misuse of the tree and an outage are nothing that the
tree has an error of its own for. -/
def Trouble.thrown : Trouble → Thrown
  | .refused error =>
    match error.kind? with
    | some kind => .refusal kind error.message error.node?
    | none => .unforeseen
  | .outage => .unforeseen

/-- What the tree itself logs about trouble. -/
def Trouble.records : Trouble → List Log.Record
  | .refused error => error.records
  | .outage => []

namespace Interpreter

variable (interpreter : Interpreter) (held : List NodeId)

/-- A question to the running tree, which changes nothing. -/
def query {α : Type} (what : TreeCall) (answer : FileSystem → Except TreeError α) : TreeM α :=
  fun desk =>
    match interpreter.call what (answer desk.fs) with
    | .ok value => (.ok value, desk)
    | .error trouble => (.error trouble.thrown, ⟨desk.fs, desk.records ++ trouble.records⟩)

/-- A copy in the running tree. What is left of one that is refused stays; an outage leaves
everything as it was. -/
def copy (name : String) (destination : NodeId) : TreeM FileSystem.Copied := fun desk =>
  let (outcome, after) := desk.fs.copyInto name destination
  match interpreter.call .copy outcome with
  | .ok copied => (.ok copied, ⟨after, desk.records⟩)
  | .error .outage => (.error Trouble.outage.thrown, desk)
  | .error (.refused error) =>
    (.error (Trouble.refused error).thrown, ⟨after, desk.records ++ error.records⟩)

/-- **The calls of the running tree.** -/
def calls : TreeCalls where
  listing := interpreter.query .list fun fs => .ok fs.list
  changeDirectory path := do
    let (target, after) ← interpreter.query .changeDirectory (·.changeDirectory path)
    modify fun desk => { desk with fs := after }
    TreeM.log (after.moveRecord held)
    return target
  readFile name := interpreter.query .read (·.readFile name)
  currentPath := return (← get).fs.currentPath
  findByName name := interpreter.query .find fun fs => .ok (fs.find name)
  wellKnown role := interpreter.query .wellKnown (·.wellKnown role)
  copyInto := interpreter.copy

/-- What an attempt at a command comes to on a desk with the given log. -/
def onDesk (command : Command) (records : List Log.Record) : Attempt → Except Thrown Result × Desk
  | (.ok result, after) =>
    (.ok result, ⟨after, records ++ successRecords command result after held⟩)
  | (.error trouble, after) => (.error trouble.thrown, ⟨after, records ++ trouble.records⟩)

variable {interpreter} {held}

/-- What a question comes to. -/
theorem run_query {α : Type} (what : TreeCall) (answer : FileSystem → Except TreeError α)
    (desk : Desk) : (interpreter.query what answer).run.run desk
      = match interpreter.call what (answer desk.fs) with
        | .ok value => (.ok value, desk)
        | .error trouble => (.error trouble.thrown, ⟨desk.fs, desk.records ++ trouble.records⟩) :=
  rfl

/-- A question that is answered is followed by the rest. -/
theorem run_query_bind {α β : Type} (what : TreeCall) (answer : FileSystem → Except TreeError α)
    (rest : α → TreeM β) (desk : Desk) :
    (interpreter.query what answer >>= rest).run.run desk
      = match interpreter.call what (answer desk.fs) with
        | .ok value => (rest value).run.run desk
        | .error trouble =>
          (.error trouble.thrown, ⟨desk.fs, desk.records ++ trouble.records⟩) := by
  have hquery := interpreter.run_query what answer desk
  cases hcall : interpreter.call what (answer desk.fs) with
  | error trouble =>
    rw [hcall] at hquery
    exact run_bind_of_error hquery
  | ok value =>
    rw [hcall] at hquery
    exact run_bind_of_ok hquery

/-- A success that is no move leaves the log as it is. -/
theorem onDesk_of_ne {command : Command} (h : command ≠ .cd) (result : Result) (desk : Desk) :
    onDesk held command desk.records (.ok result, desk.fs) = (.ok result, desk) := by
  simp [onDesk, successRecords, h]

/-- A failure that a command gives itself leaves the log as it is. -/
theorem onDesk_failure (command : Command) (kind : ErrorKind) (message name : String)
    (target : Option NodeId) (desk : Desk) :
    onDesk held command desk.records (.ok (.failure kind message name target), desk.fs)
      = (.ok (.failure kind message name target), desk) := by
  simp [onDesk, successRecords, Result.failure]

theorem run_ls (desk : Desk) :
    (interpreter.calls held).ls.run.run desk
      = onDesk held .ls desk.records (interpreter.ls desk.fs) := by
  simp only [TreeCalls.ls, ls, calls, run_query_bind]
  cases interpreter.call .list (.ok desk.fs.list) with
  | error trouble => rfl
  | ok nodes => exact (onDesk_of_ne (by decide) _ desk).symm

theorem run_cd (arguments : List String) (desk : Desk) :
    ((interpreter.calls held).cd arguments).run.run desk
      = onDesk held .cd desk.records (interpreter.cd arguments desk.fs) := by
  cases arguments with
  | nil => exact (onDesk_failure .cd _ _ _ _ desk).symm
  | cons path rest =>
    simp only [TreeCalls.cd, cd, calls, bind_assoc, run_query_bind]
    cases interpreter.call .changeDirectory (desk.fs.changeDirectory path) with
    | error trouble => rfl
    | ok moved => rfl

theorem run_cat (arguments : List String) (desk : Desk) :
    ((interpreter.calls held).cat arguments).run.run desk
      = onDesk held .cat desk.records (interpreter.cat arguments desk.fs) := by
  cases arguments with
  | nil => exact (onDesk_failure .cat _ _ _ _ desk).symm
  | cons name rest =>
    have hquery := interpreter.run_query .read (·.readFile name) desk
    simp only [TreeCalls.cat, cat, calls]
    cases hcall : interpreter.call .read (desk.fs.readFile name) with
    | ok file =>
      rw [hcall] at hquery
      refine (run_bind_of_ok (TreeM.run_observing hquery)).trans ?_
      exact (onDesk_of_ne (by decide) _ desk).symm
    | error trouble =>
      rw [hcall] at hquery
      refine (run_bind_of_ok (TreeM.run_observing hquery)).trans ?_
      cases trouble with
      | outage => rfl
      | refused error =>
        -- only the refusal to read a directory is caught
        cases error with
        | isADirectory name node =>
          have hrecords : desk.records ++ (Trouble.refused (.isADirectory name node)).records
              = desk.records := List.append_nil _
          rw [hrecords]
          exact (onDesk_failure .cat _ _ _ _ desk).symm
        | _ => rfl

theorem run_find (arguments : List String) (desk : Desk) :
    ((interpreter.calls held).find arguments).run.run desk
      = onDesk held .find desk.records (interpreter.find arguments desk.fs) := by
  rcases arguments with _ | ⟨name, _ | ⟨second, rest⟩⟩
  · exact (onDesk_failure .find _ _ _ _ desk).symm
  · simp only [TreeCalls.find, find, calls, run_query_bind]
    cases interpreter.call .find (.ok (desk.fs.find name)) with
    | error trouble => rfl
    | ok found =>
      cases found with
      | none => exact (onDesk_failure .find _ _ _ _ desk).symm
      | some path => exact (onDesk_of_ne (by decide) _ desk).symm
  · exact (onDesk_failure .find _ _ _ _ desk).symm

theorem run_cp (arguments : List String) (desk : Desk) :
    ((interpreter.calls held).cp interpreter.copyRole arguments).run.run desk
      = onDesk held .cp desk.records (interpreter.cp arguments desk.fs) := by
  rcases arguments with _ | ⟨name, _ | ⟨second, rest⟩⟩
  · exact (onDesk_failure .cp _ _ _ _ desk).symm
  · simp only [TreeCalls.cp, cp, calls, run_query_bind]
    cases interpreter.call .wellKnown (desk.fs.wellKnown interpreter.copyRole) with
    | error trouble => rfl
    | ok destination =>
      have hcopy : (interpreter.copy name destination).run.run desk
          = interpreter.copy name destination desk := rfl
      unfold copy at hcopy
      simp only at hcopy ⊢
      -- the copy is made or not, and what it leaves stays unless there is an outage
      cases hcall : interpreter.call .copy (desk.fs.copyInto name destination).1 with
      | error trouble =>
        rw [hcall] at hcopy
        cases trouble with
        | outage =>
          refine (run_bind_of_error hcopy).trans ?_
          simp [onDesk, Trouble.records]
        | refused error => exact run_bind_of_error hcopy
      | ok copied =>
        rw [hcall] at hcopy
        refine (run_bind_of_ok hcopy).trans ?_
        exact (onDesk_of_ne (by decide) _ ⟨_, desk.records⟩).symm
  · exact (onDesk_failure .cp _ _ _ _ desk).symm

/-- **A command over the calls of the running tree** is the command as it runs. -/
theorem carryOut_calls (interpreter : Interpreter) (held : List NodeId) (command : Command)
    (arguments : List String) (desk : Desk) :
    ((interpreter.calls held).carryOut interpreter.copyRole command arguments).run.run desk
      = onDesk held command desk.records (interpreter.carryOut command arguments desk.fs) := by
  cases command with
  | echo => exact (onDesk_of_ne (by decide) _ desk).symm
  | ls => exact run_ls desk
  | cd => exact run_cd arguments desk
  | cat => exact run_cat arguments desk
  | pwd => exact (onDesk_of_ne (by decide) _ desk).symm
  | find => exact run_find arguments desk
  | cp => exact run_cp arguments desk

/-- What the interpreter makes of trouble is what becomes of it where it is caught. -/
theorem run_caught (command : Command) (trouble : Trouble) (after : FileSystem)
    (records : List Log.Record) :
    (TreeCalls.caught command trouble.thrown).run.run ⟨after, records ++ trouble.records⟩
      = (.ok (failureOf command trouble), ⟨after, records ++ troubleRecords command trouble⟩) := by
  cases trouble with
  | outage =>
    rw [Trouble.records, List.append_nil]
    rfl
  | refused error =>
    rw [Trouble.thrown, failureOf, troubleRecords]
    -- a refusal of a kind is shown, and logged by the tree only
    cases error.kind? with
    | some kind => rfl
    | none =>
      rw [← List.append_assoc]
      rfl

/-- **A line over the calls of the running tree** is carried out as it is by the interpreter. -/
theorem execute_calls (interpreter : Interpreter) (held : List NodeId) (fs : FileSystem)
    (raw : String) :
    ((interpreter.calls held).execute interpreter.copyRole raw).run.run ⟨fs, []⟩
      = (.ok (interpreter.execute fs held raw).result,
        ⟨(interpreter.execute fs held raw).fs, (interpreter.execute fs held raw).records⟩) := by
  by_cases hblank : (Line.parse raw).command = ""
  · rw [TreeCalls.execute, execute, if_pos hblank, if_pos hblank]
    rfl
  · simp only [TreeCalls.execute, execute, if_neg hblank]
    cases Command.ofName? (Line.parse raw).command with
    | none =>
      simp only [TreeCalls.firstWord_eq (mt Line.command_eq_empty_iff.2 hblank)]
      rfl
    | some command =>
      dsimp only
      rw [TreeM.run_log_bind]
      generalize (Log.Record.mk .debug .interpreter ("Dispatching " ++ command.name ++ " "
        ++ Text.quotedList (Line.parse raw).arguments)) = dispatch
      have hrun := interpreter.carryOut_calls held command (Line.parse raw).arguments
        ⟨fs, [dispatch]⟩
      rcases hattempt : interpreter.carryOut command (Line.parse raw).arguments fs with
        ⟨outcome, after⟩
      rw [hattempt] at hrun
      cases outcome with
      | ok result => exact TreeM.run_tryCatch_of_ok hrun
      | error trouble =>
        exact (TreeM.run_tryCatch_of_error hrun).trans (run_caught command trouble after [dispatch])

end Interpreter

end StoryShell
