/-
The interpreter: carries out a line on the file system.

A line always has a result. What the tree refuses becomes a failure of its kind; anything else that
goes wrong inside a command, be it a misuse of the tree or an outage, becomes an internal failure.
An outage is a call of the tree that fails for no reason of its own, whenever the interpreter makes
it; a sound shell has none.
-/
import StoryShell.Command.Line
import StoryShell.Command.Result
import StoryShell.Text.Quoted
import StoryShell.Tree.FileSystem

set_option autoImplicit false

namespace StoryShell

/-- **The commands.** -/
inductive Command where
  | cat
  | cd
  | cp
  | echo
  | find
  | ls
  | pwd
deriving DecidableEq, Repr

namespace Command

/-- The name of a command. -/
def name : Command → String
  | .cat => "cat"
  | .cd => "cd"
  | .cp => "cp"
  | .echo => "echo"
  | .find => "find"
  | .ls => "ls"
  | .pwd => "pwd"

/-- Every command, in the order of the names. -/
def all : List Command := [.cat, .cd, .cp, .echo, .find, .ls, .pwd]

/-- The command with a name, if there is one. -/
def ofName? (name : String) : Option Command :=
  all.find? fun command => command.name = name

end Command

/-- The calls of the tree that the interpreter makes. -/
inductive TreeCall where
  | list
  | find
  | read
  | wellKnown
  | copy
  | changeDirectory
deriving DecidableEq, Repr

/-- Why a command did not come to its end. -/
inductive Trouble where
  | refused (error : TreeError)
  | outage
deriving DecidableEq, Repr

/-- **The interpreter**: the role of the directory that files are copied to, and the calls of the
tree that are out of order. -/
structure Interpreter where
  copyRole : String
  outages : List TreeCall
deriving DecidableEq, Repr

namespace Interpreter

/-- The interpreter of a sound shell. -/
def sound : Interpreter := ⟨"bin", []⟩

/-- Makes a call of the tree. -/
def call {α : Type} (interpreter : Interpreter) (what : TreeCall) (outcome : Except TreeError α) :
    Except Trouble α :=
  if interpreter.outages.contains what then .error .outage
  else
    match outcome with
    | .ok value => .ok value
    | .error error => .error (.refused error)

/-- What a command comes to: its result or why it has none, and the file system that it leaves. -/
abbrev Attempt := Except Trouble Result × FileSystem

/-! ## The commands -/

/-- `echo`: the arguments with single spaces between them. -/
def echo (arguments : List String) (fs : FileSystem) : Attempt :=
  (.ok (.success "echo" (Text.joinWords arguments) [] none), fs)

/-- `ls`: the children of the current directory, one a line. -/
def ls (interpreter : Interpreter) (fs : FileSystem) : Attempt :=
  let listed (nodes : List NodeId) : Result :=
    .success "ls" (String.intercalate "\n" (nodes.map fs.forest.displayName)) nodes none
  ((interpreter.call .list (.ok fs.list)).map listed, fs)

/-- `cd`: moves to the directory that the first argument leads to. -/
def cd (interpreter : Interpreter) (arguments : List String) (fs : FileSystem) : Attempt :=
  match arguments with
  | [] => (.ok (.failure .pathRequired "path required" "cd" none), fs)
  | path :: _ =>
    match interpreter.call .changeDirectory (fs.changeDirectory path) with
    | .error trouble => (.error trouble, fs)
    | .ok (target, fs) => (.ok (.success "cd" "" [] (some target)), fs)

/-- `cat`: the text of the file that the first argument names. A directory of that name is the
target of the failure. -/
def cat (interpreter : Interpreter) (arguments : List String) (fs : FileSystem) : Attempt :=
  match arguments with
  | [] => (.ok (.failure .filenameRequired "filename required" "cat" none), fs)
  | name :: _ =>
    match interpreter.call .read (fs.readFile name) with
    | .ok file => (.ok (.success "cat" (fs.forest.textOf file) [] (some file)), fs)
    | .error (.refused (.isADirectory name node)) =>
      (.ok (.failure .isADirectory (TreeError.isADirectory name node).message "cat" (some node)),
        fs)
    | .error trouble => (.error trouble, fs)

/-- `pwd`: the path of the current directory. -/
def pwd (fs : FileSystem) : Attempt :=
  (.ok (.success "pwd" fs.currentPath [] none), fs)

/-- `find`: the path of the first node with the name that is the only argument. -/
def find (interpreter : Interpreter) (arguments : List String) (fs : FileSystem) : Attempt :=
  match arguments with
  | [name] =>
    let found : Option String → Result
      | none => .failure .notFound ("find: " ++ name ++ ": not found") "find" none
      | some path => .success "find" path [] none
    ((interpreter.call .find (.ok (fs.find name))).map found, fs)
  | _ => (.ok (.failure .usageError "usage: find <name>" "find" none), fs)

/-- `cp`: copies the file that is the only argument into the directory with the copy role. The copy
leaves a file system even if it is refused; an outage leaves the one before it. -/
def cp (interpreter : Interpreter) (arguments : List String) (fs : FileSystem) : Attempt :=
  match arguments with
  | [name] =>
    match interpreter.call .wellKnown (fs.wellKnown interpreter.copyRole) with
    | .error trouble => (.error trouble, fs)
    | .ok destination =>
      let (outcome, after) := fs.copyInto name destination
      match interpreter.call .copy outcome with
      | .error .outage => (.error .outage, fs)
      | .error (.refused error) => (.error (.refused error), after)
      | .ok copied => (.ok (.success "cp" "" [] (some copied.source)), after)
  | _ => (.ok (.failure .usageError "usage: cp <name>" "cp" none), fs)

/-- Carries out a command. -/
def carryOut (interpreter : Interpreter) (command : Command) (arguments : List String)
    (fs : FileSystem) : Attempt :=
  match command with
  | .echo => echo arguments fs
  | .ls => interpreter.ls fs
  | .cd => interpreter.cd arguments fs
  | .cat => interpreter.cat arguments fs
  | .pwd => pwd fs
  | .find => interpreter.find arguments fs
  | .cp => interpreter.cp arguments fs

/-! ## Lines -/

/-- **What carrying out a line gives**: its result, the file system after it, and what is logged. -/
structure Execution where
  result : Result
  fs : FileSystem
  records : List Log.Record

/-- The failure that trouble in a command becomes. -/
def failureOf (command : Command) : Trouble → Result
  | .refused error =>
    match error.kind? with
    | some kind => .failure kind error.message command.name none
    | none => internal
  | .outage => internal
where
  /-- The failure without a cause that could be shown. -/
  internal : Result :=
    .failure .internal ("internal error while running " ++ command.name) command.name none

/-- What is logged about trouble in a command. -/
def troubleRecords (command : Command) : Trouble → List Log.Record
  | .refused error =>
    match error.kind? with
    | some _ => error.records
    | none => error.records ++ [unexpected]
  | .outage => [unexpected]
where
  /-- The record of a failure without a cause that could be shown. -/
  unexpected : Log.Record :=
    ⟨.error, .interpreter, "Command '" ++ command.name ++ "' failed unexpectedly."⟩

/-- What is logged about a command that came to its end: a move tells where it led, as seen when
only what the file system and `held` keep is left. -/
def successRecords (command : Command) (result : Result) (fs : FileSystem) (held : List NodeId) :
    List Log.Record :=
  if command = .cd && !result.isError then [fs.moveRecord held] else []

/-- **Carries out a line.** `held` are the nodes that others keep in existence meanwhile. -/
def execute (interpreter : Interpreter) (fs : FileSystem) (held : List NodeId) (raw : String) :
    Execution :=
  let line := Line.parse raw
  if line.command = "" then ⟨.blank, fs, []⟩
  else
    match Command.ofName? line.command with
    | none =>
      ⟨.failure .commandNotFound ("command not found: " ++ line.token) line.command none, fs, []⟩
    | some command =>
      let dispatch : Log.Record := ⟨.debug, .interpreter,
        "Dispatching " ++ command.name ++ " " ++ Text.quotedList line.arguments⟩
      match interpreter.carryOut command line.arguments fs with
      | (.ok result, after) =>
        ⟨result, after, dispatch :: successRecords command result after held⟩
      | (.error trouble, after) =>
        ⟨failureOf command trouble, after, dispatch :: troubleRecords command trouble⟩

end Interpreter

end StoryShell
