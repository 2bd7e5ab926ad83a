/-
The command line.

An argument that starts with a dash is a switch, unless it is a dash alone, looks like a negative
number or holds a space. Long switches may be shortened as long as only one is meant, and take their
value from the next argument or after an equals sign; two dashes after an equals sign are no value.
Two dashes alone end the switches. First all arguments are told apart, so a shortened switch that
could be two stops everything; then they are taken from left to right, and the first that asks for
help or is misused decides.

What is not a switch names the activity; there can be only one, and all further ones are too many,
which is found out at the end.
-/
import StoryShell.Log
import StoryShell.Text.Digit
import StoryShell.Text.Quoted

set_option autoImplicit false

namespace StoryShell

/-- What the program is asked to do: to play, or to list the bundled worlds. -/
inductive Activity where
  | play
  | worlds
deriving DecidableEq, Repr

/-- The activity with a name. -/
def Activity.ofName? (name : String) : Option Activity :=
  if name = "play" then some .play else if name = "worlds" then some .worlds else none

/-- **What a command line asks for.** -/
structure Invocation where
  activity : Activity
  world : String
  worldFile : Option String
  everythingOpen : Bool
  logLevel : Log.Level
deriving DecidableEq, Repr

/-- What an empty command line asks for: to play the bundled world of this name. -/
def Invocation.default (world : String) : Invocation := ⟨.play, world, none, false, .warning⟩

/-- What reading a command line comes to. The level of the log may be given without a value, which
is found out only when the log is set up. -/
inductive Reading where
  | run (invocation : Invocation)
  | help
  | misuse
  | noLogLevel
deriving DecidableEq, Repr

namespace Arguments

/-! ## Switches -/

/-- The switches. -/
inductive Switch where
  | help
  | world
  | worldFile
  | unlockAll
  | logLevel
deriving DecidableEq, Repr

/-- Every spelling of a switch. -/
def spellings : List (String × Switch) := [
  ("-h", .help), ("--help", .help), ("--world", .world), ("--world-file", .worldFile),
  ("--unlock-all", .unlockAll), ("--log-level", .logLevel)]

/-- The switch with a spelling. -/
def ofSpelling? (spelling : String) : Option Switch :=
  (spellings.find? (·.1 = spelling)).map (·.2)

/-! ## Telling arguments apart -/

/-- **What an argument is**: a plain one, two dashes alone, a switch with the value after its equals
sign, the short switch for help with letters after it, with or without an equals sign between them,
or a switch that is not known. -/
inductive Mark where
  | plain
  | separator
  | switch (switch : Switch) (value : Option String)
  | cluster (letters : List Char)
  | unknown
deriving DecidableEq, Repr

/-- Whether an argument starts with two dashes. -/
def isLong (text : List Char) : Bool := "--".toList.isPrefixOf text

/-- A text up to its first equals sign, and what stands after that, if there is one. -/
def splitEquals (text : List Char) : List Char × Option (List Char) :=
  match text.dropWhile (· ≠ '=') with
  | [] => (text, none)
  | _ :: value => (text.takeWhile (· ≠ '='), some value)

/-- What a text that is no full spelling can stand for: a shortened long switch, or the short one
with letters after it. -/
def candidates (text : List Char) : List Mark :=
  if isLong text then
    let (start, value) := splitEquals text
    (spellings.filter fun (spelling, _) => start.isPrefixOf spelling.toList).map
      fun (_, switch) => .switch switch (value.map String.ofList)
  else if "-h".toList.isPrefixOf text then [.cluster (text.drop 2)]
  else []

/-- Whether all of a text is digits, of which there is at least one. -/
def isDigits (text : List Char) : Bool := !text.isEmpty && text.all Text.isDecimalDigit

/-- Whether a text looks like a number after its sign; a line feed at the end does not matter. -/
def isNumber (text : List Char) : Bool :=
  let text := match text.reverse with
    | '\n' :: rest => rest.reverse
    | _ => text
  isDigits text ||
    match text.dropWhile Text.isDecimalDigit with
    | '.' :: fraction => isDigits fraction
    | _ => false

/-- What an argument other than two dashes is, unless it could be more than one switch. -/
def mark? (argument : String) : Option Mark :=
  match argument.toList with
  | '-' :: rest =>
    let text := '-' :: rest
    match ofSpelling? argument, splitEquals text with
    | some switch, _ => some (.switch switch none)
    | none, (start, value) =>
      if rest = [] then some .plain
      else
        match value, ofSpelling? (String.ofList start) with
        | some value, some switch =>
          if isLong text then some (.switch switch (some (String.ofList value)))
          else some (.cluster value)
        | _, _ =>
          match candidates text with
          | [] => if isNumber rest || rest.contains ' ' then some .plain else some .unknown
          | [mark] => some mark
          | _ => none
  | _ => some .plain

/-- What all arguments are; after two dashes all are plain. -/
def markAll? : List String → Option (List (Mark × String))
  | [] => some []
  | argument :: rest =>
    if argument = "--" then some ((.separator, argument) :: rest.map (.plain, ·))
    else do
      let mark ← mark? argument
      let marks ← markAll? rest
      return (mark, argument) :: marks

/-! ## Taking arguments -/

/-- How far the arguments are taken: what they ask for, whether the level of the log is left without
a value, whether an activity was named, and whether there was an argument too many. -/
structure State where
  invocation : Invocation
  levelless : Bool
  named : Bool
  surplus : Bool
deriving DecidableEq, Repr

/-- Two dashes are no value. -/
def value? (text : String) : Option String := if text = "--" then none else some text

/-- Gives a switch its value, if it may have it. A world without a value goes by the text of an
empty list, a file without one is no file, and a level without one is none of the levels. -/
def assign (state : State) (switch : Switch) (text : String) : Option State :=
  let invocation := state.invocation
  match switch, value? text with
  | .world, value =>
    some { state with invocation := { invocation with world := value.getD (Text.quotedList []) } }
  | .worldFile, value => some { state with invocation := { invocation with worldFile := value } }
  | .logLevel, none => some { state with levelless := true }
  | .logLevel, some value => do
    let logLevel ← Log.Level.ofLabel? value
    return { state with levelless := false, invocation := { invocation with logLevel } }
  | .help, _ => none
  | .unlockAll, _ => none

/-- Whether letters after the short switch for help ask for help: each of them is that switch once
more. -/
def asksForHelp (letters : List Char) : Bool := !letters.isEmpty && letters.all (· = 'h')

/-- Takes arguments from left to right. Two dashes right after the activity go with it. -/
def take : State → List (Mark × String) → Reading
  | state, [] =>
    if state.surplus then .misuse
    else if state.levelless then .noLogLevel
    else .run state.invocation
  | state, (.plain, argument) :: rest =>
    if state.named then take { state with surplus := true } rest
    else
      match Activity.ofName? argument with
      | none => .misuse
      | some activity =>
        let invocation := { state.invocation with activity }
        let state := { state with named := true, invocation }
        match rest with
        | (.separator, _) :: rest => take state rest
        | rest => take state rest
  | state, (.separator, _) :: rest =>
    take { state with surplus := state.surplus || state.named } rest
  | state, (.unknown, _) :: rest => take { state with surplus := true } rest
  | _, (.cluster letters, _) :: _ => if asksForHelp letters then .help else .misuse
  | state, (.switch switch (some value), _) :: rest =>
    match assign state switch value with
    | none => .misuse
    | some state => take state rest
  | _, (.switch .help none, _) :: _ => .help
  | state, (.switch .unlockAll none, _) :: rest =>
    take { state with invocation := { state.invocation with everythingOpen := true } } rest
  | state, (.switch switch none, _) :: rest =>
    match rest with
    | (.plain, value) :: rest =>
      match assign state switch value with
      | none => .misuse
      | some state => take state rest
    | _ => .misuse

/-- **Reads a command line**, given the name of the world that is played without one. -/
def read (world : String) (arguments : List String) : Reading :=
  match markAll? arguments with
  | none => .misuse
  | some marks => take ⟨.default world, false, false, false⟩ marks

end Arguments

end StoryShell
