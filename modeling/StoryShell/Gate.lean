/-
The gate: which lines are carried out at all.

A command has to be allowed, and must not be blocked. What is blocked is a command, or a command
with one argument; such a pattern also stops the same argument with slashes at its end, which leads
to the same place. Blocks go before permissions.

Entries are compared in lower case. An edit brings its text to a normal form first, in which words
are separated by single spaces; an entry that the gate starts with is only put in lower case.
-/
import StoryShell.Command.Line
import StoryShell.Command.Result
import StoryShell.Log
import StoryShell.NameMap

set_option autoImplicit false

namespace StoryShell

/-- **The gate.** -/
structure Gate where
  allowed : NameSet
  blocked : NameSet
deriving DecidableEq, Repr

/-- The changes that can be made to a gate. -/
inductive GateEdit where
  | allow
  | disallow
  | block
  | unblock
deriving DecidableEq, Repr

namespace GateEdit

/-- Whether an edit adds an entry; otherwise it takes one away. -/
def adds : GateEdit → Bool
  | .allow | .block => true
  | .disallow | .unblock => false

/-- Whether an edit concerns what is blocked; otherwise it concerns what is allowed. -/
def isBlock : GateEdit → Bool
  | .block | .unblock => true
  | .allow | .disallow => false

/-- The word for what an edit did. -/
def verb : GateEdit → String
  | .allow => "unlocked"
  | .disallow => "locked"
  | .block => "blocked"
  | .unblock => "unblocked"

end GateEdit

/-- What the gate makes of a line: nothing is there to be carried out, it is refused with a result,
or it passes. -/
inductive Verdict where
  | blank
  | refused (result : Result)
  | passed
deriving DecidableEq, Repr

namespace Gate

/-- The gate that a list of commands and a list of patterns make. Empty texts are left out. -/
def ofLists (allowed blocked : List String) : Gate :=
  let entries (list : List String) : NameSet :=
    NameSet.ofList ((list.filter (· ≠ "")).map Text.lower)
  ⟨entries allowed, entries blocked⟩

/-! ## Edits -/

/-- **The normal form of an entry**: its words in lower case with single spaces between them. -/
def normalForm (text : String) : String :=
  Text.joinWords (Text.words (Text.lower text))

/-- The entries that an edit concerns. -/
def entries (gate : Gate) (edit : GateEdit) : NameSet :=
  if edit.isBlock then gate.blocked else gate.allowed

/-- A gate with other entries where an edit concerns them. -/
def withEntries (gate : Gate) (edit : GateEdit) (entries : NameSet) : Gate :=
  if edit.isBlock then { gate with blocked := entries } else { gate with allowed := entries }

/-- **Makes an edit**, and says whether it changed the gate. A blank text changes nothing. -/
def edit (gate : Gate) (edit : GateEdit) (text : String) : Bool × Gate :=
  let entry := normalForm text
  let entries := gate.entries edit
  if entry = "" || edit.adds = decide (entry ∈ entries) then (false, gate)
  else (true, gate.withEntries edit (if edit.adds then entries.add entry else entries.erase entry))

/-- What is logged about an edit that changed the gate. -/
def editRecord (edit : GateEdit) (text : String) : Log.Record :=
  ⟨.info, .gate, "Command " ++ edit.verb ++ ": " ++ normalForm text⟩

/-! ## Lines -/

/-- Whether a command by itself would pass. -/
def isAllowed (gate : Gate) (command : String) : Bool :=
  let command := Text.lower command
  command ∈ gate.allowed && command ∉ gate.blocked

/-- An argument without the slashes at its end, or as it is if it has nothing else. -/
def bareArgument (argument : String) : String :=
  let bare := Text.dropTrailing (· = '/') argument
  if bare = "" then argument else bare

/-- The pattern that stops a command with an argument. -/
def pattern (command argument : String) : String :=
  command ++ " " ++ Text.lower (bareArgument argument)

/-- Whether a line is stopped by a pattern: only its first argument counts. -/
def stopsArgument (gate : Gate) (line : Line) : Bool :=
  match line.arguments with
  | [] => false
  | argument :: _ => pattern line.command argument ∈ gate.blocked

/-- **What the gate makes of a line.** -/
def verdict (gate : Gate) (raw : String) : Verdict :=
  if Text.trim raw = "" then .blank
  else
    let line := Line.parse raw
    let refuse (kind : ErrorKind) (message : String) : Verdict :=
      .refused (.failure kind message line.command none)
    if line.command ∈ gate.blocked then
      refuse .blocked ("Command '" ++ line.token ++ "' is currently blocked.")
    else if gate.stopsArgument line then
      refuse .blocked
        ("Command execution blocked: " ++ line.token ++ " " ++ line.arguments.headD "")
    else if line.command ∉ gate.allowed then
      refuse .notAllowed ("command not found: " ++ line.token)
    else .passed

end Gate

end StoryShell
