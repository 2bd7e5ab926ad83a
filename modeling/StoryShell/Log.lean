/-
Log records: what the parts of the program report about their work, apart from what they answer.
-/

set_option autoImplicit false

namespace StoryShell.Log

/-- How serious a record is. -/
inductive Level where
  | debug
  | info
  | warning
  | error
deriving DecidableEq, Repr

/-- The place of a level, from the least serious on. -/
def Level.rank : Level → Nat
  | .debug => 0
  | .info => 1
  | .warning => 2
  | .error => 3

/-- The name of a level. -/
def Level.label : Level → String
  | .debug => "DEBUG"
  | .info => "INFO"
  | .warning => "WARNING"
  | .error => "ERROR"

/-- The level with a name, if there is one. -/
def Level.ofLabel? (text : String) : Option Level :=
  [Level.debug, .info, .warning, .error].find? fun level => level.label = text

/-- The part of the program that reports. -/
inductive Source where
  | nodes
  | tree
  | interpreter
  | bus
  | gate
  | progress
  | shell
deriving DecidableEq, Repr

/-- The name under which a part reports. -/
def Source.label : Source → String
  | .nodes => "vfshell.models"
  | .tree => "vfshell.vfs"
  | .interpreter => "vfshell.interpreter"
  | .bus => "vfshell.events"
  | .gate => "vfshell.policy"
  | .progress => "vfshell.progression"
  | .shell => "vfshell.main"

/-- **A record.** -/
structure Record where
  level : Level
  source : Source
  message : String
deriving DecidableEq, Repr

/-- Whether a record is at or above a level. -/
def Record.reaches (record : Record) (level : Level) : Bool :=
  level.rank ≤ record.level.rank

/-- The line that shows a record. -/
def Record.line (record : Record) : String :=
  record.level.label ++ " " ++ record.source.label ++ ": " ++ record.message

end StoryShell.Log
