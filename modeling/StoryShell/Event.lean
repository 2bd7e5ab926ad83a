/-
What a shell does outwardly while it works, as a list of events in their order.
-/
import StoryShell.Command.Result
import StoryShell.Log

set_option autoImplicit false

namespace StoryShell

/-- **An event**: a text that is printed, a prompt that is shown, a milestone that is announced, a
listener that hears of one, a result that is published, or a record that is logged. Listeners are
numbered in the order in which they were added. -/
inductive Event where
  | printed (text : String)
  | prompted (text : String)
  | reached (milestone : String)
  | heard (listener : Nat) (milestone : String)
  | published (result : Result)
  | logged (record : Log.Record)
deriving DecidableEq, Repr

namespace Event

/-- The text that an event prints. -/
def text? : Event → Option String
  | .printed text => some text
  | _ => none

/-- The milestone that an event announces. -/
def milestone? : Event → Option String
  | .reached milestone => some milestone
  | _ => none

/-- The milestone that a listener hears of in an event. -/
def heardBy? (listener : Nat) : Event → Option String
  | .heard number milestone => if number = listener then some milestone else none
  | _ => none

/-- The result that an event publishes. -/
def result? : Event → Option Result
  | .published result => some result
  | _ => none

/-- The record that an event logs. -/
def record? : Event → Option Log.Record
  | .logged record => some record
  | _ => none

/-- What an event writes for whoever sits before the shell: a printed text ends its line, a prompt
does not. -/
def written : Event → String
  | .printed text => text ++ "\n"
  | .prompted text => text
  | _ => ""

/-- What an event writes into the log at a level. -/
def noted (level : Log.Level) : Event → String
  | .logged record => if record.reaches level then record.line ++ "\n" else ""
  | _ => ""

end Event

end StoryShell
