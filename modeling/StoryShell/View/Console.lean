/-
The console: shows the output of every result and keeps a transcript of it.
-/
import StoryShell.Event

set_option autoImplicit false

namespace StoryShell

/-- A block of text that was shown. -/
structure ConsoleLine where
  text : String
  isError : Bool
deriving DecidableEq, Repr

/-- **The console**: what was shown so far, what goes before an error, and whether it prints. -/
structure Console where
  transcript : List ConsoleLine
  errorPrefix : String
  prints : Bool
deriving DecidableEq, Repr

namespace Console

/-- A text without one line feed at its end. -/
def dropLineFeed (text : String) : String :=
  match text.toList.reverse with
  | '\n' :: rest => String.ofList rest.reverse
  | _ => text

/-- **Shows a result.** A result without output leaves no trace. -/
def observe (console : Console) (result : Result) : Console × List Event :=
  let text := dropLineFeed result.output
  if text = "" then (console, [])
  else
    let shown := if result.isError then console.errorPrefix ++ text else text
    ({ console with transcript := console.transcript ++ [⟨text, result.isError⟩] },
      if console.prints then [.printed shown] else [])

end Console

end StoryShell
