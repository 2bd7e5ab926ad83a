/-
A typed line, cut into a command and its arguments.
-/
import StoryShell.Text.Blank
import StoryShell.Text.LetterCase

set_option autoImplicit false

namespace StoryShell

/-- **A line**: its first word as it was typed, which is empty in a blank line, and the other
words. -/
structure Line where
  token : String
  arguments : List String
deriving DecidableEq, Repr

namespace Line

/-- Cuts a line into its words. -/
def parse (raw : String) : Line :=
  match Text.words raw with
  | [] => ⟨"", []⟩
  | token :: arguments => ⟨token, arguments⟩

/-- The name of the command: commands are told apart without regard to case. -/
def command (line : Line) : String := Text.lower line.token

end Line

end StoryShell
