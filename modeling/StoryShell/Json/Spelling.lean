/-
JSON values where a text is expected: what each of them is spelled as.

A text stands for itself. The constants are spelled `None`, `True` and `False`, whole numbers in
all their digits, floating-point numbers by their shortest decimal, and arrays and objects in
brackets with the texts inside them in quotes.
-/
import StoryShell.Json.Basic
import StoryShell.Number.Shortest
import StoryShell.Text.Quoted

set_option autoImplicit false

namespace StoryShell.Json

/-- Floating-point numbers are positional from a ten-thousandth up to ten to the sixteenth, and the
exponent has two digits at least. -/
def realLayout : Binary64.Layout := ⟨-4, 16, 2⟩

/-- Texts with a comma and a space between them. -/
def listed (parts : List String) : String :=
  String.intercalate ", " parts

mutual

/-- **The spelling of a value inside another**, where texts are in quotes. -/
def inner : Json → String
  | .null => "None"
  | .bool value => if value then "True" else "False"
  | .integer value => toString value
  | .real value => value.text realLayout
  | .string value => Text.quoted value
  | .array items => "[" ++ listed (innerItems items) ++ "]"
  | .object fields => "\x7b" ++ listed (innerFields fields) ++ "\x7d"

/-- The spellings of the items of an array. -/
def innerItems : List Json → List String
  | [] => []
  | item :: rest => inner item :: innerItems rest

/-- The spellings of the fields of an object. -/
def innerFields : List (String × Json) → List String
  | [] => []
  | (key, value) :: rest => (Text.quoted key ++ ": " ++ inner value) :: innerFields rest

end

/-- **The spelling of a value** where a text is expected. -/
def spelling : Json → String
  | .string value => value
  | value => value.inner

end StoryShell.Json
