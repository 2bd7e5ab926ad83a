/-
What can be wrong with the text of a JSON document, and how it is reported: the problem, then the
line, the column and the place of the character where it was met.
-/

set_option autoImplicit false

namespace StoryShell.Json

/-- What is wrong with a document. -/
inductive Problem where
  | byteOrderMark
  | noValue
  | noName
  | noColon
  | noComma
  | moreText
  | openText
  | controlCharacter
  | badEscape
  | badCodePoint
deriving DecidableEq, Repr

/-- The wording of a problem. -/
def Problem.wording : Problem → String
  | .byteOrderMark => "Unexpected UTF-8 BOM (decode using utf-8-sig)"
  | .noValue => "Expecting value"
  | .noName => "Expecting property name enclosed in double quotes"
  | .noColon => "Expecting ':' delimiter"
  | .noComma => "Expecting ',' delimiter"
  | .moreText => "Extra data"
  | .openText => "Unterminated string starting at"
  | .controlCharacter => "Invalid control character at"
  | .badEscape => "Invalid \\escape"
  | .badCodePoint => "Invalid \\uXXXX escape"

/-- The longest whole number that is read, in digits. -/
def digitLimit : Nat := 4300

/-- **A fault.** Either a problem at a character of the document, counted from zero, or a whole
number with too many digits. -/
inductive Fault where
  | problem (what : Problem) (place : Nat)
  | tooManyDigits (count : Nat)
deriving DecidableEq, Repr

/-- The line of a place in a document, counted from one. -/
def lineOf (document : List Char) (place : Nat) : Nat :=
  (document.take place).count '\n' + 1

/-- The column of a place in a document, counted from one. -/
def columnOf (document : List Char) (place : Nat) : Nat :=
  ((document.take place).reverse.takeWhile (· ≠ '\n')).length + 1

/-- The message for a fault in a document. -/
def Fault.message (document : List Char) : Fault → String
  | .problem what place =>
    what.wording ++ ": line " ++ toString (lineOf document place) ++ " column "
      ++ toString (columnOf document place) ++ " (char " ++ toString place ++ ")"
  | .tooManyDigits count =>
    "Exceeds the limit (" ++ toString digitLimit
      ++ " digits) for integer string conversion: value has " ++ toString count
      ++ " digits; use sys.set_int_max_str_digits() to increase the limit"

end StoryShell.Json
