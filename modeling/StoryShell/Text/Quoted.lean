/-
Quoted text: a string as it is shown inside a message or inside a list.

The quote is the single one, unless the text holds a single quote and no double one. The backslash
and the quote in use get a backslash, line feed, carriage return and tab their letters, and every
other character that is not printable its code point in two, four or eight hexadecimal digits.
-/
import StoryShell.Text.PrintableTable

set_option autoImplicit false

namespace StoryShell.Text

/-- Whether a character stands for itself in quoted text. -/
def isPrintable (c : Char) : Bool :=
  inRanges printableRanges c.toNat

/-- The last `width` hexadecimal digits of `n`, in small letters. -/
def hexDigits : Nat → Nat → List Char
  | 0, _ => []
  | width + 1, n => hexDigits width (n / 16) ++ [Nat.digitChar (n % 16)]

/-- A character by its code point, in the shortest of the three forms that holds it. -/
def escapeCode (n : Nat) : List Char :=
  if n < 0x100 then '\\' :: 'x' :: hexDigits 2 n
  else if n < 0x10000 then '\\' :: 'u' :: hexDigits 4 n
  else '\\' :: 'U' :: hexDigits 8 n

/-- A character as it stands between the given quotes. -/
def quoteChar (quote c : Char) : List Char :=
  if c = quote || c = '\\' then ['\\', c]
  else if c = '\n' then ['\\', 'n']
  else if c = '\r' then ['\\', 'r']
  else if c = '\t' then ['\\', 't']
  else if isPrintable c then [c]
  else escapeCode c.toNat

/-- The quote that a text is put in: the single one, `'\x27'`, unless the text holds it and holds
no double one, `'\x22'`. -/
def quoteFor (text : List Char) : Char :=
  if text.contains '\x27' && !text.contains '\x22' then '\x22' else '\x27'

/-- **A text in quotes.** -/
def quoted (text : String) : String :=
  let mark := quoteFor text.toList
  String.ofList (mark :: (text.toList.flatMap (quoteChar mark) ++ [mark]))

/-- A list of texts as it is shown in a message: each in quotes, in square brackets. -/
def quotedList (texts : List String) : String :=
  "[" ++ String.intercalate ", " (texts.map quoted) ++ "]"

end StoryShell.Text
