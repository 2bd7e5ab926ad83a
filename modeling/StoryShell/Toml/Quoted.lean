/-
Quoted texts of TOML documents.

Between double quotes a backslash starts an escape; between single quotes every character stands for
itself. Three quotes of either kind enclose a text of several lines: a line feed right after the
opening ones is left out, and one or two more quotes right before the closing ones belong to the
text. Control characters may not stand in a text, except the tab and, in a text of several lines,
the line feed.

Each reader gives the text and what is left after its closing quote.
-/
import StoryShell.Text.Numeral

set_option autoImplicit false

namespace StoryShell.Toml

/-- What reading a text gives: the text and what is left, unless it is at fault. -/
abbrev TextScan := Option (List Char × List Char)

/-- Puts a character in front of a text that was read. -/
def TextScan.push (c : Char) : TextScan → TextScan :=
  Option.map fun (text, rest) => (c :: text, rest)

/-- The blanks within a line. -/
def isSpace (c : Char) : Bool := c = ' ' || c = '\t'

/-- Whether a character is a control character that may not stand in a line. -/
def isControl (c : Char) : Bool := (c < ' ' && c ≠ '\t') || c = '\x7f'

/-! ## Escapes -/

/-- The character that a letter after a backslash stands for. -/
def escaped? : Char → Option Char
  | '\x22' => some '\x22'
  | '\\' => some '\\'
  | 'b' => some '\x08'
  | 'f' => some '\x0c'
  | 'n' => some '\n'
  | 'r' => some '\r'
  | 't' => some '\t'
  | _ => none

/-- The character whose code point hexadecimal digits write. -/
def codePoint? (digits : List Char) : Option Char :=
  if digits.all (Text.isDigitIn 16) then
    let n := Text.numberIn 16 digits
    if n.isValidChar then some (Char.ofNat n) else none
  else none

/-! ## Texts of one line -/

/-- Reads a text after its opening double quote. -/
def basicText : List Char → TextScan
  | [] => none
  | '\x22' :: rest => some ([], rest)
  | '\\' :: 'u' :: a :: b :: c :: d :: rest =>
    match codePoint? [a, b, c, d] with
    | some point => (basicText rest).push point
    | none => none
  | '\\' :: 'U' :: a :: b :: c :: d :: e :: f :: g :: h :: rest =>
    match codePoint? [a, b, c, d, e, f, g, h] with
    | some point => (basicText rest).push point
    | none => none
  | '\\' :: c :: rest =>
    match escaped? c with
    | some e => (basicText rest).push e
    | none => none
  | c :: rest => if isControl c then none else (basicText rest).push c

/-- Reads a text after its opening single quote. -/
def literalText : List Char → TextScan
  | [] => none
  | '\x27' :: rest => some ([], rest)
  | c :: rest => if isControl c then none else (literalText rest).push c

/-- Reads a text of one line, in quotes of either kind. -/
def lineText : List Char → TextScan
  | '\x22' :: rest => basicText rest
  | '\x27' :: rest => literalText rest
  | _ => none

/-! ## Texts of several lines -/

/-- What is left out after a backslash at the end of a line: nothing, blanks up to the end of the
line, or blanks and line feeds. -/
inductive Skipping where
  | nothing
  | line
  | blanks
deriving DecidableEq, Repr

/-- Reads a text of several lines after its opening double quotes. A backslash at the end of a line
joins it with what is written next. -/
def basicLines : Skipping → List Char → TextScan
  | _, [] => none
  | .line, '\n' :: rest => basicLines .blanks rest
  | .line, c :: rest => if isSpace c then basicLines .line rest else none
  | .blanks, ' ' :: rest => basicLines .blanks rest
  | .blanks, '\t' :: rest => basicLines .blanks rest
  | .blanks, '\n' :: rest => basicLines .blanks rest
  | _, '\x22' :: '\x22' :: '\x22' :: rest => some ([], rest)
  | _, '\\' :: ' ' :: rest => basicLines .line rest
  | _, '\\' :: '\t' :: rest => basicLines .line rest
  | _, '\\' :: '\n' :: rest => basicLines .blanks rest
  | _, '\\' :: 'u' :: a :: b :: c :: d :: rest =>
    match codePoint? [a, b, c, d] with
    | some point => (basicLines .nothing rest).push point
    | none => none
  | _, '\\' :: 'U' :: a :: b :: c :: d :: e :: f :: g :: h :: rest =>
    match codePoint? [a, b, c, d, e, f, g, h] with
    | some point => (basicLines .nothing rest).push point
    | none => none
  | _, '\\' :: c :: rest =>
    match escaped? c with
    | some e => (basicLines .nothing rest).push e
    | none => none
  | _, c :: rest =>
    if isControl c && c ≠ '\n' then none else (basicLines .nothing rest).push c

/-- Reads a text of several lines after its opening single quotes. -/
def literalLines : List Char → TextScan
  | [] => none
  | '\x27' :: '\x27' :: '\x27' :: rest => some ([], rest)
  | c :: rest => if isControl c && c ≠ '\n' then none else (literalLines rest).push c

/-- A text without a line feed at its front. -/
def dropLineFeed : List Char → List Char
  | '\n' :: rest => rest
  | text => text

/-- Takes one or two more quotes into a text that was read up to three of them. -/
def TextScan.takeQuotes (quote : Char) : TextScan → TextScan :=
  Option.map fun (text, rest) =>
    let more := (rest.takeWhile (· = quote)).take 2
    (text ++ more, rest.drop more.length)

/-- **Reads a quoted text**, of one line or of several. -/
def quotedText : List Char → TextScan
  | '\x22' :: '\x22' :: '\x22' :: rest =>
    (basicLines .nothing (dropLineFeed rest)).takeQuotes '\x22'
  | '\x27' :: '\x27' :: '\x27' :: rest =>
    (literalLines (dropLineFeed rest)).takeQuotes '\x27'
  | text => lineText text

end StoryShell.Toml
