/-
The lexemes of a JSON document.

The document is cut into marks, texts, numbers and constants, each with the place of its first
character, and ends in a lexeme of its own. A lexeme that is itself at fault is kept as such: the
fault counts only where a text or a number may stand, and elsewhere it is the place that matters.
Numbers may be followed by anything, so `01` is two lexemes.
-/
import StoryShell.Json.Basic
import StoryShell.Json.Fault
import StoryShell.Text.Numeral

set_option autoImplicit false

namespace StoryShell.Json

/-- **A lexeme**, without its place. -/
inductive Lexeme where
  | openArray
  | closeArray
  | openObject
  | closeObject
  | comma
  | colon
  | text (value : String)
  | value (value : Json)
  | brokenText (fault : Fault)
  | brokenNumber (fault : Fault)
  | stray
  | finish
deriving Repr

/-- The blanks between lexemes. -/
def isSpace (c : Char) : Bool :=
  c = ' ' || c = '\t' || c = '\n' || c = '\r'

/-! ## Texts -/

/-- The character that a letter after a backslash stands for. -/
def escaped? : Char → Option Char
  | '\x22' => some '\x22'
  | '\\' => some '\\'
  | '/' => some '/'
  | 'b' => some '\x08'
  | 'f' => some '\x0c'
  | 'n' => some '\n'
  | 'r' => some '\r'
  | 't' => some '\t'
  | _ => none

/-- The number written by four hexadecimal digits. -/
def hexQuad? (a b c d : Char) : Option Nat := do
  let a ← Text.hexValue? a
  let b ← Text.hexValue? b
  let c ← Text.hexValue? c
  let d ← Text.hexValue? d
  return ((a * 16 + b) * 16 + c) * 16 + d

/-- Whether a number is the first half of a surrogate pair. -/
def isHighHalf (n : Nat) : Bool := 0xd800 ≤ n && n ≤ 0xdbff

/-- Whether a number is the second half of a surrogate pair. -/
def isLowHalf (n : Nat) : Bool := 0xdc00 ≤ n && n ≤ 0xdfff

/-- The code point of a surrogate pair. -/
def joinHalves (high low : Nat) : Nat :=
  0x10000 + (high - 0xd800) * 0x400 + (low - 0xdc00)

/-- The character of a code point; a lone half of a pair has none and gets the mark for that. -/
def charOf (n : Nat) : Char :=
  if isHighHalf n || isLowHalf n then '\ufffd' else Char.ofNat n

/-- What reading a text gives: the text, the count of characters read and what is left, or the
fault that was met. -/
abbrev TextScan := Except Fault (List Char × Nat × List Char)

/-- Puts a character in front of a text that was read, with the count of characters it took. -/
def TextScan.push (c : Char) (width : Nat) : TextScan → TextScan
  | .ok (text, count, rest) => .ok (c :: text, count + width, rest)
  | .error fault => .error fault

/-- **Reads a text** after its opening quote, which stands at `start`; `place` is the place of the
next character. Four digits after `\u` must be followed by a character, and two halves of a pair
are joined. -/
def scanText (start : Nat) : Nat → List Char → TextScan
  | _, [] => .error (.problem .openText start)
  | _, '\x22' :: rest => .ok ([], 1, rest)
  | place, '\\' :: 'u' :: a :: b :: c :: d :: '\\' :: 'u' :: e :: f :: g :: h :: next :: rest =>
    match hexQuad? a b c d with
    | none => .error (.problem .badCodePoint (place + 1))
    | some n =>
      if isHighHalf n then
        match hexQuad? e f g h with
        | none => .error (.problem .badCodePoint (place + 7))
        | some m =>
          if isLowHalf m then
            (scanText start (place + 12) (next :: rest)).push (charOf (joinHalves n m)) 12
          else
            (scanText start (place + 6)
              ('\\' :: 'u' :: e :: f :: g :: h :: next :: rest)).push (charOf n) 6
      else
        (scanText start (place + 6)
          ('\\' :: 'u' :: e :: f :: g :: h :: next :: rest)).push (charOf n) 6
  | place, '\\' :: 'u' :: a :: b :: c :: d :: next :: rest =>
    match hexQuad? a b c d with
    | none => .error (.problem .badCodePoint (place + 1))
    | some n => (scanText start (place + 6) (next :: rest)).push (charOf n) 6
  | place, '\\' :: 'u' :: _ => .error (.problem .badCodePoint (place + 1))
  | _, ['\\'] => .error (.problem .openText start)
  | place, '\\' :: c :: rest =>
    match escaped? c with
    | none => .error (.problem .badEscape place)
    | some e => (scanText start (place + 2) rest).push e 2
  | place, c :: rest =>
    if c < ' ' then .error (.problem .controlCharacter place)
    else (scanText start (place + 1) rest).push c 1

/-! ## Numbers -/

/-- **A numeral**: its sign, the digits before and after the point, and the exponent. -/
structure Numeral where
  negative : Bool
  whole : List Char
  fraction : List Char
  exponent : Option Int
deriving Repr

/-- The digits before the point: a zero alone, or any digits that start with another. -/
def scanWhole? : List Char → Option (List Char × List Char)
  | '0' :: rest => some (['0'], rest)
  | text =>
    match text.takeWhile Text.isDigit with
    | [] => none
    | digits => some (digits, text.dropWhile Text.isDigit)

/-- The digits after the point; without any, the point is not part of the number. -/
def scanFraction : List Char → List Char × List Char
  | '.' :: rest =>
    match rest.takeWhile Text.isDigit with
    | [] => ([], '.' :: rest)
    | digits => (digits, rest.dropWhile Text.isDigit)
  | text => ([], text)

/-- The sign of an exponent. -/
def scanSign : List Char → Bool × List Char
  | '-' :: rest => (true, rest)
  | '+' :: rest => (false, rest)
  | text => (false, text)

/-- The exponent; without digits, its letter is not part of the number. -/
def scanExponent (text : List Char) : Option Int × List Char :=
  match text with
  | c :: rest =>
    if c = 'e' || c = 'E' then
      let (negative, rest) := scanSign rest
      match rest.takeWhile Text.isDigit with
      | [] => (none, text)
      | digits =>
        let n : Int := Text.numberIn 10 digits
        (some (if negative then -n else n), rest.dropWhile Text.isDigit)
    else (none, text)
  | [] => (none, [])

/-- Reads a numeral, as long as it goes. -/
def scanNumeral? (text : List Char) : Option (Numeral × List Char) :=
  let (negative, text) := match text with
    | '-' :: rest => (true, rest)
    | _ => (false, text)
  match scanWhole? text with
  | none => none
  | some (whole, text) =>
    let (fraction, text) := scanFraction text
    let (exponent, text) := scanExponent text
    some (⟨negative, whole, fraction, exponent⟩, text)

/-- The lexeme of a numeral. It is whole when it has neither a fraction nor an exponent. -/
def Numeral.lexeme (n : Numeral) : Lexeme :=
  match n.fraction, n.exponent with
  | [], none =>
    if digitLimit < n.whole.length then .brokenNumber (.tooManyDigits n.whole.length)
    else
      let value : Int := Text.numberIn 10 n.whole
      .value (.integer (if n.negative then -value else value))
  | fraction, exponent =>
    .value (.real (.ofDecimal n.negative (Text.numberIn 10 (n.whole ++ fraction))
      (exponent.getD 0 - fraction.length)))

/-! ## The document -/

/-- The constants, each with its value. -/
def constants : List (List Char × Json) := [
  ("null".toList, .null), ("true".toList, .bool true), ("false".toList, .bool false),
  ("NaN".toList, .real .notANumber), ("Infinity".toList, .real (.infinite false)),
  ("-Infinity".toList, .real (.infinite true))]

/-- The constant at the front of a text, its length and what is left. -/
def scanConstant? (text : List Char) : Option (Json × List Char) :=
  constants.findSome? fun (name, value) => (name.isPrefixOf? text).map fun rest => (value, rest)

/-- **The next lexeme** of a text that starts with no blank, and what is left after it. -/
def nextLexeme (place : Nat) : List Char → Lexeme × List Char
  | [] => (.finish, [])
  | '[' :: rest => (.openArray, rest)
  | ']' :: rest => (.closeArray, rest)
  | '\x7b' :: rest => (.openObject, rest)
  | '\x7d' :: rest => (.closeObject, rest)
  | ',' :: rest => (.comma, rest)
  | ':' :: rest => (.colon, rest)
  | '\x22' :: rest =>
    match scanText place (place + 1) rest with
    | .ok (text, _, rest) => (.text (String.ofList text), rest)
    | .error fault => (.brokenText fault, [])
  | text =>
    match scanConstant? text with
    | some (value, rest) => (.value value, rest)
    | none =>
      match scanNumeral? text with
      | some (numeral, rest) => (numeral.lexeme, rest)
      | none => (.stray, [])

/-- The lexemes of a text, of which there are at most `count`, each with its place. -/
def lexemesFrom : Nat → Nat → List Char → List (Lexeme × Nat)
  | 0, place, _ => [(.finish, place)]
  | count + 1, place, text =>
    let trimmed := text.dropWhile isSpace
    let start := place + (text.length - trimmed.length)
    match nextLexeme start trimmed with
    | (.finish, _) => [(.finish, start)]
    | (lexeme, rest) =>
      (lexeme, start) :: lexemesFrom count (start + (trimmed.length - rest.length)) rest

/-- **The lexemes of a document.** Each takes a character at least, so their number is bounded. -/
def lexemes (document : List Char) : List (Lexeme × Nat) :=
  lexemesFrom document.length 0 document

end StoryShell.Json
