/-
Bare values of TOML documents: truths, numbers and points in time.

A bare value is a single word, and the whole of it must be one of the spellings below. Between two
digits of a number there may be an underscore.
-/
import StoryShell.Toml.Basic
import StoryShell.Text.Blank
import StoryShell.Text.Numeral

set_option autoImplicit false

namespace StoryShell.Toml

/-! ## Numbers -/

/-- The digits of a text of digits and single underscores between them. -/
def digits? (isDigit : Char → Bool) (text : List Char) : Option (List Char) :=
  let groups := Text.splitAt (· = '_') text
  if groups.all fun group => !group.isEmpty && group.all isDigit then some groups.flatten else none

/-- A text before and after the first character that satisfies `p`, if there is one. -/
def splitFirst (p : Char → Bool) (text : List Char) : List Char × Option (List Char) :=
  match text.dropWhile (!p ·) with
  | [] => (text, none)
  | _ :: rest => (text.takeWhile (!p ·), some rest)

/-- A text without its sign, and whether that is a minus. -/
def splitSign : List Char → Bool × List Char
  | '-' :: rest => (true, rest)
  | '+' :: rest => (false, rest)
  | text => (false, text)

/-- A whole number in another base. -/
def basedNumber? : List Char → Option Toml
  | '0' :: letter :: text => do
    let base ← [('x', 16), ('o', 8), ('b', 2)].lookup letter
    let digits ← digits? (Text.isDigitIn base) text
    return .integer (Text.numberIn base digits)
  | _ => none

/-- The digits of a whole number, which has no zero in front. -/
def wholeDigits? (text : List Char) : Option (List Char) := do
  let digits ← digits? Text.isDigit text
  if digits.head? = some '0' && text ≠ ['0'] then none else return digits

/-- The number that an exponent writes. -/
def exponent? (text : List Char) : Option Int := do
  let (negative, text) := splitSign text
  let digits ← digits? Text.isDigit text
  let n : Int := Text.numberIn 10 digits
  return if negative then -n else n

/-- A decimal number. It is whole when it has neither a fraction nor an exponent. -/
def decimal? (word : List Char) : Option Toml := do
  let (negative, text) := splitSign word
  let (mantissa, power) := splitFirst (fun c => c = 'e' || c = 'E') text
  let (whole, fraction) := splitFirst (· = '.') mantissa
  let whole ← wholeDigits? whole
  match fraction, power with
  | none, none =>
    let n : Int := Text.numberIn 10 whole
    return .integer (if negative then -n else n)
  | fraction, power =>
    let fraction ← match fraction with
      | none => some []
      | some text => digits? Text.isDigit text
    let exponent ← match power with
      | none => some 0
      | some text => exponent? text
    return .real
      (.ofDecimal negative (Text.numberIn 10 (whole ++ fraction)) (exponent - fraction.length))

/-! ## Points in time -/

/-- Whether two digits write a number that is not larger than another. -/
def isUpTo (limit : Nat) (a b : Char) : Bool :=
  Text.isDigit a && Text.isDigit b && Text.numberIn 10 [a, b] ≤ limit

/-- What is left after a time of day, to the second or finer. -/
def afterTime? : List Char → Option (List Char)
  | a :: b :: ':' :: c :: d :: ':' :: e :: f :: rest =>
    if isUpTo 23 a b && isUpTo 59 c d && isUpTo 59 e f then
      match rest with
      | '.' :: fraction =>
        if (fraction.takeWhile Text.isDigit).isEmpty then none
        else some (fraction.dropWhile Text.isDigit)
      | rest => some rest
    else none
  | _ => none

/-- Whether a text is how far a place is from the zero meridian, or nothing. -/
def isOffset : List Char → Bool
  | [] => true
  | [c] => c = 'Z' || c = 'z'
  | [sign, a, b, ':', c, d] => (sign = '+' || sign = '-') && isUpTo 23 a b && isUpTo 59 c d
  | _ => false

/-- How many days a month has. -/
def daysIn (year month : Nat) : Nat :=
  if month = 2 then if year % 4 = 0 && (year % 100 ≠ 0 || year % 400 = 0) then 29 else 28
  else if [4, 6, 9, 11].contains month then 30
  else 31

/-- What is left after a day of the calendar. -/
def afterDay? : List Char → Option (List Char)
  | a :: b :: c :: d :: '-' :: e :: f :: '-' :: g :: h :: rest =>
    let year := Text.numberIn 10 [a, b, c, d]
    let month := Text.numberIn 10 [e, f]
    let day := Text.numberIn 10 [g, h]
    if [a, b, c, d, e, f, g, h].all Text.isDigit && 1 ≤ year && 1 ≤ month && month ≤ 12
        && 1 ≤ day && day ≤ daysIn year month then some rest
    else none
  | _ => none

/-- Whether a word is a day, a time of day, or both. -/
def isMoment (word : List Char) : Bool :=
  match afterDay? word with
  | some [] => true
  | some (c :: time) =>
    (c = 'T' || c = 't' || c = ' ') && (afterTime? time).any isOffset
  | none => afterTime? word = some []

/-! ## Words -/

/-- The values that have names. -/
def constants : List (List Char × Toml) := [
  ("true".toList, .truth true), ("false".toList, .truth false),
  ("inf".toList, .real (.infinite false)), ("+inf".toList, .real (.infinite false)),
  ("-inf".toList, .real (.infinite true)), ("nan".toList, .real .notANumber),
  ("+nan".toList, .real .notANumber), ("-nan".toList, .real .notANumber)]

/-- **The value of a word.** -/
def ofWord? (word : List Char) : Option Toml :=
  (constants.lookup word).or <|
    if isMoment word then some (.moment (String.ofList word))
    else (basedNumber? word).or (decimal? word)

/-- Whether a character may stand in a word. -/
def isWordChar (c : Char) : Bool :=
  Text.isDigit c || ('a' ≤ c && c ≤ 'z') || ('A' ≤ c && c ≤ 'Z')
    || c = '+' || c = '-' || c = '.' || c = '_' || c = ':'

/-- The word at the front and what is left. A day and a time of day with one space between them are
one word. -/
def splitWord (text : List Char) : List Char × List Char :=
  let word := text.takeWhile isWordChar
  match text.dropWhile isWordChar with
  | ' ' :: c :: rest =>
    if afterDay? word = some [] && Text.isDigit c then
      (word ++ ' ' :: (c :: rest).takeWhile isWordChar, (c :: rest).dropWhile isWordChar)
    else (word, ' ' :: c :: rest)
  | rest => (word, rest)

/-- **Reads a bare value.** -/
def bareValue (text : List Char) : Option (Toml × List Char) :=
  let (word, rest) := splitWord text
  (ofWord? word).map (·, rest)

end StoryShell.Toml
