/-
Blank characters, and the cutting of text at them or at any other separator.

A blank is a character with the Unicode property of white space, or one of the four information
separators U+001C to U+001F. The zero-width space and the byte order mark are no blanks.
-/
import StoryShell.Text.Ranges

set_option autoImplicit false

namespace StoryShell.Text

/-- The blank characters. -/
def blankRanges : List (Nat × Nat) := [
  (0x9, 0xd), (0x1c, 0x20), (0x85, 0x85), (0xa0, 0xa0), (0x1680, 0x1680), (0x2000, 0x200a),
  (0x2028, 0x2029), (0x202f, 0x202f), (0x205f, 0x205f), (0x3000, 0x3000)]

/-- Whether a character is blank. -/
def isBlank (c : Char) : Bool :=
  inRanges blankRanges c.toNat

/-- The pieces between separators, empty ones included: always one more than there are
separators. -/
def splitAt (isSeparator : Char → Bool) : List Char → List (List Char)
  | [] => [[]]
  | c :: rest =>
    match isSeparator c, splitAt isSeparator rest with
    | true, pieces => [] :: pieces
    | false, [] => [[c]]
    | false, piece :: pieces => (c :: piece) :: pieces

/-- The non-empty pieces of a text between separators. -/
def pieces (isSeparator : Char → Bool) (text : String) : List String :=
  ((splitAt isSeparator text.toList).filter (!·.isEmpty)).map String.ofList

/-- **The words of a text**: its longest runs without a blank. -/
def words (text : String) : List String :=
  pieces isBlank text

/-- A text without the longest run at its end whose characters satisfy `p`. -/
def dropTrailing (p : Char → Bool) (text : String) : String :=
  String.ofList (text.toList.reverse.dropWhile p).reverse

/-- A text without the blanks at its two ends. -/
def trim (text : String) : String :=
  dropTrailing isBlank (String.ofList (text.toList.dropWhile isBlank))

/-- A text written in words with single spaces between them. -/
def joinWords (parts : List String) : String :=
  String.intercalate " " parts

end StoryShell.Text
