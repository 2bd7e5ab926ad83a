/-
Lower case of text, by the full mapping of the Unicode character database.

Two letters need a rule of their own. The dotted capital I becomes two characters, a small i and a
combining dot, so lower case does not keep the length of a text. The Greek capital sigma becomes a
final sigma at the end of a word and a plain one elsewhere, so the lower case of a character
depends on the characters around it. Names are compared by their lower case and by nothing else:
there is no case folding and no normalisation.
-/
import StoryShell.Text.CaseTable

set_option autoImplicit false

namespace StoryShell.Text

/-- The code point that the table gives for the lower case of `n`, or `n` itself. -/
def lowerCode : List CaseRun → Nat → Nat
  | [], n => n
  | run :: rest, n =>
    if n < run.first then n
    else if n ≤ run.last && (n - run.first) % run.step == 0 then (n + run.shift).toNat
    else lowerCode rest n

/-- The lower case of a character that stands alone: one character, or two for the dotted I. -/
def lowerChar (c : Char) : List Char :=
  if c = 'İ' then ['i', '\u0307'] else [Char.ofNat (lowerCode caseRuns c.toNat)]

/-- Whether a character is a capital, small or title-case letter. -/
def isCased (c : Char) : Bool :=
  inRanges casedRanges c.toNat

/-- Whether a character is looked through when the neighbours of a sigma are sought. -/
def isCaseIgnorable (c : Char) : Bool :=
  inRanges caseIgnorableRanges c.toNat

/-- Whether the first character that counts is a letter with a case. -/
def startsCased (text : List Char) : Bool :=
  match text.dropWhile isCaseIgnorable with
  | [] => false
  | c :: _ => isCased c

/-- **The lower case of a text.** `afterCased` says whether the last character that counted before
it was a letter with a case: a sigma is final when one stands before it and none after it. -/
def lowerFrom : Bool → List Char → List Char
  | _, [] => []
  | afterCased, c :: rest =>
    (if c = 'Σ' && afterCased && !startsCased rest then ['ς'] else lowerChar c)
      ++ lowerFrom (if isCaseIgnorable c then afterCased else isCased c) rest

/-- The lower case of a string. -/
def lower (text : String) : String :=
  String.ofList (lowerFrom false text.toList)

end StoryShell.Text
