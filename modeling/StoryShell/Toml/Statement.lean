/-
The statements of a TOML document.

A statement is the header of a table, the header of one more of the tables that share a name, or a
name with its value, and takes the rest of its line. Names are dotted: each part is bare or quoted.
Values may nest; a reader of values goes only so deep as the text is long.
-/
import StoryShell.Toml.Basic
import StoryShell.Toml.Bare
import StoryShell.Toml.Quoted

set_option autoImplicit false

namespace StoryShell.Toml

/-- **A statement.** -/
inductive Statement where
  | table (path : List String)
  | item (path : List String)
  | field (path : List String) (value : Toml)
deriving Repr

/-! ## What is left out -/

/-- Leaves out the blanks at the front. -/
def skipSpace (text : List Char) : List Char := text.dropWhile isSpace

/-- Leaves out blanks, line feeds and comments, in a comment already or not. No control character
may stand in a comment. -/
def skipLines : Bool → List Char → Option (List Char)
  | _, [] => some []
  | true, c :: rest =>
    if c = '\n' then skipLines false rest
    else if isControl c then none
    else skipLines true rest
  | false, c :: rest =>
    if c = '#' then skipLines true rest
    else if isSpace c || c = '\n' then skipLines false rest
    else some (c :: rest)

/-- Whether nothing more stands in a line, comments apart. -/
def isLineEnd (text : List Char) : Bool :=
  match skipSpace text with
  | [] => true
  | c :: _ => c = '\n' || c = '#'

/-! ## Names -/

/-- Whether a character may stand in a name without quotes. -/
def isNameChar (c : Char) : Bool :=
  Text.isDigit c || ('a' ≤ c && c ≤ 'z') || ('A' ≤ c && c ≤ 'Z') || c = '-' || c = '_'

/-- Reads a part of a name. -/
def namePart (text : List Char) : TextScan :=
  match text.takeWhile isNameChar with
  | [] => lineText text
  | name => some (name, text.dropWhile isNameChar)

/-- Reads a dotted name of so many parts at most, with the blanks after it. -/
def pathUpTo : Nat → List Char → Option (List String × List Char)
  | 0, _ => none
  | count + 1, text => do
    let (name, rest) ← namePart text
    match skipSpace rest with
    | '.' :: rest =>
      let (path, rest) ← pathUpTo count (skipSpace rest)
      return (String.ofList name :: path, rest)
    | rest => return ([String.ofList name], rest)

/-- **Reads a dotted name**, with the blanks after it. -/
def path (text : List Char) : Option (List String × List Char) := pathUpTo (text.length + 1) text

/-! ## Values -/

/-- Reads a value that holds no others. -/
def simpleValue (text : List Char) : Option (Toml × List Char) :=
  match text with
  | '\x22' :: _ | '\x27' :: _ =>
    (quotedText text).map fun (value, rest) => (.string (String.ofList value), rest)
  | _ => bareValue text

/-- Reads a name and its value, by a reader of values. -/
def pairBy (value : List Char → Option (Toml × List Char)) (text : List Char) :
    Option (List String × Toml × List Char) := do
  let (path, rest) ← path text
  match rest with
  | '=' :: rest =>
    let (value, rest) ← value (skipSpace rest)
    return (path, value, rest)
  | _ => none

mutual

/-- Reads a value, to a depth. -/
def valueUpTo : Nat → List Char → Option (Toml × List Char)
  | 0, _ => none
  | depth + 1, '[' :: rest => do
    let (items, rest) ← itemsUpTo depth (← skipLines false rest)
    return (.array items, rest)
  | depth + 1, '\x7b' :: rest => do
    let (fields, rest) ← match skipSpace rest with
      | '\x7d' :: rest => some ([], rest)
      | rest => fieldsUpTo depth [] rest
    return (.table .inline fields, rest)
  | _ + 1, text => simpleValue text

/-- Reads the items of an array and its closing bracket; a comma may follow the last. -/
def itemsUpTo : Nat → List Char → Option (List Toml × List Char)
  | 0, _ => none
  | _ + 1, ']' :: rest => some ([], rest)
  | depth + 1, text => do
    let (item, rest) ← valueUpTo depth text
    match ← skipLines false rest with
    | ']' :: rest => return ([item], rest)
    | ',' :: rest =>
      let (items, rest) ← itemsUpTo depth (← skipLines false rest)
      return (item :: items, rest)
    | _ => none

/-- Reads more fields of a table in braces and its closing brace; no comma follows the last. -/
def fieldsUpTo : Nat → Fields → List Char → Option (Fields × List Char)
  | 0, _, _ => none
  | depth + 1, fields, text => do
    let (path, value, rest) ← pairBy (valueUpTo depth) text
    let fields ← insert 0 value path fields
    match skipSpace rest with
    | '\x7d' :: rest => return (fields, rest)
    | ',' :: rest => fieldsUpTo depth fields (skipSpace rest)
    | _ => none

end

/-- **Reads a value.** Every second step into it takes a character at least. -/
def value (text : List Char) : Option (Toml × List Char) := valueUpTo (2 * text.length + 2) text

/-! ## Statements -/

/-- Reads a statement. -/
def statement : List Char → Option (Statement × List Char)
  | '[' :: '[' :: rest => do
    match ← path (skipSpace rest) with
    | (path, ']' :: ']' :: rest) => return (.item path, rest)
    | _ => none
  | '[' :: rest => do
    match ← path (skipSpace rest) with
    | (path, ']' :: rest) => return (.table path, rest)
    | _ => none
  | text => do
    let (path, value, rest) ← pairBy value text
    return (.field path value, rest)

/-- Reads so many statements at most, each with the rest of its line. -/
def statementsUpTo : Nat → List Char → Option (List Statement)
  | 0, _ => none
  | count + 1, text => do
    match ← skipLines false text with
    | [] => return []
    | text =>
      let (first, rest) ← statement text
      if isLineEnd rest then return first :: (← statementsUpTo count rest) else none

/-- **The statements of a document.** Each takes a character at least, which bounds their number. -/
def statements (document : List Char) : Option (List Statement) :=
  statementsUpTo (document.length + 1) document

end StoryShell.Toml
