/-
The value of a JSON document.

The lexemes are taken one by one by a machine that remembers the arrays and objects which are still
open, innermost first, so a document of any depth is read without recursion. The first lexeme that
cannot stand where it stands decides the fault.
-/
import StoryShell.Json.Lexeme

set_option autoImplicit false

namespace StoryShell.Json

/-- An array or object that is still open; the items of an array are listed last first. -/
inductive Frame where
  | array (items : List Json)
  | object (fields : List (String × Json))
  | member (fields : List (String × Json)) (name : String)
deriving Repr

/-- What may come next: a value, a value or the end of an array, a name, a name or the end of an
object, a colon, a comma or the end of what is open, or nothing more. -/
inductive Awaited where
  | value
  | valueOrEnd
  | name
  | nameOrEnd
  | colon
  | separator
  | nothing (value : Json)
deriving Repr

/-- **The state of the reader.** -/
structure Reader where
  awaited : Awaited
  frames : List Frame
deriving Repr

namespace Reader

/-- The reader before the first lexeme. -/
def start : Reader := ⟨.value, []⟩

/-- Takes a complete value into what is open. -/
def accept (value : Json) : List Frame → Reader
  | [] => ⟨.nothing value, []⟩
  | .array items :: rest => ⟨.separator, .array (value :: items) :: rest⟩
  | .object fields :: rest => ⟨.separator, .object fields :: rest⟩
  | .member fields name :: rest => ⟨.separator, .object (setField name value fields) :: rest⟩

/-- Takes a lexeme where a value may stand. -/
def takeValue (frames : List Frame) (place : Nat) : Lexeme → Except Fault Reader
  | .openArray => .ok ⟨.valueOrEnd, .array [] :: frames⟩
  | .openObject => .ok ⟨.nameOrEnd, .object [] :: frames⟩
  | .text value => .ok (accept (.string value) frames)
  | .value value => .ok (accept value frames)
  | .brokenText fault => .error fault
  | .brokenNumber fault => .error fault
  | _ => .error (.problem .noValue place)

/-- Takes a lexeme where the name of a field may stand. -/
def takeName (frames : List Frame) (place : Nat) : Lexeme → Except Fault Reader
  | .text name =>
    match frames with
    | .object fields :: rest => .ok ⟨.colon, .member fields name :: rest⟩
    | _ => .error (.problem .noName place)
  | .brokenText fault => .error fault
  | _ => .error (.problem .noName place)

/-- Takes a lexeme after a complete value inside an array or object. -/
def takeSeparator (frames : List Frame) (place : Nat) (lexeme : Lexeme) : Except Fault Reader :=
  match lexeme, frames with
  | .comma, .array items :: rest => .ok ⟨.value, .array items :: rest⟩
  | .comma, .object fields :: rest => .ok ⟨.name, .object fields :: rest⟩
  | .closeArray, .array items :: rest => .ok (accept (.array items.reverse) rest)
  | .closeObject, .object fields :: rest => .ok (accept (.object fields) rest)
  | _, _ => .error (.problem .noComma place)

/-- **Takes one lexeme.** -/
def take (reader : Reader) : Lexeme × Nat → Except Fault Reader
  | (lexeme, place) =>
    match reader.awaited, lexeme with
    | .value, _ => takeValue reader.frames place lexeme
    | .valueOrEnd, .closeArray => .ok (accept (.array []) reader.frames.tail)
    | .valueOrEnd, _ => takeValue reader.frames place lexeme
    | .name, _ => takeName reader.frames place lexeme
    | .nameOrEnd, .closeObject => .ok (accept (.object []) reader.frames.tail)
    | .nameOrEnd, _ => takeName reader.frames place lexeme
    | .colon, .colon => .ok ⟨.value, reader.frames⟩
    | .colon, _ => .error (.problem .noColon place)
    | .separator, _ => takeSeparator reader.frames place lexeme
    | .nothing _, .finish => .ok reader
    | .nothing _, _ => .error (.problem .moreText place)

end Reader

/-- **Reads a document.** -/
def read (document : List Char) : Except Fault Json :=
  if document.head? = some '\ufeff' then .error (.problem .byteOrderMark 0)
  else
    match (lexemes document).foldlM Reader.take Reader.start with
    | .error fault => .error fault
    | .ok ⟨.nothing value, _⟩ => .ok value
    | .ok _ => .error (.problem .noValue document.length)

end StoryShell.Json
