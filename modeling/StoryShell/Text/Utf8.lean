/-
UTF-8, and the text of a file.

A byte sequence is read a byte at a time: a leading byte says how many more belong to it, and which
the next one may be, so that overlong forms, surrogate halves and code points beyond the last one
are refused at the byte that gives them away. The text of a file is what its bytes decode to, less
one byte order mark at the front, with every end of line written as a line feed.
-/

set_option autoImplicit false

namespace StoryShell.Text.Utf8

/-- Why bytes are refused. -/
inductive Reason where
  | start
  | continuation
  | unexpectedEnd
deriving DecidableEq, Repr

/-- The wording of a reason. -/
def Reason.wording : Reason → String
  | .start => "invalid start byte"
  | .continuation => "invalid continuation byte"
  | .unexpectedEnd => "unexpected end of data"

/-- **Refused bytes**: the first of them and its place, how many they are, and why. -/
structure Fault where
  byte : Nat
  place : Nat
  count : Nat
  reason : Reason
deriving DecidableEq, Repr

/-- A byte in two hexadecimal digits. -/
def hexByte (byte : Nat) : String :=
  String.ofList [Nat.digitChar (byte / 16), Nat.digitChar (byte % 16)]

/-- The message for refused bytes. -/
def Fault.message (fault : Fault) : String :=
  let what :=
    if fault.count = 1 then
      "byte 0x" ++ hexByte fault.byte ++ " in position " ++ toString fault.place
    else
      "bytes in position " ++ toString fault.place ++ "-"
        ++ toString (fault.place + fault.count - 1)
  "'utf-8' codec can't decode " ++ what ++ ": " ++ fault.reason.wording

/-- **A character that is not complete**: its first byte and the place of that, the bytes taken and
the bytes owed, the bounds of the next one, and the code point so far. -/
structure Partial where
  byte : Nat
  place : Nat
  taken : Nat
  owed : Nat
  low : Nat
  high : Nat
  code : Nat
deriving Repr

/-- What a leading byte beyond the first 128 begins. -/
def begin? (byte place : Nat) : Option Partial :=
  let longer (owed low high code : Nat) : Option Partial :=
    some ⟨byte, place, 1, owed, low, high, code⟩
  if byte < 0xc2 then none
  else if byte < 0xe0 then longer 1 0x80 0xbf (byte - 0xc0)
  else if byte = 0xe0 then longer 2 0xa0 0xbf 0
  else if byte = 0xed then longer 2 0x80 0x9f (byte - 0xe0)
  else if byte < 0xf0 then longer 2 0x80 0xbf (byte - 0xe0)
  else if byte = 0xf0 then longer 3 0x90 0xbf 0
  else if byte < 0xf4 then longer 3 0x80 0xbf (byte - 0xf0)
  else if byte = 0xf4 then longer 3 0x80 0x8f (byte - 0xf0)
  else none

/-- The refusal of all bytes taken so far. -/
def Partial.refuse (p : Partial) (reason : Reason) : Fault :=
  ⟨p.byte, p.place, p.taken, reason⟩

/-- Decodes bytes from a place on, between characters or inside one. -/
def decodeFrom : Option Partial → Nat → List UInt8 → Except Fault (List Char)
  | none, _, [] => .ok []
  | some p, _, [] => .error (p.refuse .unexpectedEnd)
  | none, place, b :: rest =>
    let byte := b.toNat
    if byte < 0x80 then (decodeFrom none (place + 1) rest).map (Char.ofNat byte :: ·)
    else
      match begin? byte place with
      | none => .error ⟨byte, place, 1, .start⟩
      | some p => decodeFrom (some p) (place + 1) rest
  | some p, place, b :: rest =>
    let byte := b.toNat
    if byte < p.low || p.high < byte then .error (p.refuse .continuation)
    else
      let code := p.code * 64 + (byte - 0x80)
      match p.owed with
      | 0 | 1 => (decodeFrom none (place + 1) rest).map (Char.ofNat code :: ·)
      | owed + 1 =>
        decodeFrom (some ⟨p.byte, p.place, p.taken + 1, owed, 0x80, 0xbf, code⟩) (place + 1) rest

/-- **Decodes bytes.** -/
def decode (bytes : List UInt8) : Except Fault (List Char) :=
  decodeFrom none 0 bytes

/-- Bytes without one byte order mark at the front. Bytes that are only the beginning of a mark
count for nothing. -/
def dropMark : List UInt8 → List UInt8
  | 0xef :: 0xbb :: 0xbf :: rest => rest
  | [0xef, 0xbb] => []
  | [0xef] => []
  | bytes => bytes

/-- A text in which each end of line, of one character or two, is a line feed. -/
def unifyLines : List Char → List Char
  | [] => []
  | '\r' :: '\n' :: rest => '\n' :: unifyLines rest
  | '\r' :: rest => '\n' :: unifyLines rest
  | c :: rest => c :: unifyLines rest

/-- **The text of a file.** -/
def fileText (bytes : List UInt8) : Except Fault (List Char) :=
  (decode (dropMark bytes)).map unifyLines

end StoryShell.Text.Utf8
