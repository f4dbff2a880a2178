import SchemaStructs.Text.Basic

/-!
# UTF-8

Texts as bytes and back.  Bytes that are no text have a first fault: a byte that starts no
character, a character that is broken off by another byte, or one that is cut short by the end
(`Utf8Fault.find?`).
-/

namespace SchemaStructs

/-- Why bytes are no text. -/
inductive Utf8Reason where
  /-- A byte that starts no character. -/
  | badStart
  /-- A character that does not go on as it should. -/
  | badContinuation
  /-- A character that the end cuts short. -/
  | cutShort
  deriving DecidableEq, Repr

/-- The first place where bytes are no text. -/
structure Utf8Fault where
  /-- The number of bytes before the fault. -/
  position : Nat
  /-- The bytes that make no character. -/
  bytes : List UInt8
  /-- What is wrong with them. -/
  reason : Utf8Reason
  deriving DecidableEq

/-- The reason in words. -/
def Utf8Reason.message : Utf8Reason → Text
  | badStart => "invalid start byte"
  | badContinuation => "invalid continuation byte"
  | cutShort => "unexpected end of data"

namespace Utf8Fault

/-- The fault in words. -/
def message (f : Utf8Fault) : Text :=
  let place : Text := match f.bytes with
    | [b] => "byte 0x" ++ Text.ofNatHex 2 b.toNat ++ " in position " ++ Text.ofNat f.position
    | bytes => "bytes in position " ++ Text.ofNat f.position ++ '-' ::
        Text.ofNat (f.position + bytes.length - 1)
  "'utf-8' codec can't decode " ++ place ++ ": " ++ f.reason.message

/-- The number of bytes that follow the first byte of a character. -/
def following? (first : UInt8) : Option Nat :=
  if first < 0x80 then some 0
  else if first < 0xc2 then none
  else if first < 0xe0 then some 1
  else if first < 0xf0 then some 2
  else if first < 0xf5 then some 3
  else none

/-- The second byte of a character, which excludes needlessly long forms, surrogates and numbers
beyond the last code point. -/
def isSecond (first b : UInt8) : Bool :=
  let low : UInt8 := if first == 0xe0 then 0xa0 else if first == 0xf0 then 0x90 else 0x80
  let high : UInt8 := if first == 0xed then 0x9f else if first == 0xf4 then 0x8f else 0xbf
  low ≤ b && b ≤ high

/-- A byte that goes on with a character. -/
def isContinuation (b : UInt8) : Bool := 0x80 ≤ b && b ≤ 0xbf

/-- The bytes after the first byte of a character that go on with it, at most `count`. -/
def continuation (first : UInt8) (count : Nat) : List UInt8 → List UInt8
  | [] => []
  | b :: rest =>
    if count = 0 || !isSecond first b then []
    else b :: (rest.take (count - 1)).takeWhile isContinuation

/-- The first fault in bytes that start at the given position.  `skip` bytes are part of a character
that was looked at already. -/
def find? (position skip : Nat) : List UInt8 → Option Utf8Fault
  | [] => none
  | first :: rest =>
    if skip ≠ 0 then find? (position + 1) (skip - 1) rest
    else match following? first with
      | none => some { position, bytes := [first], reason := .badStart }
      | some count =>
        let good := continuation first count rest
        if good.length = count then find? (position + 1) count rest
        else
          let reason : Utf8Reason :=
            if good.length = rest.length then .cutShort else .badContinuation
          some { position, bytes := first :: good, reason }

end Utf8Fault

namespace Text

/-- A text as bytes. -/
def toBytes (t : Text) : ByteArray := t.asString.toUTF8

/-- Bytes as a text. -/
def ofBytes (bytes : ByteArray) : Except Utf8Fault Text :=
  match String.fromUTF8? bytes with
  | some s => .ok s.toList
  | none =>
    .error ((Utf8Fault.find? 0 0 bytes.toList).getD
      { position := 0, bytes := [], reason := .cutShort })

/-- The number of bytes of a text. -/
def byteSize (t : Text) : Nat := t.foldl (fun n c => n + c.utf8Size) 0

end Text

end SchemaStructs
