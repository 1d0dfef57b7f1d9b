import CallSchema.Text.Quoted

/-!
Texts as bytes in UTF-8. Only the shortest form of a character is accepted, and no surrogates.
-/

namespace CallSchema.Text

inductive Utf8Fault
  | badStart
  | badContinuation
  | cutOff
  deriving DecidableEq, Repr, Inhabited

/-- Where decoding stops: at the bytes from `start` up to `stop`, the first of which is `byte`. -/
structure Utf8Error where
  fault : Utf8Fault
  byte : UInt8
  start : Nat
  stop : Nat
  deriving DecidableEq, Repr, Inhabited

def Utf8Fault.message : Utf8Fault → String
  | badStart => "invalid start byte"
  | badContinuation => "invalid continuation byte"
  | cutOff => "unexpected end of data"

def Utf8Error.message (e : Utf8Error) : String :=
  "'utf-8' codec can't decode "
    ++ (if e.stop = e.start + 1 then
        "byte 0x" ++ String.ofList (hex 2 e.byte.toNat) ++ " in position " ++ toString e.start
      else "bytes in position " ++ toString e.start ++ "-" ++ toString (e.stop - 1))
    ++ ": " ++ e.fault.message

/-- A character of which some bytes have been read. -/
structure Utf8Part where
  start : Nat
  byte : UInt8
  /-- The bits read so far. -/
  bits : Nat
  /-- How many bytes are still to come. -/
  missing : Nat
  /-- The least and the greatest value of the next byte. -/
  low : UInt8
  high : UInt8
  deriving Repr, Inhabited

/-- What the first byte of a character of more than one byte announces. -/
def Utf8Part.ofFirst? (start : Nat) (b : UInt8) : Option Utf8Part :=
  let n := b.toNat
  if n < 0xC2 then none
  else if n < 0xE0 then some ⟨start, b, n - 0xC0, 1, 0x80, 0xBF⟩
  else if n < 0xF0 then
    some ⟨start, b, n - 0xE0, 2, if n = 0xE0 then 0xA0 else 0x80, if n = 0xED then 0x9F else 0xBF⟩
  else if n < 0xF5 then
    some ⟨start, b, n - 0xF0, 3, if n = 0xF0 then 0x90 else 0x80, if n = 0xF4 then 0x8F else 0xBF⟩
  else none

/-- Decodes bytes from a position on, after the part of a character that has been read. -/
def decodeFrom : (position : Nat) → Option Utf8Part → List UInt8 → Except Utf8Error (List Char)
  | _, none, [] => .ok []
  | position, some part, [] => .error ⟨.cutOff, part.byte, part.start, position⟩
  | position, none, b :: bs =>
    if b < 0x80 then do
      pure (Char.ofNat b.toNat :: (← decodeFrom (position + 1) none bs))
    else match Utf8Part.ofFirst? position b with
      | none => .error ⟨.badStart, b, position, position + 1⟩
      | some part => decodeFrom (position + 1) (some part) bs
  | position, some part, b :: bs =>
    if part.low ≤ b && b ≤ part.high then
      let bits := part.bits * 64 + (b.toNat - 0x80)
      if part.missing ≤ 1 then do
        pure (Char.ofNat bits :: (← decodeFrom (position + 1) none bs))
      else
        decodeFrom (position + 1)
          (some { part with bits, missing := part.missing - 1, low := 0x80, high := 0xBF }) bs
    else .error ⟨.badContinuation, part.byte, part.start, position⟩

def decode (bytes : List UInt8) : Except Utf8Error (List Char) := decodeFrom 0 none bytes

def encode (s : String) : List UInt8 := s.toUTF8.toList

end CallSchema.Text
