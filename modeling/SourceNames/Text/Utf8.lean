-- Strict reading of bytes as UTF-8. What cannot be read is reported with the bytes it
-- covers and the reason, so that a message can name the place.

import SourceNames.Text.Quoted

namespace SourceNames

/-! ## Faults -/

/-- Why bytes are not UTF-8. -/
inductive Utf8Reason
  | start
  | continuation
  | truncated
  deriving DecidableEq, Repr

def Utf8Reason.text : Utf8Reason → String
  | .start => "invalid start byte"
  | .continuation => "invalid continuation byte"
  | .truncated => "unexpected end of data"

/-- Bytes that cannot be read: where they start, the first of them, and how many more there
are. -/
structure Utf8Fault where
  position : Nat
  first : UInt8
  more : Nat
  reason : Utf8Reason
  deriving DecidableEq, Repr

/-- The message for a fault: one byte is shown, several are given by their positions. -/
def Utf8Fault.message (f : Utf8Fault) : String :=
  let place :=
    if f.more = 0 then
      "byte 0x" ++ String.ofList (hexDigits 2 f.first.toNat) ++ s!" in position {f.position}"
    else s!"bytes in position {f.position}-{f.position + f.more}"
  "'utf-8' codec can't decode " ++ place ++ ": " ++ f.reason.text

/-! ## Reading -/

/-- A character of which only some bytes are read: the first byte, how many have been read
after it, how many are still owed, the range of the next one, and the bits so far. -/
structure Utf8Pending where
  first : UInt8
  read : Nat
  owed : Nat
  low : UInt8
  high : UInt8
  bits : Nat
  deriving DecidableEq, Repr

/-- What a byte that is not ASCII begins. The second byte of a few leads has a narrower
range, which leaves out long forms, surrogates, and what lies beyond the last code point. -/
def Utf8Pending.ofLead (b : UInt8) : Option Utf8Pending :=
  let n := b.toNat
  if 0xC2 ≤ n ∧ n ≤ 0xDF then some ⟨b, 0, 1, 0x80, 0xBF, n - 0xC0⟩
  else if n = 0xE0 then some ⟨b, 0, 2, 0xA0, 0xBF, n - 0xE0⟩
  else if n = 0xED then some ⟨b, 0, 2, 0x80, 0x9F, n - 0xE0⟩
  else if 0xE1 ≤ n ∧ n ≤ 0xEF then some ⟨b, 0, 2, 0x80, 0xBF, n - 0xE0⟩
  else if n = 0xF0 then some ⟨b, 0, 3, 0x90, 0xBF, n - 0xF0⟩
  else if n = 0xF4 then some ⟨b, 0, 3, 0x80, 0x8F, n - 0xF0⟩
  else if 0xF1 ≤ n ∧ n ≤ 0xF3 then some ⟨b, 0, 3, 0x80, 0xBF, n - 0xF0⟩
  else none

/-- Reads the rest of the bytes, at a position that counts those before it. -/
def decodeUtf8From : (position : Nat) → Option Utf8Pending → List UInt8 →
    Except Utf8Fault (List Char)
  | _, none, [] => .ok []
  | position, some p, [] => .error ⟨position - 1 - p.read, p.first, p.read, .truncated⟩
  | position, none, b :: rest =>
    if b < 0x80 then
      match decodeUtf8From (position + 1) none rest with
      | .ok text => .ok (Char.ofNat b.toNat :: text)
      | .error fault => .error fault
    else match Utf8Pending.ofLead b with
      | some p => decodeUtf8From (position + 1) (some p) rest
      | none => .error ⟨position, b, 0, .start⟩
  | position, some p, b :: rest =>
    if p.low ≤ b ∧ b ≤ p.high then
      let bits := p.bits * 64 + (b.toNat - 0x80)
      if p.owed ≤ 1 then
        match decodeUtf8From (position + 1) none rest with
        | .ok text => .ok (Char.ofNat bits :: text)
        | .error fault => .error fault
      else
        decodeUtf8From (position + 1) (some ⟨p.first, p.read + 1, p.owed - 1, 0x80, 0xBF, bits⟩)
          rest
    else .error ⟨position - 1 - p.read, p.first, p.read, .continuation⟩

def decodeUtf8 (bytes : List UInt8) : Except Utf8Fault String :=
  match decodeUtf8From 0 none bytes with
  | .ok text => .ok (String.ofList text)
  | .error fault => .error fault

def encodeUtf8 (text : String) : List UInt8 :=
  text.toList.flatMap String.utf8EncodeChar

end SourceNames
