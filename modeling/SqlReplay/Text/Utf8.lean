import SqlReplay.Text.Quoted

/-! UTF-8 octets of a text and back. Reading goes octet by octet and stops at the first one that
no character can hold, telling which octets are at fault. -/

namespace SqlReplay

abbrev Octets := List UInt8

namespace Utf8

inductive Reason
  | invalidStart | invalidContinuation | unexpectedEnd
  deriving DecidableEq

def Reason.message : Reason → Text
  | .invalidStart => "invalid start byte"
  | .invalidContinuation => "invalid continuation byte"
  | .unexpectedEnd => "unexpected end of data"

/-- The octets from `start` on that begin no character: one that cannot start it, or the part of
it that was read. -/
structure Fault where
  start : Nat
  octets : Octets
  reason : Reason
  deriving DecidableEq

def Fault.message (f : Fault) : Text :=
  "'utf-8' codec can't decode " ++
    (match f.octets with
      | [b] => "byte 0x" ++ hexDigits 2 b.toNat ++ " in position " ++ Text.ofNat f.start
      | octets => "bytes in position " ++ Text.ofNat f.start ++ "-" ++
          Text.ofNat (f.start + octets.length - 1)) ++
    ": " ++ f.reason.message

/-- A character begun: its octets so far, the bits they hold, how many octets it still lacks, and
the bounds of the next one. -/
structure Begun where
  octets : Octets
  bits : Nat
  owed : Nat
  low : Nat
  high : Nat

def start? (b : UInt8) : Option Begun :=
  let n := b.toNat
  if 0xC2 ≤ n ∧ n ≤ 0xDF then some ⟨[b], n % 0x20, 1, 0x80, 0xBF⟩
  else if n = 0xE0 then some ⟨[b], 0, 2, 0xA0, 0xBF⟩
  else if n = 0xED then some ⟨[b], 0xD, 2, 0x80, 0x9F⟩
  else if 0xE1 ≤ n ∧ n ≤ 0xEF then some ⟨[b], n % 0x10, 2, 0x80, 0xBF⟩
  else if n = 0xF0 then some ⟨[b], 0, 3, 0x90, 0xBF⟩
  else if n = 0xF4 then some ⟨[b], 4, 3, 0x80, 0x8F⟩
  else if 0xF1 ≤ n ∧ n ≤ 0xF3 then some ⟨[b], n % 8, 3, 0x80, 0xBF⟩
  else none

def Begun.extend (p : Begun) (b : UInt8) : Begun :=
  ⟨p.octets ++ [b], p.bits * 0x40 + b.toNat % 0x40, p.owed - 1, 0x80, 0xBF⟩

/-- Reads on from octet number `position`, inside a character if one is begun. -/
def decodeFrom (position : Nat) : Option Begun → Octets → Except Fault Text
  | none, [] => .ok []
  | some p, [] => .error ⟨position - p.octets.length, p.octets, .unexpectedEnd⟩
  | none, b :: rest =>
    if b.toNat < 0x80 then (Char.ofNat b.toNat :: ·) <$> decodeFrom (position + 1) none rest
    else match start? b with
      | none => .error ⟨position, [b], .invalidStart⟩
      | some p => decodeFrom (position + 1) (some p) rest
  | some p, b :: rest =>
    if p.low ≤ b.toNat ∧ b.toNat ≤ p.high then
      let p := p.extend b
      if p.owed = 0 then (Char.ofNat p.bits :: ·) <$> decodeFrom (position + 1) none rest
      else decodeFrom (position + 1) (some p) rest
    else .error ⟨position - p.octets.length, p.octets, .invalidContinuation⟩

def decode (octets : Octets) : Except Fault Text := decodeFrom 0 none octets

def encode (t : Text) : Octets := t.flatMap String.utf8EncodeChar

end Utf8

end SqlReplay
