/-!
# UTF-8

Bytes are decoded to characters one by one. A character takes at most four bytes, and its first byte
says how many follow and between which bounds the next one lies. A fault says where the character
that cannot be read begins and how many bytes of it were good.
-/
namespace IssueGraph.Utf8

/-- Bytes that are not the text of any character. -/
structure Fault where
  /-- The number of bytes before them. -/
  start : Nat
  /-- How many they are, unless the bytes end within a character. -/
  length : Option Nat
  deriving DecidableEq, Repr

namespace Fault

def message (f : Fault) : String :=
  match f.length with
  | some n =>
    "invalid utf-8 sequence of " ++ toString n ++ " bytes from index " ++ toString f.start
  | none => "incomplete utf-8 byte sequence from index " ++ toString f.start

end Fault

/-- A character of which some bytes have been read. -/
structure Pending where
  /-- The bits read so far. -/
  bits : Nat
  /-- The number of bytes read. -/
  taken : Nat
  /-- The number of bytes that follow. -/
  missing : Nat
  /-- The bounds of the next byte. -/
  low : UInt8 := 0x80
  high : UInt8 := 0xbf
  deriving DecidableEq, Repr

namespace Pending

/-- What a first byte promises. Bounds exclude overlong forms, surrogates and what is past the last
character. -/
def ofLead? (b : UInt8) : Option Pending :=
  let n := b.toNat
  if n < 0x80 then some { bits := n, taken := 1, missing := 0 }
  else if n < 0xc2 then none
  else if n < 0xe0 then some { bits := n - 0xc0, taken := 1, missing := 1 }
  else if n < 0xf0 then
    some
      { bits := n - 0xe0
        taken := 1
        missing := 2
        low := if n = 0xe0 then 0xa0 else 0x80
        high := if n = 0xed then 0x9f else 0xbf }
  else if n < 0xf5 then
    some
      { bits := n - 0xf0
        taken := 1
        missing := 3
        low := if n = 0xf0 then 0x90 else 0x80
        high := if n = 0xf4 then 0x8f else 0xbf }
  else none

/-- Take the next byte if it lies between the bounds. -/
def next? (p : Pending) (b : UInt8) : Option Pending :=
  if p.low ≤ b && b ≤ p.high then
    some { bits := 64 * p.bits + (b.toNat - 0x80), taken := p.taken + 1, missing := p.missing - 1 }
  else none

end Pending

/-- Decode bytes, of which `start` come before those of the character at hand. The characters before
it are given in reverse. -/
def decodeFrom (start : Nat) (pending : Option Pending) (before : List Char) :
    List UInt8 → Except Fault (List Char)
  | [] =>
    match pending with
    | none => .ok before.reverse
    | some _ => .error ⟨start, none⟩
  | b :: bs =>
    let read := match pending with
      | none => Pending.ofLead? b
      | some p => p.next? b
    match read with
    | none => .error ⟨start, some (pending.elim 1 Pending.taken)⟩
    | some p =>
      if p.missing = 0 then decodeFrom (start + p.taken) none (Char.ofNat p.bits :: before) bs
      else decodeFrom start (some p) before bs

/-- The characters that some bytes are the text of. -/
def decode (bytes : List UInt8) : Except Fault (List Char) := decodeFrom 0 none [] bytes

/-- The bytes of a string. -/
def encode (s : String) : List UInt8 := s.toUTF8.toList

end IssueGraph.Utf8
