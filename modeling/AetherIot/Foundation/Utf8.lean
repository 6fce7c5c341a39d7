import Mathlib

/-!
# Lossy decoding of UTF-8

The text of arbitrary bytes, in which each maximal invalid sequence becomes one replacement
character.
-/

namespace Utf8

/-- The number of continuation bytes after a leading byte, and the range of the first of them. -/
def leadRange (lead : UInt8) : Option (Nat × UInt8 × UInt8) :=
  if 0xC2 ≤ lead ∧ lead ≤ 0xDF then some (1, 0x80, 0xBF)
  else if lead = 0xE0 then some (2, 0xA0, 0xBF)
  else if lead = 0xED then some (2, 0x80, 0x9F)
  else if 0xE1 ≤ lead ∧ lead ≤ 0xEF then some (2, 0x80, 0xBF)
  else if lead = 0xF0 then some (3, 0x90, 0xBF)
  else if lead = 0xF4 then some (3, 0x80, 0x8F)
  else if 0xF1 ≤ lead ∧ lead ≤ 0xF3 then some (3, 0x80, 0xBF)
  else none

/-- An unfinished sequence: the bits so far, the missing bytes and the range of the next one. -/
structure Pending where
  bits : Nat
  missing : Nat
  low : UInt8
  high : UInt8

/-- The character that stands for an invalid sequence. -/
def replacement : Char := Char.ofNat 0xFFFD

/-- A byte at the start of a sequence. -/
def start (byte : UInt8) : List Char × Option Pending :=
  if byte < 0x80 then ([Char.ofNat byte.toNat], none)
  else
    match leadRange byte with
    | some (missing, low, high) =>
      ([], some ⟨byte.toNat % 2 ^ (6 - missing), missing, low, high⟩)
    | none => ([replacement], none)

def advance (pending : Option Pending) (byte : UInt8) : List Char × Option Pending :=
  match pending with
  | none => start byte
  | some pending =>
    if pending.low ≤ byte ∧ byte ≤ pending.high then
      let bits := pending.bits * 64 + byte.toNat % 64
      if pending.missing = 1 then ([Char.ofNat bits], none)
      else ([], some ⟨bits, pending.missing - 1, 0x80, 0xBF⟩)
    else (replacement :: (start byte).1, (start byte).2)

def decodeFrom : Option Pending → List UInt8 → List Char
  | none, [] => []
  | some _, [] => [replacement]
  | pending, byte :: bytes =>
    (advance pending byte).1 ++ decodeFrom (advance pending byte).2 bytes

/-- The text of bytes in which each maximal invalid sequence is replaced. -/
def fromUtf8Lossy (bytes : List UInt8) : String := String.ofList (decodeFrom none bytes)

end Utf8
