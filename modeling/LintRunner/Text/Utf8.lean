/-!
# UTF-8

Bytes are read one at a time. The reader remembers what the bytes of an unfinished character still
need; a byte that does not fit ends the unfinished part as faulty and is read again as a first byte.
So every faulty part is as long as it could still have become a character.
-/

set_option autoImplicit false

namespace LintRunner.Text.Utf8

/-- An unfinished character: how many bytes are owed, the bounds of the next one, and the bits so
far. -/
structure Pending where
  owed : Nat
  least : Nat
  greatest : Nat
  bits : Nat
  deriving DecidableEq, Repr

inductive First where
  | char (c : Char)
  | pending (p : Pending)
  | faulty
  deriving DecidableEq, Repr

/-- Reads a first byte. The bounds of the second byte rule out surrogates, code points that are too
great, and characters that a shorter sequence writes. -/
def first (b : Nat) : First :=
  if b < 0x80 then .char (Char.ofNat b)
  else if b < 0xC2 then .faulty
  else if b < 0xE0 then .pending ⟨1, 0x80, 0xBF, b - 0xC0⟩
  else if b = 0xE0 then .pending ⟨2, 0xA0, 0xBF, 0⟩
  else if b = 0xED then .pending ⟨2, 0x80, 0x9F, 0xD⟩
  else if b < 0xF0 then .pending ⟨2, 0x80, 0xBF, b - 0xE0⟩
  else if b = 0xF0 then .pending ⟨3, 0x90, 0xBF, 0⟩
  else if b < 0xF4 then .pending ⟨3, 0x80, 0xBF, b - 0xF0⟩
  else if b = 0xF4 then .pending ⟨3, 0x80, 0x8F, 4⟩
  else .faulty

def Pending.add (p : Pending) (b : Nat) : First :=
  let bits := p.bits * 64 + b % 64
  if p.owed ≤ 1 then .char (Char.ofNat bits) else .pending ⟨p.owed - 1, 0x80, 0xBF, bits⟩

/-- The characters of the bytes behind an unfinished character; faulty parts are `none`. -/
def unitsFrom : Option Pending → List UInt8 → List (Option Char)
  | none, [] => []
  | some _, [] => [none]
  | none, b :: rest =>
      match first b.toNat with
      | .char c => some c :: unitsFrom none rest
      | .pending p => unitsFrom (some p) rest
      | .faulty => none :: unitsFrom none rest
  | some p, b :: rest =>
      if p.least ≤ b.toNat && b.toNat ≤ p.greatest then
        match p.add b.toNat with
        | .char c => some c :: unitsFrom none rest
        | .pending q => unitsFrom (some q) rest
        | .faulty => none :: unitsFrom none rest
      else
        none ::
          match first b.toNat with
          | .char c => some c :: unitsFrom none rest
          | .pending q => unitsFrom (some q) rest
          | .faulty => none :: unitsFrom none rest

def units (bytes : List UInt8) : List (Option Char) := unitsFrom none bytes

/-- The text of some bytes, with the replacement character for every faulty part. -/
def decodeLossy (bytes : List UInt8) : List Char := (units bytes).map fun c => c.getD '\ufffd'

/-- The text of some bytes, if no part of them is faulty. -/
def decode? (bytes : List UInt8) : Option (List Char) := (units bytes).mapM id

end LintRunner.Text.Utf8
