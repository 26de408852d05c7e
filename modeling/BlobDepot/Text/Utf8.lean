import BlobDepot.Text.Basic

/-!
# Decoding UTF-8 with replacement

Bytes become text whatever they hold. A well-formed sequence becomes its character. A sequence
that cannot be completed becomes one replacement character, and the byte that broke it is read
afresh; so the bytes up to the first one that rules a character out count as one fault.
-/
namespace BlobDepot.Text.Utf8

def replacement : Char := Char.ofNat 0xFFFD

/-- A character begun and not finished: how many bytes it still needs, the range the next one
must lie in, and the bits read so far. -/
structure Unfinished where
  owed : Nat
  low : UInt8
  high : UInt8
  bits : Nat
  deriving DecidableEq, Repr

/-- What reading one byte yields: characters, and perhaps the start of another. -/
abbrev Step := List Char × Option Unfinished

def start (b : UInt8) : Step :=
  if b < 0x80 then ([Char.ofNat b.toNat], none)
  else if b < 0xC2 then ([replacement], none)
  else if b < 0xE0 then ([], some ⟨1, 0x80, 0xBF, b.toNat - 0xC0⟩)
  else if b = 0xE0 then ([], some ⟨2, 0xA0, 0xBF, 0⟩)
  else if b = 0xED then ([], some ⟨2, 0x80, 0x9F, 0xD⟩)
  else if b < 0xF0 then ([], some ⟨2, 0x80, 0xBF, b.toNat - 0xE0⟩)
  else if b = 0xF0 then ([], some ⟨3, 0x90, 0xBF, 0⟩)
  else if b < 0xF4 then ([], some ⟨3, 0x80, 0xBF, b.toNat - 0xF0⟩)
  else if b = 0xF4 then ([], some ⟨3, 0x80, 0x8F, 4⟩)
  else ([replacement], none)

def resume (u : Unfinished) (b : UInt8) : Step :=
  if u.low ≤ b ∧ b ≤ u.high then
    let bits := u.bits * 64 + (b.toNat - 0x80)
    if u.owed ≤ 1 then ([Char.ofNat bits], none)
    else ([], some ⟨u.owed - 1, 0x80, 0xBF, bits⟩)
  else
    let (out, next) := start b
    (replacement :: out, next)

/-- Reads the bytes that follow a character under way, if there is one. -/
def decodeFrom : Option Unfinished → List UInt8 → List Char
  | none, [] => []
  | some _, [] => [replacement]
  | none, b :: rest => (start b).1 ++ decodeFrom (start b).2 rest
  | some u, b :: rest => (resume u b).1 ++ decodeFrom (resume u b).2 rest

def isValid (bs : List UInt8) : Bool :=
  (decodeFrom none bs).flatMap String.utf8EncodeChar = bs

def decode (bs : List UInt8) : String :=
  String.ofList (decodeFrom none bs)

end BlobDepot.Text.Utf8
