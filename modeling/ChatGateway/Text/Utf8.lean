import ChatGateway.Number.Word

/-!
# Reading UTF-8 leniently

Bytes become characters.  Bytes that are no UTF-8 become replacement characters, one for each
longest run of bytes that could still have begun a character.
-/

namespace ChatGateway.Text.Utf8

/-- What stands for bytes that are no character. -/
def replacement : Char := '\ufffd'

/-- A character of which some bytes have come. -/
structure Partial where
  /-- The bits that have come. -/
  code : Nat
  /-- How many bytes are still to come. -/
  owed : Nat
  /-- The least next byte. -/
  least : UInt8
  /-- The greatest next byte. -/
  greatest : UInt8
  deriving DecidableEq, Repr, Inhabited

/-- The character begun by a first byte of more than seven bits. -/
def begin? (byte : UInt8) : Option Partial :=
  let low (bits : Nat) : Nat := Word.wrap bits byte.toNat
  if 0xC2 ≤ byte ∧ byte ≤ 0xDF then some ⟨low 5, 1, 0x80, 0xBF⟩
  else if byte = 0xE0 then some ⟨low 4, 2, 0xA0, 0xBF⟩
  else if byte = 0xED then some ⟨low 4, 2, 0x80, 0x9F⟩
  else if 0xE1 ≤ byte ∧ byte ≤ 0xEF then some ⟨low 4, 2, 0x80, 0xBF⟩
  else if byte = 0xF0 then some ⟨low 3, 3, 0x90, 0xBF⟩
  else if 0xF1 ≤ byte ∧ byte ≤ 0xF3 then some ⟨low 3, 3, 0x80, 0xBF⟩
  else if byte = 0xF4 then some ⟨low 3, 3, 0x80, 0x8F⟩
  else none

/-- Where the reader stands: the character it is in, and what it has read, the latest first. -/
structure Reading where
  pending : Option Partial
  read : List Char
  deriving Repr, Inhabited

namespace Reading

/-- Nothing read yet. -/
def start : Reading := ⟨none, []⟩

/-- Reads a byte between characters. -/
def first (read : List Char) (byte : UInt8) : Reading :=
  if byte < 0x80 then ⟨none, Char.ofNat byte.toNat :: read⟩
  else
    match begin? byte with
    | some pending => ⟨some pending, read⟩
    | none => ⟨none, replacement :: read⟩

/-- Reads a byte.  One that does not go on with the character at hand ends it as a replacement
and is read afresh. -/
def step (reading : Reading) (byte : UInt8) : Reading :=
  match reading.pending with
  | none => first reading.read byte
  | some pending =>
      if pending.least ≤ byte ∧ byte ≤ pending.greatest then
        let code := pending.code * 64 + byte.toNat % 64
        if pending.owed ≤ 1 then ⟨none, Char.ofNat code :: reading.read⟩
        else ⟨some ⟨code, pending.owed - 1, 0x80, 0xBF⟩, reading.read⟩
      else first (replacement :: reading.read) byte

/-- The characters read, a character that lacks bytes being a replacement. -/
def finish (reading : Reading) : List Char :=
  match reading.pending with
  | none => reading.read.reverse
  | some _ => (replacement :: reading.read).reverse

end Reading

/-- The characters of bytes. -/
def decode (bytes : List UInt8) : List Char :=
  (bytes.foldl Reading.step Reading.start).finish

end ChatGateway.Text.Utf8
