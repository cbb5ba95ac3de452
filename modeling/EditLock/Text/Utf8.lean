/-
# Text from bytes

Reading bytes as UTF-8 where every malformed piece becomes the replacement character: a piece is a
longest start of a well-formed character, or one byte that starts none.

Key definitions: `decodeByte`, `decodeLossy`.
-/
namespace EditLock.Text

/-- A character of several bytes that has been read in part. -/
structure Partial where
  /-- The bits read so far. -/
  bits : Nat
  /-- How many bytes are still to come. -/
  missing : Nat
  /-- Least value of the next byte. -/
  low : UInt8
  /-- Greatest value of the next byte. -/
  high : UInt8

/-- What stands for a malformed piece. -/
def replacement : Char := '\uFFFD'

/-- Reads a byte where a character starts: what it completes, and what it leaves open. -/
def startByte (b : UInt8) : List Char × Option Partial :=
  if b < 0x80 then ([Char.ofNat b.toNat], none)
  else if b < 0xC2 then ([replacement], none)
  else if b < 0xE0 then ([], some ⟨b.toNat % 32, 1, 0x80, 0xBF⟩)
  else if b = 0xE0 then ([], some ⟨0, 2, 0xA0, 0xBF⟩)
  else if b = 0xED then ([], some ⟨13, 2, 0x80, 0x9F⟩)
  else if b < 0xF0 then ([], some ⟨b.toNat % 16, 2, 0x80, 0xBF⟩)
  else if b = 0xF0 then ([], some ⟨0, 3, 0x90, 0xBF⟩)
  else if b < 0xF4 then ([], some ⟨b.toNat % 8, 3, 0x80, 0xBF⟩)
  else if b = 0xF4 then ([], some ⟨4, 3, 0x80, 0x8F⟩)
  else ([replacement], none)

/-- Reads one byte: inside a character it continues it, or ends it as malformed and starts anew. -/
def decodeByte (opened : Option Partial) (b : UInt8) : List Char × Option Partial :=
  match opened with
  | none => startByte b
  | some p =>
    if p.low ≤ b ∧ b ≤ p.high then
      if p.missing = 1 then ([Char.ofNat (p.bits * 64 + b.toNat % 64)], none)
      else ([], some ⟨p.bits * 64 + b.toNat % 64, p.missing - 1, 0x80, 0xBF⟩)
    else (replacement :: (startByte b).1, (startByte b).2)

/-- The characters of the bytes that follow what has been read in part. -/
def decodeFrom : Option Partial → List UInt8 → List Char
  | none, [] => []
  | some _, [] => [replacement]
  | opened, b :: rest => (decodeByte opened b).1 ++ decodeFrom (decodeByte opened b).2 rest

/-- The text of the bytes, with every malformed piece replaced. -/
def decodeLossy (bytes : List UInt8) : String :=
  String.ofList (decodeFrom none bytes)

end EditLock.Text
