/-
# Percent encoding

Characters that may not stand in a place of an address are written byte by byte, each as a percent
sign and two hexadecimal digits. Which characters those are depends on the place.

Key definitions: `percentEncode`, `percentDecode`, `formEncode`.
-/
import EditLock.Json.Token
import EditLock.Text.Base64

namespace EditLock.Text

/-- A byte as a percent sign and two digits. -/
def percentByte (b : UInt8) : List Char :=
  ['%', (Nat.digitChar (b.toNat / 16)).toUpper, (Nat.digitChar (b.toNat % 16)).toUpper]

/-- A character as percent signs and digits. -/
def percentChar (c : Char) : List Char :=
  (String.utf8EncodeChar c).flatMap percentByte

/-- The text with every character that is not `kept` encoded. -/
def percentEncode (kept : Char → Bool) (cs : List Char) : List Char :=
  cs.flatMap fun c => if kept c then [c] else percentChar c

/-- The bytes that a text with percent signs and digits stands for. A percent sign without two
digits stands for itself. -/
def percentDecode : List Char → List UInt8
  | [] => []
  | '%' :: a :: b :: rest =>
    match Json.hexValue? a, Json.hexValue? b with
    | some x, some y => UInt8.ofNat (x * 16 + y) :: percentDecode rest
    | _, _ => 0x25 :: percentDecode (a :: b :: rest)
  | c :: rest => String.utf8EncodeChar c ++ percentDecode rest

/-- Whether a character stands for itself in a form. -/
def isFormChar (c : Char) : Bool :=
  c.isAlphanum || c = '*' || c = '-' || c = '.' || c = '_'

/-- A text in a form: a blank is a plus sign. -/
def formEncode (s : String) : List Char :=
  s.toList.flatMap fun c =>
    if c = ' ' then ['+'] else if isFormChar c then [c] else percentChar c

/-- One parameter of a form. -/
def formPair (p : String × String) : List Char :=
  formEncode p.1 ++ '=' :: formEncode p.2

end EditLock.Text
