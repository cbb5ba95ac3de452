/-
# The words of a data text

A text is cut into its marks, its strings and its bare words in one pass over the characters. The
pass keeps a string as the list of its units, each a character or one half of a surrogate pair that
an escape names; `joinUnits` turns them into a text where the halves are paired.

Key definitions: `Token`, `Token.scan`, `Token.lex`, `joinUnits`, `bareValue`.
-/
import EditLock.Json.Basic

namespace EditLock.Json

/-- A word of a data text. -/
inductive Token where
  | openObject
  | closeObject
  | openArray
  | closeArray
  | comma
  | colon
  /-- A string or a bare value. -/
  | value (v : Json)
deriving Repr

/-- The blanks that may stand between words. -/
def isSpace (c : Char) : Bool :=
  c = ' ' || c = '\t' || c = '\n' || c = '\r'

/-- The mark that a character is. -/
def mark? : Char → Option Token
  | '\x7b' => some .openObject
  | '\x7d' => some .closeObject
  | '[' => some .openArray
  | ']' => some .closeArray
  | ',' => some .comma
  | ':' => some .colon
  | _ => none

/-- The characters that numbers and the three named values are made of. -/
def isBare (c : Char) : Bool :=
  c.isAlphanum || c = '+' || c = '-' || c = '.'

/-- The value of a hexadecimal digit. -/
def hexValue? (c : Char) : Option Nat :=
  if c.isDigit then some (c.toNat - '0'.toNat)
  else if 'a' ≤ c ∧ c ≤ 'f' then some (c.toNat - 'a'.toNat + 10)
  else if 'A' ≤ c ∧ c ≤ 'F' then some (c.toNat - 'A'.toNat + 10)
  else none

/-- The character that a one-letter escape names. -/
def escaped? : Char → Option Char
  | '"' => some '"'
  | '\\' => some '\\'
  | '/' => some '/'
  | 'b' => some '\x08'
  | 'f' => some '\x0c'
  | 'n' => some '\n'
  | 'r' => some '\r'
  | 't' => some '\t'
  | _ => none

/-- The text of a string's units: a high half of a surrogate pair must be followed by a low half,
and a low half must follow a high one. -/
def joinUnits : List Nat → Option (List Char)
  | [] => some []
  | u :: rest =>
    if 0xD800 ≤ u ∧ u < 0xDC00 then
      match rest with
      | [] => none
      | l :: rest =>
        if 0xDC00 ≤ l ∧ l < 0xE000 then
          (joinUnits rest).map
            (Char.ofNat (0x10000 + (u - 0xD800) * 0x400 + (l - 0xDC00)) :: ·)
        else none
    else if 0xDC00 ≤ u ∧ u < 0xE000 then none
    else (joinUnits rest).map (Char.ofNat u :: ·)

/-- The number of decimal digits. -/
def digitsValue (ds : List Char) : Nat :=
  ds.foldl (fun n d => n * 10 + (d.toNat - '0'.toNat)) 0

/-- Whether a digit sequence may stand before the point: zero alone, or no leading zero. -/
def isWhole : List Char → Bool
  | [] => false
  | ['0'] => true
  | '0' :: _ => false
  | _ => true

/-- The exponent part of a number: nothing, or `e` with an optional sign and digits. -/
def exponent? : List Char → Option (Option Int)
  | [] => some none
  | e :: rest =>
    if e = 'e' ∨ e = 'E' then
      let (negative, ds) := match rest with
        | '-' :: ds => (true, ds)
        | '+' :: ds => (false, ds)
        | ds => (false, ds)
      if ds.isEmpty || !ds.all Char.isDigit then none
      else some (some (if negative then -(digitsValue ds : Int) else digitsValue ds))
    else none

/-- The number that a bare word writes. -/
def number? (word : List Char) : Option Json :=
  let (negative, word) := match word with
    | '-' :: rest => (true, rest)
    | rest => (false, rest)
  let whole := word.takeWhile Char.isDigit
  let rest := word.dropWhile Char.isDigit
  if !isWhole whole then none
  else match rest with
    | '.' :: rest =>
      let places := rest.takeWhile Char.isDigit
      if places.isEmpty then none
      else (exponent? (rest.dropWhile Char.isDigit)).map fun e =>
        .decimal negative (digitsValue (whole ++ places)) (e.getD 0 - places.length)
    | rest => (exponent? rest).map fun
      | some e => .decimal negative (digitsValue whole) e
      | none =>
        if negative then
          if digitsValue whole = 0 then .decimal true 0 0 else .integer (-(digitsValue whole))
        else .integer (digitsValue whole)

/-- The value that a bare word names. -/
def bareValue (word : List Char) : Option Json :=
  if word = ['n', 'u', 'l', 'l'] then some .null
  else if word = ['t', 'r', 'u', 'e'] then some (.bool true)
  else if word = ['f', 'a', 'l', 's', 'e'] then some (.bool false)
  else number? word

/-- Where the pass over a text stands; what has been read of a word is kept in reverse. -/
inductive Scan where
  | between
  | bare (word : List Char)
  | inString (units : List Nat)
  | escape (units : List Nat)
  /-- Inside `\uXXXX`: the digits' value so far and how many are missing. -/
  | hex (units : List Nat) (value missing : Nat)

/-- The words of the rest of a text. -/
def scan : Scan → List Char → Option (List Token)
  | .between, [] => some []
  | .bare word, [] => (bareValue word.reverse).map fun v => [.value v]
  | _, [] => none
  | .between, c :: rest =>
    if isSpace c then scan .between rest
    else if c = '"' then scan (.inString []) rest
    else match mark? c with
      | some t => (scan .between rest).map (t :: ·)
      | none => if isBare c then scan (.bare [c]) rest else none
  | .bare word, c :: rest =>
    if isBare c then scan (.bare (c :: word)) rest
    else match bareValue word.reverse with
      | none => none
      | some v =>
        if isSpace c then (scan .between rest).map (.value v :: ·)
        else match mark? c with
          | some t => (scan .between rest).map fun ts => .value v :: t :: ts
          | none => none
  | .inString units, c :: rest =>
    if c = '"' then
      (scan .between rest).map (.value (.string ((joinUnits units.reverse).map String.ofList)) :: ·)
    else if c = '\\' then scan (.escape units) rest
    else if c.toNat < 0x20 then none
    else scan (.inString (c.toNat :: units)) rest
  | .escape units, c :: rest =>
    if c = 'u' then scan (.hex units 0 4) rest
    else match escaped? c with
      | some e => scan (.inString (e.toNat :: units)) rest
      | none => none
  | .hex units value missing, c :: rest =>
    match hexValue? c with
    | none => none
    | some d =>
      if missing ≤ 1 then scan (.inString ((value * 16 + d) :: units)) rest
      else scan (.hex units (value * 16 + d) (missing - 1)) rest

/-- The words of a text. -/
def lex (cs : List Char) : Option (List Token) :=
  scan .between cs

end EditLock.Json
