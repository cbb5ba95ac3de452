/-
# Bare values of a settings text

A value without quotes and brackets is one word: a truth value, an integer in one of four bases, a
number with fraction or exponent, a date or a time. Digits may be grouped by single underscores.

Key definitions: `isGrouped`, `integer?`, `isFloat`, `isDate`, `isTime`, `ofWord?`.
-/
import EditLock.Json.Token
import EditLock.Time.Reading
import EditLock.Toml.Basic

namespace EditLock.Toml

/-- The characters of bare values. -/
def isWordChar (c : Char) : Bool :=
  c.isAlphanum || c = '+' || c = '-' || c = '_' || c = '.' || c = ':'

/-- Whether the characters are digits, in groups that single underscores separate. -/
def isGrouped (isDigit : Char → Bool) : List Char → Bool
  | [] => false
  | [c] => isDigit c
  | c :: '_' :: rest => isDigit c && isGrouped isDigit rest
  | c :: rest => isDigit c && isGrouped isDigit rest

/-- The value of grouped digits in a base. -/
def groupedValue (base : Nat) (ds : List Char) : Nat :=
  ds.foldl (fun n d => if d = '_' then n else n * base + (Json.hexValue? d).getD 0) 0

/-- A word without its sign, and whether it is negative. -/
def splitSign : List Char → Bool × List Char
  | '-' :: rest => (true, rest)
  | '+' :: rest => (false, rest)
  | rest => (false, rest)

/-- Whether the characters are a decimal number without needless zeros in front. -/
def isWhole (ds : List Char) : Bool :=
  isGrouped Char.isDigit ds && (ds.length == 1 || ds.head? != some '0')

/-- Whether a character is a digit of a base. -/
def isDigitOf (base : Nat) (c : Char) : Bool :=
  match Json.hexValue? c with
  | some d => d < base
  | none => false

/-- The grouped digits of a base as a number. -/
def based? (base : Nat) (ds : List Char) : Option Int :=
  if isGrouped (isDigitOf base) ds then some (groupedValue base ds) else none

/-- The number that a word writes as an integer, whatever its size. -/
def anyInteger? : List Char → Option Int
  | '0' :: 'x' :: ds => based? 16 ds
  | '0' :: 'o' :: ds => based? 8 ds
  | '0' :: 'b' :: ds => based? 2 ds
  | word =>
    let (negative, ds) := splitSign word
    if isWhole ds then
      some (if negative then -(groupedValue 10 ds : Int) else groupedValue 10 ds)
    else none

/-- The integer that a word writes. -/
def integer? (word : List Char) : Option Int :=
  (anyInteger? word).filter isInteger

/-- The value of an exponent: `e`, an optional sign and digits. -/
def exponent? : List Char → Option Int
  | e :: rest =>
    let (negative, ds) := splitSign rest
    if (e = 'e' ∨ e = 'E') ∧ isGrouped Char.isDigit ds then
      some (if negative then -(groupedValue 10 ds : Int) else groupedValue 10 ds)
    else none
  | [] => none

/-- The digits before the point, those after it, and the exponent of an unsigned number. -/
def splitFloat? (word : List Char) : Option (List Char × List Char × Int) :=
  let inDigits := fun c : Char => c.isDigit || c = '_'
  let whole := word.takeWhile inDigits
  if !isWhole whole then none
  else match word.dropWhile inDigits with
    | '.' :: rest =>
      let places := rest.takeWhile inDigits
      if !isGrouped Char.isDigit places then none
      else match rest.dropWhile inDigits with
        | [] => some (whole, places, 0)
        | rest => (exponent? rest).map fun e => (whole, places, e)
    | rest => (exponent? rest).map fun e => (whole, [], e)

/-- Whether a word writes a number with fraction or exponent. A positive number must not be too
great for double precision. -/
def isFloat (word : List Char) : Bool :=
  let (negative, body) := splitSign word
  if body = ['i', 'n', 'f'] ∨ body = ['n', 'a', 'n'] then true
  else match splitFloat? body with
    | none => false
    | some (whole, places, e) =>
      let shift : Nat := (places.filter Char.isDigit).length
      negative || Json.isFinite (groupedValue 10 (whole ++ places)) (e - shift)

/-- Reads a date. -/
def date? (cs : List Char) : Option (List Char) := do
  let (year, cs) ← Instant.digits? 4 4 cs
  let (month, cs) ← (Instant.char? '-' cs).bind (Instant.digits? 2 2)
  let (day, cs) ← (Instant.char? '-' cs).bind (Instant.digits? 2 2)
  if Date.isValid ⟨year, month, day⟩ then some cs else none

/-- Reads a time of day. -/
def time? (cs : List Char) : Option (List Char) := do
  let (hour, cs) ← Instant.digits? 2 2 cs
  let (minute, cs) ← (Instant.char? ':' cs).bind (Instant.digits? 2 2)
  let (second, cs) ← (Instant.char? ':' cs).bind (Instant.digits? 2 2)
  let (_, cs) ← Instant.fraction? cs
  if hour < 24 ∧ minute < 60 ∧ second ≤ 60 then some cs else none

/-- Whether the rest of a word is an offset from universal time or nothing. -/
def endsAsOffset : List Char → Bool
  | [] => true
  | cs =>
    match Instant.offset? (Instant.char? ':') cs with
    | some (seconds, []) => seconds.natAbs < 86400
    | _ => false

/-- Whether a word writes a date alone. -/
def isDate (word : List Char) : Bool :=
  date? word == some []

/-- Whether a word writes a time of day, with an offset if `zoned`. -/
def isTime (zoned : Bool) (word : List Char) : Bool :=
  match time? word with
  | some rest => if zoned then endsAsOffset rest else rest.isEmpty
  | none => false

/-- Whether a word writes a date, a time of day, or both. -/
def isMoment (word : List Char) : Bool :=
  isTime false word ||
    match date? word with
    | some [] => true
    | some (t :: rest) => (t = 'T' || t = 't') && isTime true rest
    | none => false

/-- The value that a word writes. -/
def ofWord? (word : List Char) : Option Toml :=
  if word = ['t', 'r', 'u', 'e'] then some (.boolean true)
  else if word = ['f', 'a', 'l', 's', 'e'] then some (.boolean false)
  else if isMoment word then some .moment
  else if isFloat word then some .float
  else (integer? word).map .integer

end EditLock.Toml
