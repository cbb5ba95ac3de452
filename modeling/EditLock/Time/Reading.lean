/-
# Reading instants

Two readers. The strict one takes the internet date and time format only. The lenient one also
takes a signed year, one-digit numbers, blanks around the separators, and `UTC` or a spaced offset.
Both take the second 60 as a leap second and turn the result into universal time.

Key definitions: `Instant.readStrict?`, `Instant.readLenient?`.
-/
import EditLock.Text.Blank
import EditLock.Time.Instant

namespace EditLock.Instant

open EditLock.Text

/-- The value of a sequence of decimal digits. -/
def decimalValue (ds : List Char) : Nat :=
  ds.foldl (fun n d => n * 10 + (d.toNat - '0'.toNat)) 0

/-- Reads from `least` to `most` digits, as many as there are. -/
def digits? (least most : Nat) (cs : List Char) : Option (Nat × List Char) :=
  let ds := (cs.take most).takeWhile Char.isDigit
  if ds.length < least then none else some (decimalValue ds, cs.drop ds.length)

/-- Reads one given character. -/
def char? (c : Char) : List Char → Option (List Char)
  | d :: rest => if d = c then some rest else none
  | [] => none

/-- Reads what stands between date and time: a `T` in either case, or a blank. -/
def separator? : List Char → Option (List Char)
  | c :: rest => if c = 'T' ∨ c = 't' ∨ c = ' ' then some rest else none
  | [] => none

/-- Reads a point and digits; the first nine are nanoseconds, the others are passed over. -/
def fraction? (cs : List Char) : Option (Nat × List Char) :=
  match cs with
  | '.' :: rest =>
    let ds := (rest.take 9).takeWhile Char.isDigit
    if ds.isEmpty then none
    else some (decimalValue ds * Nat.pow 10 (9 - ds.length),
      (rest.drop ds.length).dropWhile Char.isDigit)
  | cs => some (0, cs)

/-- Reads an offset from universal time, in seconds: `Z`, or a sign, two digits of hours, what
`gap` reads, and two digits of minutes. -/
def offset? (gap : List Char → Option (List Char)) (cs : List Char) : Option (Int × List Char) :=
  match cs with
  | [] => none
  | c :: rest =>
    if c = 'Z' ∨ c = 'z' then some (0, rest)
    else do
      let sign : Int ← if c = '+' then some 1 else if c = '-' ∨ c = '\u2212' then some (-1) else none
      let (hours, rest) ← digits? 2 2 rest
      let rest ← gap rest
      let (minutes, rest) ← digits? 2 2 rest
      if 60 ≤ minutes then none
      else some (sign * (hours * 3600 + minutes * 60), rest)

/-- The fields of a written instant. -/
structure Fields where
  date : Date
  hour : Nat
  minute : Nat
  second : Nat
  nanos : Nat
  /-- Seconds by which the written time is ahead of universal time. -/
  offset : Int

/-- The first and the last day that a date can have. -/
def dayRange : Int × Int :=
  (Date.toDays ⟨-262143, 1, 1⟩, Date.toDays ⟨262142, 12, 31⟩)

/-- The instant of the fields, if there is one. -/
def ofFields? (f : Fields) : Option Instant :=
  if !f.date.isValid || 24 ≤ f.hour || 60 ≤ f.minute || 61 ≤ f.second ||
      86400 ≤ f.offset.natAbs ||
      f.date.year < -262143 || 262142 < f.date.year then none
  else
    let second := min f.second 59
    let nanos := if f.second = 60 then f.nanos + 1000000000 else f.nanos
    let t := ofDate f.date (f.hour * 3600 + f.minute * 60 + second - f.offset) nanos
    if dayRange.1 ≤ t.seconds / 86400 ∧ t.seconds / 86400 ≤ dayRange.2 then some t else none

/-- Reads the internet date and time format. -/
def readStrict? (s : String) : Option Instant := do
  let (year, cs) ← digits? 4 4 s.toList
  let (month, cs) ← (char? '-' cs).bind (digits? 2 2)
  let (day, cs) ← (char? '-' cs).bind (digits? 2 2)
  let (hour, cs) ← (separator? cs).bind (digits? 2 2)
  let (minute, cs) ← (char? ':' cs).bind (digits? 2 2)
  let (second, cs) ← (char? ':' cs).bind (digits? 2 2)
  let (nanos, cs) ← fraction? cs
  let (offset, cs) ← offset? (char? ':') cs
  if cs.isEmpty then ofFields? ⟨⟨year, month, day⟩, hour, minute, second, nanos, offset⟩ else none

/-- Reads a year: up to four digits, or a sign and any number of digits. -/
def year? (cs : List Char) : Option (Int × List Char) :=
  match cs with
  | '-' :: rest => (digits? 1 rest.length rest).map fun r => (-(r.1 : Int), r.2)
  | '+' :: rest => (digits? 1 rest.length rest).map fun r => ((r.1 : Int), r.2)
  | cs => (digits? 1 4 cs).map fun r => ((r.1 : Int), r.2)

/-- Reads a separator with blanks around it and then one or two digits. -/
def next? (c : Char) (cs : List Char) : Option (Nat × List Char) :=
  (char? c (trimStart cs)).bind fun cs => digits? 1 2 (trimStart cs)

/-- Reads `UTC` in any case, or an offset whose parts colons or blanks may keep apart. -/
def zone? (cs : List Char) : Option (Int × List Char) :=
  if (cs.take 3).map Char.toLower = ['u', 't', 'c'] then some (0, cs.drop 3)
  else offset? (fun cs => some (cs.dropWhile fun c => c = ':' || isBlank c)) cs

/-- Reads the internet date and time format and its looser variants. -/
def readLenient? (s : String) : Option Instant := do
  let (year, cs) ← year? (trimStart s.toList)
  let (month, cs) ← next? '-' cs
  let (day, cs) ← next? '-' cs
  let cs ← separator? cs
  let (hour, cs) ← digits? 1 2 (trimStart cs)
  let (minute, cs) ← next? ':' cs
  let (second, cs) ← next? ':' cs
  let (nanos, cs) ← fraction? cs
  let (offset, cs) ← zone? (trimStart cs)
  if (trimStart cs).isEmpty then
    ofFields? ⟨⟨year, month, day⟩, hour, minute, second, nanos, offset⟩
  else none

end EditLock.Instant
