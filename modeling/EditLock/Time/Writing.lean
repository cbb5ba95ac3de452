/-
# Written instants

The internet date and time format: date and time of day in universal time, with no fraction or one
of three, six or nine digits, the shortest that loses nothing. A year outside 0 to 9999 has a sign.

Key definitions: `Instant.toText`, `Instant.toTextZ`.
-/
import EditLock.Time.Instant

namespace EditLock

/-- The decimal digits of a number, filled up with zeros to a width. -/
def padded (width n : Nat) : List Char :=
  let ds := Nat.toDigits 10 n
  List.replicate (width - ds.length) '0' ++ ds

namespace Instant

/-- A year: four digits, or a sign and at least four digits. -/
def writeYear (year : Int) : List Char :=
  if 0 ≤ year ∧ year ≤ 9999 then padded 4 year.toNat
  else (if year < 0 then '-' else '+') :: padded 4 year.natAbs

/-- The fraction of a second: absent if zero, else the shortest of three, six or nine digits. -/
def writeFraction (nanos : Nat) : List Char :=
  if nanos = 0 then []
  else if nanos % 1000000 = 0 then '.' :: padded 3 (nanos / 1000000)
  else if nanos % 1000 = 0 then '.' :: padded 6 (nanos / 1000)
  else '.' :: padded 9 nanos

/-- Date, `T` and time of day, without an offset. -/
def writeLocal (t : Instant) : List Char :=
  let s := t.secondOfDay
  let leap := 1000000000 ≤ t.nanos
  writeYear t.date.year ++ '-' :: padded 2 t.date.month ++ '-' :: padded 2 t.date.day ++
    'T' :: padded 2 (s / 3600) ++ ':' :: padded 2 (s / 60 % 60) ++
    ':' :: padded 2 (s % 60 + if leap then 1 else 0) ++
    writeFraction (if leap then t.nanos - 1000000000 else t.nanos)

/-- The text with the offset `+00:00`. -/
def toText (t : Instant) : String :=
  String.ofList (t.writeLocal ++ ['+', '0', '0', ':', '0', '0'])

/-- The text with the offset `Z`. -/
def toTextZ (t : Instant) : String :=
  String.ofList (t.writeLocal ++ ['Z'])

example : (⟨1262401445, 125000000⟩ : Instant).toText = "2010-01-02T03:04:05.125+00:00" := by
  decide +kernel

end Instant

end EditLock
