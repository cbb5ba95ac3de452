/-
# Instants

An instant is a second counted from the start of 1970 in universal time, and the nanoseconds past
it. A leap second is the second before it with a thousand million nanoseconds or more. Differences
are in nanoseconds.

Key definitions: `Instant`, `Instant.date`, `Instant.sub`, `Instant.millisSince`.
-/
import EditLock.Time.Calendar

namespace EditLock

/-- A second of universal time and the nanoseconds past it. -/
structure Instant where
  /-- Seconds from the start of 1970. -/
  seconds : Int
  /-- Nanoseconds past the second; those of a leap second start at `10 ^ 9`. -/
  nanos : Nat
deriving Repr, DecidableEq, Inhabited

namespace Instant

/-- The date of an instant in universal time. -/
def date (t : Instant) : Date :=
  .ofDays (t.seconds / 86400)

/-- The second within the day. -/
def secondOfDay (t : Instant) : Nat :=
  (t.seconds % 86400).toNat

/-- The time of a date, a second of the day and nanoseconds. -/
def ofDate (d : Date) (secondOfDay : Int) (nanos : Nat) : Instant :=
  ⟨d.toDays * 86400 + secondOfDay, nanos⟩

/-- The nanoseconds from `b` to `a`. A leap second counts if the two times of day lie on different
sides of it. -/
def sub (a b : Instant) : Int :=
  let leap : Int :=
    if b.secondOfDay < a.secondOfDay then if 1000000000 ≤ b.nanos then 1 else 0
    else if a.secondOfDay < b.secondOfDay then if 1000000000 ≤ a.nanos then -1 else 0
    else 0
  (a.seconds - b.seconds + leap) * 1000000000 + (a.nanos - b.nanos)

/-- The milliseconds from `b` to `a`, rounded toward zero. -/
def millisSince (a b : Instant) : Int :=
  (a.sub b).tdiv 1000000

/-- The instant a number of seconds earlier. -/
def minusSeconds (t : Instant) (n : Int) : Instant :=
  { t with seconds := t.seconds - n }

end Instant

end EditLock
