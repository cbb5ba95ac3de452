/-
# The lock registry

A table of rows, at most one for each object, shared by all sessions. Who owns a lock is decided by
one statement: a row is written if there is none for the object or the one there belongs to the
same session. Each statement may find the table unavailable, or available for reading only; a
statement that fails changes nothing.

Key definitions: `Registry`, `Registry.get`, `Registry.setLock`, `Registry.remove`,
`Registry.removeIfUnchanged`, `Registry.scan`, `Registry.listLocks`, `Registry.locksForSession`,
`Registry.clear`.
-/
import EditLock.Registry.Record

namespace EditLock

/-- What the table lets a statement do. -/
inductive Availability where
  | available
  /-- Statements that write fail. -/
  | readOnly
  /-- All statements fail. -/
  | unavailable
deriving Repr, DecidableEq, Inhabited

/-- The table, the number of statements it has been given, and what it lets each of them do. -/
structure Registry where
  rows : List Row := []
  /-- How many statements have been run. -/
  statements : Nat := 0
  /-- What the table lets the `n`-th statement do. -/
  availability : Nat → Availability := fun _ => .available

namespace Registry

/-- What a failed statement reports. -/
def engineFailure : Failure := .database "<engine>"

/-- Runs a statement that reads. -/
def query {α : Type} (f : List Row → α) (r : Registry) : Except Failure α × Registry :=
  let next := { r with statements := r.statements + 1 }
  match r.availability r.statements with
  | .unavailable => (.error engineFailure, next)
  | _ => (.ok (f r.rows), next)

/-- Runs a statement that writes; it says what it found and gives the rows after it. -/
def execute {α : Type} (f : List Row → α × List Row) (r : Registry) :
    Except Failure α × Registry :=
  let next := { r with statements := r.statements + 1 }
  match r.availability r.statements with
  | .available => (.ok (f r.rows).1, { next with rows := (f r.rows).2 })
  | _ => (.error engineFailure, next)

/-- The row of an object. -/
def find? (rows : List Row) (k : Key) : Option Row :=
  rows.find? fun r => r.columns == Row.columnsOf k

/-- The record of an object. -/
def get (k : Key) (r : Registry) : Except Failure (Option LockRecord) × Registry :=
  match r.query fun rows => find? rows k with
  | (.error e, r) => (.error e, r)
  | (.ok none, r) => (.ok none, r)
  | (.ok (some row), r) => (row.decode.map some, r)

/-- The record of the object with these names. -/
def getLock (kind : Kind) (name : String) (subKey : Option String) (r : Registry) :
    Except Failure (Option LockRecord) × Registry :=
  r.get (.make kind name subKey)

/-- Writes a row if there is none for its object, or refreshes the one there if it belongs to the
same session. Says whether the table changed. -/
def upsert (row : Row) (rows : List Row) : Bool × List Row :=
  match rows.find? fun r => r.columns == row.columns with
  | none => (true, rows ++ [row])
  | some old =>
    if old.session = row.session then
      (true, rows.map fun r => if r.columns == row.columns then row else r)
    else (false, rows)

/-- Inserts or refreshes a record; a conflict if the object's row belongs to another session. -/
def setLock (record : LockRecord) (r : Registry) : Except Failure Unit × Registry :=
  match r.execute (upsert (Row.ofRecord record)) with
  | (.error e, r) => (.error e, r)
  | (.ok true, r) => (.ok (), r)
  | (.ok false, r) =>
    match r.get record.key with
    | (.error e, r) => (.error e, r)
    | (.ok found, r) =>
      let owner := (found.map LockRecord.session).getD "unknown"
      (.error (.conflict
        (record.key.toText ++ s!" is locked by session {owner}, not {record.session}")), r)

/-- Removes the row of an object, if there is one. -/
def remove (k : Key) (r : Registry) : Except Failure Unit × Registry :=
  r.execute fun rows => ((), rows.filter fun row => row.columns != Row.columnsOf k)

/-- Removes the row of the object with these names, if there is one. -/
def removeLock (kind : Kind) (name : String) (subKey : Option String) (r : Registry) :
    Except Failure Unit × Registry :=
  r.remove (.make kind name subKey)

/-- Whether a row is that of the record's object and still has the record's session and handle. -/
def isUnchanged (record : LockRecord) (row : Row) : Bool :=
  row.columns == Row.columnsOf record.key && row.session == record.session &&
    row.handle == record.handle

/-- Removes the row of the record's object if it still has the record's session and handle, and
says whether it did. -/
def removeIfUnchanged (record : LockRecord) (r : Registry) : Except Failure Bool × Registry :=
  r.execute fun rows =>
    (rows.any (isUnchanged record), rows.filter fun row => !isUnchanged record row)

/-- The rows in their order. -/
def sorted (rows : List Row) : List Row :=
  rows.mergeSort fun a b => (Row.compare a b).isLE

/-- All rows in their order, each read on its own. -/
def scan (r : Registry) : Except Failure (List (Except Failure LockRecord)) × Registry :=
  r.query fun rows => (sorted rows).map Row.decode

/-- The records that were read, or the first failure. -/
def collect : List (Except Failure LockRecord) → Except Failure (List LockRecord)
  | [] => .ok []
  | .error e :: _ => .error e
  | .ok record :: rest => (collect rest).map (record :: ·)

/-- Records are collected just where every row could be read. -/
theorem collect_eq_ok_iff {scanned : List (Except Failure LockRecord)}
    {records : List LockRecord} :
    collect scanned = .ok records ↔ scanned = records.map .ok := by
  induction scanned generalizing records with
  | nil => cases records <;> simp [collect]
  | cons head rest ih =>
    cases head with
    | error e => cases records <;> simp [collect]
    | ok record =>
      cases h : collect rest with
      | error e =>
        have none (rs : List LockRecord) : rest ≠ rs.map .ok := fun same => by
          simp [h] at ih
          exact ih same
        cases records <;> simp [collect, h, Except.map, none]
      | ok found =>
        have same : rest = found.map .ok := ih.mp h
        have step : collect (.ok record :: rest) = .ok (record :: found) := by
          simp [collect, h, Except.map]
        rw [step, same]
        cases records <;> simp [List.map_inj_right]

/-- All records in their order. -/
def listLocks (r : Registry) : Except Failure (List LockRecord) × Registry :=
  match r.scan with
  | (.error e, r) => (.error e, r)
  | (.ok scanned, r) => (collect scanned, r)

/-- The records of a session, in their order. -/
def locksForSession (session : String) (r : Registry) :
    Except Failure (List LockRecord) × Registry :=
  match r.query fun rows => (sorted (rows.filter (·.session == session))).map Row.decode with
  | (.error e, r) => (.error e, r)
  | (.ok scanned, r) => (collect scanned, r)

/-- Removes all rows and says how many there were. -/
def clear (r : Registry) : Except Failure Nat × Registry :=
  r.execute fun rows => (rows.length, [])

/-- Puts a row into the table as it stands, in place of the one with the same columns. -/
def putRow (row : Row) (r : Registry) : Registry :=
  { r with rows := r.rows.filter (fun old => old.columns != row.columns) ++ [row] }

end Registry

end EditLock
