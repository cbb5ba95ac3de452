/-
# Sweeps

Removing bookkeeping that is too old, whose process is gone, or whose session is gone. A sweep
forgets records only; a server may still hold a lock whose record was swept. What cannot be read is
passed over, and a record is removed only while it is still as it was read.

Key definitions: `Liveness`, `Sweeper`, `Sweeper.staleSessions`, `Sweeper.deadSessions`,
`Sweeper.staleLocks`, `Sweeper.orphanedLocks`, `Sweeper.all`, `SweepReport`.
-/
import EditLock.Registry.Table
import EditLock.Session.Store

namespace EditLock

/-- What is known of a process. -/
inductive Liveness where
  | alive
  | dead
  /-- It could not be found out. -/
  | inconclusive
deriving Repr, DecidableEq, Inhabited

/-- What a combined sweep removed. -/
structure SweepReport where
  staleSessions : List String := []
  deadSessions : List String := []
  staleLocks : List LockRecord := []
  orphanedLocks : List LockRecord := []
deriving Repr, DecidableEq, Inhabited

/-- The number of removed entries. -/
def SweepReport.total (r : SweepReport) : Nat :=
  r.staleSessions.length + r.deadSessions.length + r.staleLocks.length + r.orphanedLocks.length

/-- How to sweep. -/
structure Sweeper where
  /-- The age in nanoseconds beyond which an entry is stale. -/
  staleAfter : Int
  probe : Nat → Liveness
  now : Instant

namespace Sweeper

/-- Whether what began at an instant is stale. -/
def isStale (w : Sweeper) (since : Instant) : Bool :=
  w.staleAfter < w.now.sub since

/-- Removes the sessions of a list that are to be removed, as far as they can be read; gives the
removed ones. -/
def sweepIds (w : Sweeper) (shouldRemove : SessionOrigin → Bool) :
    List String → SessionStore → List String × SessionStore
  | [], s => ([], s)
  | id :: ids, s =>
    match s.metadata id w.now with
    | .ok (some found) =>
      if shouldRemove found.origin then
        match s.delete id with
        | (.ok true, s) =>
          let (removed, s) := sweepIds w shouldRemove ids s
          (id :: removed, s)
        | (_, s) => sweepIds w shouldRemove ids s
      else sweepIds w shouldRemove ids s
    | _ => sweepIds w shouldRemove ids s

/-- Removes the sessions that are to be removed; gives their identifiers. -/
def sweepSessions (w : Sweeper) (shouldRemove : SessionOrigin → Bool) (s : SessionStore) :
    Except Failure (List String) × SessionStore :=
  match s.list with
  | .error e => (.error e, s)
  | .ok ids =>
    let (removed, s) := w.sweepIds shouldRemove ids s
    (.ok removed, s)

/-- Removes the sessions that are stale. -/
def staleSessions (w : Sweeper) (s : SessionStore) :
    Except Failure (List String) × SessionStore :=
  w.sweepSessions (fun origin => w.isStale origin.createdAt) s

/-- Removes the sessions whose process is gone. -/
def deadSessions (w : Sweeper) (s : SessionStore) :
    Except Failure (List String) × SessionStore :=
  w.sweepSessions (fun origin => w.probe origin.pid == .dead) s

/-- Removes the records of a scan that are to be removed, each if it is unchanged; gives the
removed ones. -/
def sweepScanned (shouldRemove : LockRecord → Bool) :
    List (Except Failure LockRecord) → Registry → List LockRecord × Registry
  | [], r => ([], r)
  | .error _ :: rest, r => sweepScanned shouldRemove rest r
  | .ok record :: rest, r =>
    if shouldRemove record then
      match r.removeIfUnchanged record with
      | (.ok true, r) =>
        let (removed, r) := sweepScanned shouldRemove rest r
        (record :: removed, r)
      | (_, r) => sweepScanned shouldRemove rest r
    else sweepScanned shouldRemove rest r

/-- Removes the records that are to be removed; gives them. -/
def sweepLocks (shouldRemove : LockRecord → Bool) (r : Registry) :
    Except Failure (List LockRecord) × Registry :=
  match r.scan with
  | (.error e, r) => (.error e, r)
  | (.ok scanned, r) =>
    let (removed, r) := sweepScanned shouldRemove scanned r
    (.ok removed, r)

/-- Removes the records that are stale. -/
def staleLocks (w : Sweeper) (r : Registry) : Except Failure (List LockRecord) × Registry :=
  sweepLocks (fun record => w.isStale record.acquiredAt) r

/-- Whether the session of a record is known not to be in the store. -/
def isOrphaned (s : SessionStore) (record : LockRecord) : Bool :=
  match s.load record.session with
  | .ok none => true
  | _ => false

/-- Removes the records whose session is not in the store. -/
def orphanedLocks (s : SessionStore) (r : Registry) :
    Except Failure (List LockRecord) × Registry :=
  sweepLocks (isOrphaned s) r

/-- Every sweep in turn: sessions whose process is gone, stale sessions, stale locks, and locks
without a session. -/
def all (w : Sweeper) (s : SessionStore) (r : Registry) :
    Except Failure SweepReport × SessionStore × Registry :=
  match w.deadSessions s with
  | (.error e, s) => (.error e, s, r)
  | (.ok deadSessions, s) =>
    match w.staleSessions s with
    | (.error e, s) => (.error e, s, r)
    | (.ok staleSessions, s) =>
      match w.staleLocks r with
      | (.error e, r) => (.error e, s, r)
      | (.ok staleLocks, r) =>
        match orphanedLocks s r with
        | (.error e, r) => (.error e, s, r)
        | (.ok orphanedLocks, r) =>
          (.ok { staleSessions, deadSessions, staleLocks, orphanedLocks }, s, r)

end Sweeper

end EditLock
