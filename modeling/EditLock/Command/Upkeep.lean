/-
# Commands that look after the bookkeeping

Showing, sweeping and forgetting sessions and lock records on this machine. The server is never
asked, and what is printed shows no cookie, no token and of a lock's handle only the beginning.

Key definitions: `UpkeepCommand`, `UpkeepRequest`, `UpkeepRequest.level`, `UpkeepRequest.read`,
`UpkeepRequest.settings`, `UpkeepCommand.perform`, `UpkeepRequest.run`.
-/
import EditLock.Command.Machine
import EditLock.Command.Options

namespace EditLock

/-- What is to be done with the bookkeeping. -/
inductive UpkeepCommand where
  | listSessions
  | inspectSession (id : String)
  /-- Sweeps the sessions whose process is gone and those that are stale. -/
  | sweepSessions (dead stale : Bool)
  | clearSessions
  | listLocks
  | forgetLock (key : Key)
  /-- Sweeps the locks that are stale and those without a session. -/
  | sweepLocks
deriving Repr, DecidableEq, Inhabited

/-- The sessions and locks that a command works on. -/
structure Books where
  store : SessionStore
  registry : Registry

namespace UpkeepCommand

/-- The line for a session. -/
def sessionLine (s : SessionStore) (now : Instant) (id : String) : Option String :=
  match s.metadata id now with
  | .ok (some found) =>
    let origin := found.origin
    some (s!"{id}\tpid {origin.pid}\tage {Int.tdiv found.ageMillis 1000}s\tcreated " ++
      origin.createdAt.toText)
  | .ok none => none
  | .error e => some (s!"{id}\tunreadable: {e.message}")

/-- What is shown of a session. -/
def sessionView (s : Session) (now : Instant) : Json :=
  .record
    [("age_millis", .integer (s.ageMillis now)),
     ("cookie_names", .array (s.jar.map fun c => .text c.1)),
     ("created_at", .text s.createdAt.toText),
     ("has_csrf_token", .bool s.token.isSome),
     ("owner_pid", .integer s.pid),
     ("session_id", .text s.id),
     ("updated_at", .text s.updatedAt.toText)]

/-- The line for a lock. -/
def lockLine (r : LockRecord) : String :=
  r.key.toText ++ s!"\tsession {r.session}\thandle {shortHandle r.handle}\tacquired " ++
    r.acquiredAt.toText

/-- The lines for what a sweep of sessions removed. -/
def removedSessions (ids : List String) : List String :=
  s!"removed {ids.length} session(s)" :: ids.map fun id => "  " ++ id

/-- The lines for what a sweep of locks removed. -/
def removedLocks (records : List LockRecord) : List String :=
  s!"forgot {records.length} lock record(s)" :: records.map lockLine

/-- Does a sweep if it is asked for. -/
def sweepIf (wanted : Bool) (sweep : SessionStore → Except Failure (List String) × SessionStore)
    (s : SessionStore) : Except Failure (List String) × SessionStore :=
  if wanted then sweep s else (.ok [], s)

/-- Sweeps sessions: first those whose process is gone, then those that are stale. -/
def sweepStore (w : Sweeper) (dead stale : Bool) (s : SessionStore) :
    Except Failure (List String) × SessionStore :=
  match sweepIf dead w.deadSessions s with
  | (.error e, s) => (.error e, s)
  | (.ok gone, s) =>
    match sweepIf stale w.staleSessions s with
    | (.error e, s) => (.error e, s)
    | (.ok old, s) => (.ok (gone ++ old), s)

/-- Sweeps locks: first those that are stale, then those without a session. -/
def sweepRegistry (w : Sweeper) (s : SessionStore) (r : Registry) :
    Except Failure (List LockRecord) × Registry :=
  match w.staleLocks r with
  | (.error e, r) => (.error e, r)
  | (.ok stale, r) =>
    match Sweeper.orphanedLocks s r with
    | (.error e, r) => (.error e, r)
    | (.ok orphaned, r) => (.ok (stale ++ orphaned), r)

/-- Removes the record of an object, which must be there. -/
def forget (key : Key) (r : Registry) : Except Failure Unit × Registry :=
  match r.get key with
  | (.error e, r) => (.error e, r)
  | (.ok none, r) => (.error (.notFound ("no lock recorded for " ++ key.toText)), r)
  | (.ok (some _), r) => r.remove key

/-- Does a command; gives the lines to print. -/
def perform (c : UpkeepCommand) (w : Sweeper) (b : Books) : Except Failure (List String) × Books :=
  match c with
  | listSessions => (b.store.list.map fun ids => ids.filterMap (sessionLine b.store w.now), b)
  | inspectSession id =>
    let shown := do
      match ← b.store.load id with
      | some session => pure [(sessionView session w.now).pretty]
      | none => throw (.notFound s!"session {id}")
    (shown, b)
  | sweepSessions dead stale =>
    match sweepStore w dead stale b.store with
    | (result, store) => (result.map removedSessions, { b with store })
  | clearSessions =>
    match b.store.clear with
    | (result, store) => (result.map fun n => [s!"removed {n} session(s)"], { b with store })
  | listLocks =>
    match b.registry.listLocks with
    | (result, registry) => (result.map fun records => records.map lockLine, { b with registry })
  | forgetLock key =>
    match forget key b.registry with
    | (result, registry) =>
      (result.map fun _ => ["forgot " ++ key.toText ++ "; the server may still hold the lock"],
       { b with registry })
  | sweepLocks =>
    match sweepRegistry w b.store b.registry with
    | (result, registry) => (result.map removedLocks, { b with registry })

end UpkeepCommand

/-- What a run that looks after the bookkeeping is asked to do. -/
structure UpkeepRequest where
  storage : StorageOptions := {}
  /-- The age in seconds from which entries are stale, if the settings are not to be asked. -/
  staleAfterSeconds : Option Nat := none
  command : UpkeepCommand
deriving Repr, DecidableEq, Inhabited

namespace UpkeepRequest

/-! ## Arguments -/

/-- The flags of the sweep of sessions. -/
def sweepFlags : List (String × String) :=
  [("dead-only", "Only remove sessions whose owning process has exited"),
   ("stale-only", "Only remove sessions older than the threshold")]

/-- The commands on sessions. -/
def sessionsLevel : Level where
  about := "Session records"
  commands :=
    [("list", { about := "List session ids with age and owner" }),
     ("inspect",
      { about := "Show one session record (credentials redacted)"
        operands := [.text "id" "Session id"] }),
     ("cleanup",
      { about := "Remove sessions that are stale or whose owning process has exited"
        flags := sweepFlags
        exclusive := sweepFlags.map Prod.fst }),
     ("clear", { about := "Remove every session record" })]

/-- The commands on locks. -/
def locksLevel : Level where
  about := "Lock records"
  commands :=
    [("list", { about := "List recorded locks" }),
     ("forget",
      { about := "Forget one lock record without unlocking remotely"
        operands := [.kind "Object kind", .text "name" "Object name"]
        options := [.subKey] }),
     ("cleanup", { about := "Forget lock records that are stale or whose session is gone" })]

/-- The whole command line. -/
def level : Level where
  about := "Inspect and clean up adt-locksmith sessions and lock records"
  options := StorageOptions.slots []
    [.count "stale-after-seconds" "Override the staleness threshold in seconds"]
  hasVersion := true
  commands := [("sessions", sessionsLevel), ("locks", locksLevel)]

/-- The command that was read. -/
def command? (w : Words) : Option UpkeepCommand :=
  match w.commands with
  | ["sessions", "list"] => some .listSessions
  | ["sessions", "inspect"] => w.operands.head?.map .inspectSession
  | ["sessions", "cleanup"] =>
    some (.sweepSessions (!w.hasFlag "stale-only") (!w.hasFlag "dead-only"))
  | ["sessions", "clear"] => some .clearSessions
  | ["locks", "list"] => some .listLocks
  | ["locks", "forget"] => (keyOfWords? w).map .forgetLock
  | ["locks", "cleanup"] => some .sweepLocks
  | _ => none

/-- The request that was read. -/
def ofWords? (w : Words) : Option UpkeepRequest :=
  (command? w).map fun command =>
    { storage := .ofWords w, command
      staleAfterSeconds := (w.value? "stale-after-seconds").bind Slot.count? }

/-- The name of the program. -/
def program : String := "adt-locksmith-ctl"

/-- The request that arguments make. -/
def read (args : List String) : Except Stop UpkeepRequest := do
  match ofWords? (← level.read program args) with
  | some q => .ok q
  | none => .error .misuse

/-! ## Runs -/

/-- The settings with the age replaced from which entries are stale. -/
def withStaleAfter (seconds : Option Nat) (s : Settings) : Except Failure Settings :=
  match seconds with
  | none => .ok s
  | some 0 => .error (.config "stale_after_seconds must be greater than zero")
  | some n => .ok { s with storage := { s.storage with staleAfterSeconds := n } }

/-- The settings with which a request is served. -/
def settings (q : UpkeepRequest) (files : FileTree) : Except Failure Settings :=
  (q.storage.read files).bind fun s => withStaleAfter q.staleAfterSeconds (q.storage.override s)

/-- What a run has opened. -/
structure Opened where
  settings : Settings
  store : SessionStore
  registry : OpenRegistry

/-- Opens all that is needed to serve a request. -/
def «open» (q : UpkeepRequest) (o : Occasion) : Run Opened := do
  let settings ← Run.ofExcept (q.settings (← get).files)
  let store ← Run.store (settings.sessionDir o.environment)
  let registry ← Run.openRegistry (settings.lockDir o.environment)
    (settings.lockDbPath o.environment)
  return { settings, store, registry }

/-- The report of a run that failed. -/
def failed (e : Failure) : Report :=
  { status := 1, err := [s!"error: {e.message}"] }

/-- The report of a run. -/
def report : Except Failure (List String) → Report
  | .ok lines => { out := lines }
  | .error e => failed e

/-- Serves a request. -/
def run (q : UpkeepRequest) (o : Occasion) (m : Machine) : Report × Machine :=
  match (q.open o).run.run m with
  | (.error e, m) => (failed e, m)
  | (.ok opened, m) =>
    match opened.settings.staleAfter? with
    | none => (.brokenOff, m)
    | some seconds =>
      let w : Sweeper :=
        { staleAfter := (seconds : Int) * 1000000000, probe := o.probe, now := o.now }
      match q.command.perform w ⟨opened.store, opened.registry.registry⟩ with
      | (result, books) =>
        let registry := { opened.registry with registry := books.registry }
        (report result, ((Run.close books.store registry).run.run m).2)

end UpkeepRequest

/-- Runs the program that looks after the bookkeeping. -/
def runUpkeep (version : String) (args : List String) (o : Occasion) (m : Machine) :
    Report × Machine :=
  match UpkeepRequest.read args with
  | .error stop => (.ofStop UpkeepRequest.program version stop, m)
  | .ok q => q.run o m

end EditLock
