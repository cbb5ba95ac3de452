/-
# Runs on a machine

What a run of a command finds on its machine and leaves there: a tree of files, of which some are
lock registries. A run may fail, and what it changed until then stays changed.

Key definitions: `Machine`, `Occasion`, `Report`, `Run`, `Run.readFile`, `Run.store`,
`Run.openRegistry`, `Run.close`.
-/
import EditLock.Command.Words
import EditLock.Files.Tree
import EditLock.Settings.Environment
import EditLock.Sweep

namespace EditLock

/-- The files of a machine. -/
structure Machine where
  files : FileTree := {}
  /-- The lock registries, by the places of their files. -/
  registries : List (Place × Registry) := []

/-- When, where and by which process a run is made. -/
structure Occasion where
  environment : Environment
  now : Instant
  pid : Nat
  /-- What is known of other processes. -/
  probe : Nat → Liveness
  /-- An identifier that no session has. -/
  freshId : String

/-- What a run prints, line by line, and the status with which it ends. -/
structure Report where
  status : Nat := 0
  out : List String := []
  err : List String := []
deriving Repr, DecidableEq, Inhabited

namespace Report

/-- The report of a run whose arguments cannot be used. -/
def misused : Report :=
  { status := 2, err := ["error: these arguments cannot be used; try '--help'"] }

/-- The report of a run that breaks off. -/
def brokenOff : Report :=
  { status := 101, err := ["error: the staleness threshold is out of range"] }

/-- The report of a run whose arguments were not read to their end. -/
def ofStop (program version : String) : Stop → Report
  | .misuse => misused
  | .help lines => { out := lines }
  | .version => { out := [program ++ " " ++ version] }

end Report

/-- What a run does on a machine: it may fail, and keeps its changes if it does. -/
abbrev Run (α : Type) := ExceptT Failure (StateM Machine) α

/-- A registry that is open, and the place of its file. -/
structure OpenRegistry where
  place : Place
  registry : Registry

namespace Run

variable {α : Type}

/-- Ends as an outcome says. -/
def ofExcept : Except Failure α → Run α
  | .ok a => pure a
  | .error e => throw e

/-- The text of a file that a command needs. -/
def readFile (path : String) : Run String := do
  match (← get).files.read path with
  | .ok text => return text
  | .error _ => throw (.io s!"cannot read {path}: {SessionStore.systemText}")

/-- The sessions under a path. -/
def store (path : String) : Run SessionStore :=
  return ⟨path, (← get).files.directoryAt path⟩

/-- Puts sessions back in their place. -/
def putStore (s : SessionStore) : Run Unit :=
  modify fun m => { m with files := m.files.putDirectory s.path s.dir }

/-- Puts a registry back in its place. -/
def putRegistry (r : OpenRegistry) : Run Unit :=
  modify fun m =>
    { m with
      registries := m.registries.filter (fun e => e.1 != r.place) ++ [(r.place, r.registry)] }

/-- Puts back all that a run has opened. -/
def close (s : SessionStore) (r : OpenRegistry) : Run Unit := do
  putStore s
  putRegistry r

/-- The registry in the file at a place. An empty file is taken for an empty registry, and so is
one that is missing. -/
def registryAt (p : Place) (m : Machine) : Except Failure Registry :=
  match m.files.find? p with
  | none => .ok {}
  | some (.text "") => .ok {}
  | some _ =>
    match m.registries.lookup p with
    | some r => .ok r
    | none => .error Registry.engineFailure

/-- Opens the registry under a path, after making the directory in which it is to stand. -/
def openRegistry (directory path : String) : Run OpenRegistry := do
  match (← get).files.makeDirectories directory with
  | .error _ => throw (.database s!"failed to create db dir: {SessionStore.systemText}")
  | .ok (_, files) =>
    modify fun m => { m with files }
    match files.place path with
    | .error _ => throw Registry.engineFailure
    | .ok place =>
      let registry ← ofExcept (registryAt place (← get))
      modify fun m => { m with files := m.files.set place .binary }
      putRegistry ⟨place, registry⟩
      return ⟨place, registry⟩

end Run

end EditLock
