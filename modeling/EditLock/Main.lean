/-
# The program

One command on the files of this machine. The first argument `ctl` chooses the commands that look
after the bookkeeping; all others edit objects. What a run can reach is read into a machine, the
run is made on it, and what has changed is written back. There is no network here, so that every
request goes unanswered.

Key definitions: `main`.
-/
import EditLock.Command.Edit
import EditLock.Command.Upkeep
import EditLock.Registry.Text

namespace EditLock.Program

/-- The version that is shown. -/
def version : String := "0.1.0"

/-- A server that never answers. -/
def silence : Server Unit where
  respond _ s := (.silence, s)

/-- The path of a place. -/
def pathOf (p : Place) : String :=
  "/" ++ "/".intercalate p

/-- The entry that stands under a path. -/
def entryAt (path : String) : IO Entry := do
  try
    return .text (← IO.FS.readFile path)
  catch _ =>
    return if ← (System.mkFilePath [path]).isDir then .directory else .binary

/-- Adds what stands under a path to a machine, and with a directory its entries. -/
def gather (path : String) (m : Machine) : IO Machine := do
  if !(← (System.mkFilePath [path]).pathExists) then
    return m
  let parents := (FileTree.namesOf path).dropLast
  let parent := if path.startsWith "/" then "/" ++ "/".intercalate parents
    else "/".intercalate parents
  match m.files.makeDirectories parent with
  | .error _ => return m
  | .ok (_, files) =>
    match files.place path with
    | .error _ => return m
    | .ok p =>
      let e ← entryAt path
      let mut files := files.set p e
      if e = .directory then
        for found in ← (System.mkFilePath [path]).readDir do
          files := files.set (p ++ [found.fileName]) (← entryAt found.path.toString)
      return { m with files }

/-- Adds the registry under a path to a machine. -/
def gatherRegistry (path : String) (m : Machine) : IO Machine := do
  let m ← gather path m
  match m.files.place path with
  | .ok p =>
    match m.files.find? p with
    | some (.text text) =>
      match Registry.read? text with
      | some r => return { m with files := m.files.set p .binary, registries := [(p, r)] }
      | none => return m
    | _ => return m
  | .error _ => return m

/-- Adds all that a run can reach to a machine. -/
def gatherAll (storage : StorageOptions) (env : Environment)
    (settings : FileTree → Except Failure Settings) (texts : List String) (m : Machine) :
    IO Machine := do
  let mut m := m
  for path in storage.settings.toList ++ texts do
    m ← gather path m
  match settings m.files with
  | .error _ => return m
  | .ok s => gatherRegistry (s.lockDbPath env) (← gather (s.sessionDir env) m)

/-- Writes a text as a whole. -/
def writeText (path text : String) : IO Unit := do
  IO.FS.writeFile (path ++ ".tmp") text
  IO.FS.rename (path ++ ".tmp") path

/-- Writes back what has changed. -/
def scatter (before after : Machine) : IO Unit := do
  for (p, e) in before.files.entries do
    if e ≠ .directory && (after.files.find? p).isNone then
      IO.FS.removeFile (pathOf p)
  for (p, e) in after.files.entries do
    if before.files.find? p ≠ some e then
      match e with
      | .directory => IO.FS.createDirAll (pathOf p)
      | .text text => writeText (pathOf p) text
      | _ => pure ()
  for (p, r) in after.registries do
    writeText (pathOf p) r.write

/-- The number that the digits of a text write. -/
def digitsOf (s : String) : Nat :=
  (s.toList.takeWhile Char.isDigit).foldl (fun n d => n * 10 + (d.toNat - '0'.toNat)) 0

/-- The time now: when the machine was started and how long it has run since. -/
def clock : IO Instant := do
  let started ← IO.FS.readFile "/proc/stat"
  let boot := match (started.splitOn "btime ")[1]? with
    | some rest => digitsOf rest
    | none => 0
  let up ← IO.FS.readFile "/proc/uptime"
  let hundredths := match (up.splitOn ".")[1]? with
    | some rest => digitsOf (rest.take 2).toString
    | none => 0
  return ⟨boot + digitsOf up, hundredths * 10000000⟩

/-- What is known of a process. -/
def probe (n : Nat) : IO Liveness := do
  if n = 0 || 2147483647 < n then
    return .inconclusive
  return if ← (System.mkFilePath [s!"/proc/{n}"]).pathExists then .alive else .dead

/-- The processes that the sessions of a machine name, with what is known of them. -/
def probeAll (m : Machine) : IO (List (Nat × Liveness)) :=
  m.files.entries.filterMapM fun e => do
    match e.2 with
    | .text text =>
      match SessionOrigin.read? text with
      | some origin => return some (origin.pid, ← probe origin.pid)
      | none => return none
    | _ => return none

/-- A new identifier for a session. -/
def freshId : IO String := do
  let digits ← (List.range 32).mapM fun i => do
    let n ← IO.rand 0 15
    return Nat.digitChar (if i = 12 then 4 else if i = 16 then 8 + n % 4 else n)
  let group (start length : Nat) := String.ofList ((digits.drop start).take length)
  return "-".intercalate [group 0 8, group 8 4, group 12 4, group 16 4, group 20 12]

/-- The variables of this process. -/
def environment : IO Environment := do
  return { baseUrl := ← IO.getEnv "ADT_BASE_URL"
           client := ← IO.getEnv "ADT_CLIENT"
           token := ← IO.getEnv "ADT_TOKEN"
           username := ← IO.getEnv "ADT_USERNAME"
           password := ← IO.getEnv "ADT_PASSWORD"
           dataRoot := ← IO.getEnv "ADT_LOCKSMITH_HOME"
           home := ← IO.getEnv "HOME"
           userProfile := ← IO.getEnv "USERPROFILE" }

/-- The occasion of a run on a machine. -/
def occasion (env : Environment) (m : Machine) : IO Occasion := do
  let known ← probeAll m
  return { environment := env
           now := ← clock
           pid := digitsOf (← IO.FS.readFile "/proc/self/stat")
           probe := fun n => (known.lookup n).getD .inconclusive
           freshId := ← freshId }

/-- The machine before anything is read into it. -/
def emptyMachine : IO Machine := do
  let here := (FileTree.namesOf (← IO.currentDir).toString).filter (· ≠ "")
  let parents := (List.range here.length).map fun i => (here.take (i + 1), Entry.directory)
  return { files := { here, entries := parents } }

/-- Serves a request that edits an object. -/
def edit (args : List String) : IO Report := do
  let env ← environment
  let m ← emptyMachine
  let m ← match EditRequest.read args with
    | .error _ => pure m
    | .ok q =>
      gatherAll q.storage env (q.settings env) (q.command.source?.toList ++
        q.command.definition?.toList) m
  let (report, after, _) := runEdit version args silence (← occasion env m) m ()
  scatter m after
  return report

/-- Serves a request that looks after the bookkeeping. -/
def upkeep (args : List String) : IO Report := do
  let env ← environment
  let m ← emptyMachine
  let m ← match UpkeepRequest.read args with
    | .error _ => pure m
    | .ok q => gatherAll q.storage env q.settings [] m
  let (report, after) := runUpkeep version args (← occasion env m) m
  scatter m after
  return report

/-- Prints a report. -/
def print (r : Report) : IO UInt32 := do
  r.out.forM fun line => IO.println line
  r.err.forM fun line => IO.eprintln line
  return UInt32.ofNat r.status

end EditLock.Program

open EditLock in
/-- Runs one command. -/
def main (args : List String) : IO UInt32 := do
  match args with
  | "ctl" :: rest => Program.print (← Program.upkeep rest)
  | _ => Program.print (← Program.edit args)
