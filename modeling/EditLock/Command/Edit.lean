/-
# Commands that edit objects

Each command is one part of an edit chain, or a whole one, in one session. The session is named or
new; a lock that one run has taken can be used and released by later runs of the same session.

Key definitions: `EditCommand`, `EditRequest`, `EditRequest.level`, `EditRequest.read`,
`EditRequest.settings`, `EditRequest.run`.
-/
import EditLock.Chain.Run
import EditLock.Command.Machine
import EditLock.Command.Options
import EditLock.Http.Link

namespace EditLock

/-- What is to be done with an object. Files are given by their paths. -/
inductive EditCommand where
  | lock
  | unlock
  | write (source : String)
  | update (source : String)
  | create (definition : Option String) (source : String)
  | delete
  | activate
  | forceUnlock
deriving Repr, DecidableEq, Inhabited

namespace EditCommand

/-- The file with the new source. -/
def source? : EditCommand → Option String
  | write source => some source
  | update source => some source
  | create _ source => some source
  | _ => none

/-- The file with what is sent when the object is created. -/
def definition? : EditCommand → Option String
  | create definition _ => definition
  | _ => none

end EditCommand

/-- The texts of the files that a command needs. -/
structure Material where
  definition : Option String := none
  source : String := ""
deriving Repr, DecidableEq, Inhabited

/-- What a run that edits an object is asked to do. -/
structure EditRequest where
  storage : StorageOptions := {}
  /-- The session; a new one if none is named. -/
  session : Option String := none
  object : ObjectRef
  command : EditCommand
  /-- Whether the object is left inactive whatever the settings say. -/
  skipActivation : Bool := false
  /-- Whether an object is deleted whose creation fails, whatever the settings say. -/
  deleteOnFailure : Bool := false
deriving Repr, DecidableEq, Inhabited

namespace EditRequest

/-! ## Arguments -/

/-- The level of a command on an object. -/
def objectLevel (about : String) (options : List Slot := [])
    (flags : List (String × String) := []) : Level :=
  { about
    operands :=
      [.kind "Object kind, e.g. `class`, `program`, `function_module`", .text "name" "Object name"]
    options := .subKey :: options
    flags }

/-- The slot for the file with the new source. -/
def sourceSlot (about : String) : Slot :=
  .path "source" about true

/-- The flag that leaves an object inactive. -/
def skipFlag : String × String :=
  ("no-activate", "Skip activation")

/-- The whole command line. -/
def level : Level where
  about := "Lock-safe object edit chains against an ADT server"
  options := StorageOptions.slots
    [.text "session" "Session to bind to; a new one is generated when omitted"] []
  hasVersion := true
  commands :=
    [("lock", objectLevel "Acquire and record the edit lock, leaving it held"),
     ("unlock", objectLevel "Release a lock recorded earlier by this session"),
     ("write", objectLevel "Write source under a lock recorded earlier by this session"
        [sourceSlot "File containing the new source"]),
     ("update", objectLevel "Lock, write, unlock and activate in one chain"
        [sourceSlot "File containing the new source"] [skipFlag]),
     ("create", objectLevel "Create the object, then write and activate its source"
        [.text "package" "Package to create the object in",
         .text "description" "Short description",
         .path "definition" "File containing the object description sent on create",
         sourceSlot "File containing the initial source"]
        [skipFlag,
         ("delete-on-failure", "Delete the object again if a later step fails")]),
     ("delete", objectLevel "Check and delete the object"),
     ("activate", objectLevel "Activate the object"),
     ("force-unlock", objectLevel "Release any known lock on the object and clear its bookkeeping")]
  aliases := [("edit", "update")]

/-- The command that was read. -/
def command? (w : Words) : Option EditCommand :=
  match w.commands with
  | ["lock"] => some .lock
  | ["unlock"] => some .unlock
  | ["write"] => (w.value? "source").map .write
  | ["update"] => (w.value? "source").map .update
  | ["create"] => (w.value? "source").map (.create (w.value? "definition"))
  | ["delete"] => some .delete
  | ["activate"] => some .activate
  | ["force-unlock"] => some .forceUnlock
  | _ => none

/-- The request that was read. -/
def ofWords? (w : Words) : Option EditRequest := do
  let command ← command? w
  let object ← objectOfWords? w
  let object := match command with
    | .create _ _ =>
      (object.withPackage (w.value? "package")).withDescription (w.value? "description")
    | _ => object
  pure { storage := .ofWords w, session := w.value? "session", object, command
         skipActivation := w.hasFlag "no-activate"
         deleteOnFailure := w.hasFlag "delete-on-failure" }

/-- The name of the program. -/
def program : String := "adt-locksmith"

/-- The request that arguments make. -/
def read (args : List String) : Except Stop EditRequest := do
  match ofWords? (← level.read program args) with
  | some q => .ok q
  | none => .error .misuse

/-! ## Runs -/

/-- The settings with which a request is served. -/
def settings (q : EditRequest) (env : Environment) (files : FileTree) : Except Failure Settings :=
  (q.storage.read files).map fun s => q.storage.override (s.complete env)

/-- How the chain of a request behaves. -/
def options (q : EditRequest) (s : Settings) : ChainOptions :=
  let base := ChainOptions.ofSettings s.chain
  { base with
    activate := base.activate && !q.skipActivation
    deleteOnFailure := base.deleteOnFailure || q.deleteOnFailure }

/-- What a run has opened before it does anything with the object. -/
structure Opened where
  settings : Settings
  /-- The session as it was asked for, which is not the name under which it is stored if that is
  the name of a link to it. -/
  sessionId : String
  session : Session
  store : SessionStore
  registry : OpenRegistry
  link : Link
  material : Material

/-- Reads the files that a command needs. -/
def readMaterial (c : EditCommand) : Run Material := do
  let definition ← c.definition?.mapM Run.readFile
  let source ← c.source?.mapM Run.readFile
  return { definition, source := source.getD "" }

/-- Opens all that is needed to serve a request. -/
def «open» (q : EditRequest) (o : Occasion) : Run Opened := do
  let settings ← Run.ofExcept (q.settings o.environment (← get).files)
  let _ ← Run.ofExcept settings.requireBaseUrl
  let credentials ← Run.ofExcept (Credentials.load o.environment)
  let sessionId := q.session.getD o.freshId
  let store ← Run.store (settings.sessionDir o.environment)
  let (result, store) := store.openOrCreate sessionId o.now o.pid
  Run.putStore store
  let session ← Run.ofExcept result
  let registry ← Run.openRegistry (settings.lockDir o.environment)
    (settings.lockDbPath o.environment)
  let link ← Run.ofExcept (Link.ofSettings settings credentials)
  let material ← readMaterial q.command
  return { settings, sessionId, session, store, registry, link, material }

/-- Does a step on its own: a failure names the step. -/
def single {σ α : Type} (step : Step) (act : Act σ α) : Act σ α := do
  match ← act.outcome with
  | .ok a => return a
  | .error e =>
    let (e, c) := (← Act.chain).stepFailure step e
    Act.change fun _ => c
    throw e

/-- Does what is asked for with an object; gives the line to print. -/
def perform {σ : Type} (peer : Collaborator σ) (c : EditCommand) (m : Material)
    (sessionId object : String) : Act σ String := do
  match c with
  | .lock =>
    let handle ← single .lock (Chain.lock peer)
    return s!"locked {object} (session {sessionId}, handle {handle})"
  | .unlock =>
    let _ ← single .lock Chain.resumeLock
    let _ ← single .unlock (Chain.unlock peer)
    return s!"unlocked {object}"
  | .write _ =>
    Chain.runWrite peer m.source
    return s!"wrote {object} (lock still held by session {sessionId})"
  | .update _ =>
    Chain.runUpdate peer m.source
    return s!"updated {object}"
  | .create _ _ =>
    Chain.runCreate peer m.definition m.source
    return s!"created {object}"
  | .delete =>
    Chain.runDelete peer
    return s!"deleted {object}"
  | .activate =>
    let _ ← single .activate (Chain.activate peer)
    return s!"activated {object}"
  | .forceUnlock =>
    match ← Chain.forceUnlock peer with
    | .nothingHeld => return s!"no lock known for {object}"
    | .unlocked => return s!"unlocked {object}"
    | .unlockFailed reason =>
      return s!"remote unlock of {object} failed ({reason}); local bookkeeping cleared"

/-- The warnings that are printed after a command. -/
def shownWarnings (c : EditCommand) (chain : Chain) : List String :=
  match c with
  | .update _ => chain.warnings
  | .create _ _ => chain.warnings
  | _ => []

/-- The report of a run that failed. -/
def failed (e : Failure) : Report :=
  { status := 1
    err := s!"error: {e.message}" :: (e.status?.map fun n => s!"remote status: {n}").toList }

/-- The report of a run. -/
def report (c : EditCommand) (result : Except Failure String) (chain : Chain) : Report :=
  match result with
  | .ok line => { out := [line], err := (shownWarnings c chain).map fun w => "warning: " ++ w }
  | .error e => failed e

/-- Serves a request. -/
def run {ρ : Type} (q : EditRequest) (server : Server ρ) (o : Occasion) (m : Machine) (s : ρ) :
    Report × Machine × ρ :=
  match (q.open o).run.run m with
  | (.error e, m) => (failed e, m, s)
  | (.ok opened, m) =>
    let scene : Scene (Line ρ) :=
      { chain := .new q.object opened.session.id (q.options opened.settings)
        registry := opened.registry.registry
        remote := { session := opened.session, store := opened.store, server := s }
        now := o.now, pid := o.pid }
    let peer := (opened.link.transport server o.now).collaborator
    let act := perform peer q.command opened.material opened.sessionId q.object.toText
    match act.perform scene with
    | (result, scene) =>
      let registry := { opened.registry with registry := scene.registry }
      let (_, m) := (Run.close scene.remote.store registry).run.run m
      (report q.command result scene.chain, m, scene.remote.server)

end EditRequest

/-- Runs the program that edits objects. -/
def runEdit {ρ : Type} (version : String) (args : List String) (server : Server ρ) (o : Occasion)
    (m : Machine) (s : ρ) : Report × Machine × ρ :=
  match EditRequest.read args with
  | .error stop => (.ofStop EditRequest.program version stop, m, s)
  | .ok q => q.run server o m s

end EditLock
