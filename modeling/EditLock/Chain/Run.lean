/-
# Whole chains

The steps of an edit in their order. If one fails, what was done is undone as far as it can be: a
held lock is released, and an object that the chain created is deleted if the options say so. The
failure reported is always that of the step, whatever comes of undoing.

Key definitions: `Chain.abort`, `Chain.attempt`, `Chain.runCreate`, `Chain.runUpdate`,
`Chain.runDelete`, `Chain.runWrite`.
-/
import EditLock.Chain.Steps

namespace EditLock.Chain

open Act

variable {σ α : Type} (peer : Collaborator σ)

/-- Releases the held lock, if any, after a step failed. -/
def undoLock : Act σ Unit := do
  match (← Act.chain).handle with
  | none => pure ()
  | some handle =>
    setMode .stateful
    match ← outcome (ask peer (.unlock handle)) with
    | .ok response =>
      change fun c => { c.withResult .unlock response with handle := none }
      let _ ← outcome (forgetLock handle)
    | .error e =>
      change fun c => c.withWarning (Failure.compensation
        (s!"unlock of {c.object.toText} with handle {shortHandle handle} " ++
          s!"failed: {e.message}")).message

/-- Deletes the object that the chain created, if the options say so, after a step failed. -/
def undoCreate : Act σ Unit := do
  let c ← Act.chain
  if c.options.deleteOnFailure && c.created then
    setMode .stateful
    match ← outcome (ask peer (.delete c.handle)) with
    | .ok response => change fun c => { c.withResult .delete response with created := false }
    | .error e =>
      change fun c => c.withWarning (Failure.compensation
        s!"delete of {c.object.toText} failed: {e.message}").message

/-- Ends the chain at a step that failed. -/
def abort (step : Step) (cause : Failure) : Act σ α := do
  change fun c => c.withFailure step cause
  undoLock peer
  undoCreate peer
  setMode .stateless
  throw ((← Act.chain).failure step cause)

/-- Does a part of a chain; if it fails, the chain ends at the step. -/
def attempt (step : Step) (act : Act σ α) : Act σ α := do
  match ← outcome act with
  | .ok a => return a
  | .error e => abort peer step e

/-- Keeps a failure as a warning. -/
def tolerate (step : Step) (e : Failure) : Act σ Unit :=
  change fun c => c.withWarning (step.name ++ ": " ++ e.message)

/-- Waits for the object to become visible. That no answer comes is only a warning. -/
def settle : Act σ Unit := do
  match ← outcome (read peer (some (← Act.chain).options.consistencyMillis)) with
  | .ok _ => pure ()
  | .error e => if e.isNetwork then tolerate .read e else throw e

/-- The last check of an edit. That no answer comes is only a warning. -/
def finalCheck : Act σ Unit := do
  match ← outcome (check peer none) with
  | .ok _ => pure ()
  | .error e =>
    if e.isNetwork then
      tolerate .check e
      change fun c => { c with stage := .checkedFinal }
    else abort peer .check e

/-- Edits the object under a lock and activates it. -/
def editUnderLock (source : String) : Act σ Unit := do
  let _ ← attempt peer .lock (lock peer)
  let _ ← attempt peer .check (check peer (some source))
  let _ ← attempt peer .update (update peer source)
  let _ ← attempt peer .unlock (unlock peer)
  attempt peer .read (settle peer)
  finalCheck peer
  if (← Act.chain).options.activate then
    let _ ← attempt peer .activate (activate peer)
    attempt peer .read (settle peer)

/-- Marks the chain as finished if it has come to an end. -/
def finish : Act σ Unit :=
  change fun c => if c.stage.canFinish then { c with stage := .done } else c

/-- Creates the object and writes its source. -/
def runCreate (payload : Option String) (source : String) : Act σ Unit := do
  match ← attempt peer .validate (validate peer) with
  | .alternate reason response => abort peer .validate (.rejected response.status reason)
  | .accepted _ =>
    let _ ← attempt peer .create (create peer payload)
    let _ ← attempt peer .check (check peer none)
    editUnderLock peer source
    finish

/-- Writes the source of the object. -/
def runUpdate (source : String) : Act σ Unit := do
  editUnderLock peer source
  finish

/-- Checks the object and deletes it. -/
def runDelete : Act σ Unit := do
  let _ ← attempt peer .check (check peer none)
  let _ ← attempt peer .delete (delete peer)
  finish

/-- Writes the source under the lock that this session recorded earlier, and keeps the lock. -/
def runWrite (source : String) : Act σ Unit := do
  let _ ← attempt peer .lock (resumeLock (σ := σ))
  let _ ← attempt peer .check (check peer (some source))
  let _ ← attempt peer .update (update peer source)

end EditLock.Chain
