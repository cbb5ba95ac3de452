/-
# The steps of a chain

Each step is in order or it fails before it does anything. A lock is recorded in the registry as
soon as it is granted, and only then held; a lock that cannot be recorded is released again. The
requests are stateful from before the lock is asked for until it is released.

Key definitions: `Chain.validate`, `Chain.create`, `Chain.check`, `Chain.lock`, `Chain.resumeLock`,
`Chain.update`, `Chain.unlock`, `Chain.activate`, `Chain.delete`, `Chain.read`,
`Chain.forceUnlock`, `ForceUnlock`.
-/
import EditLock.Chain.Basic

namespace EditLock

/-- What became of a lock that was to be released whatever the server says. -/
inductive ForceUnlock where
  /-- No lock is known. -/
  | nothingHeld
  | unlocked
  /-- The server did not release it; it is forgotten all the same. -/
  | unlockFailed (reason : String)
deriving Repr, DecidableEq, Inhabited

namespace Chain

open Act

variable {σ : Type} (peer : Collaborator σ)

/-- The stage after a step, which must be in order. -/
def allowed (step : Step) : Act σ Stage := do
  let c ← Act.chain
  match c.stage.next? step with
  | some next => return next
  | none => throw (.notAllowed step c.stage)

/-- The handle of the held lock, which a step needs. -/
def heldHandle (step : Step) : Act σ String := do
  let c ← Act.chain
  match c.handle with
  | some handle => return handle
  | none => throw (.needsLock step c.object.toText)

/-- Asks whether the object may be created. -/
def validate : Act σ Outcome := do
  let next ← allowed .validate
  let outcome ← ask peer .validate
  change fun c => { c.withResult .validate outcome.response with stage := next }
  return outcome

/-- Creates the object. -/
def create (payload : Option String) : Act σ Response := do
  let next ← allowed .create
  let response ← ask peer (.create payload)
  change fun c => { c.withResult .create response with stage := next, created := true }
  return response

/-- Checks the object: the active version before any other step, later the inactive one. -/
def check (payload : Option String) : Act σ Response := do
  let next ← allowed .check
  let version := if (← Act.chain).stage = .init then Version.active else .inactive
  let response ← ask peer (.check version payload)
  change fun c => { c.withResult .check response with stage := next }
  return response

/-- Releases a lock that could not be recorded. If that fails too, the lock is held. -/
def releaseUnrecorded (handle : String) : Act σ Unit := do
  match ← outcome (ask peer (.unlock handle)) with
  | .ok response => change fun c => c.withResult .unlock response
  | .error e =>
    change fun c =>
      { c.withWarning (Failure.compensation
          (s!"unlock of unrecorded lock on {c.object.toText} with handle {shortHandle handle} " ++
            s!"failed: {e.message}")).message with
        handle := some handle }
  setMode .stateless

/-- Asks for the lock and records it. -/
def lock : Act σ String := do
  let next ← allowed .lock
  setMode .stateful
  match ← outcome (ask peer .lock) with
  | .error e =>
    setMode .stateless
    throw e
  | .ok handle =>
    let record ← ownRecord handle
    match ← outcome (consult (Registry.setLock record)) with
    | .error e =>
      releaseUnrecorded peer handle
      throw e
    | .ok () =>
      change fun c => { c with handle := some handle, stage := next }
      announce handle
      return handle

/-- Takes up the lock that this session recorded earlier. -/
def resumeLock : Act σ String := do
  let next ← allowed .lock
  let c ← Act.chain
  match ← consult (Registry.get c.object.key) with
  | none => throw (.notFound s!"no lock recorded for {c.object.toText}")
  | some record =>
    if record.session ≠ c.session then
      throw (.conflict (c.object.toText ++ s!" is recorded as locked by session {record.session}"))
    else
      change fun c => { c with mode := .stateful, handle := some record.handle, stage := next }
      return record.handle

/-- Writes the source under the held lock. -/
def update (payload : String) : Act σ Response := do
  let next ← allowed .update
  let handle ← heldHandle .update
  let response ← ask peer (.update handle payload)
  change fun c => { c.withResult .update response with stage := next }
  return response

/-- Removes the record of a lock if it is still the one that this session wrote. -/
def forgetLock (handle : String) : Act σ Unit := do
  let record ← ownRecord handle
  let _ ← consult (Registry.removeIfUnchanged record)

/-- Releases the held lock. If the server does not, nothing changes. -/
def unlock : Act σ Response := do
  let next ← allowed .unlock
  let handle ← heldHandle .unlock
  let response ← ask peer (.unlock handle)
  change fun c =>
    { c.withResult .unlock response with handle := none, stage := next, mode := .stateless }
  forgetLock handle
  return response

/-- Activates the object. -/
def activate : Act σ Response := do
  let next ← allowed .activate
  let response ← ask peer .activate
  change fun c => { c.withResult .activate response with stage := next }
  return response

/-- Deletes the object. -/
def delete : Act σ Response := do
  let next ← allowed .delete
  let response ← ask peer (.delete (← Act.chain).handle)
  change fun c => { c.withResult .delete response with stage := next }
  return response

/-- Reads the object, and waits for it to become visible if there is a budget. -/
def read (budget : Option Nat) : Act σ Response := do
  let response ← ask peer (.read budget)
  change fun c => c.withResult .read response
  return response

/-- Releases the lock that is held, or else the one that is recorded for the object whoever owns
it. The lock is forgotten whatever the server says, and its record is removed if it still names the
handle. -/
def forceUnlock : Act σ ForceUnlock := do
  let c ← Act.chain
  let record ← match c.handle with
    | some handle => some <$> ownRecord handle
    | none => consult (Registry.get c.object.key)
  match record with
  | none =>
    setMode .stateless
    return .nothingHeld
  | some record =>
    setMode .stateful
    let result ← outcome (ask peer (.unlock record.handle))
    change fun c =>
      { c with
        handle := none
        stage := if c.stage.isLocked then .unlocked else c.stage
        mode := .stateless }
    let _ ← consult (Registry.removeIfUnchanged record)
    match result with
    | .ok response =>
      change fun c => c.withResult .unlock response
      return .unlocked
    | .error e => return .unlockFailed e.message

end Chain

end EditLock
