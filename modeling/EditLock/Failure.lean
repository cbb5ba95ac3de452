/-
# Failures

Why an operation failed. A failure of a chain names the step, the object and the session, and keeps
the failure of the step itself as its cause, unchanged; looking for a remote status or a missing
answer looks through to the cause.

Key definitions: `Failure`, `Failure.message`, `Failure.status?`, `Failure.isNetwork`, `shorten`,
`shortHandle`.
-/
import EditLock.Step
import EditLock.Text.Blank

namespace EditLock

/-- The text, cut to a number of characters and marked with an ellipsis if it is longer. -/
def shorten (limit : Nat) (s : String) : String :=
  if s.length ≤ limit then s else String.ofList (s.toList.take limit) ++ "…"

/-- The form in which a lock handle is shown: its first eight characters. -/
def shortHandle (handle : String) : String :=
  shorten 8 handle

/-- Why an operation failed. -/
inductive Failure where
  /-- Settings, arguments or names that cannot be used. -/
  | config (reason : String)
  /-- The lock registry failed, or holds a row that cannot be read. -/
  | database (reason : String)
  /-- The file system failed. -/
  | io (reason : String)
  /-- A record could not be encoded or decoded. -/
  | encoding (reason : String)
  /-- A session or lock record that does not exist was asked for. -/
  | notFound (what : String)
  | alreadyExists (what : String)
  /-- The bookkeeping for the key belongs to another session. -/
  | conflict (reason : String)
  /-- The server refused. -/
  | rejected (status : Nat) (body : String)
  /-- No answer came, so that the state of the server is unknown. -/
  | network (reason : String)
  /-- A clean-up failed; reported beside the failure that asked for it. -/
  | compensation (reason : String)
  /-- A step was asked for out of order. -/
  | invalidState (reason : String)
  /-- A chain stopped at a step; `heldLock` is the handle that is still held after clean-up. -/
  | chain (step : Step) (cause : Failure) (heldLock : Option String) (session object : String)
deriving Repr, DecidableEq, Inhabited

namespace Failure

/-- The text of a failure. -/
def message : Failure → String
  | config reason => s!"config: {reason}"
  | database reason => s!"db: {reason}"
  | io reason => s!"io: {reason}"
  | encoding reason => s!"serde: {reason}"
  | notFound what => s!"not found: {what}"
  | alreadyExists what => s!"already exists: {what}"
  | conflict reason => s!"conflict: {reason}"
  | rejected status body =>
    let body := Text.trimmed body
    if body.isEmpty then s!"remote rejected: status {status}"
    else s!"remote rejected: status {status}: " ++ shorten 200 body
  | network reason => s!"network (no response, remote state unknown): {reason}"
  | compensation reason => s!"compensation failed: {reason}"
  | invalidState reason => s!"invalid state: {reason}"
  | chain step cause heldLock session object =>
    let held := match heldLock with
      | some handle => "lock still held: " ++ shortHandle handle
      | none => "no lock held"
    step.name ++ s!" failed for {object} (session {session}; {held}): " ++ cause.message

/-- The status with which the server refused, if it did. -/
def status? : Failure → Option Nat
  | rejected status _ => some status
  | chain _ cause _ _ _ => cause.status?
  | _ => none

/-- Whether no answer came. -/
def isNetwork : Failure → Bool
  | network _ => true
  | chain _ cause _ _ _ => cause.isNetwork
  | _ => false

/-- Whether the failure is one of a chain. -/
def isChain : Failure → Bool
  | chain .. => true
  | _ => false

/-- A step that the stage does not allow. -/
def notAllowed (step : Step) (stage : Stage) : Failure :=
  .invalidState (step.name ++ " is not allowed at stage " ++ stage.name)

/-- A step that needs a lock where none is held. -/
def needsLock (step : Step) (object : String) : Failure :=
  .invalidState (step.name ++ s!" requires a held lock on {object}")

/-- A step that took longer than it may. -/
def timedOut (step : Step) (millis : Nat) : Failure :=
  .network (step.name ++ s!" timed out after {millis}ms")

end Failure

end EditLock
