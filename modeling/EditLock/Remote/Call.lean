/-
# Calls to a collaborator

A chain performs its steps by calls to a collaborator, which is any state with an answer to each
call. A call may have a time limit; a collaborator that would answer later is cut off, and leaves
the state that it had reached by then.

Key definitions: `Call`, `Call.Answer`, `Outcome`, `Reply`, `Collaborator`.
-/
import EditLock.Object.Ref
import EditLock.Remote.Message
import EditLock.Session.Basic

namespace EditLock

/-- The version that a check looks at. -/
inductive Version where
  /-- The version that was edited and is not activated. -/
  | inactive
  | active
deriving Repr, DecidableEq, Inhabited

/-- The word for a version. -/
def Version.name : Version → String
  | inactive => "inactive"
  | active => "active"

/-- What comes of a validation. -/
inductive Outcome where
  | accepted (response : Response)
  /-- The object may not be created, for this reason. -/
  | alternate (reason : String) (response : Response)
deriving Repr, DecidableEq, Inhabited

namespace Outcome

/-- The response in either case. -/
def response : Outcome → Response
  | accepted r => r
  | alternate _ r => r

/-- Why the object may not be created, if it may not. -/
def reason? : Outcome → Option String
  | accepted _ => none
  | alternate reason _ => some reason

end Outcome

/-- What a chain asks of its collaborator. -/
inductive Call where
  | validate
  | create (payload : Option String)
  | check (version : Version) (payload : Option String)
  | lock
  | update (handle payload : String)
  | unlock (handle : String)
  | activate
  /-- A deletion, with the handle of the lock that is held, if any. -/
  | delete (handle : Option String)
  /-- A read; with a budget in milliseconds it waits for the object to become visible. -/
  | read (budget : Option Nat)
deriving Repr, DecidableEq, Inhabited

namespace Call

/-- The step that a call performs. -/
def step : Call → Step
  | validate => .validate
  | create _ => .create
  | check _ _ => .check
  | lock => .lock
  | update _ _ => .update
  | unlock _ => .unlock
  | activate => .activate
  | delete _ => .delete
  | read _ => .read

/-- The handle that a call carries. -/
def handle? : Call → Option String
  | update handle _ => some handle
  | unlock handle => some handle
  | delete handle => handle
  | _ => none

/-- What a call that succeeds gives: an outcome, the handle of a lock, or a response. -/
@[reducible] def Answer : Call → Type
  | validate => Outcome
  | lock => String
  | _ => Response

end Call

/-- What comes back from a call. -/
inductive Reply (α : Type) where
  | answered (a : α)
  | failed (e : Failure)
  /-- The time limit passed first. -/
  | late
deriving Repr, Inhabited

/-- Who answers calls, on a state of its own. -/
structure Collaborator (σ : Type) where
  /-- The reply to a call on an object, made in a mode and with a time limit in milliseconds. -/
  reply : (c : Call) → ObjectRef → SessionMode → Option Nat → σ → Reply c.Answer × σ

end EditLock
