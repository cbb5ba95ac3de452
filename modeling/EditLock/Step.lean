/-
# Steps and stages of an edit chain

The operations that a chain performs on one object, and the positions it can be in. `Stage.next?`
is the whole protocol: the stage that a step leads to, if the step is in order.

Key definitions: `Step`, `Stage`, `Stage.next?`, `Stage.canFinish`.
-/
namespace EditLock

/-- An operation on one object. -/
inductive Step where
  | validate
  | create
  | check
  | lock
  | update
  | unlock
  | activate
  | delete
  | read
deriving Repr, DecidableEq, Inhabited

/-- The word for a step. -/
def Step.name : Step → String
  | validate => "validate"
  | create => "create"
  | check => "check"
  | lock => "lock"
  | update => "update"
  | unlock => "unlock"
  | activate => "activate"
  | delete => "delete"
  | read => "read"

/-- All steps. -/
def Step.all : List Step :=
  [validate, create, check, lock, update, unlock, activate, delete, read]

/-- The step that a word names. -/
def Step.ofName? (s : String) : Option Step :=
  all.find? fun step => step.name == s

/-- How far a chain has come. -/
inductive Stage where
  | init
  | validated
  /-- The object's shell exists. -/
  | created
  /-- The inactive version was checked after the object was created. -/
  | checkedInactive
  | locked
  /-- The new source was checked under the lock. -/
  | checkedWithPayload
  | updated
  | unlocked
  /-- The final check after the lock was released is done. -/
  | checkedFinal
  | activated
  /-- The check before a deletion is done. -/
  | checkedDeletion
  | deleted
  /-- The chain is finished. -/
  | done
deriving Repr, DecidableEq, Inhabited

namespace Stage

/-- The word for a stage. -/
def name : Stage → String
  | init => "Init"
  | validated => "Validated"
  | created => "Created"
  | checkedInactive => "CheckedInactive"
  | locked => "Locked"
  | checkedWithPayload => "CheckedWithPayload"
  | updated => "Updated"
  | unlocked => "Unlocked"
  | checkedFinal => "CheckedFinal"
  | activated => "Activated"
  | checkedDeletion => "CheckedDeletion"
  | deleted => "Deleted"
  | done => "Done"

/-- All stages. -/
def all : List Stage :=
  [init, validated, created, checkedInactive, locked, checkedWithPayload, updated, unlocked,
   checkedFinal, activated, checkedDeletion, deleted, done]

/-- The stage that a word names. -/
def ofName? (s : String) : Option Stage :=
  all.find? fun stage => stage.name == s

/-- The stage after a step; nothing if the step is out of order. A read is always in order and
leads nowhere. -/
def next? : Stage → Step → Option Stage
  | stage, .read => some stage
  | init, .validate => some validated
  | validated, .create => some created
  | created, .check => some checkedInactive
  | init, .lock => some locked
  | checkedInactive, .lock => some locked
  | locked, .check => some checkedWithPayload
  | locked, .update => some updated
  | checkedWithPayload, .update => some updated
  | locked, .unlock => some unlocked
  | checkedWithPayload, .unlock => some unlocked
  | updated, .unlock => some unlocked
  | unlocked, .check => some checkedFinal
  | init, .activate => some activated
  | unlocked, .activate => some activated
  | checkedFinal, .activate => some activated
  | init, .check => some checkedDeletion
  | init, .delete => some deleted
  | checkedDeletion, .delete => some deleted
  | _, _ => none

/-- Whether a chain may be marked finished. -/
def canFinish : Stage → Bool
  | unlocked | checkedFinal | activated | deleted => true
  | _ => false

/-- Whether the stage stands for a held lock. -/
def isLocked : Stage → Bool
  | locked | checkedWithPayload | updated => true
  | _ => false

/-- A finished chain takes no step but a read. -/
theorem next?_done (step : Step) : done.next? step = if step = .read then some done else none := by
  cases step <;> rfl

end Stage

end EditLock
