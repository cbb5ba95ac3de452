/-
# Chains

One edit of one object in one session: how far it has come, the handle of the lock that it holds,
what its steps answered, and how its requests are routed. A chain acts on a scene, which holds the
chain itself, the registry that all sessions share, and the collaborator's state; an act may fail,
and what it changed until then stays changed.

Key definitions: `Chain`, `ChainOptions`, `Scene`, `Exchange`, `Act`, `Act.outcome`.
-/
import EditLock.Registry.Table
import EditLock.Remote.Call
import EditLock.Settings.Basic

namespace EditLock

/-- How a chain behaves. -/
structure ChainOptions where
  /-- Whether the object is activated after it was updated. -/
  activate : Bool := true
  /-- Whether a failing chain deletes the object that it created. -/
  deleteOnFailure : Bool := false
  /-- How long the reads between the steps wait, in milliseconds. -/
  consistencyMillis : Nat := 30000
  /-- How long each call may take, in milliseconds. -/
  stepLimit : Option Nat := none
deriving Repr, DecidableEq, Inhabited

/-- The options that the settings choose. -/
def ChainOptions.ofSettings (s : ChainSettings) : ChainOptions :=
  { activate := s.activate
    deleteOnFailure := s.deleteOnFailure
    consistencyMillis := s.consistencyMillis }

/-- One edit of one object in one session. -/
structure Chain where
  object : ObjectRef
  /-- The identifier of the session. -/
  session : String
  options : ChainOptions := {}
  /-- How the next request is routed. -/
  mode : SessionMode := .stateless
  stage : Stage := .init
  /-- The handle of the lock that is held. -/
  handle : Option String := none
  /-- Whether this chain created the object and has not deleted it again. -/
  created : Bool := false
  /-- The latest response to each step that was answered. -/
  results : List (Step × Response) := []
  /-- The steps that failed, with the text of the failure. -/
  failures : List (Step × String) := []
  /-- What went wrong without failing the chain. -/
  warnings : List String := []
deriving Repr, DecidableEq, Inhabited

namespace Chain

/-- A chain for an object in a session, before its first step. -/
def new (object : ObjectRef) (session : String) (options : ChainOptions) : Chain :=
  { object, session, options }

/-- The latest response to a step. -/
def result? (c : Chain) (step : Step) : Option Response :=
  c.results.lookup step

/-- The chain with a response to a step kept. -/
def withResult (c : Chain) (step : Step) (r : Response) : Chain :=
  { c with results := c.results.filter (fun entry => entry.1 != step) ++ [(step, r)] }

/-- The chain with a failed step kept. -/
def withFailure (c : Chain) (step : Step) (e : Failure) : Chain :=
  { c with failures := c.failures ++ [(step, e.message)] }

/-- The chain with a warning kept. -/
def withWarning (c : Chain) (text : String) : Chain :=
  { c with warnings := c.warnings ++ [text] }

/-- The failure of the chain at a step. -/
def failure (c : Chain) (step : Step) (cause : Failure) : Failure :=
  .chain step cause c.handle c.session c.object.toText

/-- The chain after a single step failed, and the failure to report. A lock that is held stays
held. A failure that is one of a chain already is kept. -/
def stepFailure (c : Chain) (step : Step) (cause : Failure) : Failure × Chain :=
  if cause.isChain then (cause, c)
  else (c.failure step cause, c.withFailure step cause)

end Chain

/-- A call that was made, how it was routed, and what came of it. -/
structure Exchange where
  call : Call
  mode : SessionMode
  result : Except Failure call.Answer

/-- What a chain acts on. -/
structure Scene (σ : Type) where
  chain : Chain
  registry : Registry
  /-- The state of the collaborator. -/
  remote : σ
  /-- The time at which locks are recorded. -/
  now : Instant
  /-- The process that records them. -/
  pid : Nat
  /-- The calls so far. -/
  calls : List Exchange := []
  /-- The handles of the locks that were recorded, for whoever wants to hear of them. -/
  announced : List String := []

/-- What a chain does on a scene: it may fail, and keeps its changes if it does. -/
abbrev Act (σ α : Type) := ExceptT Failure (StateM (Scene σ)) α

namespace Act

variable {σ α : Type}

/-- Does an act on a scene. -/
def perform (act : Act σ α) (scene : Scene σ) : Except Failure α × Scene σ :=
  act.run.run scene

/-- Does an act and tells how it ended, without failing. -/
def outcome (act : Act σ α) : Act σ (Except Failure α) :=
  ExceptT.mk (Except.ok <$> act.run)

/-- Ends as an outcome says. -/
def ofExcept : Except Failure α → Act σ α
  | .ok a => pure a
  | .error e => throw e

/-- The chain as it is. -/
def chain : Act σ Chain :=
  return (← get).chain

/-- Changes the chain. -/
def change (f : Chain → Chain) : Act σ Unit :=
  modify fun s => { s with chain := f s.chain }

/-- Routes the following requests. -/
def setMode (mode : SessionMode) : Act σ Unit :=
  change fun c => { c with mode }

/-- Lets the registry do something. -/
def consult (f : Registry → Except Failure α × Registry) : Act σ α := do
  let s ← get
  let (result, registry) := f s.registry
  set { s with registry }
  ofExcept result

/-- What a reply to a call amounts to. -/
def resultOf (c : Call) (limit : Option Nat) : Reply c.Answer → Except Failure c.Answer
  | .answered a => .ok a
  | .failed e => .error e
  | .late => .error (.timedOut c.step (limit.getD 0))

/-- Makes a call. -/
def ask (peer : Collaborator σ) (c : Call) : Act σ c.Answer := do
  let s ← get
  let limit := s.chain.options.stepLimit
  let (reply, remote) := peer.reply c s.chain.object s.chain.mode limit s.remote
  let result := resultOf c limit reply
  set { s with remote, calls := s.calls ++ [Exchange.mk c s.chain.mode result] }
  ofExcept result

/-- The record that says that this chain's session holds a lock. -/
def ownRecord (handle : String) : Act σ LockRecord := do
  let s ← get
  return .make s.chain.object.key s.chain.session handle s.now s.pid

/-- Tells of a lock that was recorded. -/
def announce (handle : String) : Act σ Unit :=
  modify fun s => { s with announced := s.announced ++ [handle] }

end Act

end EditLock
