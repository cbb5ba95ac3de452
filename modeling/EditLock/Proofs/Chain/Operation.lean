/-
# The operations of a chain, and chains that share a registry

All that can be asked of a chain: its steps, a forced release, and the whole chains. A property of
the scene that every case of every step keeps, and that clean-up keeps, is kept by every operation
(`Steady.keeps`, `Stable.keeps`): the whole chains are made of steps and clean-up alone. Properties
of the registry are of this kind if the statements of a chain keep them (`stable_of_statements`).

A fleet is any number of chains on one registry. They take turns; at each turn one of them does one
operation, with any collaborator state and at any time.

Key definitions: `Operation`, `Operation.act`, `Chain.IsFresh`, `Chain.Steady`, `Chain.Stable`,
`Collaborator.agreeing`, `Fleet`, `Turn`, `Fleet.afterAll`.
Key theorems: `Chain.Steady.keeps`, `Chain.Stable.keeps`, `Chain.stable_of_statements`,
`Fleet.afterAll_induction`.
-/
import Mathlib.Logic.Function.Basic
import EditLock.Proofs.Chain.Outcomes
import EditLock.Proofs.Chain.Runs

namespace EditLock

variable {σ α : Type}

/-- What can be asked of a chain. -/
inductive Operation where
  | validate
  | create (payload : Option String)
  | check (payload : Option String)
  | lock
  | resumeLock
  | update (payload : String)
  | unlock
  | activate
  | delete
  | read (budget : Option Nat)
  | forceUnlock
  | runCreate (payload : Option String) (source : String)
  | runUpdate (source : String)
  | runDelete
  | runWrite (source : String)
deriving Repr, DecidableEq, Inhabited

/-- Does what is asked of a chain; the handles and responses it gives stand in the scene. -/
def Operation.act (peer : Collaborator σ) : Operation → Act σ Unit
  | .validate => discard (Chain.validate peer)
  | .create payload => discard (Chain.create peer payload)
  | .check payload => discard (Chain.check peer payload)
  | .lock => discard (Chain.lock peer)
  | .resumeLock => discard Chain.resumeLock
  | .update payload => discard (Chain.update peer payload)
  | .unlock => discard (Chain.unlock peer)
  | .activate => discard (Chain.activate peer)
  | .delete => discard (Chain.delete peer)
  | .read budget => discard (Chain.read peer budget)
  | .forceUnlock => discard (Chain.forceUnlock peer)
  | .runCreate payload source => Chain.runCreate peer payload source
  | .runUpdate source => Chain.runUpdate peer source
  | .runDelete => Chain.runDelete peer
  | .runWrite source => Chain.runWrite peer source

/-- The chain has done nothing yet; its requests may be routed either way. -/
def Chain.IsFresh (c : Chain) : Prop :=
  c = { Chain.new c.object c.session c.options with mode := c.mode }

theorem Chain.IsFresh.stage {c : Chain} (h : c.IsFresh) : c.stage = .init := by
  rw [h]
  rfl

theorem Chain.IsFresh.handle {c : Chain} (h : c.IsFresh) : c.handle = none := by
  rw [h]
  rfl

theorem Chain.IsFresh.created {c : Chain} (h : c.IsFresh) : c.created = false := by
  rw [h]
  rfl

/-- Whether a call neither asks for a lock nor releases one. -/
def Call.isPlain : Call → Bool
  | .lock => false
  | .unlock _ => false
  | _ => true

/-- Whether a call neither asks for a lock, nor releases one, nor writes under one. -/
def Call.isIdle : Call → Bool
  | .lock => false
  | .unlock _ => false
  | .update .. => false
  | _ => true

theorem Call.isPlain_of_isIdle {call : Call} (h : call.isIdle = true) : call.isPlain = true := by
  cases call <;> first | rfl | cases h

/-- Whether an operation begins by taking up a recorded lock. -/
def Operation.resumes : Operation → Bool
  | .resumeLock => true
  | .runWrite _ => true
  | _ => false

namespace Chain

open Act Registry

variable (peer : Collaborator σ)

/-! ### What all operations keep -/

/-- A property of the scene that each case of each step keeps, but for taking up a recorded lock,
and so does the clean-up. An update carries the handle that the chain holds. -/
structure Steady (P : Scene σ → Prop) : Prop where
  ask : AskKept peer (·.isIdle = true) P
  update : ∀ {s handle payload out}, P s → s.chain.handle = some handle →
    AskRun peer .update (.update handle payload) s out → P out.2
  lock : ∀ {s out}, P s → LockRun peer s out → P out.2
  unlock : ∀ {s out}, P s → UnlockRun peer s out → P out.2
  undoLock : ∀ {s s'}, P s → UndoLockRun peer s s' → P s'
  undoCreate : ∀ {s s'}, P s → UndoCreateRun peer s s' → P s'
  failure : ∀ {s} (step : Step) (e : Failure), P s → P (s.withChain fun c => c.withFailure step e)
  warning : ∀ {s} (text : String), P s → P (s.withChain fun c => c.withWarning text)
  rest : ∀ {s}, P s → P (s.routed .stateless)
  settled : ∀ {s}, P s → P (s.withChain fun c => { c with stage := .checkedFinal })
  finished : ∀ {s}, P s → s.chain.stage.canFinish = true →
    P (s.withChain fun c => { c with stage := .done })

/-- A property of the scene that each case of each step keeps, and the clean-up. -/
structure Stable (P : Scene σ → Prop) : Prop where
  ask : AskKept peer (·.isPlain = true) P
  lock : ∀ {s out}, P s → LockRun peer s out → P out.2
  resume : ∀ {s out}, P s → ResumeRun s out → P out.2
  unlock : ∀ {s out}, P s → UnlockRun peer s out → P out.2
  undoLock : ∀ {s s'}, P s → UndoLockRun peer s s' → P s'
  undoCreate : ∀ {s s'}, P s → UndoCreateRun peer s s' → P s'
  failure : ∀ {s} (step : Step) (e : Failure), P s → P (s.withChain fun c => c.withFailure step e)
  warning : ∀ {s} (text : String), P s → P (s.withChain fun c => c.withWarning text)
  rest : ∀ {s}, P s → P (s.routed .stateless)
  settled : ∀ {s}, P s → P (s.withChain fun c => { c with stage := .checkedFinal })
  finished : ∀ {s}, P s → s.chain.stage.canFinish = true →
    P (s.withChain fun c => { c with stage := .done })

namespace Steady

variable {peer} {P : Scene σ → Prop} (h : Steady peer P)

include h

theorem keeps_lock : Keeps P (Chain.lock peer) :=
  keeps_of_perform fun s hs => h.lock hs (lock_run peer s)

theorem keeps_update (payload : String) : Keeps P (Chain.update peer payload) := by
  refine keeps_of_perform fun s hs => ?_
  rcases update_run peer payload s with ⟨-, reason, hrun⟩ | ⟨handle, held, hrun⟩
  · rw [hrun]
    exact hs
  · exact h.update hs held hrun

theorem keeps_unlock : Keeps P (Chain.unlock peer) :=
  keeps_of_perform fun s hs => h.unlock hs (unlock_run peer s)

/-- The clean-up keeps the property, and its failure is that of the chain. -/
theorem leads_abort {Q : α → Scene σ → Prop} (step : Step) (cause : Failure) :
    Leads P (abort peer step cause : Act σ α) Q (fun _ => P) := by
  intro s hs
  obtain ⟨s₁, s₂, h₁, h₂, hp⟩ := abort_run peer step cause s
  rw [hp]
  exact h.rest (h.undoCreate (h.undoLock (h.failure step cause hs) h₁) h₂)

theorem keeps_attempt {act : Act σ α} (hact : Keeps P act) (step : Step) :
    Keeps P (attempt peer step act) :=
  leads_attempt peer hact fun e => h.leads_abort step e

theorem keeps_settle : Keeps P (settle peer) :=
  leads_settle (fun _ => h.ask.keeps_read rfl) (fun _ text _ hs => h.warning text hs)
    (fun _ _ hs => hs)

theorem keeps_finalCheck : Keeps P (finalCheck peer) :=
  leads_finalCheck (h.ask.keeps_check fun _ => rfl)
    (fun _ text _ hs => h.settled (h.warning text hs))
    (fun e => h.leads_abort .check e)

theorem keeps_editUnderLock (source : String) : Keeps P (editUnderLock peer source) :=
  leads_editUnderLock (h.keeps_attempt h.keeps_lock .lock)
    (h.keeps_attempt (h.ask.keeps_check fun _ => rfl) .check)
    (h.keeps_attempt (h.keeps_update source) .update)
    (h.keeps_attempt h.keeps_unlock .unlock) (h.keeps_attempt h.keeps_settle .read)
    h.keeps_finalCheck (h.keeps_attempt (h.ask.keeps_activate rfl) .activate)

theorem keeps_finish : Keeps P (finish : Act σ Unit) :=
  leads_finish (fun _ hs _ => hs) (fun _ hs hc => h.finished hs hc)

/-- A chain that writes keeps what holds once its lock is taken up, or failed to be. -/
theorem leads_runWrite_of_resume {P₀ : Scene σ → Prop} (source : String)
    (hresume : Leads P₀ (resumeLock : Act σ String) (fun _ => P) (fun _ => P)) :
    Leads P₀ (runWrite peer source) (fun _ => P) (fun _ => P) :=
  leads_runWrite (leads_attempt peer hresume fun e => h.leads_abort .lock e)
    (h.keeps_attempt (h.ask.keeps_check fun _ => rfl) .check)
    (h.keeps_attempt (h.keeps_update source) .update)

/-- **What every step and the clean-up keep, every operation keeps.** -/
theorem keeps (op : Operation)
    (hresume : op.resumes = true → Keeps P (resumeLock : Act σ String))
    (hforce : op = .forceUnlock → ∀ {s out}, P s → ForceRun peer s out → P out.2) :
    Keeps P (op.act peer) := by
  cases op with
  | validate => exact (h.ask.keeps_validate rfl).discard
  | create payload => exact (h.ask.keeps_create rfl).discard
  | check payload => exact (h.ask.keeps_check fun _ => rfl).discard
  | lock => exact h.keeps_lock.discard
  | resumeLock => exact (hresume rfl).discard
  | update payload => exact (h.keeps_update payload).discard
  | unlock => exact h.keeps_unlock.discard
  | activate => exact (h.ask.keeps_activate rfl).discard
  | delete => exact (h.ask.keeps_delete fun _ => rfl).discard
  | read budget => exact (h.ask.keeps_read rfl).discard
  | forceUnlock =>
    exact (keeps_of_perform fun s hs => hforce rfl hs (forceUnlock_run peer s)).discard
  | runCreate payload source =>
    exact leads_runCreate (h.keeps_attempt (h.ask.keeps_validate rfl) .validate)
      (fun e => h.leads_abort .validate e) (h.keeps_attempt (h.ask.keeps_create rfl) .create)
      (h.keeps_attempt (h.ask.keeps_check fun _ => rfl) .check) (h.keeps_editUnderLock source)
      h.keeps_finish
  | runUpdate source => exact leads_runUpdate (h.keeps_editUnderLock source) h.keeps_finish
  | runDelete =>
    exact leads_runDelete (h.keeps_attempt (h.ask.keeps_check fun _ => rfl) .check)
      (h.keeps_attempt (h.ask.keeps_delete fun _ => rfl) .delete) h.keeps_finish
  | runWrite source => exact h.leads_runWrite_of_resume source (hresume rfl)

end Steady

namespace Stable

variable {peer} {P : Scene σ → Prop} (h : Stable peer P)

include h

theorem steady : Steady peer P where
  ask _ _ _ _ hr hstep hidle hs := h.ask hr hstep (Call.isPlain_of_isIdle hidle) hs
  update hs _ hr := h.ask hr rfl rfl hs
  lock := h.lock
  unlock := h.unlock
  undoLock := h.undoLock
  undoCreate := h.undoCreate
  failure := h.failure
  warning := h.warning
  rest := h.rest
  settled := h.settled
  finished := h.finished

theorem keeps (op : Operation)
    (hforce : op = .forceUnlock → ∀ {s out}, P s → ForceRun peer s out → P out.2) :
    Keeps P (op.act peer) :=
  h.steady.keeps op (fun _ => keeps_of_perform fun s hs => h.resume hs (resumeLock_run s)) hforce

end Stable

/-- **What the statements of a chain keep, the chain keeps.** A property of the registry, and of the
object and the session to which the chain is bound, outlasts every step if it outlasts writing a
record of the chain, removing one, and a look-up. -/
theorem stable_of_statements {P : ObjectRef → String → Registry → Prop}
    (written : ∀ {o session record r result r'}, P o session r → record.key = o.key →
      record.session = session → SetRun record r result r' → P o session r')
    (removed : ∀ {o session record r result r'}, P o session r → record.key = o.key →
      record.session = session → RemoveRun record r result r' → P o session r')
    (looked : ∀ {o session r}, P o session r → P o session (r.ran 1 r.rows)) :
    Stable peer fun s => P s.chain.object s.chain.session s.registry where
  ask _ _ _ _ hr _ _ hs := by cases hr <;> exact hs
  lock {s _} hs hr := by
    cases hr with
    | rejected => exact hs
    | refused => exact hs
    | unrecorded _ _ hset release =>
      have hwritten := written hs (s.record_key _) rfl hset
      cases release <;> exact hwritten
    | recorded _ _ hset => exact written hs (s.record_key _) rfl hset
  resume hs hr := by
    cases hr with
    | rejected => exact hs
    | failed => exact looked hs
    | resumed => exact looked hs
  unlock {s _} hs hr := by
    cases hr with
    | rejected => exact hs
    | refused => exact hs
    | released _ _ _ removal => exact removed hs (s.record_key _) rfl removal
  undoLock {s _} hs hr := by
    cases hr with
    | nothing => exact hs
    | released _ _ removal => exact removed hs (s.record_key _) rfl removal
    | kept => exact hs
  undoCreate hs hr := by cases hr <;> exact hs
  failure _ _ hs := hs
  warning _ hs := hs
  rest hs := hs
  settled hs := hs
  finished hs _ := hs

end Chain

/-! ### A collaborator that agrees -/

/-- The answer that agrees to a call; a lock is granted under this handle. -/
def Call.agreed (handle : String) : (c : Call) → c.Answer
  | .lock => handle
  | .validate => .accepted { status := 200 }
  | .create _ | .check .. | .update .. | .unlock _ | .activate | .delete _ | .read _ =>
    { status := 200 }

/-- A collaborator that agrees to everything, but releases no lock in the state `false`. -/
def Collaborator.agreeing (handle : String) : Collaborator Bool where
  reply c _ _ _ releases :=
    (if c.step = .unlock && !releases then .failed (.rejected 500 "") else .answered (c.agreed handle),
      releases)

/-! ### Fleets -/

/-- Chains that share a registry. -/
structure Fleet (ι : Type) where
  chains : ι → Chain
  registry : Registry

/-- One operation of one of the chains. -/
structure Turn (ι σ : Type) where
  actor : ι
  operation : Operation
  /-- The state in which the collaborator is found. -/
  remote : σ
  now : Instant
  pid : Nat

namespace Fleet

variable {ι : Type}

/-- The scene on which a turn is taken. -/
def scene (f : Fleet ι) (t : Turn ι σ) : Scene σ :=
  { chain := f.chains t.actor, registry := f.registry, remote := t.remote, now := t.now
    pid := t.pid }

/-- The scene that a turn leaves. -/
def sceneAfter (peer : Collaborator σ) (f : Fleet ι) (t : Turn ι σ) : Scene σ :=
  ((t.operation.act peer).perform (f.scene t)).2

/-- What each operation but a forced release keeps, a turn keeps. -/
theorem sceneAfter_of_stable {peer : Collaborator σ} {f : Fleet ι} {t : Turn ι σ}
    {P : Scene σ → Prop} (hP : Chain.Stable peer P) (ht : t.operation ≠ .forceUnlock)
    (h : P (f.scene t)) : P (f.sceneAfter peer t) :=
  (hP.keeps t.operation fun hforce => absurd hforce ht).perform h

variable [DecidableEq ι]

/-- The fleet after a turn. -/
def after (peer : Collaborator σ) (f : Fleet ι) (t : Turn ι σ) : Fleet ι :=
  { chains := Function.update f.chains t.actor (f.sceneAfter peer t).chain
    registry := (f.sceneAfter peer t).registry }

/-- The fleet after all of some turns. -/
def afterAll (peer : Collaborator σ) (f : Fleet ι) (turns : List (Turn ι σ)) : Fleet ι :=
  turns.foldl (after peer) f

section After

variable (peer : Collaborator σ) (f : Fleet ι) (t : Turn ι σ)

@[simp] theorem after_registry : (f.after peer t).registry = (f.sceneAfter peer t).registry := rfl

theorem after_chains_actor : (f.after peer t).chains t.actor = (f.sceneAfter peer t).chain :=
  Function.update_self ..

theorem after_chains_of_ne {i : ι} (h : i ≠ t.actor) : (f.after peer t).chains i = f.chains i :=
  Function.update_of_ne h ..

/-- What holds at the start and is kept by the turns holds after them. -/
theorem afterAll_induction {P : Fleet ι → Prop} {turns : List (Turn ι σ)} (start : P f)
    (step : ∀ f, P f → ∀ t ∈ turns, P (f.after peer t)) : P (f.afterAll peer turns) := by
  unfold afterAll
  induction turns generalizing f with
  | nil => exact start
  | cons t turns ih =>
    have hnext := step f start t (List.mem_cons_self ..)
    exact ih _ hnext fun f hf t ht => step f hf t (List.mem_cons_of_mem _ ht)

end After

end Fleet

end EditLock
