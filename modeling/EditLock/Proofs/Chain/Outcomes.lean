/-
# What each step can come to

One relation for each step of a chain, with a case for each way in which the step can end: what was
answered, what the registry did, the result, and the scene that is left. A step that asks and notes
the answer is one of seven with the same cases (`AskRun`); the steps that take, adopt and release
locks have their own. The theorems say that each step ends in one of its cases, so that what is
proved of the cases holds of the step, whoever answers (`Chain.AskKept`, for the seven).

Key definitions: `Chain.AskRun`, `Chain.AskKept`, `Chain.ReleaseRun`, `Chain.LockRun`,
`Chain.ResumeRun`, `Chain.UnlockRun`, `Chain.ForceRun`, `Chain.UndoLockRun`, `Chain.UndoCreateRun`,
`Chain.GoesOn`.
Key theorems: `Chain.check_run` and its like, `Chain.lock_run`, `Chain.resumeLock_run`,
`Chain.unlock_run`, `Chain.forceUnlock_run`, `Chain.abort_run`.
-/
import EditLock.Proofs.Chain.Perform

namespace EditLock.Chain

open Act Registry

variable {σ α : Type} (peer : Collaborator σ)

/-! ### Steps that ask and note the answer -/

/-- The chain after a step other than one that takes or releases a lock was answered. -/
def advanced (c : Chain) (step : Step) (r : Response) (next : Stage) : Chain :=
  { c.withResult step r with stage := next, created := step == .create || c.created }

/-- What comes of a step that makes one call and notes its answer. -/
inductive AskRun (step : Step) (call : Call) (s : Scene σ) :
    Except Failure call.Answer × Scene σ → Prop
  /-- The step is out of order. -/
  | rejected (order : s.chain.stage.next? step = none) (reason : String) :
      AskRun step call s (.error (.invalidState reason), s)
  | failed {next : Stage} {e : Failure} (order : s.chain.stage.next? step = some next)
      (answer : s.answer peer call = .error e) : AskRun step call s (.error e, s.asked peer call)
  | answered {next : Stage} {a : call.Answer} (order : s.chain.stage.next? step = some next)
      (answer : s.answer peer call = .ok a) (r : Response) :
      AskRun step call s (.ok a, (s.asked peer call).withChain fun c => c.advanced step r next)

theorem perform_allowed (step : Step) (s : Scene σ) :
    (allowed step : Act σ Stage).perform s =
      match s.chain.stage.next? step with
      | some next => (.ok next, s)
      | none => (.error (.notAllowed step s.chain.stage), s) := by
  unfold allowed
  simp only [perform_bind, perform_chain]
  cases s.chain.stage.next? step <;> rfl

theorem perform_heldHandle (step : Step) (s : Scene σ) :
    (heldHandle step : Act σ String).perform s =
      match s.chain.handle with
      | some handle => (.ok handle, s)
      | none => (.error (.needsLock step s.chain.object.toText), s) := by
  unfold heldHandle
  simp only [perform_bind, perform_chain]
  cases s.chain.handle <;> rfl

theorem askRun_of_bind {step : Step} {call : Call} {s : Scene σ} {next : Stage}
    (order : s.chain.stage.next? step = some next) (note : call.Answer → Act σ call.Answer)
    (hnote : ∀ a s', ∃ r, (note a).perform s' =
      (.ok a, s'.withChain fun c => c.advanced step r next)) :
    AskRun peer step call s ((ask peer call >>= note).perform s) := by
  rw [perform_bind, perform_ask]
  cases answer : s.answer peer call with
  | error e => exact .failed order answer
  | ok a =>
    obtain ⟨r, hr⟩ := hnote a (s.asked peer call)
    simp only [hr]
    exact .answered order answer r

theorem validate_run (s : Scene σ) :
    AskRun peer .validate .validate s ((validate peer).perform s) := by
  unfold validate
  rw [perform_bind, perform_allowed]
  cases order : s.chain.stage.next? .validate with
  | none => exact .rejected order _
  | some next => exact askRun_of_bind peer order _ fun a _ => ⟨a.response, rfl⟩

theorem create_run (payload : Option String) (s : Scene σ) :
    AskRun peer .create (.create payload) s ((create peer payload).perform s) := by
  unfold create
  rw [perform_bind, perform_allowed]
  cases order : s.chain.stage.next? .create with
  | none => exact .rejected order _
  | some next => exact askRun_of_bind peer order _ fun a _ => ⟨a, rfl⟩

/-- The version that a check looks at. -/
def checkedVersion (c : Chain) : Version :=
  if c.stage = .init then .active else .inactive

theorem check_run (payload : Option String) (s : Scene σ) :
    AskRun peer .check (.check s.chain.checkedVersion payload) s
      ((check peer payload).perform s) := by
  unfold check
  rw [perform_bind, perform_allowed]
  cases order : s.chain.stage.next? .check with
  | none => exact .rejected order _
  | some next => exact askRun_of_bind peer order _ fun a _ => ⟨a, rfl⟩

/-- An update without a lock is rejected; else it carries the handle of the lock. -/
theorem update_run (payload : String) (s : Scene σ) :
    (s.chain.handle = none ∧
      ∃ reason, (update peer payload).perform s = (.error (.invalidState reason), s)) ∨
    ∃ handle, s.chain.handle = some handle ∧
      AskRun peer .update (.update handle payload) s ((update peer payload).perform s) := by
  unfold update
  rw [perform_bind, perform_allowed]
  cases held : s.chain.handle with
  | none =>
    refine .inl ⟨rfl, ?_⟩
    cases s.chain.stage.next? .update with
    | none => exact ⟨_, rfl⟩
    | some next =>
      simp only [perform_bind, perform_heldHandle, held]
      exact ⟨_, rfl⟩
  | some handle =>
    refine .inr ⟨handle, rfl, ?_⟩
    cases order : s.chain.stage.next? .update with
    | none => exact .rejected order _
    | some next =>
      simp only [perform_bind (heldHandle _), perform_heldHandle, held]
      exact askRun_of_bind peer order _ fun a _ => ⟨a, rfl⟩

theorem activate_run (s : Scene σ) :
    AskRun peer .activate .activate s ((activate peer).perform s) := by
  unfold activate
  rw [perform_bind, perform_allowed]
  cases order : s.chain.stage.next? .activate with
  | none => exact .rejected order _
  | some next => exact askRun_of_bind peer order _ fun a _ => ⟨a, rfl⟩

theorem delete_run (s : Scene σ) :
    AskRun peer .delete (.delete s.chain.handle) s ((delete peer).perform s) := by
  unfold delete
  rw [perform_bind, perform_allowed]
  cases order : s.chain.stage.next? .delete with
  | none => exact .rejected order _
  | some next => exact askRun_of_bind peer order _ fun a _ => ⟨a, rfl⟩

theorem read_run (budget : Option Nat) (s : Scene σ) :
    AskRun peer .read (.read budget) s ((read peer budget).perform s) := by
  unfold read
  have order : s.chain.stage.next? .read = some s.chain.stage := by cases s.chain.stage <;> rfl
  rw [perform_bind, perform_ask]
  cases answer : s.answer peer (.read budget) with
  | error e => exact .failed order answer
  | ok r => exact .answered order answer r

/-! ### What such steps keep -/

section Fields

variable {peer} {step : Step} {call : Call} {s : Scene σ}
  {out : Except Failure call.Answer × Scene σ} (h : AskRun peer step call s out)

include h

theorem AskRun.handle : out.2.chain.handle = s.chain.handle := by
  cases h <;> rfl

theorem AskRun.mode : out.2.chain.mode = s.chain.mode := by
  cases h <;> rfl

theorem AskRun.options : out.2.chain.options = s.chain.options := by
  cases h <;> rfl

theorem AskRun.created (hstep : step ≠ .create) : out.2.chain.created = s.chain.created := by
  cases h with
  | rejected => rfl
  | failed => rfl
  | answered => simp [advanced, hstep]

theorem AskRun.created_of_ok {a : call.Answer} (hok : out.1 = .ok a) (hstep : step = .create) :
    out.2.chain.created = true := by
  cases h with
  | rejected => cases hok
  | failed => cases hok
  | answered => simp [advanced, hstep]

/-- A step that was answered was in order, and leads to its next stage. -/
theorem AskRun.next?_of_ok {a : call.Answer} (hok : out.1 = .ok a) :
    s.chain.stage.next? step = some out.2.chain.stage := by
  cases h with
  | rejected => cases hok
  | failed => cases hok
  | answered order => exact order

end Fields

/-- Each way in which one of these calls can end keeps the property. -/
def AskKept (R : Call → Prop) (P : Scene σ → Prop) : Prop :=
  ∀ ⦃step : Step⦄ ⦃call : Call⦄ ⦃s : Scene σ⦄ ⦃out : Except Failure call.Answer × Scene σ⦄,
    AskRun peer step call s out → call.step = step → R call → P s → P out.2

namespace AskKept

variable {peer} {R : Call → Prop} {P : Scene σ → Prop} (h : AskKept peer R P)

include h

theorem keeps_validate (hr : R .validate) : Keeps P (validate peer) :=
  keeps_of_perform fun s => h (validate_run peer s) rfl hr

theorem keeps_create {payload : Option String} (hr : R (.create payload)) :
    Keeps P (create peer payload) :=
  keeps_of_perform fun s => h (create_run peer payload s) rfl hr

theorem keeps_check {payload : Option String} (hr : ∀ version, R (.check version payload)) :
    Keeps P (check peer payload) :=
  keeps_of_perform fun s => h (check_run peer payload s) rfl (hr _)

theorem keeps_update {payload : String} (hr : ∀ handle, R (.update handle payload)) :
    Keeps P (update peer payload) := by
  refine keeps_of_perform fun s hs => ?_
  rcases update_run peer payload s with ⟨-, reason, hrun⟩ | ⟨handle, -, hrun⟩
  · rw [hrun]
    exact hs
  · exact h hrun rfl (hr handle) hs

theorem keeps_activate (hr : R .activate) : Keeps P (activate peer) :=
  keeps_of_perform fun s => h (activate_run peer s) rfl hr

theorem keeps_delete (hr : ∀ handle, R (.delete handle)) : Keeps P (delete peer) :=
  keeps_of_perform fun s => h (delete_run peer s) rfl (hr _)

theorem keeps_read {budget : Option Nat} (hr : R (.read budget)) : Keeps P (read peer budget) :=
  keeps_of_perform fun s => h (read_run peer budget s) rfl hr

end AskKept

/-! ### Taking a lock -/

/-- What comes of releasing a lock that could not be recorded. -/
inductive ReleaseRun (handle : String) (s : Scene σ) : Scene σ → Prop
  | released {r : Response} (answer : s.answer peer (.unlock handle) = .ok r) :
      ReleaseRun handle s
        (((s.asked peer (.unlock handle)).withChain fun c => c.withResult .unlock r).routed .stateless)
  /-- The lock was not released and is held without a record. -/
  | kept {e : Failure} (answer : s.answer peer (.unlock handle) = .error e) (warning : String) :
      ReleaseRun handle s
        (((s.asked peer (.unlock handle)).withChain fun c =>
          { c.withWarning warning with handle := some handle }).routed .stateless)

/-- Such a release leads to no other stage. -/
theorem ReleaseRun.stage {peer : Collaborator σ} {handle : String} {s s' : Scene σ}
    (h : ReleaseRun peer handle s s') : s'.chain.stage = s.chain.stage := by
  cases h <;> rfl

/-- It makes one call, and announces nothing. -/
theorem ReleaseRun.calls {peer : Collaborator σ} {handle : String} {s s' : Scene σ}
    (h : ReleaseRun peer handle s s') :
    s'.calls = s.calls ++ [⟨.unlock handle, s.chain.mode, s.answer peer (.unlock handle)⟩] ∧
      s'.announced = s.announced := by
  cases h <;> exact ⟨rfl, rfl⟩

theorem releaseUnrecorded_run (handle : String) (s : Scene σ) :
    ∃ s', (releaseUnrecorded peer handle).perform s = (.ok (), s') ∧
      ReleaseRun peer handle s s' := by
  unfold releaseUnrecorded
  simp only [perform_bind, perform_outcome]
  rw [perform_ask]
  cases answer : s.answer peer (.unlock handle) with
  | ok r => exact ⟨_, rfl, .released answer⟩
  | error e => exact ⟨_, rfl, .kept answer _⟩

/-- The scene after a lock was asked for. -/
def lockAsked (s : Scene σ) : Scene σ :=
  (s.routed .stateful).asked peer .lock

@[simp] theorem lockAsked_chain (s : Scene σ) :
    (lockAsked peer s).chain = { s.chain with mode := .stateful } := rfl

@[simp] theorem lockAsked_registry (s : Scene σ) : (lockAsked peer s).registry = s.registry := rfl

@[simp] theorem lockAsked_calls (s : Scene σ) :
    (lockAsked peer s).calls =
      s.calls ++ [⟨.lock, .stateful, (s.routed .stateful).answer peer .lock⟩] := rfl

/-- What comes of asking for a lock and recording it. -/
inductive LockRun (s : Scene σ) : Except Failure String × Scene σ → Prop
  | rejected (order : s.chain.stage.next? .lock = none) :
      LockRun s (.error (.notAllowed .lock s.chain.stage), s)
  | refused {next : Stage} {e : Failure} (order : s.chain.stage.next? .lock = some next)
      (answer : (s.routed .stateful).answer peer .lock = .error e) :
      LockRun s (.error e, (lockAsked peer s).routed .stateless)
  /-- The lock was granted and could not be recorded. -/
  | unrecorded {next : Stage} {handle : String} {e : Failure} {registry : Registry} {s' : Scene σ}
      (order : s.chain.stage.next? .lock = some next)
      (answer : (s.routed .stateful).answer peer .lock = .ok handle)
      (written : SetRun (s.record handle) s.registry (.error e) registry)
      (release : ReleaseRun peer handle ((lockAsked peer s).withRegistry registry) s') :
      LockRun s (.error e, s')
  | recorded {next : Stage} {handle : String} {registry : Registry}
      (order : s.chain.stage.next? .lock = some next)
      (answer : (s.routed .stateful).answer peer .lock = .ok handle)
      (written : SetRun (s.record handle) s.registry (.ok ()) registry) :
      LockRun s (.ok handle,
        { ((lockAsked peer s).withRegistry registry).withChain fun c =>
            { c with handle := some handle, stage := next } with
          announced := s.announced ++ [handle] })

theorem lock_run (s : Scene σ) : LockRun peer s ((lock peer).perform s) := by
  unfold lock
  rw [perform_bind, perform_allowed]
  cases order : s.chain.stage.next? .lock with
  | none => exact .rejected order
  | some next =>
    simp only [perform_bind, perform_setMode, perform_outcome]
    rw [perform_ask]
    cases answer : (s.routed .stateful).answer peer .lock with
    | error e => exact .refused order answer
    | ok handle =>
      simp only [perform_bind, perform_ownRecord, perform_outcome, perform_consult]
      have written := setRun (s.record handle) s.registry
      generalize hset : Registry.setLock (s.record handle) s.registry = outcome at written
      obtain ⟨result, registry⟩ := outcome
      have hset' : Registry.setLock (((s.routed .stateful).asked peer .lock).record handle)
          ((s.routed .stateful).asked peer .lock).registry = (result, registry) := hset
      rw [hset']
      cases result with
      | ok _ => exact .recorded order answer written
      | error e =>
        obtain ⟨s', hrelease, release⟩ :=
          releaseUnrecorded_run peer handle
            (((s.routed .stateful).asked peer .lock).withRegistry registry)
        simp only [perform_bind, hrelease, perform_throw]
        exact .unrecorded order answer written release

/-- What comes of taking up a lock that was recorded. -/
inductive ResumeRun (s : Scene σ) : Except Failure String × Scene σ → Prop
  | rejected (order : s.chain.stage.next? .lock = none) :
      ResumeRun s (.error (.notAllowed .lock s.chain.stage), s)
  /-- No record of the session was read. -/
  | failed {next : Stage} (e : Failure) (order : s.chain.stage.next? .lock = some next)
      (why : s.registry.Readable → ∀ row record,
        Registry.find? s.registry.rows s.chain.object.key = some row → row.decode = .ok record →
          record.session ≠ s.chain.session) :
      ResumeRun s (.error e, s.withRegistry (s.registry.ran 1 s.registry.rows))
  | resumed {next : Stage} {row : Row} {record : LockRecord}
      (order : s.chain.stage.next? .lock = some next)
      (found : Registry.find? s.registry.rows s.chain.object.key = some row)
      (decoded : row.decode = .ok record) (own : record.session = s.chain.session) :
      ResumeRun s (.ok record.handle,
        (s.withRegistry (s.registry.ran 1 s.registry.rows)).withChain fun c =>
          { c with mode := .stateful, handle := some record.handle, stage := next })

theorem resumeLock_run (s : Scene σ) : ResumeRun s ((resumeLock : Act σ String).perform s) := by
  unfold resumeLock
  rw [perform_bind, perform_allowed]
  cases order : s.chain.stage.next? .lock with
  | none => exact .rejected order
  | some next =>
    simp only [perform_bind, perform_chain, perform_consult]
    have hget := getRun s.chain.object.key s.registry
    generalize Registry.get s.chain.object.key s.registry = outcome at hget ⊢
    obtain ⟨result, registry⟩ := outcome
    cases hget with
    | failed why =>
      refine .failed _ order fun hr row record hf hd => ?_
      obtain ⟨row', hf', hd'⟩ := why hr
      rw [hf, Option.some.injEq] at hf'
      rw [← hf', hd] at hd'
      cases hd'
    | none _ found =>
      exact .failed _ order fun _ row record hf => by simp [found] at hf
    | some _ found decoded =>
      rename_i row record
      by_cases own : record.session = s.chain.session
      · simp only [own, ne_eq, not_true_eq_false, if_false]
        exact .resumed order found decoded own
      · simp only [ne_eq, own, not_false_eq_true, if_true]
        refine .failed _ order fun _ row' record' hf hd => ?_
        rw [found, Option.some.injEq] at hf
        rw [← hf, decoded, Except.ok.injEq] at hd
        exact hd ▸ own

/-! ### Releasing a lock -/

/-- The result of a step whose last act is to remove the record of its lock. -/
def afterRemoval (a : α) : Except Failure Bool → Except Failure α
  | .ok _ => .ok a
  | .error e => .error e

theorem perform_forgetLock (handle : String) (s : Scene σ) :
    (forgetLock handle : Act σ Unit).perform s =
      (afterRemoval () (Registry.removeIfUnchanged (s.record handle) s.registry).1,
        s.withRegistry (Registry.removeIfUnchanged (s.record handle) s.registry).2) := by
  unfold forgetLock
  simp only [perform_bind, perform_ownRecord, perform_consult]
  cases (Registry.removeIfUnchanged (s.record handle) s.registry).1 <;> rfl

theorem perform_forgetLock_bind (handle : String) (a : α) (s : Scene σ) :
    (do forgetLock handle; return a : Act σ α).perform s =
      (afterRemoval a (Registry.removeIfUnchanged (s.record handle) s.registry).1,
        s.withRegistry (Registry.removeIfUnchanged (s.record handle) s.registry).2) := by
  rw [perform_bind, perform_forgetLock]
  cases (Registry.removeIfUnchanged (s.record handle) s.registry).1 <;> rfl

/-- What comes of releasing the held lock. -/
inductive UnlockRun (s : Scene σ) : Except Failure Response × Scene σ → Prop
  /-- The step is out of order, or no lock is held. -/
  | rejected (why : s.chain.stage.next? .unlock = none ∨ s.chain.handle = none) (reason : String) :
      UnlockRun s (.error (.invalidState reason), s)
  | refused {next : Stage} {handle : String} {e : Failure}
      (order : s.chain.stage.next? .unlock = some next) (held : s.chain.handle = some handle)
      (answer : s.answer peer (.unlock handle) = .error e) :
      UnlockRun s (.error e, s.asked peer (.unlock handle))
  /-- The lock was released, and its record removed unless the statement failed. -/
  | released {next : Stage} {handle : String} {r : Response} {result : Except Failure Bool}
      {registry : Registry} (order : s.chain.stage.next? .unlock = some next)
      (held : s.chain.handle = some handle) (answer : s.answer peer (.unlock handle) = .ok r)
      (removal : RemoveRun (s.record handle) s.registry result registry) :
      UnlockRun s (afterRemoval r result,
        ((s.asked peer (.unlock handle)).withChain fun c =>
          { c.withResult .unlock r with
            handle := none, stage := next, mode := .stateless }).withRegistry registry)

theorem unlock_run (s : Scene σ) : UnlockRun peer s ((unlock peer).perform s) := by
  unfold unlock
  rw [perform_bind, perform_allowed]
  cases order : s.chain.stage.next? .unlock with
  | none => exact .rejected (.inl order) _
  | some next =>
    simp only [perform_bind (heldHandle _), perform_heldHandle]
    cases held : s.chain.handle with
    | none => exact .rejected (.inr held) _
    | some handle =>
      simp only
      rw [perform_bind, perform_ask]
      cases answer : s.answer peer (.unlock handle) with
      | error e => exact .refused order held answer
      | ok r =>
        simp only
        rw [perform_bind, perform_change]
        simp only
        rw [perform_forgetLock_bind]
        exact .released order held answer (removeRun (s.record handle) s.registry)

/-- What comes of releasing the held lock after a step failed. -/
inductive UndoLockRun (s : Scene σ) : Scene σ → Prop
  | nothing (held : s.chain.handle = none) : UndoLockRun s s
  | released {handle : String} {r : Response} {result : Except Failure Bool} {registry : Registry}
      (held : s.chain.handle = some handle)
      (answer : (s.routed .stateful).answer peer (.unlock handle) = .ok r)
      (removal : RemoveRun (s.record handle) s.registry result registry) :
      UndoLockRun s
        ((((s.routed .stateful).asked peer (.unlock handle)).withChain fun c =>
          { c.withResult .unlock r with handle := none }).withRegistry registry)
  | kept {handle : String} {e : Failure} (held : s.chain.handle = some handle)
      (answer : (s.routed .stateful).answer peer (.unlock handle) = .error e) (warning : String) :
      UndoLockRun s
        (((s.routed .stateful).asked peer (.unlock handle)).withChain fun c => c.withWarning warning)

theorem undoLock_run (s : Scene σ) :
    ∃ s', (undoLock peer).perform s = (.ok (), s') ∧ UndoLockRun peer s s' := by
  unfold undoLock
  simp only [perform_bind, perform_chain]
  cases held : s.chain.handle with
  | none => exact ⟨s, rfl, .nothing held⟩
  | some handle =>
    simp only [perform_bind, perform_setMode, perform_outcome]
    rw [perform_ask]
    cases answer : (s.routed .stateful).answer peer (.unlock handle) with
    | error e => exact ⟨_, rfl, .kept held answer _⟩
    | ok r =>
      simp only [perform_bind, perform_change, perform_outcome, perform_forgetLock]
      exact ⟨_, rfl, .released held answer (removeRun (s.record handle) s.registry)⟩

/-- What comes of deleting the created object after a step failed. -/
inductive UndoCreateRun (s : Scene σ) : Scene σ → Prop
  | nothing (unasked : (s.chain.options.deleteOnFailure && s.chain.created) = false) :
      UndoCreateRun s s
  | deleted {r : Response} (asked : (s.chain.options.deleteOnFailure && s.chain.created) = true)
      (answer : (s.routed .stateful).answer peer (.delete s.chain.handle) = .ok r) :
      UndoCreateRun s
        (((s.routed .stateful).asked peer (.delete s.chain.handle)).withChain fun c =>
          { c.withResult .delete r with created := false })
  | kept {e : Failure} (asked : (s.chain.options.deleteOnFailure && s.chain.created) = true)
      (answer : (s.routed .stateful).answer peer (.delete s.chain.handle) = .error e)
      (warning : String) :
      UndoCreateRun s
        (((s.routed .stateful).asked peer (.delete s.chain.handle)).withChain fun c =>
          c.withWarning warning)

theorem undoCreate_run (s : Scene σ) :
    ∃ s', (undoCreate peer).perform s = (.ok (), s') ∧ UndoCreateRun peer s s' := by
  unfold undoCreate
  simp only [perform_bind, perform_chain]
  cases asked : s.chain.options.deleteOnFailure && s.chain.created with
  | false => exact ⟨s, rfl, .nothing asked⟩
  | true =>
    simp only [if_true, perform_bind, perform_setMode, perform_outcome]
    rw [perform_ask]
    cases answer : (s.routed .stateful).answer peer (.delete s.chain.handle) with
    | error e => exact ⟨_, rfl, .kept asked answer _⟩
    | ok r => exact ⟨_, rfl, .deleted asked answer⟩

/-- The end of a chain at a step that failed: what was done is undone as far as it can be, and the
failure names the handle that is held after that. -/
theorem abort_run (step : Step) (cause : Failure) (s : Scene σ) :
    ∃ s₁ s₂, UndoLockRun peer (s.withChain fun c => c.withFailure step cause) s₁ ∧
      UndoCreateRun peer s₁ s₂ ∧
      (abort peer step cause : Act σ α).perform s =
        (.error (s₂.chain.failure step cause), s₂.routed .stateless) := by
  obtain ⟨s₁, h₁, hlock⟩ := undoLock_run peer (s.withChain fun c => c.withFailure step cause)
  obtain ⟨s₂, h₂, hcreate⟩ := undoCreate_run peer s₁
  refine ⟨s₁, s₂, hlock, hcreate, ?_⟩
  unfold abort
  simp only [perform_bind, perform_change, h₁, h₂, perform_setMode, perform_chain, perform_throw]
  rfl

/-! ### Going on -/

/-- The same chain goes on: it noted no more failures, and calls were only added. -/
structure GoesOn (s t : Scene σ) : Prop where
  failures : t.chain.failures = s.chain.failures
  session : t.chain.session = s.chain.session
  object : t.chain.object = s.chain.object
  calls : s.calls <+: t.calls

theorem GoesOn.refl (s : Scene σ) : GoesOn s s :=
  ⟨rfl, rfl, rfl, List.prefix_rfl⟩

theorem GoesOn.trans {s t u : Scene σ} (h : GoesOn s t) (h' : GoesOn t u) : GoesOn s u :=
  ⟨h'.failures.trans h.failures, h'.session.trans h.session, h'.object.trans h.object,
    h.calls.trans h'.calls⟩

section Undoing

variable {peer : Collaborator σ} {s s' : Scene σ}

/-- Undoing a lock goes on with the same chain, at the same stage. -/
theorem UndoLockRun.goesOn (h : UndoLockRun peer s s') : GoesOn s s' := by
  cases h with
  | nothing => exact .refl s
  | released => exact ⟨rfl, rfl, rfl, List.prefix_append ..⟩
  | kept => exact ⟨rfl, rfl, rfl, List.prefix_append ..⟩

theorem UndoLockRun.stage (h : UndoLockRun peer s s') : s'.chain.stage = s.chain.stage := by
  cases h <;> rfl

/-- So does undoing a creation. -/
theorem UndoCreateRun.goesOn (h : UndoCreateRun peer s s') : GoesOn s s' := by
  cases h with
  | nothing => exact .refl s
  | deleted => exact ⟨rfl, rfl, rfl, List.prefix_append ..⟩
  | kept => exact ⟨rfl, rfl, rfl, List.prefix_append ..⟩

theorem UndoCreateRun.stage (h : UndoCreateRun peer s s') : s'.chain.stage = s.chain.stage := by
  cases h <;> rfl

end Undoing

/-! ### Releasing a lock whatever the server says -/

/-- The lock that a forced release is about, and the registry once it is known: the lock that is
held, or else the one that is recorded for the object. -/
inductive KnownLock (s : Scene σ) : LockRecord → Registry → Prop
  | held {handle : String} (held : s.chain.handle = some handle) :
      KnownLock s (s.record handle) s.registry
  | recorded {record : LockRecord} {registry : Registry} (held : s.chain.handle = none)
      (lookup : GetRun s.chain.object.key s.registry (.ok (some record)) registry) :
      KnownLock s record registry

/-- The scene after a forced release was asked for, and its record was dealt with. -/
def forced (s : Scene σ) (looked : Registry) (handle : String) (registry : Registry) : Scene σ :=
  ((((s.withRegistry looked).routed .stateful).asked peer (.unlock handle)).withChain fun c =>
    { c with
      handle := none
      stage := if c.stage.isLocked then .unlocked else c.stage
      mode := .stateless }).withRegistry registry

/-- What comes of releasing a lock whatever the server says. -/
inductive ForceRun (s : Scene σ) : Except Failure ForceUnlock × Scene σ → Prop
  /-- No lock is held, and the registry could not be asked for one. -/
  | lookupFailed {e : Failure} {registry : Registry} (held : s.chain.handle = none)
      (lookup : GetRun s.chain.object.key s.registry (.error e) registry) :
      ForceRun s (.error e, s.withRegistry registry)
  | nothingHeld {registry : Registry} (held : s.chain.handle = none)
      (lookup : GetRun s.chain.object.key s.registry (.ok none) registry) :
      ForceRun s (.ok .nothingHeld, (s.withRegistry registry).routed .stateless)
  /-- The release was asked for, and the record could not be removed. -/
  | stuck {record : LockRecord} {looked registry : Registry} {e : Failure}
      (known : KnownLock s record looked) (removal : RemoveRun record looked (.error e) registry) :
      ForceRun s (.error e, forced peer s looked record.handle registry)
  | unlocked {record : LockRecord} {looked registry : Registry} {any : Bool} {r : Response}
      (known : KnownLock s record looked) (removal : RemoveRun record looked (.ok any) registry)
      (answer : ((s.withRegistry looked).routed .stateful).answer peer (.unlock record.handle) =
        .ok r) :
      ForceRun s (.ok .unlocked,
        (forced peer s looked record.handle registry).withChain fun c => c.withResult .unlock r)
  | unlockFailed {record : LockRecord} {looked registry : Registry} {any : Bool} {e : Failure}
      (known : KnownLock s record looked) (removal : RemoveRun record looked (.ok any) registry)
      (answer : ((s.withRegistry looked).routed .stateful).answer peer (.unlock record.handle) =
        .error e) :
      ForceRun s (.ok (.unlockFailed e.message), forced peer s looked record.handle registry)

/-- The second half of a forced release, when the lock is known. -/
def forceRelease (record : LockRecord) : Act σ ForceUnlock := do
  setMode .stateful
  let result ← outcome (ask peer (.unlock record.handle))
  change fun c =>
    { c with
      handle := none
      stage := if c.stage.isLocked then .unlocked else c.stage
      mode := .stateless }
  let _ ← consult (Registry.removeIfUnchanged record)
  match result with
  | .ok response =>
    change fun c => c.withResult .unlock response
    return .unlocked
  | .error e => return .unlockFailed e.message

theorem forceRelease_run {s : Scene σ} {record : LockRecord} {looked : Registry}
    (known : KnownLock s record looked) :
    ForceRun peer s ((forceRelease peer record).perform (s.withRegistry looked)) := by
  unfold forceRelease
  simp only [perform_bind, perform_setMode, perform_outcome]
  rw [perform_ask]
  simp only [perform_change, perform_consult, Scene.withChain_registry, Scene.asked_registry,
    Scene.routed_registry, Scene.withRegistry_registry]
  have removal := removeRun record looked
  generalize Registry.removeIfUnchanged record looked = outcome at removal ⊢
  obtain ⟨result, registry⟩ := outcome
  cases result with
  | error e => exact .stuck known removal
  | ok any =>
    cases answer : ((s.withRegistry looked).routed .stateful).answer peer (.unlock record.handle) with
    | ok r => exact .unlocked known removal answer
    | error e => exact .unlockFailed known removal answer

theorem forceUnlock_eq : forceUnlock peer = (do
    let c ← Act.chain
    let record ← match c.handle with
      | some handle => some <$> ownRecord handle
      | none => consult (Registry.get c.object.key)
    match record with
    | none =>
      setMode .stateless
      return .nothingHeld
    | some record => forceRelease peer record) := rfl

theorem forceUnlock_run (s : Scene σ) : ForceRun peer s ((forceUnlock peer).perform s) := by
  rw [forceUnlock_eq]
  simp only [perform_bind, perform_chain]
  cases held : s.chain.handle with
  | some handle =>
    simp only [perform_bind, perform_map, perform_ownRecord]
    exact forceRelease_run peer (.held held)
  | none =>
    simp only [perform_bind, perform_consult]
    have lookup := getRun s.chain.object.key s.registry
    generalize Registry.get s.chain.object.key s.registry = outcome at lookup ⊢
    obtain ⟨result, registry⟩ := outcome
    cases result with
    | error e => exact .lookupFailed held lookup
    | ok found =>
      cases found with
      | none => exact .nothingHeld held lookup
      | some record => exact forceRelease_run peer (.recorded held lookup)

end EditLock.Chain
