/-
# Steps that fail

A step that fails leaves no trace: the chain, the rows of the registry and what was announced are as
they were before it (`Scene.Untraced`), and one that is out of order, or needs a lock where none is
held, has not even made a call. Three failures come too late for that. A release that was answered
can fail to remove its record. A lock that is refused has turned the requests stateless. And a lock
that was granted and cannot be recorded is given back by one release; if that fails too, the handle
is kept.

Key definitions: `Operation.isSimple`, `Operation.heldStep?`, `Scene.Untraced`, `Chain.GaveBack`,
`Chain.FailsCleanly`.
Key theorems: `Chain.act_unheld`, `Chain.simple_untraced`, `Chain.unlock_untraced`,
`Chain.lock_of_refused`, `Chain.lock_of_unrecorded`, `Chain.steps_fail_cleanly`.
-/
import EditLock.Proofs.Chain.Finished

namespace EditLock

variable {σ : Type}

namespace Operation

/-- Whether an operation is a step other than one that asks for a lock or releases one. -/
def isSimple : Operation → Bool
  | validate | create _ | check _ | resumeLock | update _ | activate | delete | read _ => true
  | _ => false

/-- The step of an operation that needs a lock to be held. -/
def heldStep? : Operation → Option Step
  | update _ => some .update
  | unlock => some .unlock
  | _ => none

end Operation

/-- What a failed step leaves as it was. -/
structure Scene.Untraced (s s' : Scene σ) : Prop where
  chain : s'.chain = s.chain
  rows : s'.registry.rows = s.registry.rows
  announced : s'.announced = s.announced

theorem Scene.Untraced.refl (s : Scene σ) : s.Untraced s :=
  ⟨rfl, rfl, rfl⟩

namespace Chain

open Act Registry

variable {peer : Collaborator σ} {s : Scene σ}

/-! ### No lock is held -/

/-- What goes on from a handle does nothing where none is held. -/
theorem heldHandle_bind_rejected {α : Type} {step : Step} {next : Stage}
    (f : Stage → String → Act σ α) (order : s.chain.stage.next? step = some next)
    (free : s.chain.handle = none) :
    (allowed step >>= fun next => heldHandle step >>= f next).perform s =
      (.error (.needsLock step s.chain.object.toText), s) := by
  simp only [perform_bind, perform_allowed, order, perform_heldHandle, free]

/-- **A step that needs a lock is rejected where none is held, and leaves the scene as it was.** -/
theorem act_unheld {op : Operation} {step : Step} {next : Stage} (held : op.heldStep? = some step)
    (order : s.chain.stage.next? step = some next) (free : s.chain.handle = none) :
    (op.act peer).perform s = (.error (.needsLock step s.chain.object.toText), s) := by
  cases op with
  | update payload =>
    cases held
    exact discard_rejected (heldHandle_bind_rejected _ order free)
  | unlock =>
    cases held
    exact discard_rejected (heldHandle_bind_rejected _ order free)
  | _ => cases held

/-! ### Simple steps -/

/-- If the act fails, it leaves no trace. -/
def FailsUntraced {α : Type} (act : Act σ α) (s : Scene σ) : Prop :=
  ∀ e s', act.perform s = (.error e, s') → s.Untraced s'

theorem FailsUntraced.discard {α : Type} {act : Act σ α} (h : FailsUntraced act s) :
    FailsUntraced (discard act : Act σ Unit) s := by
  intro e s' hrun
  rw [perform_discard_eq] at hrun
  rcases hact : act.perform s with ⟨e' | a, s''⟩ <;> rw [hact] at hrun <;> cases hrun
  exact h e s' hact

/-- A step that makes one call changes nothing before it is answered. -/
theorem AskRun.untraced {step : Step} {call : Call} {act : Act σ call.Answer}
    (h : AskRun peer step call s (act.perform s)) : FailsUntraced act s := by
  intro e s' hrun
  rw [hrun] at h
  cases h with
  | rejected => exact .refl s
  | failed => exact ⟨rfl, rfl, rfl⟩

theorem update_untraced (payload : String) : FailsUntraced (update peer payload) s := by
  rcases update_run peer payload s with ⟨-, reason, hrejected⟩ | ⟨handle, -, hrun⟩
  · intro e s' hrun
    rw [hrejected] at hrun
    cases hrun
    exact .refl s
  · exact hrun.untraced

theorem resumeLock_untraced : FailsUntraced (resumeLock : Act σ String) s := by
  intro e s' hrun
  have h := resumeLock_run s
  rw [hrun] at h
  cases h with
  | rejected => exact .refl s
  | failed => exact ⟨rfl, rfl, rfl⟩

/-- **A simple step that fails leaves no trace.** -/
theorem simple_untraced {op : Operation} (simple : op.isSimple = true) :
    FailsUntraced (op.act peer) s := by
  cases op with
  | validate => exact (validate_run peer s).untraced.discard
  | create payload => exact (create_run peer payload s).untraced.discard
  | check payload => exact (check_run peer payload s).untraced.discard
  | resumeLock => exact resumeLock_untraced.discard
  | update payload => exact (update_untraced payload).discard
  | activate => exact (activate_run peer s).untraced.discard
  | delete => exact (delete_run peer s).untraced.discard
  | read budget => exact (read_run peer budget s).untraced.discard
  | _ => cases simple

/-! ### Releasing and taking a lock -/

/-- A release that fails leaves no trace, unless it was answered and the record was not removed. -/
theorem unlock_untraced {e : Failure} {s' : Scene σ}
    (failed : (unlock peer).perform s = (.error e, s')) :
    s.Untraced s' ∨ ∃ handle r, s.chain.handle = some handle ∧
      s'.calls = s.calls ++ [⟨.unlock handle, s.chain.mode, .ok r⟩] ∧
      removeIfUnchanged (s.record handle) s.registry = (.error e, s'.registry) := by
  have hrun := unlock_run peer s
  have hremoval := fun handle => removeRun (s.record handle) s.registry
  rw [failed] at hrun
  generalize hout : (Except.error e, s') = out at hrun
  cases hrun with
  | rejected =>
    cases hout
    exact .inl (.refl s)
  | refused =>
    cases hout
    exact .inl ⟨rfl, rfl, rfl⟩
  | @released next handle r result registry order held answer removal =>
    cases removal with
    | removed => cases hout
    | unwritable hwritable =>
      cases hout
      refine .inr ⟨handle, r, held, ?_, ?_⟩
      · simp [answer]
      · simp [removeIfUnchanged, execute_of_not_writable _ hwritable]

/-- A lock that is refused leaves the requests stateless, and no other trace. -/
theorem lock_of_refused {next : Stage} {e : Failure}
    (order : s.chain.stage.next? .lock = some next)
    (answer : (s.routed .stateful).answer peer .lock = .error e) :
    ∃ s', (lock peer).perform s = (.error e, s') ∧ (s.routed .stateless).Untraced s' ∧
      s'.calls = s.calls ++ [⟨.lock, .stateful, .error e⟩] := by
  have hrun := lock_run peer s
  generalize (lock peer).perform s = out at hrun ⊢
  cases hrun with
  | rejected out => exact nomatch out.symm.trans order
  | refused _ answer' =>
    obtain rfl := Except.error.inj (answer'.symm.trans answer)
    refine ⟨_, rfl, ⟨rfl, rfl, rfl⟩, ?_⟩
    simp [answer]
  | unrecorded _ answer' => exact nomatch answer'.symm.trans answer
  | recorded _ answer' => exact nomatch answer'.symm.trans answer

/-- What is left of a lock that was granted under a handle and could not be recorded: it was given
back by one release, with this result. -/
structure GaveBack (s s' : Scene σ) (handle : String)
    (released : Except Failure (Call.unlock handle).Answer) : Prop where
  stage : s'.chain.stage = s.chain.stage
  rows : s'.registry.rows = s.registry.rows
  announced : s'.announced = s.announced
  mode : s'.chain.mode = .stateless
  calls : s'.calls = s.calls ++
    [⟨.lock, .stateful, .ok handle⟩, ⟨.unlock handle, .stateful, released⟩]
  kept : s'.chain.handle = some handle ↔
    (∃ e, released = .error e) ∨ s.chain.handle = some handle

/-- A lock that cannot be recorded is given back. -/
theorem lock_of_unrecorded {next : Stage} {handle : String} {e : Failure}
    (order : s.chain.stage.next? .lock = some next)
    (answer : (s.routed .stateful).answer peer .lock = .ok handle)
    (unwritten : (setLock (s.record handle) s.registry).1 = .error e) :
    ∃ s' released, (lock peer).perform s = (.error e, s') ∧ GaveBack s s' handle released := by
  have written := setRun (s.record handle) s.registry
  generalize hset : setLock (s.record handle) s.registry = outcome at unwritten written
  obtain ⟨result, registry⟩ := outcome
  obtain rfl : result = .error e := unwritten
  have rows : registry.rows = s.registry.rows := rows_of_setRun_error written
  obtain ⟨s', hrelease, release⟩ :=
    releaseUnrecorded_run peer handle ((lockAsked peer s).withRegistry registry)
  -- `lock_run` gives a result of the step, but not which release was made: the step is run again.
  have hperform : (lock peer).perform s = (.error e, s') := by
    have hset' : setLock (((s.routed .stateful).asked peer .lock).record handle)
        ((s.routed .stateful).asked peer .lock).registry = (.error e, registry) := hset
    have hrelease' : (releaseUnrecorded peer handle).perform
        (((s.routed .stateful).asked peer .lock).withRegistry registry) = (.ok (), s') := hrelease
    unfold lock
    simp only [perform_bind, perform_allowed, order, perform_setMode, perform_outcome]
    rw [perform_ask, answer]
    simp only [perform_bind, perform_ownRecord, perform_outcome, perform_consult, hset',
      hrelease', perform_throw]
  refine ⟨s', ((lockAsked peer s).withRegistry registry).answer peer (.unlock handle), hperform, ?_⟩
  have ⟨hcalls, hannounced⟩ := release.calls
  have hcalls' : s'.calls = s.calls ++ [⟨.lock, .stateful, .ok handle⟩, ⟨.unlock handle, .stateful,
      ((lockAsked peer s).withRegistry registry).answer peer (.unlock handle)⟩] := by
    rw [hcalls]
    simp [answer]
  refine ⟨release.stage, ?_, hannounced, ?_, hcalls', ?_⟩
  · cases release <;> exact rows
  · cases release <;> rfl
  · cases release with
    | released answer' => simp [answer', withResult]
    | kept answer' => simp [answer']

/-! ### All steps -/

/-- How the steps fail on a scene. -/
structure FailsCleanly (peer : Collaborator σ) (s : Scene σ) : Prop where
  /-- A step that is out of order makes no call and leaves all as it was. -/
  disordered : ∀ (op : Operation) (step : Step), op.isRun = false → op.firstStep? = some step →
    s.chain.stage.next? step = none →
    (op.act peer).perform s = (.error (.notAllowed step s.chain.stage), s)
  /-- So does a step that needs a lock where none is held. -/
  unheld : ∀ (op : Operation) (step : Step), op.heldStep? = some step →
    s.chain.stage.next? step ≠ none → s.chain.handle = none →
    (op.act peer).perform s = (.error (.needsLock step s.chain.object.toText), s)
  simple : ∀ (op : Operation) (e : Failure) (s' : Scene σ), op.isSimple = true →
    (op.act peer).perform s = (.error e, s') → s.Untraced s'
  /-- A release can be answered and its record not be removed. -/
  unlock : ∀ (e : Failure) (s' : Scene σ), (Chain.unlock peer).perform s = (.error e, s') →
    s.Untraced s' ∨ ∃ handle r, s.chain.handle = some handle ∧
      s'.calls = s.calls ++ [⟨.unlock handle, s.chain.mode, .ok r⟩] ∧
      removeIfUnchanged (s.record handle) s.registry = (.error e, s'.registry)
  /-- A lock that is refused changes the mode only. -/
  refused : ∀ e : Failure, s.chain.stage.next? .lock ≠ none →
    (s.routed .stateful).answer peer .lock = .error e →
    ∃ s', (lock peer).perform s = (.error e, s') ∧ (s.routed .stateless).Untraced s' ∧
      s'.calls = s.calls ++ [⟨.lock, .stateful, .error e⟩]
  /-- A lock that is not recorded is given back. -/
  unrecorded : ∀ (handle : String) (e : Failure), s.chain.stage.next? .lock ≠ none →
    (s.routed .stateful).answer peer .lock = .ok handle →
    (setLock (s.record handle) s.registry).1 = .error e →
    ∃ s' released, (lock peer).perform s = (.error e, s') ∧ GaveBack s s' handle released

/-- **A failed step leaves no trace**, whatever the state of the chain and whatever is answered; the
steps that take and release a lock leave the traces of a lock that was granted and of one that was
released, and no others. -/
theorem steps_fail_cleanly (peer : Collaborator σ) (s : Scene σ) : FailsCleanly peer s where
  disordered _ _ single first order := act_rejected single first order
  unheld _ _ held order free := by
    obtain ⟨next, order⟩ := Option.ne_none_iff_exists'.1 order
    exact act_unheld held order free
  simple _ e s' simple failed := simple_untraced simple e s' failed
  unlock _ _ failed := unlock_untraced failed
  refused _ order answer := by
    obtain ⟨next, order⟩ := Option.ne_none_iff_exists'.1 order
    exact lock_of_refused order answer
  unrecorded _ _ order answer unwritten := by
    obtain ⟨next, order⟩ := Option.ne_none_iff_exists'.1 order
    exact lock_of_unrecorded order answer unwritten

/-- The registry takes no writes, and the server releases no locks. -/
def unwritable : Scene Bool where
  chain := .new (.make .program "zdemo") "S1" {}
  registry := { availability := fun _ => .readOnly }
  remote := false
  now := default
  pid := 1

/-- The lock is granted, not recorded and not released, and its handle is kept. -/
theorem unwritable_gives_back :
    (setLock (unwritable.record "H") unwritable.registry).1 = .error engineFailure ∧
      ∃ s' released, (lock (.agreeing "H")).perform unwritable = (.error engineFailure, s') ∧
        GaveBack unwritable s' "H" released :=
  ⟨rfl, (steps_fail_cleanly (.agreeing "H") unwritable).unrecorded "H" engineFailure nofun rfl rfl⟩

end Chain

end EditLock
