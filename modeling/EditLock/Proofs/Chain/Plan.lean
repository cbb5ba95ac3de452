/-
# What a whole chain calls

Each whole chain has a plan: a fixed list of steps, two of which depend on an option. A step of a
plan is done or it fails, with certain calls either way; what becomes of it is up to the answers and
the registry. A chain goes through its plan to the end, or up to the first step that fails; then it
cleans up: it releases a lock that it holds, and deletes an object that it created if it is to.

Nothing here looks at the stage of a chain. That every step of a plan is in order is part of the
proof: the stage is due for the step (`Chain.Due`).

Key definitions: `Planned`, `WholeChain.plan`, `Progress`, `Planned.Done`, `Planned.Fails`,
`Completed`, `CutShort`, `Progress.CleanUp`.
Key theorems: `Chain.Follows.perform`, `WholeChain.follows`, `WholeChain.calls_as_planned`.
-/
import EditLock.Proofs.Chain.Calls
import EditLock.Proofs.Chain.Parts

namespace EditLock

open Act

variable {σ : Type}

/-! ### Plans -/

/-- A step of a plan. -/
inductive Planned where
  /-- Asks whether the object may be created. -/
  | validate
  | create (payload : Option String)
  /-- Asks for the lock and records it. -/
  | lock
  /-- Takes up the lock that the session recorded, without a call. -/
  | resumeLock
  | update (source : String)
  /-- Releases the lock and removes its record. -/
  | unlock
  /-- Makes a call that has to do with no lock and creates nothing. -/
  | ask (call : Call)
  /-- Makes such a call; it does not matter if no answer comes. -/
  | settle (call : Call)
deriving Repr, DecidableEq

/-- The step that fails if a step of a plan does. -/
def Planned.step : Planned → Step
  | validate => .validate
  | create _ => .create
  | lock | resumeLock => .lock
  | update _ => .update
  | unlock => .unlock
  | ask call | settle call => call.step

namespace WholeChain

/-- The plan of an edit under a lock. -/
def editPlan (options : ChainOptions) (source : String) : List Planned :=
  [.lock, .ask (.check .inactive (some source)), .update source, .unlock,
    .settle (.read (some options.consistencyMillis)), .settle (.check .inactive none)] ++
  if options.activate then [.ask .activate, .settle (.read (some options.consistencyMillis))]
  else []

/-- The plan of a whole chain. -/
def plan (options : ChainOptions) : WholeChain → List Planned
  | create payload source =>
    [.validate, .create payload, .ask (.check .inactive none)] ++ editPlan options source
  | update source => editPlan options source
  | delete => [.ask (.check .active none), .ask (.delete none)]
  | write source => [.resumeLock, .ask (.check .inactive (some source)), .update source]

end WholeChain

/-! ### Going through a plan -/

/-- How things stand when a step of a plan is due. -/
structure Progress where
  registry : Registry
  /-- The lock that was granted or taken up, and was not released since. -/
  held : Option String := none
  /-- Whether the object was created. -/
  created : Bool := false

/-- What a chain never changes of its scene. -/
structure Frame where
  object : ObjectRef
  session : String
  options : ChainOptions
  now : Instant
  pid : Nat

/-- The record of a lock in a frame. -/
def Frame.record (b : Frame) (handle : String) : LockRecord :=
  .make b.object.key b.session handle b.now b.pid

/-- A step of a plan is done, with these calls. -/
inductive Planned.Done (b : Frame) (p : Progress) : Planned → List Exchange → Progress → Prop
  | validate {mode : SessionMode} {r : Response} :
      Done b p .validate [⟨.validate, mode, .ok (.accepted r)⟩] p
  | create {payload : Option String} {mode : SessionMode} {r : Response} :
      Done b p (.create payload) [⟨.create payload, mode, .ok r⟩] { p with created := true }
  | lock {mode : SessionMode} {handle : String} {registry : Registry}
      (written : Registry.setLock (b.record handle) p.registry = (.ok (), registry)) :
      Done b p .lock [⟨.lock, mode, .ok handle⟩] { p with registry, held := some handle }
  | resumeLock {record : LockRecord} {registry : Registry}
      (found : Registry.get b.object.key p.registry = (.ok (some record), registry))
      (own : record.session = b.session) :
      Done b p .resumeLock [] { p with registry, held := some record.handle }
  | update {source handle : String} {mode : SessionMode} {r : Response}
      (held : p.held = some handle) :
      Done b p (.update source) [⟨.update handle source, mode, .ok r⟩] p
  | unlock {handle : String} {mode : SessionMode} {r : Response} {registry : Registry}
      {any : Bool} (held : p.held = some handle)
      (removal : Registry.removeIfUnchanged (b.record handle) p.registry = (.ok any, registry)) :
      Done b p .unlock [⟨.unlock handle, mode, .ok r⟩] { p with registry, held := none }
  | ask {call : Call} {mode : SessionMode} {a : call.Answer} :
      Done b p (.ask call) [⟨call, mode, .ok a⟩] p
  | settle {call : Call} {mode : SessionMode} {a : call.Answer} :
      Done b p (.settle call) [⟨call, mode, .ok a⟩] p
  | unsettled {call : Call} {mode : SessionMode} {e : Failure} (network : e.isNetwork = true) :
      Done b p (.settle call) [⟨call, mode, .error e⟩] p

/-- A step of a plan fails for a cause, with these calls. -/
inductive Planned.Fails (b : Frame) (p : Progress) :
    Planned → Failure → List Exchange → Progress → Prop
  | validate {mode : SessionMode} {e : Failure} :
      Fails b p .validate e [⟨.validate, mode, .error e⟩] p
  | alternate {mode : SessionMode} {reason : String} {r : Response} :
      Fails b p .validate (.rejected r.status reason)
        [⟨.validate, mode, .ok (.alternate reason r)⟩] p
  | create {payload : Option String} {mode : SessionMode} {e : Failure} :
      Fails b p (.create payload) e [⟨.create payload, mode, .error e⟩] p
  | lock {mode : SessionMode} {e : Failure} : Fails b p .lock e [⟨.lock, mode, .error e⟩] p
  /-- The lock was granted and could not be recorded; it is released at once. -/
  | unrecorded {mode : SessionMode} {handle : String} {e : Failure} {registry : Registry}
      {released : Except Failure Response}
      (written : Registry.setLock (b.record handle) p.registry = (.error e, registry)) :
      Fails b p .lock e [⟨.lock, mode, .ok handle⟩, ⟨.unlock handle, mode, released⟩]
        { p with registry, held := if released.isOk then none else some handle }
  /-- No record of the session was found. -/
  | resumeLock {e : Failure} {registry : Registry} {found : Except Failure (Option LockRecord)}
      (lookup : Registry.get b.object.key p.registry = (found, registry))
      (foreign : ∀ record, found = .ok (some record) → record.session ≠ b.session) :
      Fails b p .resumeLock e [] { p with registry }
  | update {source handle : String} {mode : SessionMode} {e : Failure}
      (held : p.held = some handle) :
      Fails b p (.update source) e [⟨.update handle source, mode, .error e⟩] p
  | unlock {handle : String} {mode : SessionMode} {e : Failure} (held : p.held = some handle) :
      Fails b p .unlock e [⟨.unlock handle, mode, .error e⟩] p
  /-- The lock was released, and its record could not be removed. -/
  | unremoved {handle : String} {mode : SessionMode} {r : Response} {e : Failure}
      {registry : Registry} (held : p.held = some handle)
      (removal : Registry.removeIfUnchanged (b.record handle) p.registry = (.error e, registry)) :
      Fails b p .unlock e [⟨.unlock handle, mode, .ok r⟩] { p with registry, held := none }
  | ask {call : Call} {mode : SessionMode} {e : Failure} :
      Fails b p (.ask call) e [⟨call, mode, .error e⟩] p
  | settle {call : Call} {mode : SessionMode} {e : Failure} (answered : e.isNetwork = false) :
      Fails b p (.settle call) e [⟨call, mode, .error e⟩] p

/-- A plan is gone through to its end, with these calls. -/
inductive Completed (b : Frame) : List Planned → Progress → List Exchange → Progress → Prop
  | nil (p : Progress) : Completed b [] p [] p
  | cons {q : Planned} {plan : List Planned} {p p' p'' : Progress} {es es' : List Exchange} :
      q.Done b p es p' → Completed b plan p' es' p'' → Completed b (q :: plan) p (es ++ es') p''

/-- A plan is gone through up to a step that fails, with these calls. -/
inductive CutShort (b : Frame) :
    List Planned → Progress → Step → Failure → List Exchange → Progress → Prop
  | here {q : Planned} {plan : List Planned} {p p' : Progress} {e : Failure}
      {es : List Exchange} : q.Fails b p e es p' → CutShort b (q :: plan) p q.step e es p'
  | later {q : Planned} {plan : List Planned} {p p' p'' : Progress} {step : Step} {e : Failure}
      {es es' : List Exchange} : q.Done b p es p' → CutShort b plan p' step e es' p'' →
      CutShort b (q :: plan) p step e (es ++ es') p''

/-- The calls that release a lock if it is held, and the lock that is held after them. -/
inductive Progress.Release (p : Progress) : List Exchange → Option String → Prop
  | nothing (held : p.held = none) : Release p [] none
  | released {handle : String} {mode : SessionMode} {r : Response} (held : p.held = some handle) :
      Release p [⟨.unlock handle, mode, .ok r⟩] none
  | kept {handle : String} {mode : SessionMode} {e : Failure} (held : p.held = some handle) :
      Release p [⟨.unlock handle, mode, .error e⟩] (some handle)

/-- The calls of the clean-up: a lock that is held is released, and an object that was created is
deleted if the options say so, with the handle of the lock if it is held even then. -/
def Progress.CleanUp (p : Progress) (options : ChainOptions) (calls : List Exchange) : Prop :=
  ∃ release held deletion, calls = release ++ deletion ∧ p.Release release held ∧
    deletion.map Exchange.call =
      if options.deleteOnFailure && p.created then [.delete held] else []

/-! ### The scene of a chain -/

/-- How things stand on a scene. -/
def Scene.progress (t : Scene σ) : Progress :=
  ⟨t.registry, t.chain.handle, t.chain.created⟩

/-- What the chain never changes of a scene. -/
def Scene.frame (t : Scene σ) : Frame :=
  ⟨t.chain.object, t.chain.session, t.chain.options, t.now, t.pid⟩

namespace Chain

variable (peer : Collaborator σ) (b : Frame)

/-- The chain has come to a stage, and holds a lock just if the stage says so. -/
structure Due (stage : Stage) (t : Scene σ) : Prop where
  frame : t.frame = b
  held : t.chain.handle.isSome = stage.isLocked
  stage : t.chain.stage = stage

variable {b}

theorem Due.order {stage next : Stage} {t : Scene σ} {step : Step} (due : Due b stage t)
    (order : stage.next? step = some next) : t.chain.stage.next? step = some next := by
  rw [due.stage]
  exact order

theorem Due.unheld {stage : Stage} {t : Scene σ} (due : Due b stage t)
    (unlocked : stage.isLocked = false) : t.chain.handle = none := by
  have hheld := due.held
  rw [unlocked] at hheld
  simpa using hheld

variable (b)

/-- What comes of a step of a plan that is due. -/
inductive Carried (q : Planned) (next : Stage) (t : Scene σ) :
    Except Failure Unit × Scene σ → Prop
  | done {es : List Exchange} {t' : Scene σ} (calls : t'.calls = t.calls ++ es)
      (done : q.Done b t.progress es t'.progress) (due : Due b next t') :
      Carried q next t (.ok (), t')
  | fails {e : Failure} {es : List Exchange} {t' : Scene σ} (calls : t'.calls = t.calls ++ es)
      (fails : q.Fails b t.progress e es t'.progress) (frame : t'.frame = b) :
      Carried q next t (.error e, t')

/-- The parts of a chain follow a plan from a stage on. A part that is not to be done is skipped. -/
inductive Follows : Stage → List (Part σ) → List Planned → Prop
  | nil (stage : Stage) : Follows stage [] []
  | cons {stage next : Stage} {part : Part σ} {parts : List (Part σ)} {q : Planned}
      {plan : List Planned} (step : part.step = q.step)
      (carried : ∀ t, Due b stage t → Carried b q next t (part.act.perform t))
      (rest : Follows next parts plan) : Follows stage (part :: parts) (q :: plan)
  | skip {stage : Stage} {part : Part σ} {parts : List (Part σ)} {plan : List Planned}
      (idle : ∀ t : Scene σ, t.frame = b → part.act.perform t = (.ok (), t))
      (rest : Follows stage parts plan) : Follows stage (part :: parts) plan

variable {peer b} {stage next : Stage} {t : Scene σ}

/-! ### Steps that make one call -/

theorem calls_asked {call : Call} {result : Except Failure call.Answer}
    (answer : t.answer peer call = result) :
    (t.asked peer call).calls = t.calls ++ [⟨call, t.chain.mode, result⟩] := by
  rw [Scene.asked_calls, answer]

/-- A step that makes one call and is in order makes that call. -/
theorem AskRun.of_order {step : Step} {call : Call} {out : Except Failure call.Answer × Scene σ}
    (hrun : AskRun peer step call t out) (order : t.chain.stage.next? step = some next) :
    (∃ e, out = (.error e, t.asked peer call) ∧ t.answer peer call = .error e) ∨
      ∃ a r, out = (.ok a, (t.asked peer call).withChain fun c => c.advanced step r next) ∧
        t.answer peer call = .ok a := by
  cases hrun with
  | rejected rejected => exact nomatch order.symm.trans rejected
  | failed _ answer => exact .inl ⟨_, rfl, answer⟩
  | answered order' answer r =>
    obtain rfl := Option.some.inj (order.symm.trans order')
    exact .inr ⟨_, r, rfl, answer⟩

/-- The scene after a step that makes one call and creates nothing. -/
theorem progress_advanced {step : Step} (hstep : step ≠ .create) (call : Call) (r : Response) :
    ((t.asked peer call).withChain fun c => c.advanced step r next).progress = t.progress := by
  simp [Scene.progress, advanced, withResult, hstep]

/-- A step that makes a call which has to do with no lock and creates nothing. -/
theorem carried_ask {step : Step} {call : Call} {act : Act σ call.Answer} (due : Due b stage t)
    (order : stage.next? step = some next) (hrun : AskRun peer step call t (act.perform t))
    (hstep : step ≠ .create) (hheld : next.isLocked = stage.isLocked) :
    Carried b (.ask call) next t ((discard act : Act σ Unit).perform t) := by
  rw [perform_discard_eq]
  rcases hrun.of_order (due.order order) with ⟨e, hout, answer⟩ | ⟨a, r, hout, answer⟩
  · rw [hout]
    exact .fails (calls_asked answer) .ask due.frame
  · rw [hout]
    refine .done (calls_asked answer) ?_ ⟨due.frame, due.held.trans hheld.symm, rfl⟩
    rw [progress_advanced hstep]
    exact .ask

/-- A check looks at the active version before any other step, later at the inactive one. -/
theorem carried_check {payload : Option String} (due : Due b stage t)
    (order : stage.next? .check = some next) (hheld : next.isLocked = stage.isLocked) :
    Carried b (.ask (.check (if stage = .init then .active else .inactive) payload)) next t
      ((discard (check peer payload) : Act σ Unit).perform t) := by
  have hrun := check_run peer payload t
  rw [checkedVersion, due.stage] at hrun
  exact carried_ask due order hrun (by decide) hheld

theorem carried_delete (due : Due b .checkedDeletion t) :
    Carried b (.ask (.delete none)) .deleted t
      ((discard (Chain.delete peer) : Act σ Unit).perform t) := by
  have unheld : t.chain.handle = none := due.unheld rfl
  have hrun := delete_run peer t
  rw [unheld] at hrun
  exact carried_ask due rfl hrun (by decide) rfl

theorem carried_validate (due : Due b .init t) :
    Carried b .validate .validated t ((mayCreate peer).perform t) := by
  have order : t.chain.stage.next? .validate = some .validated := due.order rfl
  unfold mayCreate
  rw [perform_bind]
  rcases (validate_run peer t).of_order order with ⟨e, hout, answer⟩ | ⟨outcome, r, hout, answer⟩
  · rw [hout]
    exact .fails (calls_asked answer) .validate due.frame
  · rw [hout]
    cases outcome with
    | accepted => exact .done (calls_asked answer) .validate ⟨due.frame, due.held, rfl⟩
    | alternate => exact .fails (calls_asked answer) .alternate due.frame

theorem carried_create (payload : Option String) (due : Due b .validated t) :
    Carried b (.create payload) .created t
      ((discard (Chain.create peer payload) : Act σ Unit).perform t) := by
  have order : t.chain.stage.next? .create = some .created := due.order rfl
  rw [perform_discard_eq]
  rcases (create_run peer payload t).of_order order with ⟨e, hout, answer⟩ | ⟨a, r, hout, answer⟩
  · rw [hout]
    exact .fails (calls_asked answer) .create due.frame
  · rw [hout]
    exact .done (calls_asked answer) .create ⟨due.frame, due.held, rfl⟩

/-- An update carries the handle of the lock that is held. -/
theorem carried_update (source : String) (due : Due b .checkedWithPayload t) :
    Carried b (.update source) .updated t
      ((discard (Chain.update peer source) : Act σ Unit).perform t) := by
  have order : t.chain.stage.next? .update = some .updated := due.order rfl
  have locked : t.chain.handle.isSome = true := due.held
  rw [perform_discard_eq]
  rcases update_run peer source t with ⟨hnone, -⟩ | ⟨handle, held, hrun⟩
  · rw [hnone] at locked
    cases locked
  · have hheld : t.progress.held = some handle := held
    rcases hrun.of_order order with ⟨e, hout, answer⟩ | ⟨a, r, hout, answer⟩
    · rw [hout]
      exact .fails (calls_asked answer) (.update hheld) due.frame
    · rw [hout]
      refine .done (calls_asked answer) ?_ ⟨due.frame, locked, rfl⟩
      rw [progress_advanced (by decide)]
      exact .update hheld

/-- A read that goes unanswered is passed over. -/
theorem carried_settle (due : Due b stage t) :
    Carried b (.settle (.read (some b.options.consistencyMillis))) stage t
      ((settle peer).perform t) := by
  have hoptions : t.chain.options = b.options := congrArg Frame.options due.frame
  have order : t.chain.stage.next? .read = some stage := by
    rw [due.stage]
    cases stage <;> rfl
  unfold settle
  rw [perform_bind, perform_chain]
  simp only [perform_bind, perform_outcome]
  rw [hoptions]
  rcases (read_run peer (some b.options.consistencyMillis) t).of_order order with
    ⟨e, hout, answer⟩ | ⟨a, r, hout, answer⟩
  · rw [hout]
    cases hn : e.isNetwork with
    | true =>
      simp only [hn, if_true]
      exact .done (calls_asked answer) (.unsettled hn) ⟨due.frame, due.held, due.stage⟩
    | false =>
      simp only [hn]
      exact .fails (calls_asked answer) (.settle hn) due.frame
  · rw [hout]
    exact .done (calls_asked answer) .settle ⟨due.frame, due.held, rfl⟩

/-- The last check is passed over if it goes unanswered. -/
theorem carried_lastCheck (due : Due b .unlocked t) :
    Carried b (.settle (.check .inactive none)) .checkedFinal t ((lastCheck peer).perform t) := by
  have order : t.chain.stage.next? .check = some .checkedFinal := due.order rfl
  have hrun := check_run peer none t
  have hversion : t.chain.checkedVersion = .inactive := by
    rw [checkedVersion, due.stage]
    rfl
  rw [hversion] at hrun
  unfold lastCheck
  rw [perform_bind, perform_outcome]
  rcases hrun.of_order order with ⟨e, hout, answer⟩ | ⟨a, r, hout, answer⟩
  · rw [hout]
    cases hn : e.isNetwork with
    | true =>
      simp only [hn, if_true, tolerate, perform_bind, perform_change]
      exact .done (calls_asked answer) (.unsettled hn) ⟨due.frame, due.held, rfl⟩
    | false =>
      simp only [hn]
      exact .fails (calls_asked answer) (.settle hn) due.frame
  · rw [hout]
    exact .done (calls_asked answer) .settle ⟨due.frame, due.held, rfl⟩

/-! ### Steps that have to do with the registry -/

theorem record_of_frame (frame : t.frame = b) (handle : String) :
    t.record handle = b.record handle := by
  rw [← frame]
  rfl

/-- A lock that cannot be recorded is released at once, and held if that fails. -/
theorem carried_unrecorded {handle : String} {e : Failure} {registry : Registry} {t' : Scene σ}
    (frame : t.frame = b) (unheld : t.chain.handle = none)
    (answer : (t.routed .stateful).answer peer .lock = .ok handle)
    (written : Registry.setLock (b.record handle) t.progress.registry = (.error e, registry))
    (release : ReleaseRun peer handle ((lockAsked peer t).withRegistry registry) t') :
    Carried b .lock next t (.error e, t') := by
  have hcalls (released : Except Failure Response)
      (hreleased : ((lockAsked peer t).withRegistry registry).answer peer (.unlock handle) =
        released) :
      t'.calls = t.calls ++
        [⟨.lock, .stateful, .ok handle⟩, ⟨.unlock handle, .stateful, released⟩] := by
    rw [release.calls.1, hreleased, Scene.withRegistry_calls, lockAsked_calls, answer]
    exact List.append_assoc ..
  cases release with
  | @released r released =>
    refine .fails (hcalls _ released) ?_ frame
    show Planned.Fails b t.progress .lock e _ ⟨registry, t.chain.handle, t.chain.created⟩
    rw [unheld]
    exact .unrecorded written
  | kept kept _ =>
    exact .fails (hcalls _ kept) (.unrecorded written) frame

theorem carried_lock (due : Due b stage t) (order : stage.next? .lock = some .locked)
    (unlocked : stage.isLocked = false) :
    Carried b .lock .locked t ((discard (Chain.lock peer) : Act σ Unit).perform t) := by
  rw [← due.stage] at order
  have unheld : t.chain.handle = none := due.unheld unlocked
  rw [perform_discard_eq]
  unfold Chain.lock
  rw [perform_bind, perform_allowed, order]
  simp only [perform_bind, perform_setMode, perform_outcome]
  rw [perform_ask]
  cases answer : (t.routed .stateful).answer peer .lock with
  | error e => exact .fails (calls_asked answer) .lock due.frame
  | ok handle =>
    simp only [perform_bind, perform_ownRecord, perform_outcome, perform_consult]
    generalize hset : Registry.setLock _ _ = written
    have hwritten : Registry.setLock (b.record handle) t.progress.registry = written := by
      rw [← record_of_frame due.frame]
      exact hset
    obtain ⟨e | u, registry⟩ := written
    · obtain ⟨t', hrelease, release⟩ := releaseUnrecorded_run peer handle
        (((t.routed .stateful).asked peer .lock).withRegistry registry)
      simp only [perform_bind, hrelease, perform_throw]
      exact carried_unrecorded due.frame unheld answer hwritten release
    · exact .done (calls_asked answer) (.lock hwritten) ⟨due.frame, rfl, rfl⟩

theorem carried_resumeLock (due : Due b .init t) :
    Carried b .resumeLock .locked t ((discard (Chain.resumeLock : Act σ String)).perform t) := by
  have order : t.chain.stage.next? .lock = some .locked := due.order rfl
  have hlookup : Registry.get t.chain.object.key t.registry =
      Registry.get b.object.key t.progress.registry := by
    rw [← due.frame]
    rfl
  have hsession : t.chain.session = b.session := congrArg Frame.session due.frame
  rw [perform_discard_eq]
  unfold Chain.resumeLock
  rw [perform_bind, perform_allowed, order]
  simp only [perform_bind, perform_chain, perform_consult]
  rw [hlookup, hsession]
  generalize hget : Registry.get b.object.key t.progress.registry = lookup
  obtain ⟨found, registry⟩ := lookup
  have hframe : (t.withRegistry registry).frame = b := due.frame
  have hcalls : (t.withRegistry registry).calls = t.calls ++ [] := (List.append_nil _).symm
  cases found with
  | error e => exact .fails hcalls (.resumeLock hget nofun) hframe
  | ok found =>
    cases found with
    | none => exact .fails hcalls (.resumeLock hget nofun) hframe
    | some record =>
      by_cases own : record.session = b.session
      · simp only [own, ne_eq, not_true_eq_false, if_false]
        exact .done hcalls (.resumeLock hget own) ⟨hframe, rfl, rfl⟩
      · simp only [own, ne_eq, not_false_eq_true, if_true]
        refine .fails hcalls (.resumeLock hget fun other hother => ?_) hframe
        obtain rfl : record = other := by simpa using hother
        exact own

theorem carried_unlock (due : Due b .updated t) :
    Carried b .unlock .unlocked t ((discard (Chain.unlock peer) : Act σ Unit).perform t) := by
  have order : t.chain.stage.next? .unlock = some .unlocked := due.order rfl
  have locked : t.chain.handle.isSome = true := due.held
  rw [perform_discard_eq]
  unfold Chain.unlock
  rw [perform_bind, perform_allowed, order]
  simp only [perform_bind (heldHandle _), perform_heldHandle]
  cases held : t.chain.handle with
  | none =>
    rw [held] at locked
    cases locked
  | some handle =>
    have hheld : t.progress.held = some handle := held
    simp only
    rw [perform_bind, perform_ask]
    cases answer : t.answer peer (.unlock handle) with
    | error e => exact .fails (calls_asked answer) (.unlock hheld) due.frame
    | ok r =>
      simp only
      rw [perform_bind, perform_change]
      simp only
      rw [perform_forgetLock_bind]
      generalize hremove : Registry.removeIfUnchanged _ _ = removal
      have hremoved : Registry.removeIfUnchanged (b.record handle) t.progress.registry =
          removal := by
        rw [← record_of_frame due.frame]
        exact hremove
      obtain ⟨e | removed, registry⟩ := removal
      · exact .fails (calls_asked answer) (.unremoved hheld hremoved) due.frame
      · exact .done (calls_asked answer) (.unlock hheld hremoved) ⟨due.frame, rfl, rfl⟩

/-! ### The clean-up -/

theorem UndoLockRun.release {t' : Scene σ} (h : UndoLockRun peer t t') :
    t'.frame = t.frame ∧ t'.chain.created = t.chain.created ∧
      ∃ calls, t'.calls = t.calls ++ calls ∧ t.progress.Release calls t'.chain.handle := by
  cases h with
  | nothing held =>
    refine ⟨rfl, rfl, [], (List.append_nil _).symm, ?_⟩
    rw [held]
    exact .nothing held
  | released held answer =>
    exact ⟨rfl, rfl, _, calls_asked answer, .released held⟩
  | kept held answer =>
    refine ⟨rfl, rfl, _, calls_asked answer, ?_⟩
    show t.progress.Release _ t.chain.handle
    rw [held]
    exact .kept held

theorem UndoCreateRun.deletion {t' : Scene σ} (h : UndoCreateRun peer t t') :
    ∃ calls, t'.calls = t.calls ++ calls ∧ calls.map Exchange.call =
      if t.chain.options.deleteOnFailure && t.chain.created then [.delete t.chain.handle]
      else [] := by
  cases h with
  | nothing unasked => exact ⟨[], (List.append_nil _).symm, by simp [unasked]⟩
  | deleted asked answer => exact ⟨_, calls_asked answer, by simp [asked]⟩
  | kept asked answer => exact ⟨_, calls_asked answer, by simp [asked]⟩

/-- **The clean-up of a chain calls what it should.** -/
theorem abort_cleanUp {α : Type} (peer : Collaborator σ) (step : Step) (cause : Failure)
    (frame : t.frame = b) :
    ∃ t' cleanup, (abort peer step cause : Act σ α).perform t =
        (.error (t'.chain.failure step cause), t') ∧
      t'.calls = t.calls ++ cleanup ∧ t.progress.CleanUp b.options cleanup := by
  obtain ⟨s₁, s₂, hlock, hcreate, habort⟩ := abort_run (α := α) peer step cause t
  obtain ⟨hframe, hcreated, release, hcalls, hrelease⟩ := hlock.release
  obtain ⟨deletion, hcalls', hdeletion⟩ := hcreate.deletion
  have hoptions : s₁.chain.options = b.options :=
    (congrArg Frame.options hframe).trans (congrArg Frame.options frame)
  rw [hoptions, hcreated] at hdeletion
  refine ⟨s₂.routed .stateless, release ++ deletion, habort, ?_,
    release, s₁.chain.handle, deletion, rfl, hrelease, hdeletion⟩
  rw [Scene.routed_calls, hcalls', hcalls, List.append_assoc]
  rfl

/-! ### Whole chains -/

/-- What comes of a chain that has a plan: it goes through it, or it is cut short and cleans up. -/
inductive Ran (b : Frame) (plan : List Planned) (t : Scene σ) :
    Except Failure Unit × Scene σ → Prop
  | completed {es : List Exchange} {p : Progress} {t' : Scene σ} (calls : t'.calls = t.calls ++ es)
      (completed : Completed b plan t.progress es p) : Ran b plan t (.ok (), t')
  | cutShort {step : Step} {cause : Failure} {steps cleanup : List Exchange} {p : Progress}
      {t' : Scene σ} (calls : t'.calls = t.calls ++ (steps ++ cleanup))
      (cutShort : CutShort b plan t.progress step cause steps p)
      (cleanup : p.CleanUp b.options cleanup) :
      Ran b plan t (.error (t'.chain.failure step cause), t')

/-- A step that is done comes before all that is done after it. -/
theorem Ran.cons {q : Planned} {plan : List Planned} {es : List Exchange} {t' : Scene σ}
    {out : Except Failure Unit × Scene σ} (calls : t'.calls = t.calls ++ es)
    (done : q.Done b t.progress es t'.progress) (h : Ran b plan t' out) :
    Ran b (q :: plan) t out := by
  cases h with
  | @completed es' _ t'' calls' completed =>
    have hcalls : t''.calls = t.calls ++ (es ++ es') := by
      rw [calls', calls, List.append_assoc]
    exact .completed hcalls (.cons done completed)
  | @cutShort _ _ steps cleanup _ t'' calls' cutShort hcleanup =>
    have hcalls : t''.calls = t.calls ++ (es ++ steps ++ cleanup) := by
      rw [calls', calls]
      simp only [List.append_assoc]
    exact .cutShort hcalls (.later done cutShort) hcleanup

/-- **Parts that follow a plan call what the plan says.** -/
theorem Follows.perform {parts : List (Part σ)} {plan : List Planned}
    (h : Follows b stage parts plan) (due : Due b stage t) :
    Ran b plan t ((runParts peer parts).perform t) := by
  induction h generalizing t with
  | nil => exact .completed (List.append_nil _).symm (.nil _)
  | @cons _ _ part _ q _ step carried _ ih =>
    have hcarried := carried t due
    rw [runParts, perform_bind, perform_attempt]
    generalize part.act.perform t = out at hcarried ⊢
    cases hcarried with
    | done calls done due' => exact (ih due').cons calls done
    | @fails e es t' calls fails frame =>
      obtain ⟨t'', cleanup, habort, hcalls, hcleanup⟩ :=
        abort_cleanUp (α := Unit) peer part.step e frame
      simp only [habort]
      rw [step] at habort ⊢
      refine .cutShort ?_ (.here fails) hcleanup
      rw [hcalls, calls, List.append_assoc]
  | skip idle _ ih =>
    rw [runParts, perform_bind, perform_attempt, idle t due.frame]
    exact ih due

end Chain

namespace WholeChain

open Chain

variable {peer : Collaborator σ} {b : Frame} {stage : Stage}

/-- The part of an edit that activates the object is done if the options say so. -/
theorem follows_activation : Follows b .checkedFinal
    [.plain .activate (ifActivating (discard (activate peer))),
      .plain .read (ifActivating (settle peer))]
    (if b.options.activate then
      [.ask .activate, .settle (.read (some b.options.consistencyMillis))] else []) := by
  have hcond (act : Act σ Unit) (t : Scene σ) (frame : t.frame = b) :
      (ifActivating act).perform t = if b.options.activate then act.perform t else (.ok (), t) := by
    rw [perform_ifActivating, ← frame]
    rfl
  cases h : b.options.activate with
  | false =>
    rw [h] at hcond
    exact .skip (fun t frame => hcond _ t frame) (.skip (fun t frame => hcond _ t frame) (.nil _))
  | true =>
    rw [h] at hcond
    have reading : Follows b .activated [.plain .read (ifActivating (settle peer))]
        [.settle (.read (some b.options.consistencyMillis))] := by
      refine .cons rfl (fun t due => ?_) (.nil .activated)
      show Carried b _ _ t ((ifActivating _).perform t)
      rw [hcond _ t due.frame]
      exact carried_settle due
    refine .cons rfl (fun t due => ?_) reading
    show Carried b _ _ t ((ifActivating _).perform t)
    rw [hcond _ t due.frame]
    exact carried_ask due rfl (activate_run peer t) (by decide) rfl

theorem follows_editParts (source : String) (order : stage.next? .lock = some .locked)
    (unlocked : stage.isLocked = false) :
    Follows b stage (editParts peer source) (editPlan b.options source) := by
  refine .cons rfl (fun t due => carried_lock due order unlocked) ?_
  refine .cons rfl (fun t due => carried_check due rfl rfl) ?_
  refine .cons rfl (fun t due => carried_update source due) ?_
  refine .cons rfl (fun t due => carried_unlock due) ?_
  refine .cons rfl (fun t due => carried_settle due) ?_
  refine .cons rfl (fun t due => carried_lastCheck due) ?_
  exact follows_activation

/-- **The parts of a whole chain follow its plan.** -/
theorem follows (whole : WholeChain) :
    Follows b .init (whole.parts peer) (whole.plan b.options) := by
  cases whole with
  | create payload source =>
    refine .cons rfl (fun t due => carried_validate due) ?_
    refine .cons rfl (fun t due => carried_create payload due) ?_
    refine .cons rfl (fun t due => carried_check due rfl rfl) ?_
    exact follows_editParts source rfl rfl
  | update source => exact follows_editParts source rfl rfl
  | delete =>
    refine .cons rfl (fun t due => carried_check due rfl rfl) ?_
    exact .cons rfl (fun t due => carried_delete due) (.nil .deleted)
  | write source =>
    refine .cons rfl (fun t due => carried_resumeLock due) ?_
    refine .cons rfl (fun t due => carried_check due rfl rfl) ?_
    exact .cons rfl (fun t due => carried_update source due) (.nil .updated)

/-- What follows the parts of a whole chain makes no call. -/
theorem perform_last (whole : WholeChain) (t : Scene σ) :
    ∃ t', (whole.last : Act σ Unit).perform t = (.ok (), t') ∧ t'.calls = t.calls := by
  cases whole with
  | write => exact ⟨t, rfl, rfl⟩
  | _ => exact ⟨_, rfl, rfl⟩

/-- A whole chain runs as its plan says. -/
theorem ran (whole : WholeChain) {t : Scene σ} (due : Due b .init t) :
    Ran b (whole.plan b.options) t ((whole.operation.act peer).perform t) := by
  have follows : Follows b .init (whole.parts peer) (whole.plan b.options) := whole.follows
  have hran : Ran b _ t ((runParts peer (whole.parts peer)).perform t) := follows.perform due
  rw [whole.act_eq, perform_bind]
  generalize (runParts peer (whole.parts peer)).perform t = out at hran ⊢
  cases hran with
  | @completed _ _ t' calls completed =>
    obtain ⟨t'', hlast, hcalls⟩ := whole.perform_last t'
    simp only [hlast]
    exact .completed (hcalls.trans calls) completed
  | cutShort calls cutShort cleanup => exact .cutShort calls cutShort cleanup

/-- **A whole chain calls just what it should.** Whatever is answered and whatever the registry
does, a new chain goes through its plan, and its calls are those of the plan; or it is cut short at
the first step that fails, and its calls are those of the plan up to that step, and then those of
the clean-up. -/
theorem calls_as_planned (whole : WholeChain) (peer : Collaborator σ) {s : Scene σ}
    (opening : s.Opening) :
    let out := (whole.operation.act peer).perform s
    let plan := whole.plan s.chain.options
    let start : Progress := { registry := s.registry }
    (out.1 = .ok () ∧ ∃ p, Completed s.frame plan start out.2.calls p) ∨
      ∃ step cause steps cleanup p, out.1 = .error (out.2.chain.failure step cause) ∧
        out.2.calls = steps ++ cleanup ∧ CutShort s.frame plan start step cause steps p ∧
        p.CleanUp s.chain.options cleanup := by
  intro out plan start
  have hstart : s.progress = start := by
    rw [Scene.progress, opening.fresh.handle, opening.fresh.created]
  have unheld : s.chain.handle.isSome = false := by
    rw [opening.fresh.handle]
    rfl
  have hran : Ran s.frame plan s out := whole.ran ⟨rfl, unheld, opening.fresh.stage⟩
  rw [← hstart]
  generalize out = out at hran ⊢
  cases hran with
  | completed calls completed =>
    rw [opening.calls, List.nil_append] at calls
    exact .inl ⟨rfl, _, calls ▸ completed⟩
  | cutShort calls cutShort cleanup =>
    rw [opening.calls, List.nil_append] at calls
    exact .inr ⟨_, _, _, _, _, rfl, calls, cutShort, cleanup⟩

/-- An update whose lock is not released is cut short there, and tries to release it once more. -/
theorem unreleased_calls_as_planned :
    let s := Scene.blank (.make .program "zdemo") "S1" {} false
    let out := ((update "x").operation.act (.agreeing "H")).perform s
    s.Opening ∧ ∃ step cause steps cleanup p, out.1 = .error (out.2.chain.failure step cause) ∧
      out.2.calls = steps ++ cleanup ∧
      CutShort s.frame ((update "x").plan {}) { registry := {} } step cause steps p ∧
      p.CleanUp {} cleanup := by
  intro s out
  have opening : s.Opening := Scene.opening_blank ..
  have fails : out.1 ≠ .ok () := by
    intro h
    cases h
  have hplanned := (update "x").calls_as_planned (.agreeing "H") opening
  exact ⟨opening, hplanned.resolve_left fun completed => fails completed.1⟩

/-- With every call answered, an update makes each of its calls once. -/
example : (((update "x").operation.act (.agreeing "H")).perform
    (.blank (.make .program "zdemo") "S1" {} true)).2.calls.map Exchange.call =
      [.lock, .check .inactive (some "x"), .update "H" "x", .unlock "H", .read (some 30000),
        .check .inactive none, .activate, .read (some 30000)] := rfl

end WholeChain

end EditLock
