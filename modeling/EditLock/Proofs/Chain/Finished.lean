/-
# Finished chains

A chain whose creation, update or deletion came to its end is finished, and stays so whatever else
is asked of it (`Chain.stage_done_afterAll`). From then on every step is rejected before it does
anything, and every whole chain at its first step. A step that is rejected leaves the scene as it
was; a whole chain that is rejected still undoes what is left to undo: a handle that is held, and
an object that was created, if the options say so (`Chain.Owes`). Finishing clears neither: after a
creation the object is still owed (`Chain.owes_of_ended_iff`).

Key definitions: `Operation.firstStep?`, `Operation.isRun`, `Operation.finishes`, `Chain.Owes`,
`Visit.Rejected`, `Visit.LeavesAlone`.
Key theorems: `Chain.act_rejected`, `Chain.run_rejected`, `Chain.finishes_done`,
`Visit.rejected_of_next?`, `Chain.owes_of_ended_iff`, `Chain.stage_done_afterAll`,
`Chain.finished_rejects`.
-/
import EditLock.Proofs.Chain.Outstanding

namespace EditLock

variable {σ α β : Type}

/-! ### Kinds of operations -/

namespace Operation

/-- The step that an operation takes first; a read and a forced release are always in order. -/
def firstStep? : Operation → Option Step
  | validate | runCreate .. => some .validate
  | create _ => some .create
  | check _ | runDelete => some .check
  | lock | resumeLock | runUpdate _ | runWrite _ => some .lock
  | update _ => some .update
  | unlock => some .unlock
  | activate => some .activate
  | delete => some .delete
  | read _ | forceUnlock => none

/-- Whether an operation is a whole chain. -/
def isRun : Operation → Bool
  | runCreate .. | runUpdate _ | runDelete | runWrite _ => true
  | _ => false

/-- Whether an operation finishes the chain if it comes to its end. -/
def finishes : Operation → Bool
  | runCreate .. | runUpdate _ | runDelete => true
  | _ => false

theorem firstStep?_ne_read {op : Operation} {step : Step} (first : op.firstStep? = some step) :
    step ≠ .read := by
  cases op <;> cases first <;> nofun

end Operation

namespace Stage

/-- At the end of a chain all steps but a read are out of order. -/
theorem next?_none_of_done {stage : Stage} {step : Step} (h : stage = .done)
    (hstep : step ≠ .read) : stage.next? step = none := by
  rw [h, next?_done, if_neg hstep]

/-- A chain that may be marked finished still may be after its next step. -/
theorem canFinish_of_next? {stage next : Stage} {step : Step} (h : stage.canFinish = true)
    (order : stage.next? step = some next) : next.canFinish = true := by
  cases stage <;> cases step <;> simp_all [Stage.next?, Stage.canFinish] <;> subst order <;> rfl

/-- After a release or a deletion a chain may be marked finished. -/
theorem canFinish_of_next?_last {stage next : Stage} {step : Step}
    (hstep : step = .unlock ∨ step = .delete) (order : stage.next? step = some next) :
    next.canFinish = true := by
  rcases hstep with rfl | rfl <;> cases stage <;> simp_all [Stage.next?] <;> subst order <;> rfl

end Stage

namespace Chain

open Act

variable {peer : Collaborator σ} {s : Scene σ}

/-! ### Out of order -/

/-- What begins with a step that is out of order does nothing. -/
theorem allowed_bind_rejected {step : Step} (f : Stage → Act σ α)
    (order : s.chain.stage.next? step = none) :
    (allowed step >>= f).perform s = (.error (.notAllowed step s.chain.stage), s) := by
  rw [perform_bind, perform_allowed, order]

theorem discard_rejected {act : Act σ α} {e : Failure} (h : act.perform s = (.error e, s)) :
    (discard act : Act σ Unit).perform s = (.error e, s) := by
  rw [perform_discard_eq, h]

/-- **A step that is out of order is rejected, and leaves the scene as it was.** -/
theorem act_rejected {op : Operation} {step : Step} (single : op.isRun = false)
    (first : op.firstStep? = some step) (order : s.chain.stage.next? step = none) :
    (op.act peer).perform s = (.error (.notAllowed step s.chain.stage), s) := by
  cases op with
  | read | forceUnlock => cases first
  | runCreate | runUpdate | runDelete | runWrite => cases single
  | _ =>
    cases first
    exact discard_rejected (allowed_bind_rejected _ order)

/-- A part of a chain that fails ends the chain with the clean-up, on the scene it left. -/
theorem attempt_bind_failed {step : Step} {act : Act σ α} {e : Failure} {s' : Scene σ}
    (h : act.perform s = (.error e, s')) (f : α → Act σ β) :
    ∃ s₁ s₂, UndoLockRun peer (s'.withChain fun c => c.withFailure step e) s₁ ∧
      UndoCreateRun peer s₁ s₂ ∧
      (attempt peer step act >>= f).perform s =
        (.error (s₂.chain.failure step e), s₂.routed .stateless) := by
  obtain ⟨s₁, s₂, hlock, hcreate, habort⟩ := abort_run (α := α) peer step e s'
  refine ⟨s₁, s₂, hlock, hcreate, ?_⟩
  rw [perform_bind, perform_attempt, h]
  simp only [habort]

/-- **A whole chain whose first step is out of order is rejected, and cleans up.** -/
theorem run_rejected {op : Operation} {step : Step} (run : op.isRun = true)
    (first : op.firstStep? = some step) (order : s.chain.stage.next? step = none) :
    ∃ s₁ s₂, UndoLockRun peer
        (s.withChain fun c => c.withFailure step (.notAllowed step s.chain.stage)) s₁ ∧
      UndoCreateRun peer s₁ s₂ ∧
      (op.act peer).perform s =
        (.error (s₂.chain.failure step (.notAllowed step s.chain.stage)), s₂.routed .stateless) := by
  cases op with
  | runCreate =>
    cases first
    exact attempt_bind_failed (allowed_bind_rejected _ order) _
  | runUpdate source =>
    cases first
    obtain ⟨s₁, s₂, hlock, hcreate, hedit⟩ : ∃ s₁ s₂, _ ∧ _ ∧
        (editUnderLock peer source).perform s = _ :=
      attempt_bind_failed (allowed_bind_rejected _ order) _
    refine ⟨s₁, s₂, hlock, hcreate, ?_⟩
    show (editUnderLock peer source >>= fun _ => finish).perform s = _
    rw [perform_bind, hedit]
  | runDelete | runWrite =>
    cases first
    exact attempt_bind_failed (allowed_bind_rejected _ order) _
  | _ => cases run

/-! ### Finishing -/

/-- A chain that is aborted does not come to its end. -/
theorem abort_fails {P : Scene σ → Prop} {Q : α → Scene σ → Prop} (step : Step) (e : Failure) :
    Leads P (abort peer step e : Act σ α) Q (fun _ _ => True) := by
  intro s _
  obtain ⟨s₁, s₂, -, -, habort⟩ := abort_run (α := α) peer step e s
  rw [habort]
  trivial

/-- A part of a chain, as far as it does not fail. -/
theorem attempt_unfailing {P Q : Scene σ → Prop} {F : Failure → Scene σ → Prop} {act : Act σ α}
    (h : Leads P act (fun _ => Q) F) (step : Step) : Attempts peer P step act Q (fun _ _ => True) :=
  leads_attempt peer h fun e => abort_fails step e

/-- Such a part may lead anywhere. -/
theorem attempt_anywhere {P : Scene σ → Prop} (step : Step) (act : Act σ α) :
    Attempts peer P step act (fun _ => True) (fun _ _ => True) :=
  attempt_unfailing (leads_of_perform fun _ _ => trivial) step

/-- The chain may be marked finished. -/
def Finishable (s : Scene σ) : Prop :=
  s.chain.stage.canFinish = true

theorem AskRun.finishable {step : Step} {call : Call} {out : Except Failure call.Answer × Scene σ}
    (h : AskRun peer step call s out) (hs : Finishable s) : Finishable out.2 := by
  cases h with
  | rejected => exact hs
  | failed => exact hs
  | answered order => exact Stage.canFinish_of_next? hs order

theorem askKept_finishable : AskKept peer (fun _ => True) Finishable :=
  fun _ _ _ _ hr _ _ hs => hr.finishable hs

theorem unlock_finishable :
    Leads (fun _ => True) (unlock peer) (fun _ => Finishable) (fun _ _ => True) := by
  intro s _
  have hrun := unlock_run peer s
  generalize (unlock peer).perform s = out at hrun ⊢
  cases hrun with
  | rejected => trivial
  | refused => trivial
  | @released _ _ _ result _ order =>
    cases result with
    | error e => trivial
    | ok any => exact Stage.canFinish_of_next?_last (.inl rfl) order

theorem delete_finishable :
    Leads (fun _ => True) (delete peer) (fun _ => Finishable) (fun _ _ => True) := by
  intro s _
  have hrun := delete_run peer s
  rcases hout : (delete peer).perform s with ⟨e | r, s'⟩
  · trivial
  · rw [hout] at hrun
    exact Stage.canFinish_of_next?_last (.inr rfl) (hrun.next?_of_ok rfl)

theorem edit_finishable (source : String) :
    Leads (fun _ => True) (editUnderLock peer source) (fun _ => Finishable) (fun _ _ => True) := by
  have hsettle : Leads Finishable (settle peer) (fun _ => Finishable) (fun _ => Finishable) :=
    leads_settle (fun _ => askKept_finishable.keeps_read trivial) (fun _ _ _ hs => hs) fun _ _ hs => hs
  exact leads_editUnderLock (attempt_anywhere .lock _) (attempt_anywhere .check _)
    (attempt_anywhere .update _)
    (attempt_unfailing unlock_finishable .unlock) (attempt_unfailing hsettle .read)
    (leads_finalCheck (askKept_finishable.keeps_check fun _ => trivial) (fun _ _ _ _ => rfl)
      fun e => abort_fails .check e)
    (attempt_unfailing (askKept_finishable.keeps_activate trivial) .activate)

/-- The chain is finished. -/
def Done (s : Scene σ) : Prop :=
  s.chain.stage = .done

theorem AskRun.done {step : Step} {call : Call} {out : Except Failure call.Answer × Scene σ}
    (h : AskRun peer step call s out) (hs : Done s) : Done out.2 := by
  cases h with
  | rejected => exact hs
  | failed => exact hs
  | @answered next _ order =>
    have hread : (if step = .read then some Stage.done else none) = some next := by
      rw [← Stage.next?_done, ← hs]
      exact order
    split at hread
    · exact (Option.some.inj hread).symm
    · cases hread

theorem ForceRun.done {out : Except Failure ForceUnlock × Scene σ} (h : ForceRun peer s out)
    (hs : Done s) : Done out.2 := by
  have hforced : (if s.chain.stage.isLocked then Stage.unlocked else s.chain.stage) = .done := by
    rw [hs]
    rfl
  cases h with
  | lookupFailed => exact hs
  | nothingHeld => exact hs
  | stuck => exact hforced
  | unlocked => exact hforced
  | unlockFailed => exact hforced

theorem finish_done : Leads Finishable (finish : Act σ Unit) (fun _ => Done) (fun _ _ => True) :=
  leads_finish (fun _ hs hnot => nomatch hs.symm.trans hnot) fun _ _ _ => rfl

/-- **A creation, an update or a deletion that comes to its end finishes the chain.** -/
theorem finishes_done {op : Operation} (h : op.finishes = true) :
    Leads (fun _ => True) (op.act peer) (fun _ => Done) (fun _ _ => True) := by
  cases op with
  | runCreate payload source =>
    exact leads_runCreate (attempt_anywhere .validate _) (fun e => abort_fails .validate e)
      (attempt_anywhere .create _) (attempt_anywhere .check _) (edit_finishable source) finish_done
  | runUpdate source => exact leads_runUpdate (edit_finishable source) finish_done
  | runDelete =>
    exact leads_runDelete (attempt_anywhere .check _)
      (attempt_unfailing delete_finishable .delete) finish_done
  | _ => cases h

/-! ### What is left to undo -/

/-- What a failing chain undoes: it holds a handle, or has created an object that is then to be
deleted. -/
def Owes (c : Chain) : Prop :=
  c.handle ≠ none ∨ (c.options.deleteOnFailure && c.created) = true

/-- The chain has these options, and is marked as having created its object or not. -/
def Marked (o : ChainOptions) (created : Bool) (s : Scene σ) : Prop :=
  s.chain.options = o ∧ s.chain.created = created

/-- The same, and it holds this handle, or none. -/
def Holds (o : ChainOptions) (created : Bool) (handle : Option String) (s : Scene σ) : Prop :=
  Marked o created s ∧ s.chain.handle = handle

section Left

variable {o : ChainOptions} {created : Bool} {handle : Option String}

theorem AskRun.marked {step : Step} {call : Call} {out : Except Failure call.Answer × Scene σ}
    (h : AskRun peer step call s out) (hstep : step ≠ .create) (hs : Marked o created s) :
    Marked o created out.2 :=
  ⟨h.options.trans hs.1, (h.created hstep).trans hs.2⟩

theorem askKept_marked : AskKept peer (·.step ≠ .create) (Marked o created) :=
  fun _ _ _ _ hr hstep hc hs => hr.marked (hstep ▸ hc) hs

theorem askKept_holds : AskKept peer (·.step ≠ .create) (Holds o created handle) :=
  fun _ _ _ _ hr hstep hc hs => ⟨hr.marked (hstep ▸ hc) hs.1, hr.handle.trans hs.2⟩

theorem create_marks (payload : Option String) :
    Leads (Marked o created) (create peer payload) (fun _ => Marked o true) (fun _ _ => True) := by
  intro s hs
  have hrun := create_run peer payload s
  rcases hout : (create peer payload).perform s with ⟨e | r, s'⟩
  · trivial
  · rw [hout] at hrun
    exact ⟨hrun.options.trans hs.1, hrun.created_of_ok rfl rfl⟩

theorem lock_marked : Keeps (Marked o created) (lock peer) := by
  refine keeps_of_perform fun s hs => ?_
  have hrun := lock_run peer s
  generalize (lock peer).perform s = out at hrun ⊢
  cases hrun with
  | rejected => exact hs
  | refused => exact hs
  | unrecorded _ _ _ release => cases release <;> exact hs
  | recorded => exact hs

theorem unlock_holds :
    Leads (Marked o created) (unlock peer) (fun _ => Holds o created none) (fun _ _ => True) := by
  intro s hs
  have hrun := unlock_run peer s
  generalize (unlock peer).perform s = out at hrun ⊢
  cases hrun with
  | rejected => trivial
  | refused => trivial
  | @released _ _ _ result =>
    cases result with
    | error e => trivial
    | ok any => exact ⟨hs, rfl⟩

theorem edit_holds (source : String) :
    Leads (Marked o created) (editUnderLock peer source) (fun _ => Holds o created none)
      (fun _ _ => True) := by
  have hsettle : Leads (Holds o created none) (settle peer) (fun _ => Holds o created none)
      (fun _ => Holds o created none) :=
    leads_settle (fun _ => askKept_holds.keeps_read nofun) (fun _ _ _ hs => hs) fun _ _ hs => hs
  exact leads_editUnderLock (attempt_unfailing lock_marked .lock)
    (attempt_unfailing (askKept_marked.keeps_check fun _ => nofun) .check)
    (attempt_unfailing (askKept_marked.keeps_update fun _ => nofun) .update)
    (attempt_unfailing unlock_holds .unlock) (attempt_unfailing hsettle .read)
    (leads_finalCheck (askKept_holds.keeps_check fun _ => nofun) (fun _ _ _ hs => hs)
      fun e => abort_fails .check e)
    (attempt_unfailing (askKept_holds.keeps_activate nofun) .activate)

theorem finish_holds : Leads (Holds o created handle) (finish : Act σ Unit)
    (fun _ => Holds o created handle) (fun _ _ => True) :=
  leads_finish (fun _ hs _ => hs) fun _ hs _ => hs

/-- A creation that comes to its end leaves no handle, and has created its object. -/
theorem runCreate_holds (payload : Option String) (source : String) :
    Leads (Marked o created) (runCreate peer payload source) (fun _ => Holds o true none)
      (fun _ _ => True) :=
  leads_runCreate (attempt_unfailing (askKept_marked.keeps_validate nofun) .validate)
    (fun e => abort_fails .validate e) (attempt_unfailing (create_marks payload) .create)
    (attempt_unfailing (askKept_marked.keeps_check fun _ => nofun) .check) (edit_holds source)
    finish_holds

/-- An update leaves no handle either. -/
theorem runUpdate_holds (source : String) :
    Leads (Marked o created) (runUpdate peer source) (fun _ => Holds o created none)
      (fun _ _ => True) :=
  leads_runUpdate (edit_holds source) finish_holds

/-- A deletion takes no lock and releases none. -/
theorem runDelete_holds :
    Leads (Holds o created handle) (runDelete peer) (fun _ => Holds o created handle)
      (fun _ _ => True) :=
  leads_runDelete (attempt_unfailing (askKept_holds.keeps_check fun _ => nofun) .check)
    (attempt_unfailing (askKept_holds.keeps_delete fun _ => nofun) .delete) finish_holds

theorem Holds.owes_iff (h : Holds o created handle s) :
    s.chain.Owes ↔ handle ≠ none ∨ (o.deleteOnFailure && created) = true := by
  rw [Owes, h.2, h.1.1, h.1.2]

end Left

/-! ### Cleaning up -/

section Undoing

variable {s₁ s₂ : Scene σ} (hlock : UndoLockRun peer s s₁) (hcreate : UndoCreateRun peer s₁ s₂)

include hlock

theorem UndoLockRun.eq_of_free (free : s.chain.handle = none) : s₁ = s := by
  cases hlock with
  | nothing => rfl
  | released held => exact nomatch free.symm.trans held
  | kept held => exact nomatch free.symm.trans held

theorem UndoLockRun.length_calls (held : s.chain.handle ≠ none) :
    s.calls.length < s₁.calls.length := by
  cases hlock with
  | nothing free => exact absurd free held
  | released => simp
  | kept => simp

include hcreate

/-- Where there is nothing to undo, nothing is done; else somebody is called. -/
theorem undone_iff : s₂.calls = s.calls ∧ s₂.registry = s.registry ↔ ¬ s.chain.Owes := by
  by_cases free : s.chain.handle = none
  · have hsame : s₁ = s := hlock.eq_of_free free
    subst hsame
    cases hcreate with
    | nothing unasked => simp [Owes, free, unasked]
    | deleted asked => simp [Owes, asked]
    | kept asked => simp [Owes, asked]
  · have hlonger := hlock.length_calls free
    have hprefix := hcreate.goesOn.calls.length_le
    refine iff_of_false (fun hsame => ?_) (not_not_intro (.inl free))
    rw [hsame.1] at hprefix
    omega

end Undoing

end Chain

/-! ### Visits to a finished chain -/

namespace Visit

open Chain

variable {peer : Collaborator σ} {c : Chain} {v : Visit σ}

/-- What a visit reports. -/
def outcome (peer : Collaborator σ) (v : Visit σ) (c : Chain) : Except Failure Unit :=
  ((v.operation.act peer).perform (v.scene c)).1

/-- A visit was rejected since its first step was out of order; a whole chain reports it as the
failure of the chain. -/
def Rejected (peer : Collaborator σ) (v : Visit σ) (c : Chain) (step : Step) : Prop :=
  if v.operation.isRun then
    ∃ held, v.outcome peer c =
      .error (.chain step (.notAllowed step c.stage) held c.session c.object.toText)
  else v.outcome peer c = .error (.notAllowed step c.stage)

/-- A visit calls nobody and leaves the registry and the routing of requests as they were. -/
structure LeavesAlone (peer : Collaborator σ) (v : Visit σ) (c : Chain) : Prop where
  calls : (v.sceneAfter peer c).calls = []
  registry : (v.sceneAfter peer c).registry = v.registry
  mode : (v.sceneAfter peer c).chain.mode = c.mode

/-- **A visit that begins out of order is rejected.** It leaves all else alone unless it is a whole
chain, and there is something to undo or the requests were stateful. -/
theorem rejected_of_next? (peer : Collaborator σ) {step : Step}
    (first : v.operation.firstStep? = some step) (order : c.stage.next? step = none) :
    v.Rejected peer c step ∧ (v.sceneAfter peer c).chain.stage = c.stage ∧
      (v.LeavesAlone peer c ↔ (v.operation.isRun = true → ¬ c.Owes ∧ c.mode = .stateless)) := by
  cases hrun : v.operation.isRun with
  | false =>
    have hact : (v.operation.act peer).perform (v.scene c) = _ := act_rejected hrun first order
    have hscene : v.sceneAfter peer c = v.scene c := congrArg Prod.snd hact
    refine ⟨?_, ?_, ?_⟩
    · rw [Rejected, hrun]
      exact congrArg Prod.fst hact
    · rw [hscene]
      rfl
    · exact iff_of_true ⟨by rw [hscene]; rfl, by rw [hscene]; rfl, by rw [hscene]; rfl⟩ nofun
  | true =>
    obtain ⟨s₁, s₂, hlock, hcreate, hact⟩ := @run_rejected σ peer (v.scene c) _ _ hrun first order
    have hscene : v.sceneAfter peer c = s₂.routed .stateless := congrArg Prod.snd hact
    have hgone := hlock.goesOn.trans hcreate.goesOn
    have hundone : s₂.calls = [] ∧ s₂.registry = v.registry ↔ ¬ c.Owes := undone_iff hlock hcreate
    refine ⟨?_, ?_, ?_⟩
    · rw [Rejected, hrun]
      refine ⟨s₂.chain.handle, ?_⟩
      have hsession : s₂.chain.session = c.session := hgone.session
      have hobject : s₂.chain.object = c.object := hgone.object
      rw [← hsession, ← hobject]
      exact congrArg Prod.fst hact
    · rw [hscene]
      exact hcreate.stage.trans hlock.stage
    · constructor
      · rintro ⟨hcalls, hregistry, hmode⟩ -
        rw [hscene] at hcalls hregistry hmode
        exact ⟨hundone.1 ⟨hcalls, hregistry⟩, hmode.symm⟩
      · intro hnothing
        obtain ⟨howes, hmode⟩ := hnothing rfl
        obtain ⟨hcalls, hregistry⟩ := hundone.2 howes
        refine ⟨?_, ?_, ?_⟩
        · rw [hscene]
          exact hcalls
        · rw [hscene]
          exact hregistry
        · rw [hscene]
          exact hmode.symm

/-- A chain that is finished stays finished, whatever is asked of it. -/
theorem stage_done (v : Visit σ) (h : c.stage = .done) :
    (v.sceneAfter peer c).chain.stage = .done := by
  have hstart : Done (v.scene c) := h
  cases first : v.operation.firstStep? with
  | some step =>
    have order := Stage.next?_none_of_done h (Operation.firstStep?_ne_read first)
    exact (rejected_of_next? peer first order).2.1.trans h
  | none =>
    unfold sceneAfter
    cases hv : v.operation with
    | read budget =>
      rw [Operation.act, Act.perform_discard]
      exact (read_run peer budget (v.scene c)).done hstart
    | forceUnlock =>
      rw [Operation.act, Act.perform_discard]
      exact (forceUnlock_run peer (v.scene c)).done hstart
    | _ =>
      rw [hv] at first
      cases first

end Visit

/-- **What a chain still owes when it is finished.** After a creation it owes the object that it
created, if the options say so; after an update, one that it had created before; after a deletion,
what it owed before. -/
theorem Chain.owes_of_ended_iff {peer : Collaborator σ} {c : Chain} {run : Visit σ}
    (finishes : run.operation.finishes = true) (ended : run.outcome peer c = .ok ()) :
    (run.sceneAfter peer c).chain.Owes ↔
      match run.operation with
      | .runCreate .. => c.options.deleteOnFailure = true
      | .runUpdate _ => (c.options.deleteOnFailure && c.created) = true
      | _ => c.Owes := by
  have hmarked : Marked c.options c.created (run.scene c) := ⟨rfl, rfl⟩
  unfold Visit.sceneAfter
  unfold Visit.outcome at ended
  cases hrun : run.operation with
  | runCreate payload source =>
    rw [hrun] at ended
    have hheld := (runCreate_holds payload source).ok hmarked (Prod.ext ended rfl)
    exact hheld.owes_iff.trans (by simp)
  | runUpdate source =>
    rw [hrun] at ended
    have hheld := (runUpdate_holds source).ok hmarked (Prod.ext ended rfl)
    exact hheld.owes_iff.trans (by simp)
  | runDelete =>
    rw [hrun] at ended
    have hstart : Holds c.options c.created c.handle (run.scene c) := ⟨hmarked, rfl⟩
    exact (runDelete_holds.ok hstart (Prod.ext ended rfl)).owes_iff
  | _ =>
    rw [hrun] at finishes
    cases finishes

theorem Chain.stage_done_afterAll (peer : Collaborator σ) {c : Chain} (h : c.stage = .done)
    (visits : List (Visit σ)) : (c.afterAll peer visits).stage = .done := by
  unfold Chain.afterAll
  induction visits generalizing c with
  | nil => exact h
  | cons v visits ih => exact ih (v.stage_done h)

/-- **A finished chain is final, but for what it still owes.** A creation, an update or a deletion
came to its end, and any visits followed, whatever was answered, done to the registry in between,
or asked of the chain before. The chain is finished then. Each step, and each whole chain at its
first step, is rejected as out of order; and the visit leaves the server, the registry and the
routing of requests alone, if it is a step, or if the chain owes nothing and its requests are
stateless already. -/
theorem Chain.finished_rejects (peer : Collaborator σ) (c : Chain) {run : Visit σ}
    (finishes : run.operation.finishes = true) (ended : run.outcome peer c = .ok ())
    (later : List (Visit σ)) (v : Visit σ) {step : Step}
    (first : v.operation.firstStep? = some step) :
    (c.afterAll peer (run :: later)).stage = .done ∧
      v.Rejected peer (c.afterAll peer (run :: later)) step ∧
      (v.LeavesAlone peer (c.afterAll peer (run :: later)) ↔
        (v.operation.isRun = true → ¬ (c.afterAll peer (run :: later)).Owes ∧
          (c.afterAll peer (run :: later)).mode = .stateless)) := by
  have hdone : (run.sceneAfter peer c).chain.stage = .done := by
    have hleads : Act.Leads (fun _ => True) (run.operation.act peer) (fun _ => Done)
        (fun _ _ => True) := finishes_done finishes
    exact hleads.ok trivial (Prod.ext ended rfl)
  have hlast : (c.afterAll peer (run :: later)).stage = .done :=
    Chain.stage_done_afterAll peer hdone later
  have order := Stage.next?_none_of_done hlast (Operation.firstStep?_ne_read first)
  obtain ⟨hrejected, -, halone⟩ := Visit.rejected_of_next? peer first order
  exact ⟨hlast, hrejected, halone⟩

/-- An object was created to its end, by a chain that deletes what it created if it fails; then its
source is to be written once more. -/
def recreated : Visit Bool × Visit Bool :=
  (⟨.runCreate none "REPORT zdemo.", {}, true, default, 1⟩,
    ⟨.runUpdate "REPORT zdemo. WRITE 1.", {}, true, default, 1⟩)

/-- The rejected chain deletes the object. -/
theorem recreated_not_left_alone :
    recreated.1.outcome (.agreeing "H")
        (.new (.make .program "zdemo") "S1" { deleteOnFailure := true }) = .ok () ∧
      ¬ recreated.2.LeavesAlone (.agreeing "H")
        (Chain.afterAll (.agreeing "H")
          (.new (.make .program "zdemo") "S1" { deleteOnFailure := true }) [recreated.1]) := by
  have ended : recreated.1.outcome (.agreeing "H")
      (.new (.make .program "zdemo") "S1" { deleteOnFailure := true }) = .ok () := rfl
  refine ⟨ended, fun halone => ?_⟩
  have hfinal := Chain.finished_rejects (.agreeing "H") _ rfl ended [] recreated.2 rfl
  exact (hfinal.2.2.1 halone rfl).1 (.inr rfl)

end EditLock
