/-
# Stateful while a lock is held

Between its operations a chain is stateful only at a stage of a held lock and with the handle of that
lock. The converse holds too, but for one way out: a whole chain that fails ends stateless, and where
its clean-up could not release the lock, stage and handle stay those of a held lock. So a chain is
stateful all the while that a lock is held, unless a whole chain has failed since the lock was taken
(`Chain.UnfailedSince`).

Every step and every whole chain that comes to its end keeps both directions (`Chain.Attuned`); a
whole chain that fails leaves the first.

Key definitions: `Chain.Attuned`, `Visit.Failed`, `Chain.UnfailedSince`.
Key theorems: `Visit.attuned`, `Chain.taken_of_held`, `Chain.attuned_afterAll`,
`Chain.stateful_while_held`.
-/
import EditLock.Proofs.Chain.Finished
import EditLock.Proofs.Chain.KeepingStep
import EditLock.Proofs.Chain.Lifetime

namespace EditLock

variable {σ α : Type}

/-- Only a release leads out of the stages of a held lock. -/
theorem Stage.isLocked_next {stage next : Stage} {step : Step} (order : stage.next? step = some next)
    (hstep : step ≠ .unlock) (locked : stage.isLocked = true) : next.isLocked = true := by
  cases stage <;> cases step <;> simp_all [Stage.next?, Stage.isLocked] <;> subst order <;> rfl

theorem Stage.not_isLocked_of_canFinish {stage : Stage} (h : stage.canFinish = true) :
    stage.isLocked = false := by
  cases stage <;> first | rfl | cases h

namespace Chain

open Act

/-- A chain is stateful only at a stage of a held lock and with its handle; on the condition `P`, it
is stateful whenever it is there. -/
structure Attuned (P : Prop) (c : Chain) : Prop where
  held : c.mode = .stateful → c.stage.isLocked = true ∧ c.handle ≠ none
  stateful : P → c.stage.isLocked = true → c.handle ≠ none → c.mode = .stateful

section Attuned

variable {P : Prop} {c : Chain}

theorem Attuned.mono {P' : Prop} (h : c.Attuned P) (hP : P' → P) : c.Attuned P' :=
  ⟨h.held, fun hP' => h.stateful (hP hP')⟩

theorem attuned_of_unlocked (mode : c.mode = .stateless) (unlocked : c.stage.isLocked = false) :
    c.Attuned P where
  held hmode := nomatch mode.symm.trans hmode
  stateful _ hlocked := nomatch unlocked.symm.trans hlocked

theorem attuned_of_free (mode : c.mode = .stateless) (free : c.handle = none) : c.Attuned P where
  held hmode := nomatch mode.symm.trans hmode
  stateful _ _ held := absurd free held

end Attuned

variable {peer : Collaborator σ} {P : Prop}

/-! ### Steps -/

/-- A step that neither takes nor releases a lock stays on its side of the stages of a held lock. -/
theorem askKept_attuned : AskKept peer (·.isPlain = true) (fun s => s.chain.Attuned P) := by
  intro step call s out hr hstep hplain hs
  have hlock : step ≠ .lock := hstep ▸ Call.isPlain_step hplain
  have hunlock : step ≠ .unlock := by
    rintro rfl
    cases call <;> cases hstep
    cases hplain
  cases hr with
  | rejected => exact hs
  | failed => exact hs
  | answered order =>
    refine ⟨fun hmode => ?_, fun hP hlocked => ?_⟩
    · obtain ⟨hlocked, held⟩ := hs.held hmode
      exact ⟨Stage.isLocked_next order hunlock hlocked, held⟩
    · exact hs.stateful hP (Stage.isLocked_of_next? order hlock hlocked)

theorem lock_attuned : Keeps (fun s => s.chain.Attuned P) (lock peer) := by
  refine keeps_of_perform fun s hs => ?_
  have hrun := lock_run peer s
  generalize (lock peer).perform s = out at hrun ⊢
  cases hrun with
  | rejected => exact hs
  | refused order => exact attuned_of_unlocked rfl (Stage.not_isLocked_of_next?_lock order)
  | unrecorded order _ _ release =>
    have hunlocked := Stage.not_isLocked_of_next?_lock order
    cases release <;> exact attuned_of_unlocked rfl hunlocked
  | recorded order =>
    obtain rfl := Stage.eq_locked_of_next? order
    exact ⟨fun _ => ⟨rfl, nofun⟩, fun _ _ _ => rfl⟩

theorem resumeLock_attuned :
    Keeps (fun s => s.chain.Attuned P) (resumeLock : Act σ String) := by
  refine keeps_of_perform fun s hs => ?_
  have hrun := resumeLock_run s
  generalize (resumeLock : Act σ String).perform s = out at hrun ⊢
  cases hrun with
  | rejected => exact hs
  | failed => exact hs
  | resumed order =>
    obtain rfl := Stage.eq_locked_of_next? order
    exact ⟨fun _ => ⟨rfl, nofun⟩, fun _ _ _ => rfl⟩

/-- The requests are stateless, and no handle is kept. -/
def Released (s : Scene σ) : Prop :=
  s.chain.mode = .stateless ∧ s.chain.handle = none

theorem Released.attuned {s : Scene σ} (h : Released s) : s.chain.Attuned P :=
  attuned_of_free h.1 h.2

theorem askKept_released : AskKept peer (·.isPlain = true) Released := by
  intro step call s out hr _ _ hs
  exact ⟨hr.mode.trans hs.1, hr.handle.trans hs.2⟩

theorem unlock_attuned : Keeps (fun s => s.chain.Attuned P) (unlock peer) := by
  refine keeps_of_perform fun s hs => ?_
  have hrun := unlock_run peer s
  generalize (unlock peer).perform s = out at hrun ⊢
  cases hrun with
  | rejected => exact hs
  | refused => exact hs
  | released => exact attuned_of_free rfl rfl

theorem unlock_released {P : Scene σ → Prop} :
    Leads P (unlock peer) (fun _ => Released) (fun _ _ => True) := by
  intro s _
  have hrun := unlock_run peer s
  generalize hout : (unlock peer).perform s = out at hrun ⊢
  cases hrun with
  | rejected => trivial
  | refused => trivial
  | @released next handle r result registry _ _ _ removal =>
    cases removal with
    | removed => exact ⟨rfl, rfl⟩
    | unwritable => trivial

/-- A forced release ends stateless and without a handle, unless the registry could not be asked
whose lock is to be released. -/
theorem forceUnlock_attuned : Keeps (fun s => s.chain.Attuned P) (forceUnlock peer) := by
  refine keeps_of_perform fun s hs => ?_
  have hrun := forceUnlock_run peer s
  generalize (forceUnlock peer).perform s = out at hrun ⊢
  cases hrun with
  | lookupFailed => exact hs
  | nothingHeld free => exact attuned_of_free rfl free
  | stuck => exact attuned_of_free rfl rfl
  | unlocked => exact attuned_of_free rfl rfl
  | unlockFailed => exact attuned_of_free rfl rfl

/-! ### Whole chains -/

/-- The requests are stateless. -/
def Rests (s : Scene σ) : Prop :=
  s.chain.mode = .stateless

/-- A chain that is aborted ends stateless. -/
theorem abort_rests {P : Scene σ → Prop} {Q : α → Scene σ → Prop} (step : Step) (e : Failure) :
    Leads P (abort peer step e : Act σ α) Q (fun _ => Rests) := by
  intro s _
  obtain ⟨s₁, s₂, -, -, habort⟩ := abort_run (α := α) peer step e s
  rw [habort]
  rfl

/-- Wherever a whole chain is cut, it ends stateless. -/
theorem attempt_rests {P Q : Scene σ → Prop} {F : Failure → Scene σ → Prop} {act : Act σ α}
    (h : Leads P act (fun _ => Q) F) (step : Step) :
    Attempts peer P step act Q (fun _ => Rests) :=
  leads_attempt peer h fun e => abort_rests step e

theorem edit_released (source : String) :
    Leads (fun s => s.chain.Attuned P) (editUnderLock peer source) (fun _ => Released)
      (fun _ => Rests) := by
  have hcheck (payload : Option String) : Keeps Released (check peer payload) :=
    askKept_released.keeps_check fun _ => rfl
  have hsettle : Leads Released (settle peer) (fun _ => Released) (fun _ => Released) :=
    leads_settle (fun _ => askKept_released.keeps_read rfl) (fun _ _ _ hs => hs) fun _ _ hs => hs
  exact leads_editUnderLock (attempt_rests lock_attuned .lock)
    (attempt_rests (askKept_attuned.keeps_check fun _ => rfl) .check)
    (attempt_rests (askKept_attuned.keeps_update fun _ => rfl) .update)
    (attempt_rests unlock_released .unlock) (attempt_rests hsettle .read)
    (leads_finalCheck (hcheck none) (fun _ _ _ hs => hs) fun e => abort_rests .check e)
    (attempt_rests (askKept_released.keeps_activate rfl) .activate)

theorem finish_attuned {C : Scene σ → Prop} (h : ∀ s, C s → s.chain.Attuned P) :
    Leads C (finish : Act σ Unit) (fun _ s => s.chain.Attuned P) (fun _ => Rests) := by
  refine leads_finish (fun s hs _ => h s hs) fun s hs hfinish => ?_
  have hunlocked := Stage.not_isLocked_of_canFinish hfinish
  refine attuned_of_unlocked ?_ rfl
  cases hmode : s.chain.mode with
  | stateless => exact hmode
  | stateful => exact nomatch hunlocked.symm.trans ((h s hs).held hmode).1

/-- **A whole chain that comes to its end keeps attuned; one that fails ends stateless.** -/
theorem run_attuned {op : Operation} (run : op.isRun = true) :
    Leads (fun s => s.chain.Attuned P) (op.act peer) (fun _ s => s.chain.Attuned P)
      (fun _ => Rests) := by
  cases op with
  | runCreate payload source =>
    exact leads_runCreate (attempt_rests (askKept_attuned.keeps_validate rfl) .validate)
      (fun e => abort_rests .validate e)
      (attempt_rests (askKept_attuned.keeps_create rfl) .create)
      (attempt_rests (askKept_attuned.keeps_check fun _ => rfl) .check) (edit_released source)
      (finish_attuned fun _ hs => hs.attuned)
  | runUpdate source =>
    exact leads_runUpdate (edit_released source) (finish_attuned fun _ hs => hs.attuned)
  | runDelete =>
    exact leads_runDelete (attempt_rests (askKept_attuned.keeps_check fun _ => rfl) .check)
      (attempt_rests (askKept_attuned.keeps_delete fun _ => rfl) .delete)
      (finish_attuned fun _ hs => hs)
  | runWrite source =>
    exact leads_runWrite (attempt_rests resumeLock_attuned .lock)
      (attempt_rests (askKept_attuned.keeps_check fun _ => rfl) .check)
      (attempt_rests (askKept_attuned.keeps_update fun _ => rfl) .update)
  | _ => cases run

/-- **A step keeps attuned, whether it fails or not.** -/
theorem step_attuned {op : Operation} (single : op.isRun = false) :
    Keeps (fun s => s.chain.Attuned P) (op.act peer) := by
  cases op with
  | validate => exact (askKept_attuned.keeps_validate rfl).discard
  | create payload => exact (askKept_attuned.keeps_create rfl).discard
  | check payload => exact (askKept_attuned.keeps_check fun _ => rfl).discard
  | lock => exact lock_attuned.discard
  | resumeLock => exact resumeLock_attuned.discard
  | update payload => exact (askKept_attuned.keeps_update fun _ => rfl).discard
  | unlock => exact unlock_attuned.discard
  | activate => exact (askKept_attuned.keeps_activate rfl).discard
  | delete => exact (askKept_attuned.keeps_delete fun _ => rfl).discard
  | read budget => exact (askKept_attuned.keeps_read rfl).discard
  | forceUnlock => exact forceUnlock_attuned.discard
  | _ => cases single

end Chain

/-! ### Visits -/

/-- A whole chain was asked for, and it failed. -/
def Visit.Failed (peer : Collaborator σ) (v : Visit σ) (c : Chain) : Prop :=
  v.operation.isRun = true ∧ ∃ e, ((v.operation.act peer).perform (v.scene c)).1 = .error e

/-- A visit keeps a chain attuned unless it is a whole chain that fails; that one ends stateless. -/
theorem Visit.attuned (peer : Collaborator σ) (v : Visit σ) {P : Prop} {c : Chain}
    (h : c.Attuned P) :
    (v.Failed peer c ∧ (v.sceneAfter peer c).chain.mode = .stateless) ∨
      (v.sceneAfter peer c).chain.Attuned P := by
  have hscene : (v.scene c).chain.Attuned P := h
  unfold Failed sceneAfter
  cases hrun : v.operation.isRun with
  | false => exact .inr ((Chain.step_attuned hrun).perform hscene)
  | true =>
    have hruns : Act.Leads (fun s => s.chain.Attuned P) (v.operation.act peer)
        (fun _ s => s.chain.Attuned P) fun _ => Chain.Rests := Chain.run_attuned hrun
    have hleads := hruns (v.scene c) hscene
    generalize (v.operation.act peer).perform (v.scene c) = out at hleads ⊢
    obtain ⟨result, s'⟩ := out
    cases result with
    | ok _ => exact .inr hleads
    | error e => exact .inl ⟨⟨rfl, e, rfl⟩, hleads⟩

namespace Chain

/-- No whole chain has failed since the lock was taken: where one failed, none had been taken by its
end. -/
def UnfailedSince (peer : Collaborator σ) (c : Chain) (visits : List (Visit σ)) : Prop :=
  ∀ before v after, visits = before ++ v :: after → v.Failed peer (c.afterAll peer before) →
    (c.history peer (before ++ [v])).filterMap LockEvent.taken? = []

theorem afterAll_append (peer : Collaborator σ) (c : Chain) (visits : List (Visit σ))
    (v : Visit σ) :
    c.afterAll peer (visits ++ [v]) = (v.sceneAfter peer (c.afterAll peer visits)).chain := by
  simp [afterAll]

theorem UnfailedSince.earlier {peer : Collaborator σ} {c : Chain} {visits : List (Visit σ)}
    {v : Visit σ} (h : c.UnfailedSince peer (visits ++ [v])) : c.UnfailedSince peer visits := by
  intro before u after hsplit
  exact h before u (after ++ [v]) (by simp [hsplit])

/-- A chain that is at a stage of a held lock, with its handle, has taken a lock. -/
theorem taken_of_held (peer : Collaborator σ) {c : Chain} (fresh : c.IsFresh)
    (visits : List (Visit σ)) (locked : (c.afterAll peer visits).stage.isLocked = true)
    (held : (c.afterAll peer visits).handle ≠ none) :
    (c.history peer visits).filterMap LockEvent.taken? ≠ [] := by
  have hcourse := history_onCourse peer (course_of_isFresh fresh) visits
  obtain ⟨handle, held⟩ := Option.ne_none_iff_exists'.1 held
  rcases hcourse.stands with huntaken | htaken
  · exact nomatch huntaken.stage.symm.trans locked
  · obtain ⟨before, since, hevents, -⟩ := htaken.held handle held
    rw [List.nil_append] at hevents
    simp [hevents, LockEvent.taken?]

/-- Over all visits, a chain stays attuned on the condition that none failed since its lock was
taken. -/
theorem attuned_afterAll (peer : Collaborator σ) {c : Chain} (fresh : c.IsFresh)
    (start : c.mode = .stateless) (visits : List (Visit σ)) :
    (c.afterAll peer visits).Attuned (c.UnfailedSince peer visits) := by
  induction visits using List.reverseRecOn with
  | nil => exact attuned_of_free start fresh.handle
  | append_singleton visits v ih =>
    rcases v.attuned peer ih with ⟨hfailed, hmode⟩ | hattuned
    · -- A whole chain that failed after the lock was taken would contradict the condition.
      rw [← afterAll_append] at hmode
      refine ⟨fun hstateful => ?_, fun hunfailed hlocked held => ?_⟩
      · exact nomatch hmode.symm.trans hstateful
      · exact absurd (hunfailed visits v [] rfl hfailed) (taken_of_held peer fresh _ hlocked held)
    · rw [afterAll_append]
      exact hattuned.mono fun hunfailed => hunfailed.earlier

/-- **Stateful only while a lock is held.** A new chain that starts stateless does any operations,
whatever is answered, whatever others do to the registry in between and whichever statements fail.
Between the operations it is stateful only at a stage of a held lock and with a handle; and it is
stateful whenever it is there, unless a whole chain has failed since the lock was taken. -/
theorem stateful_while_held (peer : Collaborator σ) {c : Chain} (fresh : c.IsFresh)
    (start : c.mode = .stateless) (visits : List (Visit σ)) :
    ((c.afterAll peer visits).mode = .stateful →
      (c.afterAll peer visits).stage.isLocked = true ∧ (c.afterAll peer visits).handle ≠ none) ∧
    (c.UnfailedSince peer visits → (c.afterAll peer visits).stage.isLocked = true →
      (c.afterAll peer visits).handle ≠ none → (c.afterAll peer visits).mode = .stateful) := by
  have hattuned := attuned_afterAll peer fresh start visits
  exact ⟨hattuned.held, hattuned.stateful⟩

/-- There is no record to write under, so the whole chain fails; then a lock is taken and the source
written under it. -/
def lockedAfterFailure : List (Visit Bool) :=
  [⟨.runWrite "x", {}, true, default, 1⟩, ⟨.lock, {}, true, default, 1⟩,
    ⟨.update "x", {}, true, default, 1⟩]

/-- The whole chain failed before the lock was taken. -/
theorem lockedAfterFailure_unfailed :
    (Chain.new (.make .program "zdemo") "S1" {}).UnfailedSince (.agreeing "H")
      lockedAfterFailure := by
  rintro (_ | ⟨u, _ | ⟨w, _ | ⟨x, before⟩⟩⟩) v after hsplit ⟨hrun, -⟩
  · cases hsplit
    rfl
  · cases hsplit
    cases hrun
  · cases hsplit
    cases hrun
  · simp [lockedAfterFailure] at hsplit

theorem lockedAfterFailure_stateful :
    (Chain.new (.make .program "zdemo") "S1" {}).IsFresh ∧
      ((Chain.new (.make .program "zdemo") "S1" {}).afterAll (.agreeing "H")
        lockedAfterFailure).mode = .stateful := by
  have fresh : (Chain.new (.make .program "zdemo") "S1" {}).IsFresh := rfl
  refine ⟨fresh, (stateful_while_held (.agreeing "H") fresh rfl lockedAfterFailure).2
    lockedAfterFailure_unfailed ?_ ?_⟩
  · rfl
  · exact Option.ne_none_iff_exists'.2 ⟨"H", rfl⟩

end Chain

end EditLock
