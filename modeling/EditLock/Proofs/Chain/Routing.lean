/-
# How the calls of a chain are routed

The calls made while a lock is open are stateful, and so is the deletion that undoes a creation; all
others are stateless. An edit goes through three phases: before the lock is asked for and after it
was released (`Outside`), under the lock (`Inside`), and a failure on the way to the end of the
chain (`Stopped`). Each part of an edit leads from one phase to another, and the clean-up at the end
of a failed chain finds a lock open if it has one to release.

Key definitions: `Bracketed`, `Chain.Outside`, `Chain.Inside`, `Chain.Stopped`.
Key theorems: `Chain.lock_opens`, `Chain.unlock_closes`, `Chain.abort_ends`,
`Chain.edit_ends_outside`, `Chain.calls_bracketed`.
-/
import EditLock.Proofs.Chain.Calls

namespace EditLock

variable {σ α : Type}

/-- A call is stateful just where it asks for a lock, or a lock is open, or it deletes. -/
def Bracketed (calls : List Exchange) : Prop :=
  ∀ before e after, calls = before ++ e :: after →
    (e.mode = .stateful ↔
      e.call = .lock ∨ (∃ l, OpenLock before l) ∨ ∃ handle, e.call = .delete handle)

theorem bracketed_nil : Bracketed [] := by
  intro before e after h
  simp at h

theorem Bracketed.append {calls : List Exchange} {e : Exchange} (h : Bracketed calls)
    (he : e.mode = .stateful ↔
      e.call = .lock ∨ (∃ l, OpenLock calls l) ∨ ∃ handle, e.call = .delete handle) :
    Bracketed (calls ++ [e]) := by
  intro before x after hsplit
  rcases append_singleton_split hsplit with ⟨rfl, rfl, -⟩ | ⟨rest, -, hcalls⟩
  · exact he
  · exact h before x rest hcalls

namespace Chain

open Act

variable (peer : Collaborator σ)

/-! ### Phases -/

/-- No lock is open, and requests are stateless. -/
structure Outside (s : Scene σ) : Prop where
  handle : s.chain.handle = none
  mode : s.chain.mode = .stateless
  bracketed : Bracketed s.calls
  closed : ∀ l, ¬ OpenLock s.calls l

/-- The held lock is open and no other, and requests are stateful. -/
structure Inside (s : Scene σ) : Prop where
  mode : s.chain.mode = .stateful
  bracketed : Bracketed s.calls
  opened : ∃ l, OpenLock s.calls l
  held : ∀ l, OpenLock s.calls l → l.granted? = s.chain.handle

/-- The chain stopped somewhere: a lock that is held is open. -/
structure Stopped (s : Scene σ) : Prop where
  bracketed : Bracketed s.calls
  opened : ∀ {handle}, s.chain.handle = some handle → ∃ l, OpenLock s.calls l

/-- The chain came to its end. -/
structure Ended (s : Scene σ) : Prop where
  mode : s.chain.mode = .stateless
  bracketed : Bracketed s.calls

variable {peer}

theorem Outside.stopped {s : Scene σ} (h : Outside s) : Stopped s :=
  ⟨h.bracketed, fun hh => by simp [h.handle] at hh⟩

theorem Inside.stopped {s : Scene σ} (h : Inside s) : Stopped s :=
  ⟨h.bracketed, fun _ => h.opened⟩

theorem Outside.ended {s : Scene σ} (h : Outside s) : Ended s :=
  ⟨h.mode, h.bracketed⟩

/-- A plain call that does not delete is routed as the phase has it. -/
theorem Outside.asked (peer : Collaborator σ) {s : Scene σ} (h : Outside s) {call : Call}
    (hp : call.isPlain = true)
    (hd : ∀ handle, call ≠ .delete handle) : Outside (s.asked peer call) := by
  have hlock : call ≠ .lock := by
    rintro rfl
    cases hp
  have hmode : s.chain.mode ≠ .stateful := by simp [h.mode]
  refine ⟨h.handle, h.mode, h.bracketed.append ?_, fun l hl => ?_⟩
  · simp [hmode, hlock, hd, h.closed]
  · rw [Scene.asked_calls,
      openLock_append_of_released? hlock (Exchange.released?_of_isPlain hp)] at hl
    exact h.closed l hl

theorem Inside.asked (peer : Collaborator σ) {s : Scene σ} (h : Inside s) {call : Call}
    (hp : call.isPlain = true) :
    Inside (s.asked peer call) := by
  have hlock : call ≠ .lock := by
    rintro rfl
    cases hp
  have hopen (l) : OpenLock (s.asked peer call).calls l ↔ OpenLock s.calls l :=
    openLock_append_of_released? hlock (Exchange.released?_of_isPlain hp) l
  refine ⟨h.mode, h.bracketed.append ?_, ?_, fun l hl => ?_⟩
  · simp [h.mode, h.opened]
  · simpa only [hopen] using h.opened
  · exact h.held l ((hopen l).1 hl)

/-- A step with a plain call other than a deletion stays outside, whatever is answered. -/
theorem Outside.askRun {s : Scene σ} (h : Outside s) {step : Step} {call : Call}
    {out : Except Failure call.Answer × Scene σ} (hr : AskRun peer step call s out)
    (hp : call.isPlain = true) (hd : ∀ handle, call ≠ .delete handle) : Outside out.2 := by
  have hasked := h.asked peer hp hd
  cases hr with
  | rejected => exact h
  | failed => exact hasked
  | answered => exact ⟨hasked.handle, hasked.mode, hasked.bracketed, hasked.closed⟩

theorem Inside.askRun {s : Scene σ} (h : Inside s) {step : Step} {call : Call}
    {out : Except Failure call.Answer × Scene σ} (hr : AskRun peer step call s out)
    (hp : call.isPlain = true) : Inside out.2 := by
  have hasked := h.asked peer hp
  cases hr with
  | rejected => exact h
  | failed => exact hasked
  | answered => exact ⟨hasked.mode, hasked.bracketed, hasked.opened, hasked.held⟩

/-! ### From phase to phase -/

section Locks

variable {s : Scene σ} (peer)

/-- A release is stateful while a lock is open. -/
theorem bracketed_asked_unlock (hb : Bracketed s.calls) (hm : s.chain.mode = .stateful)
    (ho : ∃ l, OpenLock s.calls l) (handle : String) :
    Bracketed (s.asked peer (.unlock handle)).calls :=
  hb.append (by simp [hm, ho])

/-- A release that failed closes no lock. -/
theorem openLock_of_unlock_failed {handle : String} {e : Failure}
    (answer : s.answer peer (.unlock handle) = .error e) (l : Exchange) :
    OpenLock (s.asked peer (.unlock handle)).calls l ↔ OpenLock s.calls l := by
  have hr :
      Exchange.released? ⟨.unlock handle, s.chain.mode, s.answer peer (.unlock handle)⟩ = none := by
    rw [answer]
    rfl
  exact openLock_append_of_released? (by simp) hr l

theorem Outside.lockAsked_bracketed (h : Outside s) : Bracketed (lockAsked peer s).calls :=
  h.bracketed.append (by simp)

theorem Outside.openLock_lockAsked (h : Outside s) (l : Exchange) :
    OpenLock (lockAsked peer s).calls l ↔
      l = ⟨.lock, .stateful, (s.routed .stateful).answer peer .lock⟩ := by
  rw [lockAsked_calls, openLock_append]
  simp [h.closed]

end Locks

/-- Taking the lock opens it; a lock that could not be recorded is released, or stays open. -/
theorem lock_opens : Leads Outside (lock peer) (fun _ => Inside) (fun _ => Stopped) := by
  intro s hs
  have hrun := lock_run peer s
  have hb := hs.lockAsked_bracketed peer
  have ho := hs.openLock_lockAsked peer
  have hopen : ∃ l, OpenLock (lockAsked peer s).calls l := ⟨_, (ho _).2 rfl⟩
  generalize (lock peer).perform s = out at hrun ⊢
  cases hrun with
  | rejected => exact hs.stopped
  | refused => exact ⟨hb, fun held => nomatch hs.handle.symm.trans held⟩
  | @unrecorded _ handle _ registry _ _ _ _ release =>
    have hreleased :
        Bracketed (((lockAsked peer s).withRegistry registry).asked peer (.unlock handle)).calls :=
      bracketed_asked_unlock peer hb rfl hopen handle
    cases release with
    | released => exact ⟨hreleased, fun held => nomatch hs.handle.symm.trans held⟩
    | kept answer =>
      refine ⟨hreleased, fun _ => ?_⟩
      obtain ⟨l, hl⟩ := hopen
      exact ⟨l, (openLock_of_unlock_failed peer answer l).2 hl⟩
  | recorded _ answer =>
    refine ⟨rfl, hb, hopen, fun l hl => ?_⟩
    rw [(ho l).1 hl, answer]
    rfl

/-- Releasing the lock closes it, also if its record could not be removed. -/
theorem unlock_closes :
    Leads Inside (unlock peer) (fun _ => Outside) (fun _ => Stopped) := by
  intro s hs
  have hrun := unlock_run peer s
  generalize (unlock peer).perform s = out at hrun ⊢
  have hb := bracketed_asked_unlock peer hs.bracketed hs.mode hs.opened
  cases hrun with
  | rejected => exact hs.stopped
  | refused _ _ answer =>
    refine ⟨hb _, fun _ => ?_⟩
    obtain ⟨l, hl⟩ := hs.opened
    exact ⟨l, (openLock_of_unlock_failed peer answer l).2 hl⟩
  | @released _ handle r result _ _ held answer =>
    cases result with
    | error e => exact ⟨hb handle, fun held => nomatch held⟩
    | ok any =>
      refine ⟨rfl, rfl, hb handle, fun l hl => ?_⟩
      -- the lock that was open was granted under the handle that was released
      rcases (openLock_append ..).1 hl with ⟨-, hcall⟩ | ⟨hl, hn⟩
      · cases hcall
      · exact hn ⟨handle, (hs.held l hl).trans held, by rw [answer]; rfl⟩

/-- The clean-up releases what is open, and deletes, with stateful calls. -/
theorem abort_ends (step : Step) (e : Failure) :
    Leads Stopped (abort peer step e : Act σ α) (fun _ _ => False) (fun _ => Ended) := by
  intro s hs
  obtain ⟨s₁, s₂, hlock, hcreate, hperform⟩ := abort_run (α := α) peer step e s
  rw [hperform]
  have hb₁ : Bracketed s₁.calls := by
    cases hlock with
    | nothing => exact hs.bracketed
    | released held => exact hs.bracketed.append (by simp [hs.opened held])
    | kept held => exact hs.bracketed.append (by simp [hs.opened held])
  have hb₂ : Bracketed s₂.calls := by
    cases hcreate with
    | nothing => exact hb₁
    | deleted => exact hb₁.append (by simp)
    | kept => exact hb₁.append (by simp)
  exact ⟨rfl, hb₂⟩

/-! ### Whole chains -/

/-- Wherever a chain stops, the clean-up ends it. -/
theorem abort_from {P Q : Scene σ → Prop} (h : ∀ s, P s → Stopped s) (step : Step) (e : Failure) :
    Leads P (abort peer step e : Act σ α) (fun _ => Q) (fun _ => Ended) :=
  (abort_ends step e).mono h (fun _ _ hs => hs.elim) fun _ _ hs => hs

theorem attempt_ends {P Q : Scene σ → Prop} {act : Act σ α} {step : Step}
    (h : Leads P act (fun _ => Q) (fun _ => Stopped)) :
    Attempts peer P step act Q (fun _ => Ended) :=
  leads_attempt peer h fun e => abort_from (fun _ hs => hs) step e

/-- A part that stays outside may fail there. -/
theorem attempt_outside {act : Act σ α} (h : Keeps Outside act) (step : Step) :
    Attempts peer Outside step act Outside (fun _ => Ended) :=
  leads_attempt peer h fun e => abort_from (fun _ hs => hs.stopped) step e

/-- A part that stays inside may fail there. -/
theorem attempt_inside {act : Act σ α} (h : Keeps Inside act) (step : Step) :
    Attempts peer Inside step act Inside (fun _ => Ended) :=
  leads_attempt peer h fun e => abort_from (fun _ hs => hs.stopped) step e

theorem askKept_outside :
    AskKept peer (fun call => call.isPlain = true ∧ ∀ handle, call ≠ .delete handle) Outside :=
  fun _ _ _ _ hr _ hp hs => hs.askRun hr hp.1 hp.2

theorem askKept_inside : AskKept peer (·.isPlain = true) Inside :=
  fun _ _ _ _ hr _ hp hs => hs.askRun hr hp

theorem settle_outside : Keeps Outside (settle peer) :=
  leads_settle (fun _ => askKept_outside.keeps_read (by simp [Call.isPlain]))
    (fun _ _ _ hs => ⟨hs.handle, hs.mode, hs.bracketed, hs.closed⟩)
    fun _ _ hs => hs

theorem finalCheck_outside :
    Leads Outside (finalCheck peer) (fun _ => Outside) (fun _ => Ended) :=
  leads_finalCheck (askKept_outside.keeps_check (by simp [Call.isPlain]))
    (fun _ _ _ hs => ⟨hs.handle, hs.mode, hs.bracketed, hs.closed⟩)
    fun e => abort_from (fun _ hs => hs.stopped) .check e

/-- An edit starts and ends outside, or the chain ends. -/
theorem edit_ends_outside (source : String) :
    Leads Outside (editUnderLock peer source) (fun _ => Outside) (fun _ => Ended) :=
  leads_editUnderLock (attempt_ends lock_opens)
    (attempt_inside (askKept_inside.keeps_check fun _ => rfl) .check)
    (attempt_inside (askKept_inside.keeps_update fun _ => rfl) .update) (attempt_ends unlock_closes)
    (attempt_outside settle_outside .read) finalCheck_outside
    (attempt_outside (askKept_outside.keeps_activate (by simp [Call.isPlain])) .activate)

theorem finish_ends : Leads Outside (finish : Act σ Unit) (fun _ => Ended) (fun _ => Ended) :=
  leads_finish (fun _ hs _ => hs.ended) fun _ hs _ => ⟨hs.mode, hs.bracketed⟩

theorem runCreate_ends (payload : Option String) (source : String) :
    Leads Outside (runCreate peer payload source) (fun _ => Ended) (fun _ => Ended) :=
  leads_runCreate
    (attempt_outside (askKept_outside.keeps_validate (by simp [Call.isPlain])) .validate)
    (fun e => abort_from (fun _ hs => hs.stopped) .validate e)
    (attempt_outside (askKept_outside.keeps_create (by simp [Call.isPlain])) .create)
    (attempt_outside (askKept_outside.keeps_check (by simp [Call.isPlain])) .check)
    (edit_ends_outside source) finish_ends

theorem runUpdate_ends (source : String) :
    Leads Outside (runUpdate peer source) (fun _ => Ended) (fun _ => Ended) :=
  leads_runUpdate (edit_ends_outside source) finish_ends

/-! ### Chains that ask for no lock -/

/-- No lock is held, nothing was created, and all requests are stateless. -/
structure Lockless (s : Scene σ) : Prop where
  handle : s.chain.handle = none
  created : s.chain.created = false
  mode : s.chain.mode = .stateless
  calls : ∀ e ∈ s.calls, e.mode = .stateless

/-- Nothing was created, and all calls were stateful. -/
structure Stateful (s : Scene σ) : Prop where
  created : s.chain.created = false
  calls : ∀ e ∈ s.calls, e.mode = .stateful

theorem Lockless.askRun {s : Scene σ} (h : Lockless s) {step : Step} {call : Call}
    {out : Except Failure call.Answer × Scene σ} (hr : AskRun peer step call s out)
    (hstep : step ≠ .create) : Lockless out.2 := by
  have hcalls : ∀ e ∈ (s.asked peer call).calls, e.mode = .stateless := by
    rw [Scene.asked_calls]
    exact List.forall_mem_append.2 ⟨h.calls, by simp [h.mode]⟩
  cases hr with
  | rejected => exact h
  | failed => exact ⟨h.handle, h.created, h.mode, hcalls⟩
  | answered => exact ⟨h.handle, by simp [advanced, hstep, h.created], h.mode, hcalls⟩

/-- A chain that holds nothing and created nothing has nothing to undo. -/
theorem abort_lockless (step : Step) (e : Failure) :
    Leads Lockless (abort peer step e : Act σ α) (fun _ => Lockless) (fun _ => Lockless) := by
  intro s hs
  obtain ⟨s₁, s₂, hlock, hcreate, hperform⟩ := abort_run (α := α) peer step e s
  rw [hperform]
  have h₁ : Lockless s₁ := by
    cases hlock with
    | nothing => exact ⟨hs.handle, hs.created, hs.mode, hs.calls⟩
    | released held => exact nomatch hs.handle.symm.trans held
    | kept held => exact nomatch hs.handle.symm.trans held
  have h₂ : Lockless s₂ := by
    cases hcreate with
    | nothing => exact h₁
    | deleted asked => simp [h₁.created] at asked
    | kept asked => simp [h₁.created] at asked
  exact ⟨h₂.handle, h₂.created, rfl, h₂.calls⟩

theorem runDelete_lockless :
    Leads Lockless (runDelete peer) (fun _ => Lockless) (fun _ => Lockless) := by
  have hasked : AskKept peer (·.step ≠ .create) Lockless :=
    fun _ _ _ _ hr hstep hc hs => hs.askRun hr (hstep ▸ hc)
  exact leads_runDelete
    (leads_attempt peer (hasked.keeps_check (by simp [Call.step])) fun e =>
      abort_lockless .check e)
    (leads_attempt peer (hasked.keeps_delete (by simp [Call.step])) fun e =>
      abort_lockless .delete e)
    (leads_finish (fun _ hs _ => hs) fun _ hs _ => ⟨hs.handle, hs.created, hs.mode, hs.calls⟩)

theorem Stateful.asked (peer : Collaborator σ) {s : Scene σ} (h : Stateful s)
    (hm : s.chain.mode = .stateful) (call : Call) : Stateful (s.asked peer call) := by
  refine ⟨h.created, ?_⟩
  rw [Scene.asked_calls]
  exact List.forall_mem_append.2 ⟨h.calls, by simp [hm]⟩

theorem Stateful.askRun {s : Scene σ} (h : Stateful s) (hm : s.chain.mode = .stateful) {step : Step}
    {call : Call} {out : Except Failure call.Answer × Scene σ} (hr : AskRun peer step call s out)
    (hstep : step ≠ .create) : Stateful out.2 ∧ out.2.chain.mode = .stateful := by
  have hasked := h.asked peer hm call
  cases hr with
  | rejected => exact ⟨h, hm⟩
  | failed => exact ⟨hasked, hm⟩
  | answered => exact ⟨⟨by simp [advanced, hstep, h.created], hasked.calls⟩, hm⟩

/-- A chain that created nothing only has its lock to release, with a stateful call. -/
theorem abort_stateful (step : Step) (e : Failure) :
    Leads Stateful (abort peer step e : Act σ α) (fun _ _ => False)
      (fun _ s => Stateful s ∧ s.chain.mode = .stateless) := by
  intro s hs
  obtain ⟨s₁, s₂, hlock, hcreate, hperform⟩ := abort_run (α := α) peer step e s
  rw [hperform]
  have h₁ : Stateful s₁ := by
    have hr : Stateful ((s.withChain fun c => c.withFailure step e).routed .stateful) :=
      ⟨hs.created, hs.calls⟩
    cases hlock with
    | nothing => exact ⟨hs.created, hs.calls⟩
    | @released handle =>
      have hu := hr.asked peer rfl (.unlock handle)
      exact ⟨hu.created, hu.calls⟩
    | @kept handle =>
      have hu := hr.asked peer rfl (.unlock handle)
      exact ⟨hu.created, hu.calls⟩
  have h₂ : Stateful s₂ := by
    cases hcreate with
    | nothing => exact h₁
    | deleted asked => simp [h₁.created] at asked
    | kept asked => simp [h₁.created] at asked
  exact ⟨⟨h₂.created, h₂.calls⟩, rfl⟩

theorem attempt_stateful {P : Scene σ → Prop} {act : Act σ α} {step : Step}
    (h : Leads P act (fun _ s => Stateful s ∧ s.chain.mode = .stateful) (fun _ => Stateful)) :
    Attempts peer P step act (fun s => Stateful s ∧ s.chain.mode = .stateful)
      (fun _ s => Stateful s ∧ s.chain.mode = .stateless) :=
  leads_attempt peer h fun e =>
    (abort_stateful step e).mono (fun _ hs => hs) (fun _ _ hs => hs.elim) fun _ _ hs => hs

/-- Writing under a lock that was recorded earlier calls statefully from the first call on. -/
theorem runWrite_stateful (source : String) :
    Leads (fun s => s.calls = [] ∧ s.chain.created = false) (runWrite peer source)
      (fun _ s => Stateful s ∧ s.chain.mode = .stateful)
      (fun _ s => Stateful s ∧ s.chain.mode = .stateless) := by
  have hresume : Leads (fun s => s.calls = [] ∧ s.chain.created = false) (resumeLock : Act σ String)
      (fun _ s => Stateful s ∧ s.chain.mode = .stateful) (fun _ => Stateful) := by
    rintro s ⟨hcalls, hcreated⟩
    have hrun := resumeLock_run s
    have hnone : ∀ e ∈ s.calls, e.mode = .stateful := by simp [hcalls]
    generalize (resumeLock : Act σ String).perform s = out at hrun ⊢
    cases hrun with
    | rejected => exact ⟨hcreated, hnone⟩
    | failed => exact ⟨hcreated, hnone⟩
    | resumed => exact ⟨⟨hcreated, hnone⟩, rfl⟩
  have hkept {act : Act σ Response}
      (h : Keeps (fun s => Stateful s ∧ s.chain.mode = .stateful) act) :
      Leads (fun s => Stateful s ∧ s.chain.mode = .stateful) act
        (fun _ s => Stateful s ∧ s.chain.mode = .stateful) (fun _ => Stateful) :=
    h.mono (fun _ hs => hs) (fun _ _ hs => hs) fun _ _ hs => hs.1
  have hasked : AskKept peer (·.step ≠ .create) fun s => Stateful s ∧ s.chain.mode = .stateful :=
    fun _ _ _ _ hr hstep hc hs => hs.1.askRun hs.2 hr (hstep ▸ hc)
  exact leads_runWrite (attempt_stateful hresume)
    (attempt_stateful (hkept (hasked.keeps_check (by simp [Call.step]))))
    (attempt_stateful (hkept (hasked.keeps_update (by simp [Call.step]))))

/-! ### From the first call to the last -/

theorem outside_of_opening {s : Scene σ} (h : s.Opening) (hm : s.chain.mode = .stateless) :
    Outside s where
  handle := h.fresh.handle
  mode := hm
  bracketed := by
    rw [h.calls]
    exact bracketed_nil
  closed l := by
    rw [h.calls]
    exact not_openLock_nil l

/-- **The calls of a chain are routed by its lock.** A chain that creates or updates calls
statefully from the lock on until the lock is released, and where it deletes what it created; it
calls statelessly elsewhere, and ends stateless. A chain that deletes is stateless throughout. One
that writes under a lock recorded earlier calls statefully, and stays stateful unless it fails. -/
theorem calls_bracketed (peer : Collaborator σ) {s : Scene σ} (opening : s.Opening)
    (stateless : s.chain.mode = .stateless) (payload : Option String) (source : String) :
    (Bracketed ((runCreate peer payload source).perform s).2.calls ∧
      ((runCreate peer payload source).perform s).2.chain.mode = .stateless) ∧
    (Bracketed ((runUpdate peer source).perform s).2.calls ∧
      ((runUpdate peer source).perform s).2.chain.mode = .stateless) ∧
    ((∀ e ∈ ((runDelete peer).perform s).2.calls, e.mode = .stateless) ∧
      ((runDelete peer).perform s).2.chain.mode = .stateless) ∧
    (∀ e ∈ ((runWrite peer source).perform s).2.calls, e.mode = .stateful) ∧
      ((runWrite peer source).perform s).2.chain.mode =
        match ((runWrite peer source).perform s).1 with
        | .ok _ => .stateful
        | .error _ => .stateless := by
  have houtside := outside_of_opening opening stateless
  have hcreate : Ended ((runCreate peer payload source).perform s).2 :=
    (runCreate_ends payload source).perform houtside
  have hupdate : Ended ((runUpdate peer source).perform s).2 :=
    (runUpdate_ends source).perform houtside
  have hlockless : Lockless s :=
    ⟨houtside.handle, opening.fresh.created, stateless, by simp [opening.calls]⟩
  have hdelete : Lockless ((runDelete peer).perform s).2 := runDelete_lockless.perform hlockless
  have hwrite := @runWrite_stateful _ peer source s ⟨opening.calls, opening.fresh.created⟩
  refine ⟨⟨hcreate.bracketed, hcreate.mode⟩, ⟨hupdate.bracketed, hupdate.mode⟩,
    ⟨hdelete.calls, hdelete.mode⟩, ?_⟩
  generalize (runWrite peer source).perform s = performed at hwrite ⊢
  obtain ⟨r, s'⟩ := performed
  cases r with
  | ok _ => exact ⟨hwrite.1.calls, hwrite.2⟩
  | error e => exact ⟨hwrite.1.calls, hwrite.2⟩

/-- An update in which everything is agreed to. -/
theorem agreed_calls_bracketed :
    let s := Scene.blank (.make .program "zdemo") "S1" {} true
    Bracketed ((runUpdate (.agreeing "H") "x").perform s).2.calls ∧
      ((runUpdate (.agreeing "H") "x").perform s).2.chain.mode = .stateless :=
  (calls_bracketed (.agreeing "H") (Scene.opening_blank ..) rfl none "x").2.1

end Chain

end EditLock
