/-
# Handles on stateless requests

A lock lives in the server process to which stateful requests are pinned, so a call that carries a
handle should be stateful (`Exchange.Pinned`). It is, as long as the chain is routed statefully
while it holds a handle (`Moored`): a lock is asked for, taken up and given back that way, and the
clean-up turns to stateful before it releases or deletes. But a chain that ends stateless with a
handle, since the lock was not released, is stranded (`Chain.Stranded`). A step that sends the
handle from there sends it as the chain is routed. Those steps are the only exceptions
(`Visit.Strays`).

Key definitions: `Exchange.Pinned`, `Moored`, `Chain.Stranded`, `Visit.Strays`.
Key theorems: `Chain.AskRun.pinned`, `Chain.lock_moors`, `Chain.abort_pinned`,
`Visit.pinned_iff`, `Chain.pinned_throughout_iff`.
-/
import EditLock.Proofs.Chain.Outstanding

namespace EditLock

variable {σ α : Type}

/-- If the call carries a handle, it is pinned to the process that knows of the lock. -/
def Exchange.Pinned (e : Exchange) : Prop :=
  e.call.handle? ≠ none → e.mode = .stateful

/-- All calls that carry a handle were pinned. -/
def AllPinned (s : Scene σ) : Prop :=
  ∀ e ∈ s.calls, e.Pinned

/-- All calls that carry a handle were pinned, and so will be the next. -/
structure Moored (s : Scene σ) : Prop where
  stateful : s.chain.handle ≠ none → s.chain.mode = .stateful
  pinned : AllPinned s

/-- The chain holds a lock, and its requests are not pinned to the process that knows of it. -/
def Chain.Stranded (c : Chain) : Prop :=
  c.handle ≠ none ∧ c.mode = .stateless

/-- A stranded chain is asked for a step that sends the handle, and the step is in order. -/
def Visit.Strays (peer : Collaborator σ) (v : Visit σ) (c : Chain) : Prop :=
  c.Stranded ∧
    match v.operation with
    | .update _ => c.stage.next? .update ≠ none
    | .unlock => c.stage.next? .unlock ≠ none
    | .delete => c.stage.next? .delete ≠ none
    -- the deletion comes after a check
    | .runDelete =>
      c.stage = .init ∧ ∃ r, ((Chain.check peer none).perform (v.scene c)).1 = .ok r
    | _ => False

/-- A chain that is not stranded sends its handle, if any, with stateful requests. -/
theorem Chain.stateful_of_not_stranded {c : Chain} (h : ¬ c.Stranded) (held : c.handle ≠ none) :
    c.mode = .stateful := by
  cases hm : c.mode with
  | stateful => rfl
  | stateless => exact absurd ⟨held, hm⟩ h

/-- After a check a deletion is in order only where the check was the first step. -/
theorem Stage.next?_delete_of_next?_check {stage next : Stage} (h : stage.next? .check = some next)
    (hinit : stage ≠ .init) : next.next? .delete = none := by
  cases stage <;> simp_all [Stage.next?] <;> subst h <;> rfl

theorem AllPinned.asked (peer : Collaborator σ) {s : Scene σ} (h : AllPinned s) {call : Call}
    (hc : call.handle? ≠ none → s.chain.mode = .stateful) : AllPinned (s.asked peer call) :=
  List.forall_mem_append.2 ⟨h, by simpa [Exchange.Pinned] using hc⟩

namespace Chain

open Act

variable {peer : Collaborator σ} {s : Scene σ}

/-! ### Steps -/

/-- A step keeps all calls pinned, unless it is in order and sends a handle statelessly. -/
theorem AskRun.pinned {step : Step} {call : Call} {out : Except Failure call.Answer × Scene σ}
    (h : AskRun peer step call s out) (hs : AllPinned s)
    (hc : s.chain.stage.next? step ≠ none → call.handle? ≠ none → s.chain.mode = .stateful) :
    AllPinned out.2 := by
  cases h with
  | rejected => exact hs
  | failed order => exact hs.asked peer (hc (by simp [order]))
  | answered order => exact hs.asked peer (hc (by simp [order]))

/-- A step of a moored chain that sends no other handle than the one held leaves it moored. -/
theorem AskRun.moored {step : Step} {call : Call} {out : Except Failure call.Answer × Scene σ}
    (h : AskRun peer step call s out) (hs : Moored s)
    (hc : call.handle? ≠ none → s.chain.handle ≠ none) : Moored out.2 := by
  refine ⟨?_, h.pinned hs.pinned fun _ hcall => hs.stateful (hc hcall)⟩
  rw [h.handle, h.mode]
  exact hs.stateful

theorem askKept_allPinned : AskKept peer (·.handle? = none) AllPinned :=
  fun _ _ _ _ hr _ hc hs => hr.pinned hs fun _ hcall => absurd hc hcall

theorem askKept_moored : AskKept peer (·.handle? = none) Moored :=
  fun _ _ _ _ hr _ hc hs => hr.moored hs fun hcall => absurd hc hcall

theorem update_moored (payload : String) : Keeps Moored (update peer payload) := by
  refine keeps_of_perform fun s hs => ?_
  rcases update_run peer payload s with ⟨-, reason, hrun⟩ | ⟨handle, held, hrun⟩
  · rw [hrun]
    exact hs
  · exact hrun.moored hs (by simp [held])

/-- A release keeps all calls pinned, unless it is in order and sends the handle statelessly. -/
theorem UnlockRun.pinned {out : Except Failure Response × Scene σ} (h : UnlockRun peer s out)
    (hs : AllPinned s)
    (hc : s.chain.stage.next? .unlock ≠ none → s.chain.handle ≠ none → s.chain.mode = .stateful) :
    AllPinned out.2 := by
  have hasked {next : Stage} {handle : String} (order : s.chain.stage.next? .unlock = some next)
      (held : s.chain.handle = some handle) : AllPinned (s.asked peer (.unlock handle)) :=
    hs.asked peer fun _ => hc (by simp [order]) (by simp [held])
  cases h with
  | rejected => exact hs
  | refused order held => exact hasked order held
  | released order held => exact hasked order held

theorem unlock_moored : Keeps Moored (unlock peer) := by
  refine keeps_of_perform fun s hs => ?_
  have hrun := unlock_run peer s
  have hpinned := hrun.pinned hs.pinned fun _ => hs.stateful
  generalize (unlock peer).perform s = out at hrun hpinned ⊢
  refine ⟨?_, hpinned⟩
  cases hrun with
  | rejected => exact hs.stateful
  | refused => exact hs.stateful
  | released => exact fun hnone => absurd rfl hnone

/-- A lock is asked for statefully, and given back at once the same way if it is not recorded. -/
theorem lock_moors : Leads AllPinned (lock peer) (fun _ => Moored) (fun _ => AllPinned) := by
  intro s hs
  have hrun := lock_run peer s
  have hrouted : AllPinned (s.routed .stateful) := hs
  have hasked : AllPinned (lockAsked peer s) := hrouted.asked peer fun _ => rfl
  generalize (lock peer).perform s = out at hrun ⊢
  cases hrun with
  | rejected => exact hs
  | refused => exact hasked
  | @unrecorded _ handle _ registry _ _ _ _ release =>
    have hreleased : AllPinned (((lockAsked peer s).withRegistry registry).asked peer
        (.unlock handle)) := AllPinned.asked peer hasked fun _ => rfl
    cases release <;> exact hreleased
  | recorded => exact ⟨fun _ => rfl, hasked⟩

theorem resumeLock_moors :
    Leads AllPinned (resumeLock : Act σ String) (fun _ => Moored) (fun _ => AllPinned) := by
  intro s hs
  have hrun := resumeLock_run s
  generalize (resumeLock : Act σ String).perform s = out at hrun ⊢
  cases hrun with
  | rejected => exact hs
  | failed => exact hs
  | resumed => exact ⟨fun _ => rfl, hs⟩

theorem forceUnlock_pinned : Keeps AllPinned (forceUnlock peer) := by
  refine keeps_of_perform fun s hs => ?_
  have hforced (looked registry : Registry) (handle : String) :
      AllPinned (forced peer s looked handle registry) := by
    have hrouted : AllPinned ((s.withRegistry looked).routed .stateful) := hs
    exact hrouted.asked peer fun _ => rfl
  have hrun := forceUnlock_run peer s
  generalize (forceUnlock peer).perform s = out at hrun ⊢
  cases hrun with
  | lookupFailed => exact hs
  | nothingHeld => exact hs
  | stuck => exact hforced _ _ _
  | @unlocked _ looked registry => exact hforced looked registry _
  | unlockFailed => exact hforced _ _ _

/-- The clean-up turns to stateful before it sends a handle, however the chain was routed. -/
theorem abort_pinned (step : Step) (e : Failure) :
    Leads AllPinned (abort peer step e : Act σ α) (fun _ _ => False) (fun _ => AllPinned) := by
  intro s hs
  obtain ⟨s₁, s₂, hlock, hcreate, hperform⟩ := abort_run (α := α) peer step e s
  rw [hperform]
  have h₁ : AllPinned s₁ := by
    have hstart : AllPinned ((s.withChain fun c => c.withFailure step e).routed .stateful) := hs
    cases hlock with
    | nothing => exact hs
    | released => exact hstart.asked peer fun _ => rfl
    | kept => exact hstart.asked peer fun _ => rfl
  have h₂ : AllPinned s₂ := by
    have hstart : AllPinned (s₁.routed .stateful) := h₁
    cases hcreate with
    | nothing => exact h₁
    | deleted => exact hstart.asked peer fun _ => rfl
    | kept => exact hstart.asked peer fun _ => rfl
  exact h₂

/-! ### Whole chains -/

/-- Wherever a chain fails, the clean-up leaves all calls pinned. -/
theorem abort_pinned_from {P Q : Scene σ → Prop} (h : ∀ s, P s → AllPinned s) (step : Step)
    (e : Failure) : Leads P (abort peer step e : Act σ α) (fun _ => Q) (fun _ => AllPinned) :=
  (abort_pinned step e).mono h (fun _ _ hs => hs.elim) fun _ _ hs => hs

theorem attempt_moors {act : Act σ α}
    (h : Leads AllPinned act (fun _ => Moored) (fun _ => AllPinned)) (step : Step) :
    Attempts peer AllPinned step act Moored (fun _ => AllPinned) :=
  leads_attempt peer h fun e => abort_pinned_from (fun _ hs => hs) step e

theorem attempt_pinned {act : Act σ α} (h : Keeps AllPinned act) (step : Step) :
    Attempts peer AllPinned step act AllPinned (fun _ => AllPinned) :=
  leads_attempt peer h fun e => abort_pinned_from (fun _ hs => hs) step e

theorem attempt_moored {act : Act σ α} (h : Keeps Moored act) (step : Step) :
    Attempts peer Moored step act Moored (fun _ => AllPinned) :=
  leads_attempt peer h fun e => abort_pinned_from (fun _ hs => hs.pinned) step e

/-- An edit is moored from its lock on. -/
theorem edit_moors (source : String) :
    Leads AllPinned (editUnderLock peer source) (fun _ => Moored) (fun _ => AllPinned) := by
  have hcheck (payload : Option String) : Keeps Moored (check peer payload) :=
    askKept_moored.keeps_check fun _ => rfl
  have hsettle : Keeps Moored (settle peer) :=
    leads_settle (fun _ => askKept_moored.keeps_read rfl)
      (fun _ _ _ hs => ⟨hs.stateful, hs.pinned⟩) fun _ _ hs => hs
  exact leads_editUnderLock (attempt_moors lock_moors .lock)
    (attempt_moored (hcheck (some source)) .check)
    (attempt_moored (update_moored source) .update)
    (attempt_moored unlock_moored .unlock) (attempt_moored hsettle .read)
    (leads_finalCheck (hcheck none) (fun _ _ _ hs => ⟨hs.stateful, hs.pinned⟩)
      fun e => abort_pinned_from (fun _ hs => hs.pinned) .check e)
    (attempt_moored (askKept_moored.keeps_activate rfl) .activate)

theorem finish_pinned :
    Leads Moored (finish : Act σ Unit) (fun _ => AllPinned) (fun _ => AllPinned) :=
  leads_finish (fun _ hs _ => hs.pinned) fun _ hs _ => hs.pinned

theorem runCreate_pinned (payload : Option String) (source : String) :
    Keeps AllPinned (runCreate peer payload source) :=
  leads_runCreate (attempt_pinned (askKept_allPinned.keeps_validate rfl) .validate)
    (fun e => abort_pinned_from (fun _ hs => hs) .validate e)
    (attempt_pinned (askKept_allPinned.keeps_create rfl) .create)
    (attempt_pinned (askKept_allPinned.keeps_check fun _ => rfl) .check)
    (edit_moors source) finish_pinned

theorem runUpdate_pinned (source : String) : Keeps AllPinned (runUpdate peer source) :=
  leads_runUpdate (edit_moors source) finish_pinned

theorem runWrite_pinned (source : String) : Keeps AllPinned (runWrite peer source) :=
  (leads_runWrite (attempt_moors resumeLock_moors .lock)
    (attempt_moored (askKept_moored.keeps_check fun _ => rfl) .check)
    (attempt_moored (update_moored source) .update)).mono (fun _ hs => hs)
      (fun _ _ hs => hs.pinned) fun _ _ hs => hs

/-- No handle would be sent statelessly: the chain is moored, or a deletion is out of order. -/
def Deletable (s : Scene σ) : Prop :=
  Moored s ∨ AllPinned s ∧ s.chain.stage.next? .delete = none

theorem Deletable.pinned (h : Deletable s) : AllPinned s :=
  h.elim (·.pinned) (·.1)

theorem delete_pinned : Leads Deletable (delete peer) (fun _ => AllPinned) (fun _ => AllPinned) := by
  refine leads_of_perform fun s hs => ?_
  rcases hs with hs | ⟨hs, hnone⟩
  · exact ((delete_run peer s).moored hs fun held => held).pinned
  · exact (delete_run peer s).pinned hs fun order => absurd hnone order

/-- A chain that deletes keeps its calls pinned if it starts moored, if the check does not come
first, or if the check fails. -/
theorem runDelete_pinned {start : Scene σ} (hp : AllPinned start)
    (hstart : start.chain.Stranded → start.chain.stage = .init →
      ∀ r, ((check peer none).perform start).1 ≠ .ok r) :
    AllPinned ((runDelete peer).perform start).2 := by
  have hcheck : Leads (· = start) (check peer none) (fun _ => Deletable)
      (fun _ => AllPinned) := by
    rintro s rfl
    have hrun := check_run peer none s
    have hpinned := hrun.pinned hp fun _ hcall => absurd rfl hcall
    rcases hout : (check peer none).perform s with ⟨r | r, s'⟩
    · rw [hout] at hpinned
      exact hpinned
    · by_cases hs : s.chain.Stranded
      · rw [hout] at hpinned
        have hinit : s.chain.stage ≠ .init := fun hinit => hstart hs hinit r (by rw [hout])
        have order := hrun.next?_of_ok (congrArg Prod.fst hout)
        rw [hout] at order
        exact .inr ⟨hpinned, Stage.next?_delete_of_next?_check order hinit⟩
      · have hmoored := hrun.moored ⟨stateful_of_not_stranded hs, hp⟩ fun hcall => absurd rfl hcall
        rw [hout] at hmoored
        exact .inl hmoored
  have hrun : Leads (· = start) (runDelete peer) (fun _ => AllPinned) (fun _ => AllPinned) :=
    leads_runDelete
      (leads_attempt peer hcheck fun e => abort_pinned_from (fun _ hs => hs) .check e)
      (leads_attempt peer delete_pinned fun e => abort_pinned_from (fun _ hs => hs) .delete e)
      (leads_finish (fun _ hs _ => hs) fun _ hs _ => hs)
  exact hrun.perform rfl

/-! ### Operations that stray -/

/-- A call that carried a handle was not pinned. -/
def Strayed (s : Scene σ) : Prop :=
  ∃ e ∈ s.calls, ¬ e.Pinned

theorem strayed_asked (h : s.chain.Stranded) {call : Call} (hc : call.handle? ≠ none) :
    Strayed (s.asked peer call) := by
  refine ⟨⟨call, s.chain.mode, s.answer peer call⟩, by simp, fun hpinned => ?_⟩
  have hmode : s.chain.mode = .stateful := hpinned hc
  rw [h.2] at hmode
  cases hmode

theorem AskRun.strayed {step : Step} {call : Call} {out : Except Failure call.Answer × Scene σ}
    (hr : AskRun peer step call s out) (h : s.chain.Stranded)
    (order : s.chain.stage.next? step ≠ none) (hc : call.handle? ≠ none) : Strayed out.2 := by
  cases hr with
  | rejected hnone => exact absurd hnone order
  | failed => exact strayed_asked h hc
  | answered => exact strayed_asked h hc

theorem update_strayed (h : s.chain.Stranded) (payload : String)
    (order : s.chain.stage.next? .update ≠ none) :
    Strayed ((update peer payload).perform s).2 := by
  rcases update_run peer payload s with ⟨free, -⟩ | ⟨handle, -, hrun⟩
  · exact absurd free h.1
  · exact hrun.strayed h order (by simp [Call.handle?])

theorem UnlockRun.strayed {out : Except Failure Response × Scene σ} (hr : UnlockRun peer s out)
    (h : s.chain.Stranded) (order : s.chain.stage.next? .unlock ≠ none) : Strayed out.2 := by
  have hasked (handle : String) : Strayed (s.asked peer (.unlock handle)) :=
    strayed_asked h (by simp [Call.handle?])
  cases hr with
  | rejected why => exact (why.elim order h.1).elim
  | refused => exact hasked _
  | released => exact hasked _

/-- A call that was made stays among the calls to the end of the chain. -/
theorem abort_strayed (step : Step) (cause : Failure) {Q : α → Scene σ → Prop} :
    Leads Strayed (abort peer step cause : Act σ α) Q (fun _ => Strayed) := by
  rintro s ⟨e, he, hpinned⟩
  obtain ⟨s₁, s₂, hlock, hcreate, hperform⟩ := abort_run (α := α) peer step cause s
  rw [hperform]
  exact ⟨e, hcreate.goesOn.calls.subset (hlock.goesOn.calls.subset he), hpinned⟩

theorem runDelete_strayed (h : s.chain.Stranded) (hinit : s.chain.stage = .init) {r : Response}
    (hok : ((check peer none).perform s).1 = .ok r) :
    Strayed ((runDelete peer).perform s).2 := by
  have hcheck : Leads (· = s) (check peer none)
      (fun _ s' => s'.chain.Stranded ∧ s'.chain.stage.next? .delete ≠ none)
      (fun _ _ => False) := by
    rintro s rfl
    have hrun := check_run peer none s
    have hhandle := hrun.handle
    have hmode := hrun.mode
    have order := hrun.next?_of_ok hok
    rcases hout : (check peer none).perform s with ⟨e | a, s'⟩
    · rw [hout] at hok
      cases hok
    · rw [hout] at hhandle hmode order
      rw [hinit] at order
      have hstage : s'.chain.stage = .checkedDeletion := (Option.some.inj order).symm
      refine ⟨⟨hhandle ▸ h.1, hmode.trans h.2⟩, ?_⟩
      simp [hstage, Stage.next?]
  have hdelete : Leads (fun s' => s'.chain.Stranded ∧ s'.chain.stage.next? .delete ≠ none)
      (delete peer) (fun _ => Strayed) (fun _ => Strayed) :=
    leads_of_perform fun s' hs => (delete_run peer s').strayed hs.1 hs.2 hs.1.1
  have hrun : Leads (· = s) (runDelete peer) (fun _ => Strayed) (fun _ => Strayed) :=
    leads_runDelete (leads_attempt peer hcheck fun _ _ hs => hs.elim)
      (leads_attempt peer hdelete fun e => abort_strayed .delete e)
      (leads_finish (fun _ hs _ => hs) fun _ hs _ => hs)
  exact hrun.perform rfl

end Chain

/-! ### Visits -/

namespace Visit

open Chain

variable {peer : Collaborator σ} {v : Visit σ} {c : Chain}

/-- A step that is not asked for out of a stranded chain finds the chain stateful. -/
theorem stateful_of_held {order : Prop} (h : ¬ (c.Stranded ∧ order)) (ho : order)
    (held : c.handle ≠ none) : c.mode = .stateful :=
  stateful_of_not_stranded (fun hstranded => h ⟨hstranded, ho⟩) held

theorem pinned_of_not_strays (h : ¬ v.Strays peer c) : AllPinned (v.sceneAfter peer c) := by
  have hstart : AllPinned (v.scene c) := by simp [AllPinned, scene]
  have hkept {act : Act σ Unit} (hact : Act.Keeps AllPinned act) :
      AllPinned (act.perform (v.scene c)).2 := hact.perform hstart
  unfold Strays at h
  unfold sceneAfter
  cases hv : v.operation with
  | validate => exact hkept (askKept_allPinned.keeps_validate rfl).discard
  | create payload => exact hkept (askKept_allPinned.keeps_create rfl).discard
  | check payload => exact hkept (askKept_allPinned.keeps_check fun _ => rfl).discard
  | lock =>
    exact hkept (lock_moors.mono (fun _ hs => hs) (fun _ _ hs => hs.pinned) fun _ _ hs => hs).discard
  | resumeLock =>
    exact hkept
      (resumeLock_moors.mono (fun _ hs => hs) (fun _ _ hs => hs.pinned) fun _ _ hs => hs).discard
  | update payload =>
    rw [hv] at h
    rw [Operation.act, Act.perform_discard]
    rcases update_run peer payload (v.scene c) with ⟨-, reason, hrun⟩ | ⟨handle, held, hrun⟩
    · rw [hrun]
      exact hstart
    · have hheld : c.handle ≠ none := Option.ne_none_iff_exists'.2 ⟨handle, held⟩
      exact hrun.pinned hstart fun order _ => stateful_of_held h order hheld
  | unlock =>
    rw [hv] at h
    rw [Operation.act, Act.perform_discard]
    exact (unlock_run peer (v.scene c)).pinned hstart fun order => stateful_of_held h order
  | activate => exact hkept (askKept_allPinned.keeps_activate rfl).discard
  | delete =>
    rw [hv] at h
    rw [Operation.act, Act.perform_discard]
    exact (delete_run peer (v.scene c)).pinned hstart fun order held =>
      stateful_of_held h order held
  | read budget => exact hkept (askKept_allPinned.keeps_read rfl).discard
  | forceUnlock => exact hkept forceUnlock_pinned.discard
  | runCreate payload source => exact hkept (runCreate_pinned payload source)
  | runUpdate source => exact hkept (runUpdate_pinned source)
  | runDelete =>
    rw [hv] at h
    exact runDelete_pinned hstart fun hstranded hinit r hok => h ⟨hstranded, hinit, r, hok⟩
  | runWrite source => exact hkept (runWrite_pinned source)

theorem strayed_of_strays (h : v.Strays peer c) : Strayed (v.sceneAfter peer c) := by
  obtain ⟨hstranded, h⟩ := h
  unfold sceneAfter
  cases hv : v.operation with
  | update payload =>
    rw [hv] at h
    rw [Operation.act, Act.perform_discard]
    exact update_strayed hstranded payload h
  | unlock =>
    rw [hv] at h
    rw [Operation.act, Act.perform_discard]
    exact (unlock_run peer (v.scene c)).strayed hstranded h
  | delete =>
    rw [hv] at h
    rw [Operation.act, Act.perform_discard]
    exact (delete_run peer (v.scene c)).strayed hstranded h hstranded.1
  | runDelete =>
    rw [hv] at h
    obtain ⟨hinit, r, hok⟩ := h
    exact runDelete_strayed hstranded hinit hok
  | _ =>
    rw [hv] at h
    exact h.elim

/-- **The calls of a visit that carry a handle are pinned, just where it does not stray.** -/
theorem pinned_iff (v : Visit σ) (c : Chain) :
    AllPinned (v.sceneAfter peer c) ↔ ¬ v.Strays peer c := by
  refine ⟨fun hpinned hstrays => ?_, pinned_of_not_strays⟩
  obtain ⟨e, he, hnot⟩ := strayed_of_strays hstrays
  exact hnot (hpinned e he)

end Visit

/-- **Every handle is sent with a stateful request, just where no operation strays.** A chain does
any operations, whatever is answered, whatever others do to the registry in between and whichever
statements fail. All updates, releases and deletions that carry a handle are pinned if and only if
no update, release or deletion is asked for, in order, when the chain was left stateless with a
handle. -/
theorem Chain.pinned_throughout_iff (peer : Collaborator σ) (c : Chain) (visits : List (Visit σ)) :
    (∀ before v after, visits = before ++ v :: after →
      ∀ e ∈ (v.sceneAfter peer (c.afterAll peer before)).calls, e.Pinned) ↔
      ∀ before v after, visits = before ++ v :: after →
        ¬ v.Strays peer (c.afterAll peer before) := by
  constructor
  · intro h before v after hsplit
    exact (Visit.pinned_iff v _).1 (h before v after hsplit)
  · intro h before v after hsplit
    exact (Visit.pinned_iff v _).2 (h before v after hsplit)

/-- The release of the lock is refused at the end of an edit and again by the clean-up; then the
lock is to be released as a step of its own. -/
def leftLocked : List (Visit Bool) :=
  [⟨.runUpdate "REPORT zdemo.", {}, false, default, 1⟩, ⟨.unlock, {}, true, default, 1⟩]

/-- The step sends the handle with a stateless request. -/
theorem leftLocked_strays :
    (Chain.new (.make .program "zdemo") "S1" {}).mode = .stateless ∧
      ¬ ∀ before v after, leftLocked = before ++ v :: after →
        ∀ e ∈ (v.sceneAfter (.agreeing "H")
          ((Chain.new (.make .program "zdemo") "S1" {}).afterAll (.agreeing "H") before)).calls,
          e.Pinned := by
  refine ⟨rfl, fun h => ?_⟩
  have hkept := (Chain.pinned_throughout_iff (.agreeing "H")
    (.new (.make .program "zdemo") "S1" {}) leftLocked).1 h
  refine hkept [⟨.runUpdate "REPORT zdemo.", {}, false, default, 1⟩]
    ⟨.unlock, {}, true, default, 1⟩ [] rfl ⟨⟨?_, rfl⟩, ?_⟩
  · exact Option.ne_none_iff_exists'.2 ⟨"H", rfl⟩
  · exact Option.ne_none_iff_exists'.2 ⟨.unlocked, rfl⟩

end EditLock
