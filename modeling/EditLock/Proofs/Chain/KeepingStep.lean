/-
# Keeping step

What the steps of a chain do to its fate, and so how the operations of a chain keep step with the
handles that are outstanding for it. The steps that ask for no lock lead from fate to fate, and so
do release and clean-up (`OutlastsRelease`); a lock that is asked for is taken or given back at once
(`Chain.lock_opens_or_fates`). An operation of a chain in step keeps step just where it supersedes
no lock that was left over, so a sequence of operations keeps step throughout just where none does.

Key definitions: `OutlastsPlain`, `OutlastsRelease`, `Chain.Opened`, `Chain.Concluded`.
Key theorems: `Chain.operation_concludes`, `Chain.ForceRun.inStep`, `Standing.inStep_after_iff`,
`Standing.inStep_throughout_iff`.
-/
import EditLock.Proofs.Chain.Outstanding

namespace EditLock

variable {σ α : Type}

/-! ### Steps -/

/-- A property of the handle and the calls that outlasts a call that grants and releases nothing. -/
def OutlastsPlain (P : Option String → List Exchange → Prop) : Prop :=
  ∀ ⦃handle calls e⦄, P handle calls → e.granted? = none → e.released? = none →
    P handle (calls ++ [e])

/-- A property that outlasts the release of the handle as well. -/
structure OutlastsRelease (P : Option String → List Exchange → Prop) : Prop where
  plain : OutlastsPlain P
  release : ∀ ⦃x calls e⦄, P (some x) calls → e.released? = some x → P none (calls ++ [e])

theorem fate_outlasts (held : Option String) : OutlastsRelease (Fate held) where
  plain _ _ _ h hg hr := h.plain hg hr
  release _ _ _ h hr := h.release hr

theorem quiet_outlasts (held : Option String) : OutlastsPlain (Quiet held) :=
  fun _ _ _ h hg hr => h.plain hg hr

theorem carries_outlasts (believed : Option String) (outstanding : Finset String) :
    OutlastsRelease (Carries believed outstanding) where
  plain _ _ _ h hg hr := h.plain hg hr
  release _ _ _ h hr := h.release hr

/-- The property of the handle and the calls of a scene. -/
def OnCalls (P : Option String → List Exchange → Prop) (s : Scene σ) : Prop :=
  P s.chain.handle s.calls

theorem Stage.eq_locked_of_next? {stage next : Stage} (h : stage.next? .lock = some next) :
    next = .locked := by
  cases stage <;> simp_all [Stage.next?]

namespace Chain

open Act

variable {peer : Collaborator σ} {P : Option String → List Exchange → Prop}

section Plain

variable (hP : OutlastsPlain P)

include hP

theorem AskRun.outlasts {s : Scene σ} {step : Step} {call : Call}
    {out : Except Failure call.Answer × Scene σ} (h : AskRun peer step call s out)
    (hp : call.isPlain = true) (hs : OnCalls P s) : OnCalls P out.2 := by
  have hasked : OnCalls P (s.asked peer call) :=
    hP hs (Exchange.granted?_of_isPlain hp) (Exchange.released?_of_isPlain hp)
  cases h with
  | rejected => exact hs
  | failed => exact hasked
  | answered => exact hasked

theorem askKept_onCalls : AskKept peer (·.isPlain = true) (OnCalls P) :=
  fun _ _ _ _ hr _ hp hs => hr.outlasts hP hp hs

end Plain

section Release

variable (hP : OutlastsRelease P)

include hP

theorem unlock_outlasts : Keeps (OnCalls P) (unlock peer) := by
  refine keeps_of_perform fun s hs => ?_
  have hrun := unlock_run peer s
  generalize (unlock peer).perform s = out at hrun ⊢
  cases hrun with
  | rejected => exact hs
  | refused _ _ answer => exact hP.plain hs rfl (by rw [answer]; rfl)
  | @released _ handle _ _ _ _ held answer =>
    have hheld : P (some handle) s.calls := held ▸ hs
    exact hP.release hheld (by rw [answer]; rfl)

theorem abort_outlasts {Q : α → Scene σ → Prop} (step : Step) (e : Failure) :
    Leads (OnCalls P) (abort peer step e) Q (fun _ => OnCalls P) := by
  intro s hs
  obtain ⟨s₁, s₂, hlock, hcreate, hperform⟩ := abort_run (α := α) peer step e s
  rw [hperform]
  have h₁ : OnCalls P s₁ := by
    cases hlock with
    | nothing => exact hs
    | @released handle _ _ _ held answer =>
      have hheld : P (some handle) s.calls := held ▸ hs
      exact hP.release hheld (by rw [answer]; rfl)
    | kept _ answer => exact hP.plain hs rfl (by rw [answer]; rfl)
  have h₂ : OnCalls P s₂ := by
    cases hcreate with
    | nothing => exact h₁
    | deleted => exact hP.plain h₁ rfl rfl
    | kept => exact hP.plain h₁ rfl rfl
  exact h₂

theorem attempt_outlasts {act : Act σ α} (h : Keeps (OnCalls P) act) (step : Step) :
    Keeps (OnCalls P) (attempt peer step act) :=
  leads_attempt peer h fun e => abort_outlasts hP step e

theorem settle_outlasts : Keeps (OnCalls P) (settle peer) :=
  leads_settle (fun _ => (askKept_onCalls hP.plain).keeps_read rfl) (fun _ _ _ hs => hs)
    fun _ _ hs => hs

theorem finalCheck_outlasts : Keeps (OnCalls P) (finalCheck peer) :=
  leads_finalCheck ((askKept_onCalls hP.plain).keeps_check fun _ => rfl) (fun _ _ _ hs => hs)
    fun e => abort_outlasts hP .check e

end Release

/-! ### Taking a lock -/

/-- The chain was granted a lock by the latest call, and took it. -/
structure Opened (held : Option String) (found : String) (s : Scene σ) : Prop where
  stage : s.chain.stage = .locked
  handle : s.chain.handle = some found
  granted : JustGranted held found s.calls

theorem lock_opens_or_fates (held : Option String) :
    Leads (OnCalls (Quiet held)) (lock peer) (fun _ s => ∃ found, Opened held found s)
      (fun _ => OnCalls (Fate held)) := by
  intro s hs
  have hrun := lock_run peer s
  have hfate : OnCalls (Fate held) s := hs.fate
  generalize (lock peer).perform s = out at hrun ⊢
  cases hrun with
  | rejected => exact hfate
  | refused _ answer => exact hfate.plain (by rw [answer]; rfl) rfl
  | @unrecorded _ handle _ _ _ _ answer _ release =>
    have hgranted : JustGranted held handle (lockAsked peer s).calls :=
      hs.granted (by rw [answer]; rfl)
    cases release with
    | released released => exact hgranted.returned hs.handle (by rw [released]; rfl)
    | kept kept => exact hgranted.taken rfl rfl (by rw [kept]; rfl)
  | @recorded _ handle _ order answer _ =>
    have hgranted : JustGranted held handle (lockAsked peer s).calls :=
      hs.granted (by rw [answer]; rfl)
    exact ⟨handle, Stage.eq_locked_of_next? order, rfl, hgranted⟩

/-- Once another call was made, the lock was not given back at once. -/
theorem Opened.askRun {held : Option String} {found : String} {s : Scene σ}
    (h : Opened held found s) {call : Call} {out : Except Failure call.Answer × Scene σ}
    (hr : AskRun peer .check call s out) (hp : call.isPlain = true) :
    OnCalls (Fate held) out.2 := by
  have hasked : OnCalls (Fate held) (s.asked peer call) :=
    h.granted.taken h.handle (Exchange.granted?_of_isPlain hp) (Exchange.released?_of_isPlain hp)
  cases hr with
  | rejected order =>
    rw [h.stage] at order
    cases order
  | failed => exact hasked
  | answered => exact hasked

theorem opened_check (held : Option String) (payload : Option String) :
    Leads (fun s => ∃ found, Opened held found s) (check peer payload)
      (fun _ => OnCalls (Fate held)) (fun _ => OnCalls (Fate held)) :=
  leads_of_perform fun s ⟨_, hs⟩ => hs.askRun (check_run peer payload s) rfl

theorem edit_fates (held : Option String) (source : String) :
    Leads (OnCalls (Quiet held)) (editUnderLock peer source) (fun _ => OnCalls (Fate held))
      (fun _ => OnCalls (Fate held)) := by
  have hf := fate_outlasts held
  have hasked := @askKept_onCalls _ peer _ hf.plain
  exact leads_editUnderLock
    (leads_attempt peer (lock_opens_or_fates held) fun e => abort_outlasts hf .lock e)
    (leads_attempt peer (opened_check held (some source)) fun e => abort_outlasts hf .check e)
    (attempt_outlasts hf (hasked.keeps_update fun _ => rfl) .update)
    (attempt_outlasts hf (unlock_outlasts hf) .unlock)
    (attempt_outlasts hf (settle_outlasts hf) .read) (finalCheck_outlasts hf)
    (attempt_outlasts hf (hasked.keeps_activate rfl) .activate)

/-! ### Operations -/

/-- How a chain that set out with `held` stands after an operation that takes up no recorded lock
and forces no release. -/
def Concluded (held : Option String) (s : Scene σ) : Prop :=
  OnCalls (Fate held) s ∨ ∃ found, Opened held found s

theorem Opened.inStep_iff {held : Option String} {found : String} {s : Scene σ}
    (h : Opened held found s) :
    outstandingAfter held.toFinset s.calls = s.chain.handle.toFinset ↔
      ∀ leftover, held = some leftover → ¬ Overtakes leftover s.calls := by
  have hstands : Stands (some found) (insert found held.toFinset) (some found)
      (insert found held.toFinset) := .kept
  rw [h.granted.outstanding, h.handle, hstands.inStep_iff]
  refine forall₂_congr fun leftover _ => ?_
  rw [h.granted.once.overtakes_iff]
  simp

theorem Concluded.inStep_iff {held : Option String} {s : Scene σ} (h : Concluded held s) :
    outstandingAfter held.toFinset s.calls = s.chain.handle.toFinset ↔
      ∀ leftover, held = some leftover → ¬ Overtakes leftover s.calls := by
  rcases h with h | ⟨found, h⟩
  · exact Fate.inStep_iff h
  · exact h.inStep_iff

/-- Each operation that takes up no recorded lock and forces no release comes to a conclusion. -/
theorem operation_concludes (held : Option String) {op : Operation} (hresume : op ≠ .resumeLock)
    (hwrite : ∀ source, op ≠ .runWrite source) (hforce : op ≠ .forceUnlock) :
    Leads (OnCalls (Quiet held)) (op.act peer) (fun _ => Concluded held)
      (fun _ => Concluded held) := by
  have hf := fate_outlasts held
  have hasked := @askKept_onCalls _ peer _ hf.plain
  have hunasked := @askKept_onCalls _ peer _ (quiet_outlasts held)
  have hstart (s : Scene σ) : OnCalls (Quiet held) s → OnCalls (Fate held) s := fun hs => hs.fate
  -- all operations but a single lock end in a fate
  suffices hfate : op ≠ .lock → Leads (OnCalls (Quiet held)) (op.act peer)
      (fun _ => OnCalls (Fate held)) (fun _ => OnCalls (Fate held)) by
    by_cases hlock : op = .lock
    · rw [hlock]
      exact ((lock_opens_or_fates held).mono (fun _ hs => hs) (fun _ _ hs => .inr hs)
        fun _ _ hs => .inl hs).discard
    · exact (hfate hlock).mono (fun _ hs => hs) (fun _ _ hs => .inl hs) fun _ _ hs => .inl hs
  intro hlock
  have hkeeps {β : Type} {act : Act σ β} (h : Keeps (OnCalls (Fate held)) act) :
      Leads (OnCalls (Quiet held)) act (fun _ => OnCalls (Fate held))
        (fun _ => OnCalls (Fate held)) :=
    h.mono hstart (fun _ _ hs => hs) fun _ _ hs => hs
  have hquiet {β : Type} {act : Act σ β} (h : Keeps (OnCalls (Quiet held)) act) (step : Step) :
      Attempts peer (OnCalls (Quiet held)) step act (OnCalls (Quiet held))
        (fun _ => OnCalls (Fate held)) :=
    leads_attempt peer h fun e =>
      (abort_outlasts hf step e).mono hstart (fun _ _ hs => hs) fun _ _ hs => hs
  have hfinish : Keeps (OnCalls (Fate held)) (finish : Act σ Unit) :=
    leads_finish (fun _ hs _ => hs) fun _ hs _ => hs
  cases op with
  | validate => exact (hkeeps (hasked.keeps_validate rfl)).discard
  | create payload => exact (hkeeps (hasked.keeps_create rfl)).discard
  | check payload => exact (hkeeps (hasked.keeps_check fun _ => rfl)).discard
  | lock => exact absurd rfl hlock
  | resumeLock => exact absurd rfl hresume
  | update payload => exact (hkeeps (hasked.keeps_update fun _ => rfl)).discard
  | unlock => exact (hkeeps (unlock_outlasts hf)).discard
  | activate => exact (hkeeps (hasked.keeps_activate rfl)).discard
  | delete => exact (hkeeps (hasked.keeps_delete fun _ => rfl)).discard
  | read budget => exact (hkeeps (hasked.keeps_read rfl)).discard
  | forceUnlock => exact absurd rfl hforce
  | runCreate payload source =>
    exact leads_runCreate (hquiet (hunasked.keeps_validate rfl) .validate)
      (fun e => (abort_outlasts hf .validate e).mono hstart (fun _ _ hs => hs) fun _ _ hs => hs)
      (hquiet (hunasked.keeps_create rfl) .create)
      (hquiet (hunasked.keeps_check fun _ => rfl) .check)
      (edit_fates held source) hfinish
  | runUpdate source => exact leads_runUpdate (edit_fates held source) hfinish
  | runDelete =>
    exact hkeeps (leads_runDelete (attempt_outlasts hf (hasked.keeps_check fun _ => rfl) .check)
      (attempt_outlasts hf (hasked.keeps_delete fun _ => rfl) .delete) hfinish)
  | runWrite source => exact absurd rfl (hwrite source)

/-! ### Taking up a recorded lock -/

section Adoption

variable {s : Scene σ} (hs : s.calls = [])

include hs

theorem resumed_carries {found : String} (outstanding : Finset String)
    (h : ((resumeLock : Act σ String).perform s).1 = .ok found) :
    OnCalls (Carries (some found) outstanding) ((resumeLock : Act σ String).perform s).2 := by
  have hrun := resumeLock_run s
  generalize (resumeLock : Act σ String).perform s = out at h hrun ⊢
  cases hrun with
  | rejected => cases h
  | failed => cases h
  | @resumed _ _ record =>
    have hfound : record.handle = found := Except.ok.inj h
    show Carries (some found) outstanding (some record.handle) s.calls
    rw [hfound, hs]
    exact ⟨by simp [Grantless], .kept⟩

theorem unresumed_quiet {e : Failure} (h : ((resumeLock : Act σ String).perform s).1 = .error e) :
    OnCalls (Quiet s.chain.handle) ((resumeLock : Act σ String).perform s).2 := by
  have hrun := resumeLock_run s
  generalize (resumeLock : Act σ String).perform s = out at h hrun ⊢
  have hcalls : Quiet s.chain.handle s.chain.handle s.calls :=
    ⟨rfl, by simp [Grantless, hs], by simp [outstandingAfter, hs]⟩
  cases hrun with
  | rejected => exact hcalls
  | failed => exact hcalls
  | resumed => cases h

theorem runWrite_carries {found : String} (outstanding : Finset String) (source : String)
    (h : ((resumeLock : Act σ String).perform s).1 = .ok found) :
    OnCalls (Carries (some found) outstanding) ((runWrite peer source).perform s).2 := by
  have hc := carries_outlasts (some found) outstanding
  have hasked := @askKept_onCalls _ peer _ hc.plain
  have hresume : Leads (· = s) (resumeLock : Act σ String)
      (fun _ => OnCalls (Carries (some found) outstanding))
      (fun _ => OnCalls (Carries (some found) outstanding)) := by
    refine leads_of_perform ?_
    rintro _ rfl
    exact resumed_carries hs outstanding h
  exact (leads_runWrite (leads_attempt peer hresume fun e => abort_outlasts hc .lock e)
    (attempt_outlasts hc (hasked.keeps_check fun _ => rfl) .check)
    (attempt_outlasts hc (hasked.keeps_update fun _ => rfl) .update)).perform rfl

theorem runWrite_fates {e : Failure} (source : String)
    (h : ((resumeLock : Act σ String).perform s).1 = .error e) :
    OnCalls (Fate s.chain.handle) ((runWrite peer source).perform s).2 := by
  have hf := fate_outlasts s.chain.handle
  have hresume : Leads (· = s) (resumeLock : Act σ String) (fun _ _ => False)
      (fun _ => OnCalls (Fate s.chain.handle)) := by
    rintro _ rfl
    have hquiet := unresumed_quiet hs h
    generalize (resumeLock : Act σ String).perform _ = out at h hquiet ⊢
    obtain ⟨r, s'⟩ := out
    cases h
    exact hquiet.fate
  have hnone {act : Act σ Response} {step : Step} :
      Attempts peer (fun _ => False) step act (OnCalls (Fate s.chain.handle))
        (fun _ => OnCalls (Fate s.chain.handle)) := fun _ hfalse => hfalse.elim
  have hnone' {act : Act σ Response} {step : Step} :
      Attempts peer (fun _ => False) step act (fun _ => False)
        (fun _ => OnCalls (Fate s.chain.handle)) := fun _ hfalse => hfalse.elim
  exact (leads_runWrite (leads_attempt peer hresume fun e => abort_outlasts hf .lock e)
    hnone' hnone).perform rfl

end Adoption

/-! ### Forcing a release -/

theorem KnownLock.erase_handle {s : Scene σ} {record : LockRecord} {looked : Registry}
    (h : KnownLock s record looked) : s.chain.handle.toFinset.erase record.handle = ∅ := by
  cases h with
  | held held => simp [held]
  | recorded held => simp [held]

/-- After a forced release no handle is held, and the one that was is not outstanding. -/
theorem ForceRun.inStep {s : Scene σ} (hs : s.calls = [])
    {out : Except Failure ForceUnlock × Scene σ} (h : ForceRun peer s out) :
    out.2.calls.foldl (Exchange.settle true) s.chain.handle.toFinset = out.2.chain.handle.toFinset ∧
      Grantless out.2.calls := by
  have hunasked {s' : Scene σ} (hc : s'.calls = s.calls) (hh : s'.chain.handle = s.chain.handle) :
      s'.calls.foldl (Exchange.settle true) s.chain.handle.toFinset = s'.chain.handle.toFinset ∧
        Grantless s'.calls := by
    rw [hc, hh, hs]
    exact ⟨rfl, by simp [Grantless]⟩
  have hforced {s' : Scene σ} {record : LockRecord} {looked : Registry}
      (known : KnownLock s record looked)
      (hc : ∃ result, s'.calls = s.calls ++ [⟨.unlock record.handle, .stateful, result⟩])
      (hh : s'.chain.handle = none) :
      s'.calls.foldl (Exchange.settle true) s.chain.handle.toFinset = s'.chain.handle.toFinset ∧
        Grantless s'.calls := by
    obtain ⟨result, hc⟩ := hc
    rw [hc, hh, hs]
    refine ⟨?_, by simp [Grantless, Exchange.granted?]⟩
    simp only [List.nil_append, List.foldl_cons, List.foldl_nil]
    exact known.erase_handle
  cases h with
  | lookupFailed => exact hunasked rfl rfl
  | nothingHeld => exact hunasked rfl rfl
  | stuck known => exact hforced known ⟨_, rfl⟩ rfl
  | unlocked known => exact hforced known ⟨_, rfl⟩ rfl
  | unlockFailed known => exact hforced known ⟨_, rfl⟩ rfl

end Chain

/-! ### Keeping step -/

namespace Standing

open Chain

variable {peer : Collaborator σ} {st : Standing} {v : Visit σ}

/-- What is outstanding after a visit that takes up no recorded lock and forces no release. -/
theorem after_outstanding (h : st.InStep) (hadopted : v.adopted? st.chain = none)
    (hforced : v.forced = false) : (st.after peer v).outstanding =
      outstandingAfter st.chain.handle.toFinset (v.sceneAfter peer st.chain).calls := by
  unfold after
  rw [hadopted, hforced, inStep_iff.1 h]
  simp [outstandingAfter]

theorem supersedes_iff (hadopted : v.adopted? st.chain = none) :
    ¬ v.Supersedes peer st.chain ↔ ∀ leftover, st.chain.handle = some leftover →
      ¬ Overtakes leftover (v.sceneAfter peer st.chain).calls := by
  simp [Visit.Supersedes, hadopted]

theorem inStep_after_of_concluded (h : st.InStep) (hadopted : v.adopted? st.chain = none)
    (hforced : v.forced = false) (hc : Concluded st.chain.handle (v.sceneAfter peer st.chain)) :
    (st.after peer v).InStep ↔ ¬ v.Supersedes peer st.chain := by
  rw [inStep_iff, after_outstanding h hadopted hforced, supersedes_iff hadopted]
  exact hc.inStep_iff

/-- A visit that takes up a recorded lock keeps step if that is the lock left over, if any. -/
theorem inStep_after_of_carries {found : String} (h : st.InStep)
    (hadopted : v.adopted? st.chain = some found) (hforced : v.forced = false)
    (hc : OnCalls (Carries (some found) (insert found st.chain.handle.toFinset))
      (v.sceneAfter peer st.chain)) :
    (st.after peer v).InStep ↔ ¬ v.Supersedes peer st.chain := by
  have hout : (st.after peer v).outstanding =
      outstandingAfter (insert found st.chain.handle.toFinset)
        (v.sceneAfter peer st.chain).calls := by
    have hunion : st.chain.handle.toFinset ∪ {found} = insert found st.chain.handle.toFinset := by
      rw [Finset.union_comm, Finset.insert_eq]
    unfold after
    rw [hadopted, hforced, inStep_iff.1 h, Option.toFinset_some, hunion]
    rfl
  rw [inStep_iff, hout]
  refine hc.stands.inStep_iff.trans ?_
  simp [Visit.Supersedes, hadopted, not_overtakes hc.grantless]

/-- A visit that tries to take up a recorded lock carries it, or comes to a fate without it. -/
theorem inStep_after_of_resumes (h : st.InStep)
    (hadopted : v.adopted? st.chain =
      ((resumeLock : Act σ String).perform (v.scene st.chain)).1.toOption)
    (hforced : v.forced = false)
    (resumed : ∀ found, ((resumeLock : Act σ String).perform (v.scene st.chain)).1 = .ok found →
      OnCalls (Carries (some found) (insert found st.chain.handle.toFinset))
        (v.sceneAfter peer st.chain))
    (unresumed : ∀ e, ((resumeLock : Act σ String).perform (v.scene st.chain)).1 = .error e →
      OnCalls (Fate st.chain.handle) (v.sceneAfter peer st.chain)) :
    (st.after peer v).InStep ↔ ¬ v.Supersedes peer st.chain := by
  cases hr : ((resumeLock : Act σ String).perform (v.scene st.chain)).1 with
  | ok found =>
    rw [hr] at hadopted
    exact inStep_after_of_carries h hadopted hforced (resumed found hr)
  | error e =>
    rw [hr] at hadopted
    exact inStep_after_of_concluded h hadopted hforced (.inl (unresumed e hr))

theorem inStep_after_resumeLock (h : st.InStep) (hv : v.operation = .resumeLock) :
    (st.after peer v).InStep ↔ ¬ v.Supersedes peer st.chain := by
  have hcalls : (v.scene st.chain).calls = [] := rfl
  have hscene : v.sceneAfter peer st.chain =
      ((resumeLock : Act σ String).perform (v.scene st.chain)).2 := by
    rw [Visit.sceneAfter, hv]
    exact Act.perform_discard resumeLock _
  refine inStep_after_of_resumes h (by simp [Visit.adopted?, hv]) (by simp [Visit.forced, hv])
    (fun found hr => ?_) (fun e hr => ?_)
  · exact hscene ▸ resumed_carries hcalls _ hr
  · exact hscene ▸ (unresumed_quiet hcalls hr).fate

theorem inStep_after_runWrite (h : st.InStep) {source : String}
    (hv : v.operation = .runWrite source) :
    (st.after peer v).InStep ↔ ¬ v.Supersedes peer st.chain := by
  have hcalls : (v.scene st.chain).calls = [] := rfl
  have hscene : v.sceneAfter peer st.chain =
      ((runWrite peer source).perform (v.scene st.chain)).2 := by
    rw [Visit.sceneAfter, hv]
    rfl
  refine inStep_after_of_resumes h (by simp [Visit.adopted?, hv]) (by simp [Visit.forced, hv])
    (fun found hr => ?_) (fun e hr => ?_)
  · exact hscene ▸ runWrite_carries hcalls _ source hr
  · exact hscene ▸ runWrite_fates hcalls source hr

/-- A forced release keeps step, and overtakes nothing. -/
theorem inStep_after_forceUnlock (h : st.InStep) (hv : v.operation = .forceUnlock) :
    (st.after peer v).InStep ↔ ¬ v.Supersedes peer st.chain := by
  have hadopted : v.adopted? st.chain = none := by simp [Visit.adopted?, hv]
  have hforced : v.forced = true := by simp [Visit.forced, hv]
  have hscene : v.sceneAfter peer st.chain =
      ((forceUnlock peer).perform (v.scene st.chain)).2 := by
    rw [Visit.sceneAfter, hv]
    exact Act.perform_discard (forceUnlock peer) _
  obtain ⟨hstep, hgrantless⟩ := (forceUnlock_run peer (v.scene st.chain)).inStep rfl
  rw [← hscene] at hstep hgrantless
  have hnone : ¬ v.Supersedes peer st.chain :=
    (supersedes_iff hadopted).2 fun leftover _ => not_overtakes hgrantless leftover
  refine iff_of_true ?_ hnone
  rw [inStep_iff]
  unfold after
  rw [hadopted, hforced, inStep_iff.1 h, Option.toFinset_none, Finset.union_empty]
  exact hstep

/-- **An operation of a chain in step keeps step just where it supersedes no lock.** -/
theorem inStep_after_iff (h : st.InStep) (v : Visit σ) :
    (st.after peer v).InStep ↔ ¬ v.Supersedes peer st.chain := by
  have hquiet : OnCalls (Quiet st.chain.handle) (v.scene st.chain) :=
    ⟨rfl, by simp [Grantless, Visit.scene], rfl⟩
  cases hv : v.operation with
  | forceUnlock => exact inStep_after_forceUnlock h hv
  | resumeLock => exact inStep_after_resumeLock h hv
  | runWrite source => exact inStep_after_runWrite h hv
  | _ =>
    have hleads : Act.Leads (OnCalls (Quiet st.chain.handle)) (v.operation.act peer)
        (fun _ => Concluded st.chain.handle) (fun _ => Concluded st.chain.handle) :=
      operation_concludes st.chain.handle (by simp [hv]) (by simp [hv]) (by simp [hv])
    have hconcludes : Concluded st.chain.handle (v.sceneAfter peer st.chain) :=
      hleads.perform hquiet
    exact inStep_after_of_concluded h (by simp [Visit.adopted?, hv]) (by simp [Visit.forced, hv])
      hconcludes

/-- **The handle in memory is the outstanding one throughout, just where no lock is superseded.** A
fresh chain does any operations, whatever is answered, whatever others do to the registry in between
and whichever statements fail. The handle that it holds after each of them is the outstanding one,
and the only one, if and only if none of them supersedes a lock that was left over. -/
theorem inStep_throughout_iff (peer : Collaborator σ) {c : Chain} (fresh : c.IsFresh)
    (visits : List (Visit σ)) :
    (∀ before after, visits = before ++ after → ((start c).afterAll peer before).InStep) ↔
      ∀ before v after, visits = before ++ v :: after →
        ¬ v.Supersedes peer ((start c).afterAll peer before).chain := by
  constructor
  · intro h before v after hsplit
    have hbefore := h before (v :: after) hsplit
    have hnext := h (before ++ [v]) after (by simp [hsplit])
    rw [afterAll, List.foldl_append] at hnext
    exact (inStep_after_iff hbefore v).1 hnext
  · intro h before
    induction before using List.reverseRecOn with
    | nil =>
      intro after _ handle
      simp [afterAll, start, fresh.handle]
    | append_singleton before v ih =>
      intro after hsplit
      have hbefore := ih (v :: after) (by simp [hsplit])
      have hnext := h before v after (by simp [hsplit])
      rw [afterAll, List.foldl_append]
      exact (inStep_after_iff hbefore v).2 hnext

/-- A registry that takes no records. -/
def frozen : Registry :=
  { availability := fun _ => .readOnly }

/-- The lock is granted twice and recorded neither time; the first release is refused, the second
answered. -/
def regranted : List (Visit Bool) :=
  [⟨.lock, frozen, false, default, 1⟩, ⟨.lock, frozen, true, default, 1⟩]

/-- The handle that was released in the end stays in memory. -/
theorem regranted_breaks_step :
    ¬ ∀ before after, regranted = before ++ after →
      ((start (.new (.make .program "zdemo") "S1" {})).afterAll (.agreeing "H") before).InStep := by
  have fresh : (Chain.new (.make .program "zdemo") "S1" {}).IsFresh := rfl
  -- the second visit grants the handle that is left over, and releases it at once
  have hovertakes : Overtakes "H" [⟨.lock, .stateful, .ok "H"⟩,
      ⟨.unlock "H", .stateful, .ok { status := 200 }⟩] :=
    ⟨[], _, _, "H", rfl, rfl, by simp [Exchange.released?]⟩
  intro h
  have hkept := (inStep_throughout_iff (.agreeing "H") fresh regranted).1 h
  exact hkept [⟨.lock, frozen, false, default, 1⟩] ⟨.lock, frozen, true, default, 1⟩ [] rfl
    ⟨"H", rfl, .inr hovertakes⟩

end Standing

end EditLock
