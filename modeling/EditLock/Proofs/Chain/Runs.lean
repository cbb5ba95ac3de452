/-
# What whole chains lead to

The rules for the whole chains, from what their parts lead to. A chain is cut at the first part that
fails, so each part has the same way of failing; a read or the final check that goes unanswered is
passed over with a warning.

Key theorems: `Chain.leads_settle`, `Chain.leads_finalCheck`, `Chain.leads_editUnderLock`,
`Chain.leads_runCreate`, `Chain.leads_runUpdate`, `Chain.leads_runDelete`, `Chain.leads_runWrite`.
-/
import EditLock.Proofs.Chain.Perform

namespace EditLock.Chain

open Act

variable {σ : Type} {peer : Collaborator σ} {P A B C D : Scene σ → Prop}
  {A' B' : Scene σ → Prop} {E F : Failure → Scene σ → Prop}

/-- What a part of a chain leads to that is attempted at a step. -/
abbrev Attempts {α : Type} (peer : Collaborator σ) (P : Scene σ → Prop) (step : Step)
    (act : Act σ α) (Q : Scene σ → Prop) (E : Failure → Scene σ → Prop) : Prop :=
  Leads P (attempt peer step act) (fun _ => Q) E

theorem leads_settle (hread : ∀ budget, Leads P (read peer budget) (fun _ => C) F)
    (hwarning : ∀ e text s, F e s → C (s.withChain fun c => c.withWarning text))
    (hfail : ∀ e s, F e s → E e s) : Leads P (settle peer) (fun _ => C) E := by
  unfold settle
  refine leads_chain_bind fun c => ?_
  intro s hs
  have hrun := hread (some c.options.consistencyMillis) s hs.1
  simp only [perform_bind, perform_outcome]
  generalize (read peer (some c.options.consistencyMillis)).perform s = performed at hrun ⊢
  obtain ⟨r, s'⟩ := performed
  cases r with
  | ok r => exact hrun
  | error e =>
    by_cases hn : e.isNetwork
    · simp only [hn, if_true]
      exact hwarning e _ s' hrun
    · simp only [hn]
      exact hfail e s' hrun

theorem leads_finalCheck (hcheck : Leads P (check peer none) (fun _ => C) F)
    (hwarning : ∀ e text s, F e s →
      C ((s.withChain fun c => c.withWarning text).withChain fun c => { c with stage := .checkedFinal }))
    (habort : ∀ e, Leads (F e) (abort peer .check e : Act σ Unit) (fun _ => C) E) :
    Leads P (finalCheck peer) (fun _ => C) E := by
  intro s hs
  unfold finalCheck
  have hrun := hcheck s hs
  simp only [perform_bind, perform_outcome]
  generalize (check peer none).perform s = performed at hrun ⊢
  obtain ⟨r, s'⟩ := performed
  cases r with
  | ok r => exact hrun
  | error e =>
    by_cases hn : e.isNetwork
    · simp only [hn, if_true]
      exact hwarning e _ s' hrun
    · simp only [hn]
      exact habort e s' hrun

/-- An edit leads from `P` to `C`; in between the lock is held, with `B` until the source was
checked under it and `B'` afterwards. -/
theorem leads_editUnderLock {source : String}
    (hlock : Attempts peer P .lock (lock peer) B E)
    (hcheck : Attempts peer B .check (check peer (some source)) B' E)
    (hupdate : Attempts peer B' .update (update peer source) B' E)
    (hunlock : Attempts peer B' .unlock (unlock peer) C E)
    (hsettle : Attempts peer C .read (settle peer) C E)
    (hfinal : Leads C (finalCheck peer) (fun _ => C) E)
    (hactivate : Attempts peer C .activate (activate peer) C E) :
    Leads P (editUnderLock peer source) (fun _ => C) E := by
  unfold editUnderLock
  refine hlock.bind fun _ => hcheck.bind fun _ => hupdate.bind fun _ => hunlock.bind fun _ => ?_
  refine hsettle.bind fun _ => hfinal.bind fun _ => leads_chain_bind fun c => ?_
  have hfrom : ∀ s, C s ∧ s.chain = c → C s := fun _ hs => hs.1
  refine leads_ite (fun _ => ?_) (fun _ => leads_pure hfrom)
  exact (hactivate.mono hfrom (fun _ _ hs => hs) (fun _ _ hs => hs)).bind fun _ => hsettle

theorem leads_finish (hfinish : ∀ s, C s → s.chain.stage.canFinish = false → D s)
    (hdone : ∀ s, C s → s.chain.stage.canFinish = true →
      D (s.withChain fun c => { c with stage := .done })) :
    Leads C (finish : Act σ Unit) (fun _ => D) E := by
  refine leads_change fun s hs => ?_
  cases hc : s.chain.stage.canFinish with
  | false =>
    have := hfinish s hs hc
    simpa [Scene.withChain, hc] using this
  | true =>
    have := hdone s hs hc
    simpa [Scene.withChain, hc] using this

theorem leads_runCreate {payload : Option String} {source : String}
    (hvalidate : Attempts peer P .validate (validate peer) A E)
    (halternate : ∀ e, Leads A (abort peer .validate e : Act σ Unit) (fun _ => D) E)
    (hcreate : Attempts peer A .create (create peer payload) A' E)
    (hcheck : Attempts peer A' .check (check peer none) A' E)
    (hedit : Leads A' (editUnderLock peer source) (fun _ => C) E)
    (hfinish : Leads C (finish : Act σ Unit) (fun _ => D) E) :
    Leads P (runCreate peer payload source) (fun _ => D) E := by
  unfold runCreate
  refine hvalidate.bind fun outcome => ?_
  cases outcome with
  | alternate reason response => exact halternate _
  | accepted response =>
    exact hcreate.bind fun _ => hcheck.bind fun _ => hedit.bind fun _ => hfinish

theorem leads_runUpdate {source : String}
    (hedit : Leads P (editUnderLock peer source) (fun _ => C) E)
    (hfinish : Leads C (finish : Act σ Unit) (fun _ => D) E) :
    Leads P (runUpdate peer source) (fun _ => D) E :=
  hedit.bind fun _ => hfinish

theorem leads_runDelete (hcheck : Attempts peer P .check (check peer none) A E)
    (hdelete : Attempts peer A .delete (delete peer) C E)
    (hfinish : Leads C (finish : Act σ Unit) (fun _ => D) E) :
    Leads P (runDelete peer) (fun _ => D) E :=
  hcheck.bind fun _ => hdelete.bind fun _ => hfinish

theorem leads_runWrite {source : String}
    (hresume : Attempts peer P .lock (resumeLock : Act σ String) B E)
    (hcheck : Attempts peer B .check (check peer (some source)) B' E)
    (hupdate : Attempts peer B' .update (update peer source) C E) :
    Leads P (runWrite peer source) (fun _ => C) E :=
  hresume.bind fun _ => hcheck.bind fun _ => hupdate.bind fun _ => leads_pure fun _ hs => hs

end EditLock.Chain
