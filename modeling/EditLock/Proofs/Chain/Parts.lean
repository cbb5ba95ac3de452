/-
# The parts of a whole chain

A whole chain is a list of parts, each attempted at a step, and perhaps a mark at the end
(`WholeChain.act_eq`); an attempt that fails ends the chain with its clean-up. One part undoes
something itself: a lock that is granted and cannot be recorded is released again. Performed bare,
without that, each part ends in the same way (`Part.Faithful`), so the first part that fails bare is
the one at which the chain fails (`Chain.untilFailure`).

Key definitions: `Chain.takeLock`, `Part`, `WholeChain`, `WholeChain.parts`, `Chain.runParts`,
`Chain.untilFailure`, `Part.Faithful`.
Key theorems: `WholeChain.act_eq`, `Part.Faithful.lock_endsAlike`, `WholeChain.faithful_parts`.
-/
import EditLock.Proofs.Chain.Operation

namespace EditLock

open Act

variable {σ τ α β : Type}

/-! ### Chains in parts -/

namespace Chain

variable (peer : Collaborator σ)

/-- Asks for the lock and records it; a lock that cannot be recorded is not released. -/
def takeLock : Act σ String := do
  let next ← allowed .lock
  setMode .stateful
  match ← outcome (ask peer .lock) with
  | .error e =>
    setMode .stateless
    throw e
  | .ok handle =>
    let record ← ownRecord handle
    consult (Registry.setLock record)
    change fun c => { c with handle := some handle, stage := next }
    announce handle
    return handle

/-- Asks whether the object may be created, and fails if it may not. -/
def mayCreate : Act σ Unit := do
  match ← validate peer with
  | .alternate reason response => throw (.rejected response.status reason)
  | .accepted _ => pure ()

/-- The last check of an edit, without the clean-up. -/
def lastCheck : Act σ Unit := do
  match ← outcome (check peer none) with
  | .ok _ => pure ()
  | .error e =>
    if e.isNetwork then
      tolerate .check e
      change fun c => { c with stage := .checkedFinal }
    else throw e

/-- Does an act if the chain is to activate its object. -/
def ifActivating (act : Act σ Unit) : Act σ Unit := do
  if (← Act.chain).options.activate then act

end Chain

/-- A part of a whole chain, attempted at a step. -/
structure Part (σ : Type) where
  step : Step
  act : Act σ Unit
  /-- The part without what it undoes itself when it fails. -/
  bare : Act σ Unit

/-- A part that undoes nothing itself. -/
def Part.plain (step : Step) (act : Act σ Unit) : Part σ :=
  ⟨step, act, act⟩

/-- The whole chains. -/
inductive WholeChain where
  | create (payload : Option String) (source : String)
  | update (source : String)
  | delete
  | write (source : String)
deriving Repr, DecidableEq, Inhabited

namespace WholeChain

open Chain

/-- A whole chain as an operation. -/
def operation : WholeChain → Operation
  | create payload source => .runCreate payload source
  | update source => .runUpdate source
  | delete => .runDelete
  | write source => .runWrite source

/-- The parts of an edit under a lock. -/
def editParts (peer : Collaborator σ) (source : String) : List (Part σ) :=
  [⟨.lock, discard (lock peer), discard (takeLock peer)⟩,
   .plain .check (discard (check peer (some source))),
   .plain .update (discard (Chain.update peer source)),
   .plain .unlock (discard (unlock peer)),
   .plain .read (settle peer),
   .plain .check (lastCheck peer),
   .plain .activate (ifActivating (discard (activate peer))),
   .plain .read (ifActivating (settle peer))]

/-- The parts of a whole chain in their order. -/
def parts (peer : Collaborator σ) : WholeChain → List (Part σ)
  | create payload source =>
    .plain .validate (mayCreate peer) :: .plain .create (discard (Chain.create peer payload)) ::
      .plain .check (discard (check peer none)) :: editParts peer source
  | update source => editParts peer source
  | delete =>
    [.plain .check (discard (check peer none)), .plain .delete (discard (Chain.delete peer))]
  | write source =>
    [.plain .lock (discard resumeLock), .plain .check (discard (check peer (some source))),
     .plain .update (discard (Chain.update peer source))]

/-- What a whole chain does after its parts. -/
def last : WholeChain → Act σ Unit
  | write _ => pure ()
  | _ => finish

end WholeChain

namespace Chain

/-- Does some parts in turn; the chain ends at the first that fails. -/
def runParts (peer : Collaborator σ) : List (Part σ) → Act σ Unit
  | [] => pure ()
  | p :: ps => do
    attempt peer p.step p.act
    runParts peer ps

/-- Does some parts in turn up to the first that fails, and cleans up nothing; gives the step of
that part, and its failure. -/
def untilFailure : List (Part σ) → Act σ (Option (Step × Failure))
  | [] => pure none
  | p :: ps => do
    match ← outcome p.bare with
    | .ok _ => untilFailure ps
    | .error cause => return some (p.step, cause)

variable {peer : Collaborator σ}

/-! ### The parts make up the whole -/

/-- Two acts that are performed alike are the same. -/
theorem act_ext {act act' : Act σ α} (h : ∀ s, act.perform s = act'.perform s) : act = act' :=
  funext h

/-- The scene that a chain leaves when it fails. -/
def cleaned (peer : Collaborator σ) (step : Step) (cause : Failure) (s : Scene σ) : Scene σ :=
  ((abort peer step cause : Act σ Unit).perform s).2

theorem perform_abort (step : Step) (cause : Failure) (s : Scene σ) :
    (abort peer step cause : Act σ α).perform s =
      (.error ((cleaned peer step cause s).chain.failure step cause), cleaned peer step cause s) := by
  obtain ⟨s₁, h₁, -⟩ := undoLock_run peer (s.withChain fun c => c.withFailure step cause)
  obtain ⟨s₂, h₂, -⟩ := undoCreate_run peer s₁
  unfold cleaned abort
  simp only [perform_bind, perform_change, h₁, h₂, perform_setMode, perform_chain, perform_throw]

/-- An attempt whose result is thrown away. -/
theorem attempt_discard_bind (step : Step) (act : Act σ α) (next : Act σ β) :
    (do attempt peer step (discard act); next : Act σ β) =
      (do let _ ← attempt peer step act; next) := by
  refine act_ext fun s => ?_
  rw [perform_bind, perform_bind, perform_attempt, perform_attempt, perform_discard_eq]
  generalize act.perform s = out
  obtain ⟨e | a, t⟩ := out
  · simp only [perform_abort]
  · rfl

theorem attempt_mayCreate_bind (next : Act σ β) :
    (do attempt peer .validate (mayCreate peer); next : Act σ β) =
      (do match ← attempt peer .validate (validate peer) with
          | .alternate reason response => abort peer .validate (.rejected response.status reason)
          | .accepted _ => next) := by
  refine act_ext fun s => ?_
  unfold mayCreate
  rw [perform_bind, perform_bind, perform_attempt, perform_attempt, perform_bind]
  generalize (validate peer).perform s = out
  obtain ⟨e | outcome, t⟩ := out
  · simp only [perform_abort]
  · cases outcome with
    | accepted => rfl
    | alternate => simp only [perform_throw, perform_abort]

theorem attempt_lastCheck : attempt peer .check (lastCheck peer) = finalCheck peer := by
  refine act_ext fun s => ?_
  unfold lastCheck finalCheck
  rw [perform_attempt, perform_bind, perform_bind, perform_outcome]
  generalize (check peer none).perform s = out
  obtain ⟨e | r, t⟩ := out
  · cases hn : e.isNetwork with
    | true => simp [hn, tolerate, perform_bind]
    | false => simp [hn]
  · rfl

theorem perform_ifActivating (act : Act σ Unit) (s : Scene σ) : (ifActivating act).perform s =
    if s.chain.options.activate then act.perform s else (.ok (), s) := by
  show (if s.chain.options.activate then act else pure ()).perform s = _
  split <;> rfl

theorem attempt_ifActivating :
    (do attempt peer .activate (ifActivating (discard (activate peer)))
        attempt peer .read (ifActivating (settle peer)) : Act σ Unit) =
      ifActivating (do
        let _ ← attempt peer .activate (activate peer)
        attempt peer .read (settle peer)) := by
  refine act_ext fun s => ?_
  cases hs : s.chain.options.activate with
  | false =>
    rw [perform_ifActivating, hs, perform_bind, perform_attempt, perform_ifActivating, hs]
    simp only [Bool.false_eq_true, if_false]
    rw [perform_attempt, perform_ifActivating, hs]
    rfl
  | true =>
    have hoptions := (activate_run peer s).options
    rw [perform_ifActivating, hs, perform_bind, perform_bind, perform_attempt, perform_attempt,
      perform_ifActivating, hs, perform_discard_eq]
    simp only [if_true]
    generalize (activate peer).perform s = out at hoptions ⊢
    obtain ⟨e | r, t⟩ := out
    · simp only [perform_abort]
    · have ht : t.chain.options.activate = true := by rw [hoptions, hs]
      simp only [perform_attempt, perform_ifActivating, ht, if_true]

end Chain

namespace WholeChain

open Chain

variable {peer : Collaborator σ}

theorem runParts_editParts (source : String) :
    runParts peer (editParts peer source) = editUnderLock peer source := by
  simp only [editParts, runParts, Part.plain, bind_pure_unit, attempt_discard_bind,
    attempt_lastCheck, attempt_ifActivating]
  rfl

/-- **A whole chain is its parts, one after the other.** -/
theorem act_eq (w : WholeChain) :
    w.operation.act peer = (do runParts peer (w.parts peer); w.last) := by
  cases w with
  | create payload source =>
    simp only [parts, runParts, runParts_editParts, Part.plain, bind_assoc]
    rw [attempt_mayCreate_bind]
    simp only [attempt_discard_bind]
    rfl
  | update source =>
    simp only [parts, runParts_editParts]
    rfl
  | delete =>
    simp only [parts, runParts, Part.plain, bind_assoc, pure_bind, attempt_discard_bind]
    rfl
  | write source =>
    simp only [parts, runParts, Part.plain, bind_assoc, pure_bind, attempt_discard_bind]
    rfl

end WholeChain

/-! ### Going on -/

namespace Chain

variable {peer : Collaborator σ} {s t : Scene σ}

theorem askKept_goesOn (s : Scene σ) : AskKept peer (fun _ => True) (GoesOn s) := by
  intro step call t out hr _ _ hs
  cases hr with
  | rejected => exact hs
  | failed => exact hs.trans ⟨rfl, rfl, rfl, List.prefix_append ..⟩
  | answered => exact hs.trans ⟨rfl, rfl, rfl, List.prefix_append ..⟩

theorem ReleaseRun.goesOn {handle : String} (h : ReleaseRun peer handle s t) : GoesOn s t := by
  cases h <;> exact ⟨rfl, rfl, rfl, List.prefix_append ..⟩

theorem lock_goesOn (s : Scene σ) : GoesOn s ((lock peer).perform s).2 := by
  have hrun := lock_run peer s
  generalize (lock peer).perform s = out at hrun ⊢
  have hasked : GoesOn s (lockAsked peer s) := ⟨rfl, rfl, rfl, List.prefix_append ..⟩
  cases hrun with
  | rejected => exact .refl s
  | refused => exact hasked.trans ⟨rfl, rfl, rfl, List.prefix_rfl⟩
  | @unrecorded _ _ _ registry _ _ _ _ release =>
    have hwritten : GoesOn (lockAsked peer s) ((lockAsked peer s).withRegistry registry) :=
      ⟨rfl, rfl, rfl, List.prefix_rfl⟩
    exact (hasked.trans hwritten).trans release.goesOn
  | recorded => exact hasked.trans ⟨rfl, rfl, rfl, List.prefix_rfl⟩

theorem resumeLock_goesOn (s : Scene σ) :
    GoesOn s ((resumeLock : Act σ String).perform s).2 := by
  have hrun := resumeLock_run s
  generalize (resumeLock : Act σ String).perform s = out at hrun ⊢
  cases hrun <;> exact ⟨rfl, rfl, rfl, List.prefix_rfl⟩

theorem unlock_goesOn (s : Scene σ) : GoesOn s ((unlock peer).perform s).2 := by
  have hrun := unlock_run peer s
  generalize (unlock peer).perform s = out at hrun ⊢
  cases hrun with
  | rejected => exact .refl s
  | refused => exact ⟨rfl, rfl, rfl, List.prefix_append ..⟩
  | released => exact ⟨rfl, rfl, rfl, List.prefix_append ..⟩

theorem settle_goesOn (s : Scene σ) : Keeps (GoesOn s) (settle peer) :=
  leads_settle (fun _ => (askKept_goesOn s).keeps_read trivial)
    (fun _ _ _ hs => hs.trans ⟨rfl, rfl, rfl, List.prefix_rfl⟩) fun _ _ hs => hs

theorem mayCreate_goesOn (s : Scene σ) : Keeps (GoesOn s) (mayCreate peer) := by
  refine Leads.bind ((askKept_goesOn s).keeps_validate trivial) fun outcome => ?_
  cases outcome with
  | accepted => exact fun _ hs => hs
  | alternate => exact fun _ hs => hs

theorem lastCheck_goesOn (s : Scene σ) : Keeps (GoesOn s) (lastCheck peer) := by
  refine keeps_of_perform fun t ht => ?_
  have hcheck : GoesOn s ((check peer none).perform t).2 :=
    ((askKept_goesOn s).keeps_check fun _ => trivial).perform ht
  unfold lastCheck
  rw [perform_bind, perform_outcome]
  generalize (check peer none).perform t = out at hcheck ⊢
  obtain ⟨e | r, u⟩ := out
  · cases hn : e.isNetwork with
    | true =>
      simp only [hn, if_true, tolerate, perform_bind, perform_change]
      exact hcheck.trans ⟨rfl, rfl, rfl, List.prefix_rfl⟩
    | false =>
      simp only [hn]
      exact hcheck
  · exact hcheck

theorem ifActivating_goesOn {act : Act σ Unit} (h : Keeps (GoesOn s) act) :
    Keeps (GoesOn s) (ifActivating act) :=
  leads_chain_bind fun _ => leads_ite
    (fun _ => h.mono (fun _ hs => hs.1) (fun _ _ hs => hs) fun _ _ hs => hs)
    fun _ => leads_pure fun _ hs => hs.1

end Chain

/-- The second act ends as the first does; where it fails, it may have called for longer. -/
def EndsAlike (out out' : Except Failure α × Scene σ) : Prop :=
  out' = out ∨ ∃ e t t', out = (.error e, t) ∧ out' = (.error e, t') ∧ t.calls <+: t'.calls

theorem EndsAlike.discard {act act' : Act σ α} {s : Scene σ}
    (h : EndsAlike (act.perform s) (act'.perform s)) :
    EndsAlike ((Functor.discard act : Act σ Unit).perform s)
      ((Functor.discard act' : Act σ Unit).perform s) := by
  rw [perform_discard_eq, perform_discard_eq]
  rcases h with hsame | ⟨e, t, t', hbare, hact, hcalls⟩
  · exact .inl (by rw [hsame])
  · exact .inr ⟨e, t, t', by rw [hbare], by rw [hact], hcalls⟩

/-- Performed bare, a part ends in the same way, but for what it undoes itself. -/
structure Part.Faithful (p : Part σ) : Prop where
  goesOn : ∀ s, Chain.GoesOn s (p.act.perform s).2
  ends : ∀ s, EndsAlike (p.bare.perform s) (p.act.perform s)

namespace Part.Faithful

variable {peer : Collaborator σ}

theorem plain {step : Step} {act : Act σ Unit}
    (h : ∀ s, Keeps (Chain.GoesOn s) act) : (Part.plain step act).Faithful where
  goesOn s := (h s).perform (.refl s)
  ends _ := .inl rfl

/-- A step that undoes nothing itself. -/
theorem single {step : Step} {act : Act σ α} (h : ∀ s, Keeps (Chain.GoesOn s) act) :
    (Part.plain step (discard act)).Faithful :=
  plain fun s => (h s).discard

/-- A lock that is granted and cannot be recorded is released by the part itself. -/
theorem lock_endsAlike (s : Scene σ) :
    EndsAlike ((Chain.takeLock peer).perform s) ((Chain.lock peer).perform s) := by
  unfold Chain.lock Chain.takeLock
  rw [perform_bind, perform_bind, Chain.perform_allowed]
  cases s.chain.stage.next? .lock with
  | none => exact .inl rfl
  | some next =>
    simp only [perform_bind, perform_setMode, perform_outcome]
    rw [perform_ask]
    cases (s.routed .stateful).answer peer .lock with
    | error e => exact .inl rfl
    | ok handle =>
      simp only [perform_bind, perform_ownRecord, perform_outcome, perform_consult]
      generalize Registry.setLock _ _ = written
      obtain ⟨e | u, registry⟩ := written
      · obtain ⟨t', hrelease, release⟩ := Chain.releaseUnrecorded_run peer handle
          (((s.routed .stateful).asked peer .lock).withRegistry registry)
        simp only [perform_bind, hrelease, perform_throw]
        exact .inr ⟨e, _, t', rfl, rfl, release.goesOn.calls⟩
      · exact .inl rfl

theorem lock :
    (⟨.lock, discard (Chain.lock peer), discard (Chain.takeLock peer)⟩ : Part σ).Faithful where
  goesOn s := by
    rw [perform_discard]
    exact Chain.lock_goesOn s
  ends s := (lock_endsAlike s).discard

end Part.Faithful

namespace WholeChain

open Chain

variable {peer : Collaborator σ}

theorem faithful_editParts (source : String) : ∀ p ∈ editParts peer source, p.Faithful := by
  have hcheck (payload : Option String) (s : Scene σ) : Keeps (GoesOn s) (check peer payload) :=
    (askKept_goesOn s).keeps_check fun _ => trivial
  simp only [editParts, List.forall_mem_cons]
  refine ⟨.lock, .single (hcheck _), .single fun s => ?_, .single fun s => ?_, .plain settle_goesOn,
    .plain lastCheck_goesOn, .plain fun s => ?_, .plain fun s => ?_, nofun⟩
  · exact (askKept_goesOn s).keeps_update fun _ => trivial
  · exact keeps_of_perform fun t ht => ht.trans (unlock_goesOn t)
  · exact ifActivating_goesOn ((askKept_goesOn s).keeps_activate trivial).discard
  · exact ifActivating_goesOn (settle_goesOn s)

theorem faithful_parts (w : WholeChain) : ∀ p ∈ w.parts peer, p.Faithful := by
  have hcheck (payload : Option String) (s : Scene σ) : Keeps (GoesOn s) (check peer payload) :=
    (askKept_goesOn s).keeps_check fun _ => trivial
  cases w with
  | create payload source =>
    simp only [parts, List.forall_mem_cons]
    exact ⟨.plain mayCreate_goesOn, .single fun s => (askKept_goesOn s).keeps_create trivial,
      .single (hcheck none), faithful_editParts source⟩
  | update source => exact faithful_editParts source
  | delete =>
    simp only [parts, List.forall_mem_cons]
    exact ⟨.single (hcheck none), .single fun s => (askKept_goesOn s).keeps_delete fun _ => trivial,
      nofun⟩
  | write source =>
    simp only [parts, List.forall_mem_cons]
    refine ⟨.single fun s => ?_, .single (hcheck _), .single fun s => ?_, nofun⟩
    · exact keeps_of_perform fun t ht => ht.trans (resumeLock_goesOn t)
    · exact (askKept_goesOn s).keeps_update fun _ => trivial

end WholeChain

end EditLock
