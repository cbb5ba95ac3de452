/-
# The cause that a failing chain reports

A whole chain fails at the first part that fails, and what it reports is the failure of that part,
whatever its clean-up comes to: the release of a lock that was not recorded, the release of the lock
and the removal of its record at the end, and the deletion of the object. So two runs that are
answered alike up to the first failure report the same cause at the same step, and may differ in the
handle that is held in the end.

Key definitions: `Chain.Reports`.
Key theorems: `Chain.runParts_reports`, `WholeChain.reports_or_ends`, `WholeChain.cause_stands`.
-/
import EditLock.Proofs.Chain.Calls
import EditLock.Proofs.Chain.Parts
import EditLock.Proofs.Chain.TwoRuns

namespace EditLock

open Act

variable {σ τ : Type}

/-! ### What a failing chain reports -/

namespace Chain

variable {peer : Collaborator σ} {s t : Scene σ}

/-- A run of the chain reports its failure at a step with a cause, and notes that failure alone. -/
structure Reports (c : Chain) (step : Step) (cause : Failure)
    (out : Except Failure Unit × Scene σ) : Prop where
  result : out.1 = .error (.chain step cause out.2.chain.handle c.session c.object.toText)
  failures : out.2.chain.failures = c.failures ++ [(step, cause.message)]

/-- What a chain reports that went on from an earlier scene, it reports of that scene. -/
theorem Reports.of_goesOn {step : Step} {cause : Failure} {out : Except Failure Unit × Scene σ}
    (h : Reports t.chain step cause out) (hs : GoesOn s t) : Reports s.chain step cause out :=
  ⟨by rw [← hs.session, ← hs.object]; exact h.result, by rw [← hs.failures]; exact h.failures⟩

/-- The clean-up of a failing chain notes the failure, and goes on. -/
theorem cleaned_reports (step : Step) (cause : Failure) (s : Scene σ) :
    Reports s.chain step cause ((abort peer step cause : Act σ Unit).perform s) ∧
      s.calls <+: (cleaned peer step cause s).calls := by
  obtain ⟨s₁, s₂, hlock, hcreate, habort⟩ := @abort_run σ Unit peer step cause s
  have hgone := hlock.goesOn.trans hcreate.goesOn
  unfold cleaned
  rw [habort]
  refine ⟨⟨?_, hgone.failures⟩, hgone.calls⟩
  show Except.error (s₂.chain.failure step cause) = _
  unfold failure
  rw [hgone.session, hgone.object]
  rfl

/-- **Parts that are done in turn come to the first that fails bare, and report its failure.** -/
theorem runParts_reports {ps : List (Part σ)} (hps : ∀ p ∈ ps, p.Faithful) (s : Scene σ) :
    ∃ first t, (untilFailure ps).perform s = (.ok first, t) ∧
      t.calls <+: ((runParts peer ps).perform s).2.calls ∧
      match first with
      | none => (runParts peer ps).perform s = (.ok (), t)
      | some (step, cause) => Reports s.chain step cause ((runParts peer ps).perform s) := by
  induction ps generalizing s with
  | nil => exact ⟨none, s, rfl, List.prefix_rfl, rfl⟩
  | cons p ps ih =>
    obtain ⟨hp, hps⟩ := List.forall_mem_cons.1 hps
    have hgoes := hp.goesOn s
    have hends := hp.ends s
    unfold untilFailure runParts
    rw [perform_bind, perform_outcome, perform_bind, perform_attempt]
    rcases hbare : p.bare.perform s with ⟨e | u, t⟩
    · -- the part fails, and the chain with it
      obtain ⟨t', hact, hcalls⟩ : ∃ t', p.act.perform s = (.error e, t') ∧ t.calls <+: t'.calls := by
        rw [hbare] at hends
        rcases hends with hsame | ⟨e', u, u', hfirst, hact, hcalls⟩
        · exact ⟨t, hsame, List.prefix_rfl⟩
        · cases hfirst
          exact ⟨u', hact, hcalls⟩
      rw [hact] at hgoes
      obtain ⟨hreports, hcleaned⟩ := @cleaned_reports σ peer p.step e t'
      rw [perform_abort] at hreports
      simp only [hact, perform_abort]
      exact ⟨_, t, rfl, hcalls.trans hcleaned, hreports.of_goesOn hgoes⟩
    · -- the part ends in the same way, and the rest is done
      have hact : p.act.perform s = (.ok u, t) := by
        rw [hbare] at hends
        rcases hends with hsame | ⟨e, _, _, hfirst, -, -⟩
        · exact hsame
        · cases hfirst
      rw [hact] at hgoes
      simp only [hact]
      obtain ⟨first, t', hfirst, hcalls, hreport⟩ := ih hps t
      refine ⟨first, t', hfirst, hcalls, ?_⟩
      cases first with
      | none => exact hreport
      | some failed => exact hreport.of_goesOn hgoes

/-! ### The same parts in two runs -/

theorem takeLock_tallies {w : Accord} (peer : Collaborator σ) (peer' : Collaborator τ) :
    Tallies w (takeLock peer) (takeLock peer') := by
  refine tallies_allowed_bind .lock fun next => (tallies_change _).bind fun _ =>
    (tallies_ask peer peer' .lock).outcome.bind fun result => ?_
  cases result with
  | error e => exact (tallies_change _).bind fun _ => tallies_throw e
  | ok handle =>
    exact (tallies_ownRecord handle).bind fun record =>
      (tallies_consult (Registry.setLock_tallied record)).bind fun _ =>
        (tallies_change _).bind fun _ => (tallies_announce handle).bind fun _ => tallies_pure handle

theorem mayCreate_tallies {w : Accord} (peer : Collaborator σ) (peer' : Collaborator τ) :
    Tallies w (mayCreate peer) (mayCreate peer') := by
  refine (validate_tallies peer peer').bind fun outcome => ?_
  cases outcome with
  | accepted => exact tallies_pure ()
  | alternate reason response => exact tallies_throw _

theorem lastCheck_tallies {w : Accord} (peer : Collaborator σ) (peer' : Collaborator τ) :
    Tallies w (lastCheck peer) (lastCheck peer') := by
  refine (check_tallies peer peer' none).outcome.bind fun result => ?_
  cases result with
  | ok r => exact tallies_pure ()
  | error e =>
    cases hn : e.isNetwork with
    | true =>
      simp only [hn, if_true]
      exact (tallies_change _).bind fun _ => tallies_change _
    | false =>
      simp only [hn]
      exact tallies_throw e

theorem ifActivating_tallies {w : Accord} {act : Act σ Unit} {act' : Act τ Unit}
    (h : Tallies w act act') : Tallies w (ifActivating act) (ifActivating act') := by
  refine tallies_chain_bind fun c => ?_
  cases c.options.activate with
  | true => exact h
  | false => exact tallies_pure ()

/-- Two parts are attempted at the same step, and tally as far as they undo nothing. -/
def PartsTally (w : Accord) (p : Part σ) (p' : Part τ) : Prop :=
  p.step = p'.step ∧ Tallies w p.bare p'.bare

theorem untilFailure_tallies {w : Accord} {ps : List (Part σ)} {ps' : List (Part τ)}
    (h : List.Forall₂ (PartsTally w) ps ps') : Tallies w (untilFailure ps) (untilFailure ps') := by
  induction h with
  | nil => exact tallies_pure none
  | cons hp _ ih =>
    refine hp.2.outcome.bind fun result => ?_
    cases result with
    | ok u => exact ih
    | error cause =>
      show Tallies w (pure (some (_, cause))) (pure (some (_, cause)))
      rw [hp.1]
      exact tallies_pure _

end Chain

namespace WholeChain

open Chain

theorem editParts_tally {w : Accord} (peer : Collaborator σ) (peer' : Collaborator τ)
    (source : String) :
    List.Forall₂ (PartsTally w) (editParts peer source) (editParts peer' source) := by
  unfold editParts
  refine .cons ⟨rfl, (takeLock_tallies peer peer').discard⟩ <|
    .cons ⟨rfl, (check_tallies peer peer' _).discard⟩ <|
    .cons ⟨rfl, (update_tallies peer peer' source).discard⟩ <|
    .cons ⟨rfl, (unlock_tallies peer peer').discard⟩ <|
    .cons ⟨rfl, settle_tallies peer peer'⟩ <|
    .cons ⟨rfl, lastCheck_tallies peer peer'⟩ <|
    .cons ⟨rfl, ifActivating_tallies (activate_tallies peer peer').discard⟩ <|
    .cons ⟨rfl, ifActivating_tallies (settle_tallies peer peer')⟩ .nil

theorem parts_tally {w : Accord} (peer : Collaborator σ) (peer' : Collaborator τ)
    (whole : WholeChain) : List.Forall₂ (PartsTally w) (whole.parts peer) (whole.parts peer') := by
  cases whole with
  | create payload source =>
    exact .cons ⟨rfl, mayCreate_tallies peer peer'⟩ <|
      .cons ⟨rfl, (create_tallies peer peer' payload).discard⟩ <|
      .cons ⟨rfl, (check_tallies peer peer' none).discard⟩ <| editParts_tally peer peer' source
  | update source => exact editParts_tally peer peer' source
  | delete =>
    exact .cons ⟨rfl, (check_tallies peer peer' none).discard⟩ <|
      .cons ⟨rfl, (delete_tallies peer peer').discard⟩ .nil
  | write source =>
    exact .cons ⟨rfl, resumeLock_tallies.discard⟩ <|
      .cons ⟨rfl, (check_tallies peer peer' _).discard⟩ <|
      .cons ⟨rfl, (update_tallies peer peer' source).discard⟩ .nil

/-- A whole chain comes to its end, or reports the failure of the first part that fails bare. -/
theorem reports_or_ends (whole : WholeChain) (peer : Collaborator σ) (s : Scene σ) :
    ∃ first t, (untilFailure (whole.parts peer)).perform s = (.ok first, t) ∧
      t.calls <+: ((whole.operation.act peer).perform s).2.calls ∧
      match first with
      | none => ((whole.operation.act peer).perform s).1 = .ok ()
      | some (step, cause) => Reports s.chain step cause ((whole.operation.act peer).perform s) := by
  obtain ⟨first, t, hfirst, hcalls, hreport⟩ := @runParts_reports σ peer _ whole.faithful_parts s
  refine ⟨first, t, hfirst, ?_⟩
  rw [act_eq, perform_bind]
  cases first with
  | none =>
    rw [hreport]
    cases whole <;> exact ⟨List.prefix_rfl, rfl⟩
  | some failed =>
    generalize (runParts peer (whole.parts peer)).perform s = out at hcalls hreport ⊢
    obtain ⟨e | a, u⟩ := out
    · exact ⟨hcalls, hreport⟩
    · exact nomatch hreport.result

/-- **The cause of a failure stands, whatever becomes of the clean-up.** Two runs of a whole chain
start alike, and one fails. If the other is answered alike up to the first failure, by the
collaborator and by the registry, both report the same failure at the same step, with the same
cause, session and object, and note it once. They may differ in the handle that is held in the
end. -/
theorem cause_stands (whole : WholeChain) (peer : Collaborator σ) (peer' : Collaborator τ)
    {s t : Scene σ} {s' : Scene τ} {step : Step} {cause : Failure}
    (fails : (untilFailure (whole.parts peer)).perform s = (.ok (some (step, cause)), t))
    (alike : s.Alike t.registry.statements s')
    (answered : AnsweredAlike t.calls.length ((whole.operation.act peer).perform s).2.calls
      ((whole.operation.act peer').perform s').2.calls) :
    Reports s.chain step cause ((whole.operation.act peer).perform s) ∧
      Reports s.chain step cause ((whole.operation.act peer').perform s') := by
  obtain ⟨first, u, hfirst, hcalls, hreport⟩ := whole.reports_or_ends peer s
  obtain ⟨first', u', hfirst', hcalls', hreport'⟩ := whole.reports_or_ends peer' s'
  cases fails.symm.trans hfirst
  let w : Accord := ⟨_, _, t.calls.length, t.registry.statements, answered⟩
  have htally : Tallies w (untilFailure (whole.parts peer)) (untilFailure (whole.parts peer')) :=
    untilFailure_tallies (parts_tally peer peer' whole)
  have hcovers : w.Covers ((untilFailure (whole.parts peer)).perform s).2
      ((untilFailure (whole.parts peer')).perform s').2 := by
    rw [hfirst, hfirst']
    exact ⟨hcalls, hcalls', le_rfl, le_rfl⟩
  have hsame := (htally.alike alike hcovers).1
  rw [hfirst, hfirst'] at hsame
  cases hsame
  exact ⟨hreport, by rw [alike.chain]; exact hreport'⟩

/-- An edit whose lock is granted and cannot be recorded. -/
def unrecordable (releases : Bool) : Scene Bool :=
  .blank (.make .program "zdemo") "S1" { availability := fun _ => .readOnly } releases

/-- What comes of the edit. -/
def unrecorded (releases : Bool) : Except Failure Unit × Scene Bool :=
  ((update "REPORT zdemo.").operation.act (.agreeing "H")).perform (unrecordable releases)

/-- The lock is released in the one run and held in the other; the failure to record it is what both
report. -/
theorem unrecorded_cause_stands :
    Reports (unrecordable true).chain .lock Registry.engineFailure (unrecorded true) ∧
      Reports (unrecordable true).chain .lock Registry.engineFailure (unrecorded false) ∧
      (unrecorded true).2.chain.handle = none ∧ (unrecorded false).2.chain.handle = some "H" := by
  have fails : ((untilFailure ((update "REPORT zdemo.").parts (.agreeing "H"))).perform
      (unrecordable true)).1 = .ok (some (.lock, Registry.engineFailure)) := rfl
  have alike (bound : Nat) : (unrecordable true).Alike bound (unrecordable false) :=
    ⟨rfl, ⟨rfl, rfl, fun _ _ => rfl⟩, rfl, rfl, rfl, rfl⟩
  have answered : AnsweredAlike 1 (unrecorded true).2.calls (unrecorded false).2.calls := by
    intro n hn e he e' he' _ _
    obtain rfl : n = 0 := by omega
    have hlock : (unrecorded true).2.calls[0]? = (unrecorded false).2.calls[0]? := rfl
    rw [← hlock] at he'
    exact Option.mem_unique he he'
  obtain ⟨hreports, hreports'⟩ := cause_stands (update "REPORT zdemo.") (.agreeing "H")
    (.agreeing "H") (Prod.ext fails rfl) (alike _) answered
  exact ⟨hreports, hreports', rfl, rfl⟩

end WholeChain

end EditLock
