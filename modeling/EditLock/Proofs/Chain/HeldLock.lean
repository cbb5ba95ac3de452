/-
# A lock that is recorded

The row of a lock is all that a chain leaves to the others of its session. As long as it stands, and
no statement fails (`Registry.Holds`), a chain of the session that has done nothing yet takes up the
same handle, and one that writes does so under it, unless a call is not answered; the session's own
removal empties the key. A chain of another session announces no lock of the object.

Key definitions: `Registry.Holds`, `Chain.Unused`, `Chain.Locked`, `Chain.Unanswered`,
`Chain.Writing`.
Key theorems: `Registry.Holds.removed`, `Chain.stable_unannounced`, `Chain.resumeLock_of_foreign`,
`Chain.perform_resumeLock_of_holds`, `Chain.runWrite_under`.
-/
import EditLock.Proofs.Chain.MutualExclusion

namespace EditLock

open Act Registry

variable {σ : Type}

/-- Whether a call was answered with success. -/
def Exchange.isAnswered (e : Exchange) : Bool :=
  e.result.isOk

/-! ### The row of the lock -/

/-- The session's lock of the object is recorded under this handle and can be taken up, and no
statement fails. -/
structure Registry.Holds (r : Registry) (k : Key) (session handle : String) : Prop where
  keyed : r.Keyed
  available : ∀ n, r.availability n = .available
  row : ∃ row record, find? r.rows k = some row ∧ row.decode = .ok record ∧
    record.session = session ∧ record.handle = handle

theorem Registry.Holds.ran {r : Registry} {k : Key} {session handle : String}
    (h : r.Holds k session handle) (count : Nat) : (r.ran count r.rows).Holds k session handle :=
  ⟨h.keyed, h.available, h.row⟩

/-- The session's own removal empties the key. -/
theorem Registry.Holds.removed {record : LockRecord} {r r' : Registry}
    {result : Except Failure Bool} (h : r.Holds record.key record.session record.handle)
    (removal : RemoveRun record r result r') : find? r'.rows record.key = none := by
  have hremoval := removal
  cases removal with
  | unwritable unwritable => exact absurd (h.available _) unwritable
  | removed =>
    obtain ⟨row, found, hf, decoded, hsession, hhandle⟩ := h.row
    have ⟨hs, hh⟩ := Row.decode_eq_ok decoded
    refine (find?_of_removeRun_ok hremoval h.keyed).2 fun other hother => ?_
    obtain rfl := Option.some.inj (hf.symm.trans hother)
    exact ⟨hs.symm.trans hsession, hh.symm.trans hhandle⟩

/-- A chain that has done nothing yet, in a session and for the object of a key, however the object is
spelled (`ObjectRef.key_withSubKey_make`). -/
structure Chain.Unused (c : Chain) (session : String) (k : Key) : Prop where
  fresh : c.IsFresh
  session : c.session = session
  key : c.object.key = k

namespace Chain

variable (peer : Collaborator σ)

/-- What the table lets the statements do is not for a chain to change. -/
theorem stable_availability (availability : Nat → Availability) :
    Stable peer fun s => s.registry.availability = availability := by
  refine stable_of_statements peer (P := fun _ _ r => r.availability = availability) ?_ ?_
    fun hs => hs
  · intro _ _ _ _ _ _ hs _ _ written
    cases written <;> exact hs
  · intro _ _ _ _ _ _ hs _ _ removal
    cases removal <;> exact hs

/-- A call that was not answered is among the calls. -/
def Unanswered (s : Scene σ) : Prop :=
  ∃ e ∈ s.calls, e.isAnswered = false

theorem Unanswered.of_prefix {s s' : Scene σ} (h : Unanswered s) (hcalls : s.calls <+: s'.calls) :
    Unanswered s' := by
  obtain ⟨e, he, hu⟩ := h
  exact ⟨e, hcalls.subset he, hu⟩

theorem stable_unanswered : Stable peer Unanswered where
  ask _ _ _ _ hr _ _ hs := by
    cases hr with
    | rejected => exact hs
    | failed => exact hs.of_prefix (List.prefix_append ..)
    | answered => exact hs.of_prefix (List.prefix_append ..)
  lock {s _} hs hr := by
    cases hr with
    | rejected => exact hs
    | refused => exact hs.of_prefix (List.prefix_append ..)
    | unrecorded _ _ _ release =>
      have hasked : Unanswered (lockAsked peer s) := hs.of_prefix (List.prefix_append ..)
      refine hasked.of_prefix ?_
      rw [release.calls.1]
      exact List.prefix_append ..
    | recorded => exact hs.of_prefix (List.prefix_append ..)
  resume hs hr := by cases hr <;> exact hs
  unlock hs hr := by
    cases hr with
    | rejected => exact hs
    | refused => exact hs.of_prefix (List.prefix_append ..)
    | released => exact hs.of_prefix (List.prefix_append ..)
  undoLock hs hr := hs.of_prefix hr.goesOn.calls
  undoCreate hs hr := hs.of_prefix hr.goesOn.calls
  failure _ _ hs := hs
  warning _ hs := hs
  rest hs := hs
  settled hs := hs
  finished hs _ := hs

/-- **No lock is announced beside the row of another session.** -/
theorem stable_unannounced (k : Key) (row : Row) :
    Stable peer fun s => (find? s.registry.rows k = some row ∧ row.session ≠ s.chain.session) ∧
      s.chain.object.key = k ∧ s.announced = [] := by
  have hforeign := stable_foreign peer k row
  exact {
    ask := fun _ _ _ _ hr hstep hplain hs => by
      have hrow := hforeign.ask hr hstep hplain hs.1
      cases hr <;> exact ⟨hrow, hs.2⟩
    lock := fun {s _} hs hr => by
      have hrow := hforeign.lock hs.1 hr
      cases hr with
      | rejected => exact ⟨hrow, hs.2⟩
      | refused => exact ⟨hrow, hs.2⟩
      | unrecorded _ _ _ release => cases release <;> exact ⟨hrow, hs.2⟩
      | recorded _ _ written =>
        cases written with
        | stored _ own =>
          rw [Scene.record_key, hs.2.1] at own
          exact absurd (own row hs.1.1) hs.1.2
    resume := fun hs hr => by
      have hrow := hforeign.resume hs.1 hr
      cases hr <;> exact ⟨hrow, hs.2⟩
    unlock := fun hs hr => by
      have hrow := hforeign.unlock hs.1 hr
      cases hr <;> exact ⟨hrow, hs.2⟩
    undoLock := fun hs hr => by
      have hrow := hforeign.undoLock hs.1 hr
      cases hr <;> exact ⟨hrow, hs.2⟩
    undoCreate := fun hs hr => by
      have hrow := hforeign.undoCreate hs.1 hr
      cases hr <;> exact ⟨hrow, hs.2⟩
    failure := fun _ _ hs => hs
    warning := fun _ hs => hs
    rest := fun hs => hs
    settled := fun hs => hs
    finished := fun hs _ => hs }

/-- No lock is taken up beside the row of another session. -/
theorem resumeLock_of_foreign {s : Scene σ} {row : Row}
    (found : find? s.registry.rows s.chain.object.key = some row)
    (foreign : row.session ≠ s.chain.session) :
    ((resumeLock : Act σ String).perform s).1.toOption = none := by
  have hrun := resumeLock_run s
  generalize (resumeLock : Act σ String).perform s = out at hrun ⊢
  cases hrun with
  | rejected => rfl
  | failed => rfl
  | resumed _ found' decoded own =>
    rw [found, Option.some.injEq] at found'
    rw [← found'] at decoded
    rw [← (Row.decode_eq_ok decoded).1] at foreign
    exact absurd own foreign

/-! ### The chains of the session -/

/-- A chain that holds the lock and has not used it. -/
structure Locked (c : Chain) (session handle : String) (k : Key) : Prop where
  stage : c.stage = .locked
  handle : c.handle = some handle
  session : c.session = session
  key : c.object.key = k

section Own

variable {peer} {s : Scene σ} {session handle : String} {k : Key}

/-- **A lock that is recorded is taken up.** -/
theorem perform_resumeLock_of_holds (unused : s.chain.Unused session k)
    (holds : s.registry.Holds k session handle) :
    (resumeLock : Act σ String).perform s = (.ok handle,
      (s.withRegistry (s.registry.ran 1 s.registry.rows)).withChain fun c =>
        { c with mode := .stateful, handle := some handle, stage := .locked }) := by
  obtain ⟨row, record, found, decoded, hsession, rfl⟩ := holds.row
  have horder : s.chain.stage.next? .lock = some .locked := by
    rw [unused.fresh.stage]
    rfl
  have hrun := resumeLock_run s
  generalize (resumeLock : Act σ String).perform s = out at hrun ⊢
  cases hrun with
  | rejected order => exact nomatch horder.symm.trans order
  | failed e _ why =>
    have hreadable : s.registry.Readable := by
      rw [Readable, holds.available]
      decide
    rw [unused.key, unused.session] at why
    exact absurd hsession (why hreadable row record found decoded)
  | resumed order found' decoded' own =>
    rw [unused.key, found, Option.some.injEq] at found'
    rw [← found', decoded, Except.ok.injEq] at decoded'
    rw [horder, Option.some.injEq] at order
    rw [← decoded', ← order]

/-- On the way through a write: the lock was taken up, and these calls were answered. -/
structure Writing (start : Scene σ) (handle : String) (stage : Stage) (calls : List Call)
    (s : Scene σ) : Prop where
  registry : s.registry = start.registry.ran 1 start.registry.rows
  announced : s.announced = start.announced
  handle : s.chain.handle = some handle
  stage : s.chain.stage = stage
  calls : s.calls.map Exchange.call = start.calls.map Exchange.call ++ calls

/-- A step that is in order makes its call and leads on, or the call is not answered. -/
theorem leads_ask (peer : Collaborator σ) {start : Scene σ} {stage next : Stage}
    {calls : List Call} (step : Step) (call : Call) {act : Act σ call.Answer}
    (order : stage.next? step = some next)
    (hrun : ∀ s, Writing start handle stage calls s → AskRun peer step call s (act.perform s)) :
    Leads (Writing start handle stage calls) act
      (fun _ => Writing start handle next (calls ++ [call])) (fun _ => Unanswered) := by
  intro s h
  have hask := hrun s h
  rw [← h.stage] at order
  generalize act.perform s = out at hask ⊢
  cases hask with
  | rejected order' => exact nomatch order.symm.trans order'
  | failed _ answer =>
    refine ⟨⟨call, s.chain.mode, s.answer peer call⟩, by simp, ?_⟩
    rw [Exchange.isAnswered, answer]
    rfl
  | answered order' =>
    have hnext := Option.some.inj (order'.symm.trans order)
    refine ⟨h.registry, h.announced, h.handle, hnext, ?_⟩
    simp [h.calls]

/-- **A write takes up the recorded lock and writes under it**, unless a call is not answered. -/
theorem runWrite_under (unused : s.chain.Unused session k)
    (holds : s.registry.Holds k session handle) (source : String) :
    Leads (· = s) (runWrite peer source)
      (fun _ => Writing s handle .updated
        [.check .inactive (some source), .update handle source])
      (fun _ => Unanswered) := by
  have hlocked : Leads (· = s) (resumeLock : Act σ String) (fun _ => Writing s handle .locked [])
      (fun _ => Unanswered) := by
    rintro s rfl
    rw [perform_resumeLock_of_holds unused holds]
    exact ⟨rfl, rfl, rfl, rfl, by simp⟩
  have hchecked : Leads (Writing s handle .locked []) (check peer (some source))
      (fun _ => Writing s handle .checkedWithPayload [.check .inactive (some source)])
      (fun _ => Unanswered) := by
    refine leads_ask peer .check (.check .inactive (some source)) rfl fun s₁ h₁ => ?_
    have hversion : s₁.chain.checkedVersion = .inactive := by
      rw [checkedVersion, h₁.stage]
      rfl
    exact hversion ▸ check_run peer (some source) s₁
  have hupdated : Leads (Writing s handle .checkedWithPayload [.check .inactive (some source)])
      (update peer source)
      (fun _ => Writing s handle .updated
        [.check .inactive (some source), .update handle source]) (fun _ => Unanswered) := by
    refine leads_ask peer .update (.update handle source) rfl fun s₁ h₁ => ?_
    rcases update_run peer source s₁ with ⟨hnone, -⟩ | ⟨held, hheld, hrun⟩
    · exact nomatch h₁.handle.symm.trans hnone
    · obtain rfl := Option.some.inj (h₁.handle.symm.trans hheld)
      exact hrun
  have hsteady := (stable_unanswered peer).steady
  exact leads_runWrite (leads_attempt peer hlocked fun e => hsteady.leads_abort .lock e)
    (leads_attempt peer hchecked fun e => hsteady.leads_abort .check e)
    (leads_attempt peer hupdated fun e => hsteady.leads_abort .update e)

end Own

end Chain

end EditLock
