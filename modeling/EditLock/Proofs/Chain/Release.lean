/-
# A chain gives its lock back or says that it holds it

When a chain that creates or updates ends, the lock that it was granted, if any, was given back and
forgotten, or it is still held, named in the failure and still recorded. What matters is the ledger
of the scene, compared with the one at the start: a lock that was granted is held (`Held`) or was
given back (`Returned`), whichever way its record went. A chain stops in one of these states
wherever it fails (`Stopped`), and the clean-up leads from there to one of them.

Key definitions: `Ledger.Owns`, `Ledger.Forgets`, `Held`, `Returned`, `Stopped`, `GivenBack`,
`StillHeld`.
Key theorems: `Held.returned`, `Chain.lock_holds`, `Chain.unlock_returns`, `Chain.abort_settles`,
`Chain.lock_returned_or_held`.
-/
import EditLock.Proofs.Chain.Calls

namespace EditLock

open Registry

variable {σ α : Type}

/-! ### Where a lock can stand -/

/-- A record of a lock of the ledger's object and session. -/
structure Ledger.Owns (b : Ledger) (handle : String) (record : LockRecord) : Prop where
  key : record.key = b.object.key
  session : record.session = b.session
  handle : record.handle = handle

/-- Rows with the session and this handle are those of other objects that stood there before. It is
so if the record could be written, and if it was, could be deleted. -/
def Ledger.Forgets (b : Ledger) (handle : String) (ℓ : Ledger) : Prop :=
  b.registry.Writable →
    (handle ∈ ℓ.announced →
      b.registry.availability (b.registry.statements + 1) = .available) →
    ∀ row ∈ ℓ.registry.rows, row.session = b.session → row.handle = handle →
      row ∈ b.registry.rows ∧ row.columns ≠ Row.columnsOf b.object.key

/-- The lock is held, and this came of recording it. -/
structure Held (b : Ledger) (handle : String) (written : Except Failure Unit) (ℓ : Ledger) :
    Prop where
  object : ℓ.object = b.object
  session : ℓ.session = b.session
  held : ℓ.handle = some handle
  granted : ℓ.granted = [handle]
  released : ℓ.released = []
  announced : handle ∈ ℓ.announced ↔ written = .ok ()
  record : ∃ record, b.Owns handle record ∧ SetRun record b.registry written ℓ.registry

/-- The lock was given back and is not held. -/
structure Returned (b : Ledger) (handle : String) (ℓ : Ledger) : Prop where
  object : ℓ.object = b.object
  session : ℓ.session = b.session
  free : ℓ.handle = none
  granted : ℓ.granted = [handle]
  released : handle ∈ ℓ.released
  forgets : b.Forgets handle ℓ

/-- How a lock can stand where a chain stops. -/
inductive Stopped (b : Ledger) : Ledger → Prop
  /-- No lock was granted. -/
  | clear : Stopped b b
  | held {handle : String} {written : Except Failure Unit} {ℓ : Ledger} :
      Held b handle written ℓ → Stopped b ℓ
  | returned {handle : String} {ℓ : Ledger} : Returned b handle ℓ → Stopped b ℓ

/-- Nothing happened to a lock yet. -/
structure Ledger.Unused (b : Ledger) : Prop where
  free : b.handle = none
  granted : b.granted = []
  released : b.released = []
  announced : b.announced = []

section Records

variable {b ℓ ℓ' : Ledger} {handle : String} {written : Except Failure Unit} {record : LockRecord}

theorem Scene.owns_record {s : Scene σ} (ho : s.ledger.object = b.object)
    (hs : s.ledger.session = b.session) (handle : String) : b.Owns handle (s.record handle) where
  key := (s.record_key handle).trans (congrArg ObjectRef.key ho)
  session := hs
  handle := rfl

/-- A lock that was never recorded leaves the rows as they were. -/
theorem Ledger.forgets_of_unrecorded (keyed : b.registry.Keyed) (own : b.Owns handle record)
    {e : Failure} {registry : Registry} (hset : SetRun record b.registry (.error e) registry)
    (hrows : ∀ row ∈ ℓ.registry.rows, row ∈ registry.rows) : b.Forgets handle ℓ := by
  intro writable _ row hrow hs _
  have hold := hrows row hrow
  rw [rows_of_setRun_error hset] at hold
  have hc := columns_ne_of_setRun_error hset keyed writable hold (hs.trans own.session.symm)
  rw [own.key] at hc
  exact ⟨hold, hc⟩

/-- **Giving a held lock back forgets it**, whether or not its record was written. -/
theorem Held.returned (h : Held b handle written ℓ) (keyed : b.registry.Keyed)
    (own : b.Owns handle record) {result : Except Failure Bool} {registry : Registry}
    (removal : RemoveRun record ℓ.registry result registry) :
    Returned b handle
      { ℓ with handle := none, released := ℓ.released ++ [handle], registry } := by
  obtain ⟨first, hfirst, hset⟩ := h.record
  refine ⟨h.object, h.session, rfl, h.granted, by simp, ?_⟩
  cases written with
  | error e =>
    exact Ledger.forgets_of_unrecorded keyed hfirst hset fun _ => mem_of_removeRun removal
  | ok _ =>
    intro _ deletable row hrow _ _
    cases result with
    | error e =>
      have hfailed := not_available_of_removeRun_error hset removal
      exact absurd (deletable (h.announced.2 rfl)) hfailed
    | ok any =>
      have hmem := mem_of_setRun_removeRun hset removal (own.key.trans hfirst.key.symm)
        (own.session.trans hfirst.session.symm) (own.handle.trans hfirst.handle.symm) hrow
      rwa [hfirst.key] at hmem

/-- With a record that was written and removed, no row of the object is left. -/
theorem Held.row_gone (h : Held b handle (.ok ()) ℓ) (own : b.Owns handle record) {any : Bool}
    {registry : Registry} (removal : RemoveRun record ℓ.registry (.ok any) registry) :
    find? registry.rows b.object.key = none := by
  obtain ⟨first, hfirst, hset⟩ := h.record
  refine List.find?_eq_none.2 fun row hrow => ?_
  have hmem := mem_of_setRun_removeRun hset removal (own.key.trans hfirst.key.symm)
    (own.session.trans hfirst.session.symm) (own.handle.trans hfirst.handle.symm) hrow
  rw [hfirst.key] at hmem
  simpa using hmem.2

/-- A held lock that was recorded is found under the object's key. -/
theorem Held.row_found (h : Held b handle written ℓ) (hh : handle ∈ ℓ.announced) :
    ∃ row, find? ℓ.registry.rows b.object.key = some row ∧
      row.session = b.session ∧ row.handle = handle := by
  obtain ⟨record, own, hset⟩ := h.record
  rw [h.announced.1 hh] at hset
  have hfound := find?_of_setRun hset
  rw [own.key] at hfound
  exact ⟨_, hfound, own.session, own.handle⟩

end Records

namespace Chain

open Act

variable {peer : Collaborator σ} {b : Ledger}

/-! ### From state to state -/

/-- The lock was given back, and no row of the object is left. -/
def Finished (b : Ledger) (ℓ : Ledger) : Prop :=
  ∃ handle, Returned b handle ℓ ∧ find? ℓ.registry.rows b.object.key = none

/-- A chain that failed stopped, and its failure names what is held. -/
def Settled (b : Ledger) (e : Failure) (s : Scene σ) : Prop :=
  Stopped b s.ledger ∧ ∃ step cause, e = s.chain.failure step cause

theorem lock_holds (unused : b.Unused) (keyed : b.registry.Keyed) :
    Leads (fun s => s.ledger = b) (lock peer)
      (fun _ s => ∃ handle, Held b handle (.ok ()) s.ledger) (fun _ s => Stopped b s.ledger) := by
  rintro s rfl
  have hrun := lock_run peer s
  generalize (lock peer).perform s = out at hrun ⊢
  cases hrun with
  | rejected => exact .clear
  | refused _ answer =>
    have hℓ : ((lockAsked peer s).routed .stateless).ledger = s.ledger :=
      Scene.ledger_lock_refused answer
    show Stopped s.ledger ((lockAsked peer s).routed .stateless).ledger
    rw [hℓ]
    exact .clear
  | @unrecorded _ handle cause registry _ _ answer written release =>
    have hasked : ((lockAsked peer s).withRegistry registry).ledger =
        { s.ledger with granted := s.ledger.granted ++ [handle], registry } :=
      congrArg ({ · with registry }) (Scene.ledger_lock_granted answer)
    have own : s.ledger.Owns handle (s.record handle) := Scene.owns_record rfl rfl handle
    cases release with
    | released released =>
      have hreleased := Scene.ledger_unlock_answered released
      rw [hasked] at hreleased
      have hreturned : Returned s.ledger handle
          (((lockAsked peer s).withRegistry registry).asked peer (.unlock handle)).ledger := by
        rw [hreleased]
        exact ⟨rfl, rfl, unused.free, by simp [unused.granted], by simp,
          Ledger.forgets_of_unrecorded keyed own written fun _ hrow => hrow⟩
      exact .returned hreturned
    | kept kept =>
      have hkept := Scene.ledger_unlock_refused kept
      rw [hasked] at hkept
      have hheld : Held s.ledger handle (.error cause)
          { (((lockAsked peer s).withRegistry registry).asked peer (.unlock handle)).ledger with
            handle := some handle } := by
        rw [hkept]
        exact ⟨rfl, rfl, rfl, by simp [unused.granted], unused.released, by simp [unused.announced],
          _, own, written⟩
      exact .held hheld
  | @recorded _ handle registry _ answer written =>
    have hasked : ((lockAsked peer s).withRegistry registry).ledger =
        { s.ledger with granted := s.ledger.granted ++ [handle], registry } :=
      congrArg ({ · with registry }) (Scene.ledger_lock_granted answer)
    have hheld : Held s.ledger handle (.ok ())
        { ((lockAsked peer s).withRegistry registry).ledger with
          handle := some handle, announced := s.announced ++ [handle] } := by
      rw [hasked]
      exact ⟨rfl, rfl, rfl, by simp [unused.granted], unused.released, by simp,
        _, Scene.owns_record rfl rfl handle, written⟩
    exact ⟨handle, hheld⟩

theorem unlock_returns (keyed : b.registry.Keyed) :
    Leads (fun s => ∃ handle, Held b handle (.ok ()) s.ledger) (unlock peer)
      (fun _ s => Finished b s.ledger) (fun _ s => Stopped b s.ledger) := by
  rintro s ⟨handle, hs⟩
  have hrun := unlock_run peer s
  generalize (unlock peer).perform s = out at hrun ⊢
  cases hrun with
  | rejected => exact .held hs
  | refused _ _ answer =>
    have hℓ := Scene.ledger_unlock_refused answer
    exact .held (hℓ.symm ▸ hs)
  | @released _ found r result registry _ held answer removal =>
    have hsame : found = handle := Option.some.inj (held.symm.trans hs.held)
    subst hsame
    have own := Scene.owns_record hs.object hs.session found
    have hreleased := congrArg (fun ℓ : Ledger => { ℓ with handle := none, registry })
      (Scene.ledger_unlock_answered answer)
    have hreturned := hs.returned keyed own removal
    rw [← hreleased] at hreturned
    cases result with
    | ok any => exact ⟨found, hreturned, hs.row_gone own removal⟩
    | error e => exact .returned hreturned

/-- The clean-up gives back a lock that is held, or leaves it held, and says which. -/
theorem abort_settles (unused : b.Unused) (keyed : b.registry.Keyed) (step : Step) (e : Failure) :
    Leads (fun s => Stopped b s.ledger) (abort peer step e : Act σ α) (fun _ _ => False)
      (Settled b) := by
  intro s hs
  obtain ⟨s₁, s₂, hlock, hcreate, hperform⟩ := abort_run (α := α) peer step e s
  rw [hperform]
  refine ⟨?_, step, e, rfl⟩
  show Stopped b s₂.ledger
  rw [hcreate.ledger]
  cases hlock with
  | nothing => exact hs
  | @released found r result registry held answer removal =>
    generalize hℓ : s.ledger = ℓ at hs
    have held' : ℓ.handle = some found := by rw [← hℓ]; exact held
    cases hs with
    | clear => exact nomatch unused.free.symm.trans held'
    | returned hs => exact nomatch hs.free.symm.trans held'
    | @held handle _ _ hs =>
      have hsame : found = handle := Option.some.inj (held'.symm.trans hs.held)
      subst hsame hℓ
      have own := Scene.owns_record hs.object hs.session found
      have hreleased := congrArg (fun ℓ : Ledger => { ℓ with handle := none, registry })
        (Scene.ledger_unlock_answered answer)
      have hreturned := hs.returned keyed own removal
      exact .returned (hreleased ▸ hreturned)
  | kept _ answer =>
    have hℓ := Scene.ledger_unlock_refused answer
    exact hℓ.symm ▸ hs

/-! ### Whole chains -/

section Whole

variable (unused : b.Unused) (keyed : b.registry.Keyed)

include unused keyed

theorem abort_from_stopped {P Q : Scene σ → Prop} (h : ∀ s, P s → Stopped b s.ledger) (step : Step)
    (e : Failure) : Leads P (abort peer step e : Act σ α) (fun _ => Q) (Settled b) :=
  (abort_settles unused keyed step e).mono h (fun _ _ hs => hs.elim) fun _ _ hs => hs

theorem attempt_settles {P Q : Scene σ → Prop} {act : Act σ α} {step : Step}
    (h : Leads P act (fun _ => Q) (fun _ s => Stopped b s.ledger)) :
    Attempts peer P step act Q (Settled b) :=
  leads_attempt peer h fun e => abort_from_stopped unused keyed (fun _ hs => hs) step e

/-- A part that leaves the ledger as it is may fail in any state. -/
theorem attempt_kept {P : Ledger → Prop} {act : Act σ α} {step : Step}
    (h : Keeps (fun s => P s.ledger) act) (hP : ∀ ℓ, P ℓ → Stopped b ℓ) :
    Attempts peer (fun s => P s.ledger) step act (fun s => P s.ledger) (Settled b) :=
  leads_attempt peer h fun e => abort_from_stopped unused keyed (fun s hs => hP s.ledger hs) step e

theorem edit_finishes (source : String) :
    Leads (fun s => s.ledger = b) (editUnderLock peer source) (fun _ s => Finished b s.ledger)
      (Settled b) := by
  have hheld (ℓ : Ledger) : (∃ handle, Held b handle (.ok ()) ℓ) → Stopped b ℓ :=
    fun ⟨_, h⟩ => .held h
  have hfinished (ℓ : Ledger) : Finished b ℓ → Stopped b ℓ :=
    fun ⟨_, h, _⟩ => .returned h
  refine leads_editUnderLock (attempt_settles unused keyed (lock_holds unused keyed)) ?_ ?_
    (attempt_settles unused keyed (unlock_returns keyed)) ?_ ?_ ?_
  · exact attempt_kept unused keyed ((askKept_ledger _).keeps_check fun _ => rfl) hheld
  · exact attempt_kept unused keyed ((askKept_ledger _).keeps_update fun _ => rfl) hheld
  · exact attempt_kept unused keyed (settle_keeps_ledger _) hfinished
  · have hasked := @askKept_ledger _ peer (Finished b)
    exact leads_finalCheck (hasked.keeps_check fun _ => rfl) (fun _ _ _ hs => hs)
      fun e => abort_from_stopped unused keyed (fun s hs => hfinished s.ledger hs) .check e
  · exact attempt_kept unused keyed ((askKept_ledger _).keeps_activate rfl) hfinished

theorem runUpdate_finishes (source : String) :
    Leads (fun s => s.ledger = b) (runUpdate peer source) (fun _ s => Finished b s.ledger)
      (Settled b) :=
  leads_runUpdate (edit_finishes unused keyed source)
    (leads_finish (fun _ hs _ => hs) fun _ hs _ => hs)

theorem runCreate_finishes (payload : Option String) (source : String) :
    Leads (fun s => s.ledger = b) (runCreate peer payload source)
      (fun _ s => Finished b s.ledger) (Settled b) := by
  have hclear (ℓ : Ledger) : ℓ = b → Stopped b ℓ := by
    rintro rfl
    exact .clear
  have hasked : AskKept peer (·.isPlain = true) fun s => s.ledger = b := askKept_ledger (· = b)
  exact leads_runCreate (attempt_kept unused keyed (hasked.keeps_validate rfl) hclear)
    (fun e => abort_from_stopped unused keyed (fun s hs => hclear s.ledger hs) .validate e)
    (attempt_kept unused keyed (hasked.keeps_create rfl) hclear)
    (attempt_kept unused keyed (hasked.keeps_check fun _ => rfl) hclear)
    (edit_finishes unused keyed source)
    (leads_finish (fun _ hs _ => hs) fun _ hs _ => hs)

end Whole

end Chain

/-! ### Between the start and the end -/

/-- Between two scenes, with this result, the lock was given back. -/
structure GivenBack (before after : Scene σ) (result : Except Failure Unit) (handle : String) :
    Prop where
  released : ∃ e ∈ after.calls, e.released? = some handle
  free : after.chain.handle = none
  /-- A failure of the chain names no lock. -/
  unnamed : ∀ step cause held session object,
    result = .error (.chain step cause held session object) → held = none
  /-- If no statement failed that wrote or deleted the record, each row with the session and the
  handle was there before, for another object. -/
  forgotten : before.ledger.Forgets handle after.ledger

/-- Between two scenes, with this result, the lock was not given back. -/
structure StillHeld (before after : Scene σ) (result : Except Failure Unit) (handle : String) :
    Prop where
  unreleased : ∀ e ∈ after.calls, e.released? ≠ some handle
  held : after.chain.handle = some handle
  /-- The chain failed and names the lock. -/
  named : ∃ step cause, result =
    .error (.chain step cause (some handle) before.chain.session before.chain.object.toText)
  /-- The lock is recorded if it ever was. -/
  recorded : handle ∈ after.announced →
    ∃ row, find? after.registry.rows before.chain.object.key = some row ∧
      row.session = before.chain.session ∧ row.handle = handle

section Ends

variable {before after : Scene σ} {result : Except Failure Unit} {handle : String}

theorem Returned.givenBack (h : Returned before.ledger handle after.ledger)
    (hresult : ∀ e, result = .error e → ∃ step cause, e = after.chain.failure step cause) :
    GivenBack before after result handle where
  released := Scene.mem_released.1 h.released
  free := h.free
  unnamed step cause held session object hr := by
    obtain ⟨_, _, he⟩ := hresult _ hr
    cases he
    exact h.free
  forgotten := h.forgets

theorem Held.stillHeld {written : Except Failure Unit} {step : Step} {cause : Failure}
    (h : Held before.ledger handle written after.ledger) :
    StillHeld before after (.error (after.chain.failure step cause)) handle where
  unreleased e he hr := by
    have hmem := Scene.mem_released.2 ⟨e, he, hr⟩
    rw [h.released] at hmem
    cases hmem
  held := h.held
  named := by
    have hheld : after.chain.handle = some handle := h.held
    have hobject : after.chain.object = before.chain.object := h.object
    have hsession : after.chain.session = before.chain.session := h.session
    refine ⟨step, cause, ?_⟩
    rw [Chain.failure, hheld, hobject, hsession]
  recorded hh := h.row_found hh

/-- A lock is not given back and held. -/
theorem GivenBack.not_stillHeld (h : GivenBack before after result handle) :
    ¬ StillHeld before after result handle := by
  intro hheld
  obtain ⟨e, he, hr⟩ := h.released
  exact hheld.unreleased e he hr

end Ends

namespace Chain

open Act

/-- What a chain that finishes or settles says of the lock that it was granted. -/
theorem returned_or_held_of_leads {run : Act σ Unit} {s : Scene σ} (unused : s.ledger.Unused)
    (hrun : Leads (fun s' => s'.ledger = s.ledger) run (fun _ s' => Finished s.ledger s'.ledger)
      (Settled s.ledger)) :
    (∀ handle, (∃ e ∈ (run.perform s).2.calls, e.granted? = some handle) →
      Xor (GivenBack s (run.perform s).2 (run.perform s).1 handle)
        (StillHeld s (run.perform s).2 (run.perform s).1 handle)) ∧
    ((run.perform s).1 = .ok () →
      ∃ handle, (∃ e ∈ (run.perform s).2.calls, e.granted? = some handle) ∧
        GivenBack s (run.perform s).2 (run.perform s).1 handle ∧
        find? (run.perform s).2.registry.rows s.chain.object.key = none) := by
  have hend := hrun s rfl
  generalize run.perform s = performed at hend ⊢
  obtain ⟨result, after⟩ := performed
  cases result with
  | ok _ =>
    obtain ⟨found, hreturned, hgone⟩ := hend
    have hgiven : GivenBack s after (.ok ()) found := hreturned.givenBack (by simp)
    have hgranted := hreturned.granted
    constructor
    · intro handle hh
      have hmem := Scene.mem_granted.2 hh
      rw [hgranted, List.mem_singleton] at hmem
      rw [hmem]
      exact .inl ⟨hgiven, hgiven.not_stillHeld⟩
    · exact fun _ => ⟨found, Scene.mem_granted.1 (by simp [hgranted]), hgiven, hgone⟩
  | error e =>
    obtain ⟨hstopped, step, cause, rfl⟩ := hend
    refine ⟨fun handle hh => ?_, fun hok => nomatch hok⟩
    have hmem := Scene.mem_granted.2 hh
    generalize hℓ : after.ledger = ℓ at hstopped hmem
    cases hstopped with
    | clear => simp [unused.granted] at hmem
    | @held found written _ hheld =>
      rw [hheld.granted, List.mem_singleton] at hmem
      subst hℓ
      rw [hmem]
      have hstill : StillHeld s after (.error (after.chain.failure step cause)) found :=
        hheld.stillHeld
      exact .inr ⟨hstill, fun hgiven => hgiven.not_stillHeld hstill⟩
    | @returned found _ hreturned =>
      rw [hreturned.granted, List.mem_singleton] at hmem
      subst hℓ
      rw [hmem]
      have hgiven : GivenBack s after (.error (after.chain.failure step cause)) found :=
        hreturned.givenBack fun e he => ⟨step, cause, (Except.error.inj he).symm⟩
      exact .inl ⟨hgiven, hgiven.not_stillHeld⟩

theorem unused_of_opening {s : Scene σ} (h : s.Opening) : s.ledger.Unused where
  free := h.fresh.handle
  granted := by simp [Scene.ledger, h.calls]
  released := by simp [Scene.ledger, h.calls]
  announced := h.announced

/-- **No lock is lost.** When a chain that creates or updates ends, a lock that it was granted was
given back or is still held, and not both. A chain that succeeds was granted a lock and gave it
back, and no row of its object is left. -/
theorem lock_returned_or_held (peer : Collaborator σ) {s : Scene σ} (opening : s.Opening)
    (keyed : s.registry.Keyed) (payload : Option String) (source : String) {run : Act σ Unit}
    (hrun : run = runCreate peer payload source ∨ run = runUpdate peer source) :
    (∀ handle, (∃ e ∈ (run.perform s).2.calls, e.granted? = some handle) →
      Xor (GivenBack s (run.perform s).2 (run.perform s).1 handle)
        (StillHeld s (run.perform s).2 (run.perform s).1 handle)) ∧
    ((run.perform s).1 = .ok () →
      ∃ handle, (∃ e ∈ (run.perform s).2.calls, e.granted? = some handle) ∧
        GivenBack s (run.perform s).2 (run.perform s).1 handle ∧
        find? (run.perform s).2.registry.rows s.chain.object.key = none) := by
  have unused := unused_of_opening opening
  rcases hrun with rfl | rfl
  · exact returned_or_held_of_leads unused (runCreate_finishes unused keyed payload source)
  · exact returned_or_held_of_leads unused (runUpdate_finishes unused keyed source)

/-- A registry that holds a row of another object, with this session and handle. -/
def reusedHandle : Registry where
  rows := [⟨"program", "ZOTHER", "", "S1", "H", "2024-01-01T00:00:00Z", 1⟩]

/-- A chain on its own object, beside that row. -/
def besideReused : Scene Bool :=
  .blank (.make .program "zdemo") "S1" reusedHandle true

theorem keyed_reusedHandle : reusedHandle.Keyed := by
  simp [Registry.Keyed, reusedHandle]

theorem lock_returned_beside_reused :
    Xor (GivenBack besideReused ((runUpdate (.agreeing "H") "x").perform besideReused).2
        ((runUpdate (.agreeing "H") "x").perform besideReused).1 "H")
      (StillHeld besideReused ((runUpdate (.agreeing "H") "x").perform besideReused).2
        ((runUpdate (.agreeing "H") "x").perform besideReused).1 "H") := by
  have opening : besideReused.Opening := Scene.opening_blank ..
  have granted : ∃ e ∈ ((runUpdate (.agreeing "H") "x").perform besideReused).2.calls,
      e.granted? = some "H" := Scene.mem_granted.1 (by decide)
  exact (lock_returned_or_held (.agreeing "H") opening keyed_reusedHandle none "x" (.inr rfl)).1
    "H" granted

/-- The row of the other object names the session and the handle to the end, though the lock was
given back and no statement failed. -/
theorem reused_handle_stays :
    besideReused.Opening ∧ reusedHandle.Keyed ∧
      (∀ n, reusedHandle.availability n = .available) ∧
      "H" ∈ ((runUpdate (.agreeing "H") "x").perform besideReused).2.ledger.granted ∧
      "H" ∈ ((runUpdate (.agreeing "H") "x").perform besideReused).2.ledger.released ∧
      ¬ ∀ row ∈ ((runUpdate (.agreeing "H") "x").perform besideReused).2.registry.rows,
        ¬ (row.session = "S1" ∧ row.handle = "H") := by
  refine ⟨Scene.opening_blank .., keyed_reusedHandle, fun _ => rfl, ?_, ?_, ?_⟩
  · decide
  · decide
  · decide

end Chain

end EditLock
