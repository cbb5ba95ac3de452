/-
# Chains exclude one another

A chain that edits under a lock has the row of its object: the row names the chain's session and the
handle that the chain holds. Each operation but a forced release keeps this, for the chain that does
it (`stable_recorded`) and for every other, since a row of another session is never written over or
removed (`stable_foreign`). So two chains of different sessions never edit one object at a time,
in whatever order a fleet takes its turns. No operation, forced or not, gives an object a second
row (`Fleet.keyed_afterAll`).

Key definitions: `Chain.EditsUnder`, `Scene.Recorded`, `Fleet.Guarded`.
Key theorems: `Chain.stable_recorded`, `Chain.stable_foreign`, `Fleet.Guarded.after`,
`Fleet.edits_exclude`, `Fleet.keyed_afterAll`.
-/
import EditLock.Proofs.Chain.Operation

namespace EditLock

open Act Registry

variable {σ : Type}

/-- The chain is between taking its lock and releasing it, and holds this handle. -/
def Chain.EditsUnder (c : Chain) (handle : String) : Prop :=
  c.stage.isLocked = true ∧ c.handle = some handle

theorem Chain.IsFresh.not_editsUnder {c : Chain} (h : c.IsFresh) (handle : String) :
    ¬ c.EditsUnder handle := by
  intro he
  have hlocked := he.1
  rw [h.stage] at hlocked
  cases hlocked

namespace Stage

/-- Only a step that takes a lock leads to the stages of a held lock from outside. -/
theorem isLocked_of_next? {stage next : Stage} {step : Step} (h : stage.next? step = some next)
    (hstep : step ≠ .lock) (hnext : next.isLocked = true) : stage.isLocked = true := by
  cases step <;> cases stage <;> simp_all [Stage.next?] <;> subst h <;> simp_all [Stage.isLocked]

/-- A lock is not asked for under a lock. -/
theorem not_isLocked_of_next?_lock {stage next : Stage} (h : stage.next? .lock = some next) :
    stage.isLocked = false := by
  cases stage <;> simp_all [Stage.next?, Stage.isLocked]

end Stage

theorem Call.isPlain_step {call : Call} (h : call.isPlain = true) : call.step ≠ .lock := by
  cases call <;> simp_all [Call.isPlain, Call.step]

/-- A chain that edits under a lock has the row of its object. -/
def Scene.Recorded (s : Scene σ) : Prop :=
  ∀ handle, s.chain.EditsUnder handle →
    ∃ row, find? s.registry.rows s.chain.object.key = some row ∧
      row.session = s.chain.session ∧ row.handle = handle

namespace Chain

variable (peer : Collaborator σ)

/-! ### What a chain keeps -/

/-- A chain stays with its object and its session. -/
theorem stable_bound (o : ObjectRef) (session : String) :
    Stable peer fun s => s.chain.object = o ∧ s.chain.session = session :=
  stable_of_statements peer (P := fun o' session' _ => o' = o ∧ session' = session)
    (fun hs _ _ _ => hs) (fun hs _ _ _ => hs) fun hs => hs

/-- **Whoever edits is recorded.** The stages of a held lock are entered by recording a lock or by
reading its record, and a record is only removed once the chain has given up the handle. -/
theorem stable_recorded : Stable peer Scene.Recorded where
  ask _ _ _ _ hr hstep hplain hs := by
    cases hr with
    | rejected => exact hs
    | failed => exact hs
    | answered order =>
      intro handle he
      have hlocked := Stage.isLocked_of_next? order (hstep ▸ Call.isPlain_step hplain) he.1
      exact hs handle ⟨hlocked, he.2⟩
  lock {s _} hs hr := by
    cases hr with
    | rejected => exact hs
    | refused => exact hs
    | unrecorded order _ _ release =>
      -- the stage is the one before, which is not that of a held lock
      have hfree := Stage.not_isLocked_of_next?_lock order
      intro handle he
      have hlocked := he.1
      simp [release.stage, hfree] at hlocked
    | @recorded _ granted _ _ _ written =>
      intro handle he
      have hh : granted = handle := Option.some.inj he.2
      subst hh
      cases written with
      | stored _ own =>
        have hkey := Row.columns_ofRecord (s.record granted)
        rw [Scene.record_key] at own hkey
        exact ⟨_, (find?_upsert_self hkey own).2, rfl, rfl⟩
  resume hs hr := by
    cases hr with
    | rejected => exact hs
    | failed => exact hs
    | resumed _ found decoded own =>
      intro handle he
      have hh := Option.some.inj he.2
      obtain ⟨hsession, hhandle⟩ := Row.decode_eq_ok decoded
      exact ⟨_, found, hsession ▸ own, hhandle.symm.trans hh⟩
  unlock hs hr := by
    cases hr with
    | rejected => exact hs
    | refused => exact hs
    | released => exact fun _ he => nomatch he.2
  undoLock hs hr := by
    cases hr with
    | nothing => exact hs
    | released => exact fun _ he => nomatch he.2
    | kept => exact hs
  undoCreate hs hr := by cases hr <;> exact hs
  failure _ _ hs := hs
  warning _ hs := hs
  rest hs := hs
  settled _ := fun _ he => nomatch he.1
  finished _ _ := fun _ he => nomatch he.1

/-- **The row of another session stays.** Writing leaves it alone, and removing asks for the
session. -/
theorem stable_foreign (k : Key) (row : Row) :
    Stable peer fun s => find? s.registry.rows k = some row ∧ row.session ≠ s.chain.session := by
  refine stable_of_statements peer
    (P := fun _ session r => find? r.rows k = some row ∧ row.session ≠ session) ?_ ?_ fun hs => hs
  · intro _ _ _ _ _ _ hs _ hsession written
    have hne := hs.2
    rw [← hsession] at hne
    cases written with
    | stored => exact ⟨find?_upsert_of_session_ne hs.1 hne, hs.2⟩
    | unwritable => exact hs
    | taken => exact hs
  · intro _ _ _ _ _ _ hs _ hsession removal
    have hne := hs.2
    rw [← hsession] at hne
    exact ⟨find?_of_removeRun removal hs.1 hne, hs.2⟩

/-- Each object keeps one row. -/
theorem stable_keyed : Stable peer fun s => s.registry.Keyed :=
  stable_of_statements peer (P := fun _ _ r => r.Keyed) (fun hs _ _ written => written.keyed hs)
    (fun hs _ _ removal => removal.keyed hs) fun hs => hs

theorem KnownLock.keyed {s : Scene σ} {record : LockRecord} {looked : Registry}
    (h : KnownLock s record looked) (hs : s.registry.Keyed) : looked.Keyed := by
  cases h with
  | held => exact hs
  | recorded _ lookup => exact lookup.keyed hs

theorem ForceRun.keyed {s : Scene σ} {out : Except Failure ForceUnlock × Scene σ}
    (h : ForceRun peer s out) (hs : s.registry.Keyed) : out.2.registry.Keyed := by
  cases h with
  | lookupFailed _ lookup => exact lookup.keyed hs
  | nothingHeld _ lookup => exact lookup.keyed hs
  | stuck known removal => exact removal.keyed (known.keyed hs)
  | unlocked known removal => exact removal.keyed (known.keyed hs)
  | unlockFailed known removal => exact removal.keyed (known.keyed hs)

end Chain

/-! ### Fleets -/

namespace Fleet

variable {ι : Type}

/-- Each chain of a fleet is still bound as at the start, and recorded while it edits. -/
structure Guarded (start f : Fleet ι) : Prop where
  object : ∀ i, (f.chains i).object = (start.chains i).object
  session : ∀ i, (f.chains i).session = (start.chains i).session
  recorded : ∀ i handle, (f.chains i).EditsUnder handle →
    ∃ row, find? f.registry.rows (start.chains i).object.key = some row ∧
      row.session = (start.chains i).session ∧ row.handle = handle

theorem guarded_of_isFresh {start : Fleet ι} (fresh : ∀ i, (start.chains i).IsFresh) :
    Guarded start start where
  object _ := rfl
  session _ := rfl
  recorded i handle he := absurd he ((fresh i).not_editsUnder handle)

variable [DecidableEq ι]

/-- A turn keeps the guard: of the chain that takes it because an operation records before it
edits, and of the others because their rows are foreign to it. -/
theorem Guarded.after {peer : Collaborator σ} {start f : Fleet ι} (hf : Guarded start f)
    (distinct : Function.Injective fun i => (start.chains i).session) {t : Turn ι σ}
    (ht : t.operation ≠ .forceUnlock) : Guarded start (f.after peer t) := by
  have hbound := sceneAfter_of_stable
    (Chain.stable_bound peer (f.chains t.actor).object (f.chains t.actor).session) ht ⟨rfl, rfl⟩
  have hchain := after_chains_actor peer f t
  refine ⟨fun i => ?_, fun i => ?_, fun i handle he => ?_⟩
  · by_cases hi : i = t.actor
    · rw [hi, hchain, hbound.1, hf.object]
    · rw [after_chains_of_ne peer f t hi, hf.object]
  · by_cases hi : i = t.actor
    · rw [hi, hchain, hbound.2, hf.session]
    · rw [after_chains_of_ne peer f t hi, hf.session]
  · by_cases hi : i = t.actor
    · have hrecorded : (f.scene t).Recorded := by
        intro handle he
        obtain ⟨row, hrow, hs, hh⟩ := hf.recorded t.actor handle he
        rw [← hf.object] at hrow
        rw [← hf.session] at hs
        exact ⟨row, hrow, hs, hh⟩
      have hafter := sceneAfter_of_stable (Chain.stable_recorded peer) ht hrecorded
      rw [hi, hchain] at he
      obtain ⟨row, hrow, hs, hh⟩ := hafter handle he
      rw [hbound.1, hf.object] at hrow
      rw [hbound.2, hf.session] at hs
      rw [hi]
      exact ⟨row, hrow, hs, hh⟩
    · rw [after_chains_of_ne peer f t hi] at he
      obtain ⟨row, hrow, hs, hh⟩ := hf.recorded i handle he
      have hforeign : row.session ≠ (f.chains t.actor).session := by
        rw [hs, hf.session]
        exact fun hsame => hi (distinct hsame)
      have hafter := sceneAfter_of_stable
        (Chain.stable_foreign peer (start.chains i).object.key row) ht ⟨hrow, hforeign⟩
      exact ⟨row, hafter.1, hs, hh⟩

/-- Each object has one row at the start, and so it has after all turns, forced releases included. -/
theorem keyed_afterAll (peer : Collaborator σ) {start : Fleet ι} (keyed : start.registry.Keyed)
    (turns : List (Turn ι σ)) : (start.afterAll peer turns).registry.Keyed := by
  have hkeeps (t : Turn ι σ) :
      Keeps (fun s : Scene σ => s.registry.Keyed) (t.operation.act peer) :=
    (Chain.stable_keyed peer).keeps t.operation fun _ {_ _} hs hr =>
      Chain.ForceRun.keyed peer hr hs
  refine afterAll_induction peer start (P := fun f => f.registry.Keyed) keyed fun f hf t _ => ?_
  have hscene : (f.scene t).registry.Keyed := hf
  exact (hkeeps t).perform hscene

/-- **Recorded before use, and one editor at a time.** Chains of different sessions start on any
registry and take turns in any order, whatever is answered and whichever statements fail. A chain
that edits under a handle has the row of its object, with its session and this handle. Hence two
chains on one object do not both edit it. -/
theorem edits_exclude (peer : Collaborator σ) (start : Fleet ι) (turns : List (Turn ι σ))
    (fresh : ∀ i, (start.chains i).IsFresh)
    (distinct : Function.Injective fun i => (start.chains i).session)
    (unforced : ∀ t ∈ turns, t.operation ≠ .forceUnlock) :
    (∀ i handle, ((start.afterAll peer turns).chains i).EditsUnder handle →
      ∃ row,
        find? (start.afterAll peer turns).registry.rows (start.chains i).object.key = some row ∧
        row.session = (start.chains i).session ∧ row.handle = handle) ∧
    ∀ i j, i ≠ j → (start.chains i).object.key = (start.chains j).object.key →
      ¬ ((∃ handle, ((start.afterAll peer turns).chains i).EditsUnder handle) ∧
        ∃ handle, ((start.afterAll peer turns).chains j).EditsUnder handle) := by
  have hguarded : Guarded start (start.afterAll peer turns) :=
    afterAll_induction peer start (guarded_of_isFresh fresh)
      fun f hf t ht => hf.after distinct (unforced t ht)
  refine ⟨hguarded.recorded, fun i j hij hkey => ?_⟩
  rintro ⟨⟨_, hi⟩, _, hj⟩
  obtain ⟨row, hrow, hs, -⟩ := hguarded.recorded i _ hi
  obtain ⟨row', hrow', hs', -⟩ := hguarded.recorded j _ hj
  rw [hkey, hrow', Option.some.injEq] at hrow
  have hsame : (start.chains i).session = (start.chains j).session := by
    rw [← hs, ← hs', hrow]
  exact hij (distinct hsame)

/-- Two chains on one object, each in a session of its own. -/
def pair : Fleet Bool where
  chains first := .new (.make .program "zdemo") (if first then "S1" else "S2") {}
  registry := {}

/-- Both ask for the lock, and the first to ask has it. -/
theorem pair_edits_exclude :
    let turns : List (Turn Bool Bool) :=
      [⟨true, .lock, true, default, 1⟩, ⟨false, .lock, true, default, 2⟩]
    let after := pair.afterAll (.agreeing "H") turns
    (∃ row, find? after.registry.rows (pair.chains true).object.key = some row ∧
      row.session = "S1" ∧ row.handle = "H") ∧
    ¬ ((∃ handle, (after.chains true).EditsUnder handle) ∧
      ∃ handle, (after.chains false).EditsUnder handle) := by
  intro turns after
  have fresh : ∀ i, (pair.chains i).IsFresh := fun _ => rfl
  have distinct : Function.Injective fun i => (pair.chains i).session := by
    intro i j h
    cases i <;> cases j <;> simp_all [pair, Chain.new]
  have unforced : ∀ t ∈ turns, t.operation ≠ .forceUnlock := by decide
  have held : (after.chains true).EditsUnder "H" := ⟨rfl, rfl⟩
  have h := edits_exclude (.agreeing "H") pair turns fresh distinct unforced
  exact ⟨h.1 true "H" held, h.2 true false (by decide) rfl⟩

end Fleet

end EditLock
