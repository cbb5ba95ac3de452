/-
# Releasing a lock again

A forced release takes the lock that is held, or else the one that is recorded for the object, and
forgets it. Asked for once more, at once, it finds nothing to release if the chain holds no handle
and the registry has no row for the object (`Chain.findsNothing_iff`). The row is gone after the
first release if it named the lock that was released; a row that is not the chain's own outlasts
the release of a handle that the chain held beside it, and is what the second release takes.

Key definitions: `Chain.FindsNothing`.
Key theorems: `Chain.findsNothing_iff`, `Chain.KnownLock.emptied_iff`,
`Chain.forceUnlock_repeated_iff`.
-/
import EditLock.Proofs.Chain.Calls

namespace EditLock

variable {σ : Type}

namespace Chain

open Act Registry

variable {peer : Collaborator σ} {s : Scene σ}

/-- A forced release finds no lock; it makes no call and changes no row. -/
structure FindsNothing (peer : Collaborator σ) (s : Scene σ) : Prop where
  result : ((forceUnlock peer).perform s).1 = .ok .nothingHeld
  calls : ((forceUnlock peer).perform s).2.calls = s.calls
  rows : ((forceUnlock peer).perform s).2.registry.rows = s.registry.rows

/-- A lock that a forced release is about is held or recorded. -/
theorem KnownLock.held_or_recorded {record : LockRecord} {looked : Registry}
    (known : KnownLock s record looked) :
    s.chain.handle ≠ none ∨ find? s.registry.rows s.chain.object.key ≠ none := by
  cases known with
  | held held => exact .inl (by simp [held])
  | recorded _ lookup =>
    cases lookup with
    | some _ found => exact .inr (by simp [found])

/-- **A forced release finds nothing just where no lock is held or recorded.** -/
theorem findsNothing_iff (readable : s.registry.Readable) :
    FindsNothing peer s ↔
      s.chain.handle = none ∧ find? s.registry.rows s.chain.object.key = none := by
  have hrun := forceUnlock_run peer s
  constructor
  · rintro ⟨hresult, -, -⟩
    generalize (forceUnlock peer).perform s = out at hrun hresult
    cases hrun with
    | lookupFailed => cases hresult
    | nothingHeld held lookup =>
      cases lookup with
      | none _ found => exact ⟨held, found⟩
    | stuck => cases hresult
    | unlocked => cases hresult
    | unlockFailed => cases hresult
  · rintro ⟨held, found⟩
    have hunknown {record : LockRecord} {looked : Registry} : ¬ KnownLock s record looked :=
      fun known => known.held_or_recorded.elim (· held) (· found)
    generalize hout : (forceUnlock peer).perform s = out at hrun
    cases hrun with
    | lookupFailed _ lookup =>
      cases lookup with
      | failed why =>
        obtain ⟨row, hrow, -⟩ := why readable
        exact nomatch found.symm.trans hrow
    | nothingHeld _ lookup =>
      cases lookup with
      | none => exact ⟨by rw [hout], by rw [hout]; rfl, by rw [hout]; rfl⟩
    | stuck known => exact absurd known hunknown
    | unlocked known => exact absurd known hunknown
    | unlockFailed known => exact absurd known hunknown

/-- The row of the object is gone once the record of a known lock was removed, unless the lock was
held beside the row of another. -/
theorem KnownLock.emptied_iff {record : LockRecord} {looked registry : Registry} {any : Bool}
    (known : KnownLock s record looked) (removal : RemoveRun record looked (.ok any) registry)
    (keyed : s.registry.Keyed) :
    find? registry.rows s.chain.object.key = none ↔ ∀ handle row,
      s.chain.handle = some handle → find? s.registry.rows s.chain.object.key = some row →
        row.session = s.chain.session ∧ row.handle = handle := by
  cases known with
  | @held handle held =>
    have hremoved := find?_of_removeRun_ok removal keyed
    rw [s.record_key] at hremoved
    rw [hremoved]
    constructor
    · intro hown handle' row held' hfound
      cases held.symm.trans held'
      exact hown row hfound
    · exact fun hown row hfound => hown handle row held hfound
  | recorded free lookup =>
    refine iff_of_true ?_ fun handle row held => nomatch free.symm.trans held
    cases lookup with
    | @some _ row _ found decoded =>
      have hkey : record.key = s.chain.object.key :=
        Row.key_of_decode decoded (find?_eq_some found).2 rfl
      have hremoved := find?_of_removeRun_ok removal keyed
      rw [hkey] at hremoved
      refine hremoved.2 fun other hother => ?_
      rw [ran_rows, found] at hother
      cases hother
      obtain ⟨hsession, hhandle⟩ := Row.decode_eq_ok decoded
      exact ⟨hsession.symm, hhandle.symm⟩

/-- **A forced release that came through can be repeated, just where it leaves no row.** Asked for
once more at once, with a registry that can be read, it finds nothing to release if and only if the
chain held no handle beside the row of another lock of its object. Whatever the collaborator
answers; and however the registry was filled, as long as each object has one row. -/
theorem forceUnlock_repeated_iff (peer : Collaborator σ) {s : Scene σ} {outcome : ForceUnlock}
    (keyed : s.registry.Keyed) (released : ((forceUnlock peer).perform s).1 = .ok outcome)
    (readable : ((forceUnlock peer).perform s).2.registry.Readable) :
    FindsNothing peer ((forceUnlock peer).perform s).2 ↔ ∀ handle row,
      s.chain.handle = some handle → find? s.registry.rows s.chain.object.key = some row →
        row.session = s.chain.session ∧ row.handle = handle := by
  rw [findsNothing_iff readable]
  have hrun := forceUnlock_run peer s
  generalize (forceUnlock peer).perform s = out at hrun released ⊢
  cases hrun with
  | lookupFailed => cases released
  | nothingHeld held lookup =>
    cases lookup with
    | none _ found =>
      exact iff_of_true ⟨held, found⟩ fun handle row held' => nomatch held.symm.trans held'
  | stuck => cases released
  | unlocked known removal => exact (and_iff_right rfl).trans (known.emptied_iff removal keyed)
  | unlockFailed known removal => exact (and_iff_right rfl).trans (known.emptied_iff removal keyed)

/-- The row of another session's lock of the object. -/
def foreignRow : Row :=
  .ofRecord (.make (ObjectRef.make .program "zdemo").key "S1" "H1" default 1)

/-- The lock was granted all the same, could not be recorded beside the other, and was not released
at once; now locks are released again. -/
def conflicted : Scene Bool :=
  { ((lock (.agreeing "H2")).perform (.blank (.make .program "zdemo") "S2"
      { rows := [foreignRow] } false)).2 with remote := true }

/-- The second forced release takes the lock of the other session. -/
theorem conflicted_not_repeated :
    ((forceUnlock (.agreeing "H2")).perform conflicted).1 = .ok .unlocked ∧
      ¬ FindsNothing (.agreeing "H2") ((forceUnlock (.agreeing "H2")).perform conflicted).2 := by
  have held : conflicted.chain.handle = some "H2" := rfl
  have rows : conflicted.registry.rows = [foreignRow] := rfl
  have keyed : conflicted.registry.Keyed := by
    unfold Keyed
    rw [rows]
    exact List.nodup_singleton _
  have found : find? conflicted.registry.rows conflicted.chain.object.key = some foreignRow := by
    have hcolumns : foreignRow.columns = Row.columnsOf (ObjectRef.make .program "zdemo").key :=
      (Row.columns_ofRecord _).trans (congrArg Row.columnsOf (LockRecord.key_make ..))
    rw [rows]
    exact List.find?_cons_of_pos (beq_iff_eq.2 hcolumns)
  have released : ((forceUnlock (.agreeing "H2")).perform conflicted).1 = .ok .unlocked := rfl
  have readable : ((forceUnlock (.agreeing "H2")).perform conflicted).2.registry.Readable := by
    show Availability.available ≠ .unavailable
    decide
  refine ⟨released, ?_⟩
  rw [forceUnlock_repeated_iff (.agreeing "H2") keyed released readable]
  intro hown
  have hsession : "S1" = "S2" := (hown "H2" foreignRow held found).1
  exact absurd hsession (by decide)

end Chain

end EditLock
