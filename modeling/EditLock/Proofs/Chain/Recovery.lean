/-
# Getting an object free again

The row of a lock can outlast whoever wrote it: a process died under its lock, or a clean-up could
not release it. A chain that has done nothing yet, of whatever session, gets the object free by a
forced release. It asks once for the release of the handle in the row, and the row is gone whatever
comes of that. Whoever is granted the next lock of the object has it recorded.

The row must be found and read for that. In a registry that was filled by requests it is, if all
that was set can be read back (`Registry.lookup_of_storable`).

Key definitions: `Chain.releaseOutcome`, `Chain.ReleasesRow`, `Chain.Frees`, `Chain.Vacates`.
Key theorems: `Registry.Keyed.filter_isUnchanged`, `Chain.lock_of_free`, `Chain.KnownLock.removed`,
`Chain.forceUnlock_recovers`.
-/
import EditLock.Proofs.Chain.Forced
import EditLock.Proofs.Registry.Requests

namespace EditLock

variable {σ : Type}

namespace Registry

/-- Removing the record of the one row under its key removes that row alone. -/
theorem Keyed.filter_isUnchanged {r : Registry} (keyed : r.Keyed) {record : LockRecord} {row : Row}
    (found : find? r.rows record.key = some row) (hsession : row.session = record.session)
    (hhandle : row.handle = record.handle) :
    (r.rows.filter fun other => !isUnchanged record other) =
      r.rows.filter fun other => other != row := by
  refine List.filter_congr fun other hother => ?_
  have hsame : isUnchanged record other = true ↔ other = row := by
    constructor
    · intro hun
      have hfound := ((isUnchanged_iff keyed).1 ⟨hother, hun⟩).1
      exact Option.some.inj (hfound.symm.trans found)
    · rintro rfl
      exact ((isUnchanged_iff keyed).2 ⟨found, hsession, hhandle⟩).2
  rw [Bool.eq_iff_iff, Bool.not_eq_true', bne_iff_ne, ← Bool.not_eq_true, hsame]

/-- A look-up that came through did not fail. -/
theorem GetRun.not_ok {k : Key} {r r' : Registry} {e : Failure} {found : Option LockRecord}
    (h : GetRun k r (.error e) r') (readable : r.Readable) : (r.get k).1 ≠ .ok found := by
  intro hok
  have hrun := getRun k r
  rw [hok] at hrun
  generalize (r.get k).2 = looked at hrun
  cases h with
  | failed why =>
    obtain ⟨row, hrow, hdecode⟩ := why readable
    cases hrun with
    | none _ hnone => exact nomatch hnone.symm.trans hrow
    | some _ hsome decoded =>
      cases hsome.symm.trans hrow
      exact nomatch hdecode.symm.trans decoded

end Registry

namespace Chain

open Act Registry

variable {peer : Collaborator σ} {s : Scene σ}

/-- **A lock that is granted on a free object is recorded**, if the registry may be written. -/
theorem lock_of_free (peer : Collaborator σ) {s : Scene σ} {handle : String}
    (fresh : s.chain.IsFresh) (free : find? s.registry.rows s.chain.object.key = none)
    (writable : s.registry.Writable)
    (granted : (s.routed .stateful).answer peer .lock = .ok handle) :
    ((lock peer).perform s).1 = .ok handle := by
  have hrun := lock_run peer s
  generalize (lock peer).perform s = out at hrun ⊢
  cases hrun with
  | rejected order =>
    rw [fresh.stage] at order
    cases order
  | refused _ answer => exact nomatch granted.symm.trans answer
  | unrecorded _ _ written _ =>
    cases written with
    | unwritable unwritable => exact absurd writable unwritable
    | taken _ found _ =>
      rw [Scene.record_key, free] at found
      cases found
  | recorded _ answer _ =>
    cases granted.symm.trans answer
    rfl

/-- What a forced release comes to that was answered this. -/
def releaseOutcome {α : Type} : Except Failure α → ForceUnlock
  | .ok _ => .unlocked
  | .error e => .unlockFailed e.message

/-- A forced release asks once for the release of this row's handle, as of a lock that is held, and
removes the row, and no other. -/
structure ReleasesRow (peer : Collaborator σ) (s : Scene σ) (row : Row) : Prop where
  calls : ((forceUnlock peer).perform s).2.calls = s.calls ++
    [⟨.unlock row.handle, .stateful, (s.routed .stateful).answer peer (.unlock row.handle)⟩]
  result : ((forceUnlock peer).perform s).1 =
    .ok (releaseOutcome ((s.routed .stateful).answer peer (.unlock row.handle)))
  rows : ((forceUnlock peer).perform s).2.registry.rows = s.registry.rows.filter (· != row)

/-- What a forced release does about the row of its object, if there is one. -/
def Frees (peer : Collaborator σ) (s : Scene σ) : Option Row → Prop
  | none => FindsNothing peer s
  | some row => ReleasesRow peer s row

/-- After a forced release the chain holds no lock and sends its requests as without one; the next
lock of the object that is granted is recorded, whoever asks for it. -/
structure Vacates (peer : Collaborator σ) (s : Scene σ) : Prop where
  handle : ((forceUnlock peer).perform s).2.chain.handle = none
  mode : ((forceUnlock peer).perform s).2.chain.mode = .stateless
  next : ∀ {τ : Type} (peer' : Collaborator τ) (s' : Scene τ) (handle : String),
    s'.chain.IsFresh → s'.chain.object.key = s.chain.object.key →
    s'.registry = ((forceUnlock peer).perform s).2.registry →
    (s'.routed .stateful).answer peer' .lock = .ok handle →
    ((lock peer').perform s').1 = .ok handle

/-- A chain that holds no lock knows that of the row under its object's key. -/
theorem KnownLock.found {record : LockRecord} {looked : Registry}
    (known : KnownLock s record looked) (free : s.chain.handle = none) :
    ∃ row, find? s.registry.rows s.chain.object.key = some row ∧
      record.key = s.chain.object.key ∧ row.session = record.session ∧
      row.handle = record.handle ∧ looked = s.registry.ran 1 s.registry.rows := by
  cases known with
  | held held => exact nomatch free.symm.trans held
  | recorded _ lookup =>
    cases lookup with
    | @some _ row _ found decoded =>
      have hkey : record.key = s.chain.object.key :=
        Row.key_of_decode decoded (find?_eq_some found).2 rfl
      obtain ⟨hsession, hhandle⟩ := Row.decode_eq_ok decoded
      exact ⟨row, found, hkey, hsession.symm, hhandle.symm, rfl⟩

/-- Removing the record of a known lock removes the row that it was read from, and no other. -/
theorem KnownLock.removed {record : LockRecord} {looked registry : Registry}
    {result : Except Failure Bool} (known : KnownLock s record looked)
    (free : s.chain.handle = none) (keyed : s.registry.Keyed)
    (available : ∀ n, s.registry.availability n = .available)
    (removal : RemoveRun record looked result registry) :
    ∃ row, find? s.registry.rows s.chain.object.key = some row ∧ row.handle = record.handle ∧
      registry = s.registry.ran 2 (s.registry.rows.filter fun other => other != row) ∧
      result.isOk = true := by
  obtain ⟨row, found, hkey, hsession, hhandle, rfl⟩ := known.found free
  cases removal with
  | removed =>
    rw [← hkey] at found
    have hrows := keyed.filter_isUnchanged found hsession hhandle
    refine ⟨row, hkey ▸ found, hhandle, ?_, rfl⟩
    rw [ran_rows, hrows]
    rfl
  | unwritable unwritable => exact absurd (available _) unwritable

/-- Once the only row under a key is removed, none is found there. -/
theorem find?_filter_bne {r : Registry} (keyed : r.Keyed) {k : Key} {row : Row}
    (found : find? r.rows k = some row) :
    find? (r.rows.filter fun other => other != row) k = none := by
  rw [find?_filter keyed, found]
  simp

/-- An object whose row is gone can be locked again. -/
theorem Vacates.of_free (handle : ((forceUnlock peer).perform s).2.chain.handle = none)
    (mode : ((forceUnlock peer).perform s).2.chain.mode = .stateless)
    (available : ∀ n, ((forceUnlock peer).perform s).2.registry.availability n = .available)
    (free : find? ((forceUnlock peer).perform s).2.registry.rows s.chain.object.key = none) :
    Vacates peer s where
  handle := handle
  mode := mode
  next peer' s' _ fresh hkey hregistry granted := by
    have hfree : find? s'.registry.rows s'.chain.object.key = none := by
      rw [hregistry, hkey]
      exact free
    have hwritable : s'.registry.Writable := by
      rw [hregistry]
      exact available _
    exact lock_of_free peer' fresh hfree hwritable granted

/-- A forced release of a known lock that came through released its row, whatever was noted of it in
the chain. -/
theorem KnownLock.recovered {record : LockRecord} {looked registry : Registry} {any : Bool}
    (note : Chain → Chain) (noted : ∀ c, (note c).handle = c.handle ∧ (note c).mode = c.mode)
    (known : KnownLock s record looked) (free : s.chain.handle = none) (keyed : s.registry.Keyed)
    (available : ∀ n, s.registry.availability n = .available)
    (removal : RemoveRun record looked (.ok any) registry)
    (run : (forceUnlock peer).perform s =
      (.ok (releaseOutcome ((s.routed .stateful).answer peer (.unlock record.handle))),
        (forced peer s looked record.handle registry).withChain note)) :
    ∃ row, find? s.registry.rows s.chain.object.key = some row ∧ ReleasesRow peer s row ∧
      Vacates peer s := by
  obtain ⟨row, found, hhandle, rfl, -⟩ := known.removed free keyed available removal
  have hrest := noted (forced peer s looked record.handle
    (s.registry.ran 2 (s.registry.rows.filter fun other => other != row))).chain
  refine ⟨row, found, ⟨?_, ?_, ?_⟩, .of_free ?_ ?_ ?_ ?_⟩
  all_goals rw [run]
  · rw [hhandle]
    rfl
  · rw [hhandle]
  · rfl
  · exact hrest.1
  · exact hrest.2
  · exact available
  · exact find?_filter_bne keyed found

/-- **A forced release gets a recorded object free.** A chain that has done nothing yet asks once
for the release of the handle in the object's row, whoever wrote it, and says what came of that; the
row is removed, alone, also if the lock was not released. Without a row it asks for nothing and
removes nothing. Either way whoever is granted the next lock of the object has it recorded. -/
theorem forceUnlock_recovers (peer : Collaborator σ) {s : Scene σ} {found : Option LockRecord}
    (fresh : s.chain.IsFresh) (keyed : s.registry.Keyed)
    (available : ∀ n, s.registry.availability n = .available)
    (looked : (s.registry.get s.chain.object.key).1 = .ok found) :
    Frees peer s (find? s.registry.rows s.chain.object.key) ∧ Vacates peer s := by
  have free := fresh.handle
  have readable : s.registry.Readable := by
    rw [Readable, available]
    decide
  have hrun := forceUnlock_run peer s
  generalize hout : (forceUnlock peer).perform s = out at hrun
  cases hrun with
  | lookupFailed _ lookup => exact absurd looked (lookup.not_ok readable)
  | nothingHeld _ lookup =>
    cases lookup with
    | none _ hnone =>
      rw [hnone]
      refine ⟨⟨by rw [hout], by rw [hout]; rfl, by rw [hout]; rfl⟩, ?_⟩
      refine .of_free ?_ ?_ ?_ ?_
      all_goals rw [hout]
      · exact free
      · rfl
      · exact available
      · exact hnone
  | stuck known removal =>
    obtain ⟨-, -, -, -, hok⟩ := known.removed free keyed available removal
    cases hok
  | @unlocked record looked registry _ response known removal answer =>
    have hanswer : (s.routed .stateful).answer peer (.unlock record.handle) = .ok response := answer
    have hrun : (forceUnlock peer).perform s =
        (.ok (releaseOutcome ((s.routed .stateful).answer peer (.unlock record.handle))),
          (forced peer s looked record.handle registry).withChain
            fun c => c.withResult .unlock response) := by
      rw [hout, hanswer]
      rfl
    obtain ⟨row, hrow, hreleases, hvacates⟩ :=
      known.recovered (fun c => c.withResult .unlock response) (fun _ => ⟨rfl, rfl⟩) free keyed
        available removal hrun
    rw [hrow]
    exact ⟨hreleases, hvacates⟩
  | @unlockFailed record looked registry _ e known removal answer =>
    have hanswer : (s.routed .stateful).answer peer (.unlock record.handle) = .error e := answer
    have hrun : (forceUnlock peer).perform s =
        (.ok (releaseOutcome ((s.routed .stateful).answer peer (.unlock record.handle))),
          (forced peer s looked record.handle registry).withChain id) := by
      rw [hout, hanswer]
      rfl
    obtain ⟨row, hrow, hreleases, hvacates⟩ :=
      known.recovered id (fun _ => ⟨rfl, rfl⟩) free keyed available removal hrun
    rw [hrow]
    exact ⟨hreleases, hvacates⟩

/-- The lock of a session that does not come back. -/
def orphanedLock : LockRequest :=
  .setLock (.make (ObjectRef.make .program "zdemo").key "S1" "H1" default 1)

/-- A chain of another session, which meets the row of that lock; the server releases nothing. -/
def abandoned : Scene Bool :=
  .blank (.make .program "zdemo") "S2" (({} : Registry).afterAll [orphanedLock]) false

/-- The lock is not released; the row goes all the same, and a third session locks the object. -/
theorem abandoned_recovered :
    ((forceUnlock (.agreeing "H2")).perform abandoned).1 =
        .ok (.unlockFailed (Failure.rejected 500 "").message) ∧
      ((forceUnlock (.agreeing "H2")).perform abandoned).2.registry.rows = [] ∧
      ((lock (.agreeing "H3")).perform (.blank (.make .program "zdemo") "S3"
        ((forceUnlock (.agreeing "H2")).perform abandoned).2.registry true)).1 = .ok "H3" := by
  have storable : ∀ q ∈ [orphanedLock], q.IsStorable := by
    intro q hq
    rw [List.mem_singleton.1 hq]
    exact ⟨⟨by decide, by decide, by decide⟩, by decide⟩
  have rows : abandoned.registry.rows = [foreignRow] := rfl
  have found : find? abandoned.registry.rows abandoned.chain.object.key = some foreignRow := by
    have hcolumns : foreignRow.columns = Row.columnsOf (ObjectRef.make .program "zdemo").key :=
      (Row.columns_ofRecord _).trans (congrArg Row.columnsOf (LockRecord.key_make ..))
    rw [rows]
    exact List.find?_cons_of_pos (beq_iff_eq.2 hcolumns)
  have fresh : abandoned.chain.IsFresh := rfl
  have keyed : abandoned.registry.Keyed := keyed_empty.afterAll _
  obtain ⟨looked, hlooked⟩ := lookup_of_storable storable abandoned.chain.object.key
  have hrecovers := forceUnlock_recovers (.agreeing "H2") fresh keyed (fun _ => rfl) hlooked
  rw [found] at hrecovers
  obtain ⟨hreleases, hvacates⟩ := hrecovers
  refine ⟨hreleases.result, ?_, ?_⟩
  · rw [hreleases.rows, rows]
    simp
  · have locks (registry : Registry)
        (left : registry = ((forceUnlock (.agreeing "H2")).perform abandoned).2.registry) :
        ((lock (.agreeing "H3")).perform
          (.blank (.make .program "zdemo") "S3" registry true)).1 = .ok "H3" :=
      hvacates.next (.agreeing "H3") (.blank (.make .program "zdemo") "S3" registry true) "H3"
        rfl rfl left rfl
    exact locks _ rfl

end Chain

end EditLock
