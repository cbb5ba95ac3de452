/-
# Sweeping amid others

A sweep scans the registry once and then removes what it scanned, a statement for each record.
Others go on making requests all the while: between two of its statements any number of them. A
record is removed only if its row still has the session and the handle that were scanned; the time
at which the lock was acquired is not looked at. So of a lock that was acquired again since the
scan, and not released since, the sweep leaves the row alone just where it has another session or
another handle by then (`Sweeper.sweepLocksAmid_reacquired`). A lock that its session took again
under the same handle is removed and reported, however fresh it is.

Key definitions: `Sweeper.sweepLocksAmid`, `Sweeper.requestsUntil`, `Sweeper.reached`,
`Registry.Reacquired`, `Sweeper.LeftAlone`, `Sweeper.TakenAway`.
Key theorems: `Registry.removeIfUnchanged_of_find?`, `Sweeper.sweepLocksAmid_alone`,
`Sweeper.mem_sweepScannedAmid_iff`, `Sweeper.sweepLocksAmid_reacquired`.
-/
import EditLock.Proofs.Registry.Requests
import EditLock.Proofs.Sweep.Locks

namespace EditLock

namespace Sweeper

open Registry

/-! ### The sweep and the others -/

/-- Removes the records of a scan that are to be removed, each if it is unchanged; gives the removed
ones. Before the sweep comes to the `n`-th item of the scan, others make the requests `others n`. -/
def sweepScannedAmid (shouldRemove : LockRecord → Bool) (others : Nat → List LockRequest) :
    List (Except Failure LockRecord) → Registry → List LockRecord × Registry
  | [], r => ([], r)
  | .error _ :: rest, r =>
    sweepScannedAmid shouldRemove (fun n => others (n + 1)) rest (r.afterAll (others 0))
  | .ok record :: rest, r =>
    if shouldRemove record then
      match (r.afterAll (others 0)).removeIfUnchanged record with
      | (.ok true, r) =>
        let (removed, r) := sweepScannedAmid shouldRemove (fun n => others (n + 1)) rest r
        (record :: removed, r)
      | (_, r) => sweepScannedAmid shouldRemove (fun n => others (n + 1)) rest r
    else sweepScannedAmid shouldRemove (fun n => others (n + 1)) rest (r.afterAll (others 0))

/-- Removes the records that are to be removed, amid the requests of others; gives them. -/
def sweepLocksAmid (shouldRemove : LockRecord → Bool) (others : Nat → List LockRequest)
    (r : Registry) : Except Failure (List LockRecord) × Registry :=
  match r.scan with
  | (.error e, r) => (.error e, r)
  | (.ok scanned, r) =>
    let (removed, r) := sweepScannedAmid shouldRemove others scanned r
    (.ok removed, r)

/-- What a sweep asks of the registry when it comes to an item. -/
def removals (p : LockRecord → Bool) : Except Failure LockRecord → List LockRequest
  | .error _ => []
  | .ok record => if p record then [.removeIfUnchanged record] else []

/-- What is asked of the registry, by the sweep and by others, after the scan and until the sweep is
about to remove the item that comes after some. -/
def requestsUntil (p : LockRecord → Bool) (others : Nat → List LockRequest) :
    List (Except Failure LockRecord) → List LockRequest
  | [] => others 0
  | item :: before =>
    others 0 ++ removals p item ++ requestsUntil p (fun n => others (n + 1)) before

/-- The registry on which a sweep comes to the item that stands after some in its scan. -/
def reached (p : LockRecord → Bool) (others : Nat → List LockRequest)
    (before : List (Except Failure LockRecord)) (r : Registry) : Registry :=
  r.scan.2.afterAll (requestsUntil p others before)

/-- What a sweep reports of an item that it comes to. -/
def reportedOf (p : LockRecord → Bool) (r : Registry) : Except Failure LockRecord → List LockRecord
  | .error _ => []
  | .ok record =>
    if p record then
      match (r.removeIfUnchanged record).1 with
      | .ok true => [record]
      | _ => []
    else []

variable {p : LockRecord → Bool} {others : Nat → List LockRequest}
  {scanned : List (Except Failure LockRecord)} {r : Registry} {record : LockRecord}

theorem sweepScannedAmid_alone (p : LockRecord → Bool) (scanned : List (Except Failure LockRecord))
    (r : Registry) : sweepScannedAmid p (fun _ => []) scanned r = sweepScanned p scanned r := by
  fun_induction sweepScanned p scanned r <;> simp_all [sweepScannedAmid]

/-- **Alone, it is a sweep.** -/
theorem sweepLocksAmid_alone (p : LockRecord → Bool) (r : Registry) :
    sweepLocksAmid p (fun _ => []) r = sweepLocks p r := by
  unfold sweepLocksAmid sweepLocks
  generalize r.scan = scanned
  obtain ⟨_ | scanned, r'⟩ := scanned
  · rfl
  · simp only [sweepScannedAmid_alone]

/-- What a sweep does when it comes to an item. -/
theorem sweepScannedAmid_cons (p : LockRecord → Bool) (others : Nat → List LockRequest)
    (item : Except Failure LockRecord) (rest : List (Except Failure LockRecord)) (r : Registry) :
    sweepScannedAmid p others (item :: rest) r =
      Prod.map (reportedOf p (r.afterAll (others 0)) item ++ ·) id
        (sweepScannedAmid p (fun n => others (n + 1)) rest
          ((r.afterAll (others 0)).afterAll (removals p item))) := by
  cases item with
  | error e => rfl
  | ok record =>
    rw [sweepScannedAmid, reportedOf, removals]
    by_cases hp : p record = true
    · simp only [if_pos hp]
      show _ = Prod.map _ id (sweepScannedAmid p _ rest
        ((r.afterAll (others 0)).removeIfUnchanged record).2)
      generalize (r.afterAll (others 0)).removeIfUnchanged record = removed
      obtain ⟨_ | _ | _, r'⟩ := removed <;> rfl
    · simp only [if_neg hp]
      rfl

/-- Of an item its own record is reported, if any. -/
theorem eq_ok_of_mem_reportedOf {item : Except Failure LockRecord}
    (h : record ∈ reportedOf p r item) : item = .ok record := by
  cases item with
  | error e => cases h
  | ok found =>
    rw [reportedOf] at h
    by_cases hp : p found = true
    · rw [if_pos hp] at h
      split at h
      · rw [List.mem_singleton.1 h]
      · cases h
    · rw [if_neg hp] at h
      cases h

/-- Only what was scanned is reported. -/
theorem ok_mem_of_mem_sweepScannedAmid
    (h : record ∈ (sweepScannedAmid p others scanned r).1) : .ok record ∈ scanned := by
  induction scanned generalizing others r with
  | nil => cases h
  | cons item rest ih =>
    rw [sweepScannedAmid_cons] at h
    rcases List.mem_append.1 h with hitem | hrest
    · rw [eq_ok_of_mem_reportedOf hitem]
      exact List.mem_cons_self
    · exact List.mem_cons_of_mem item (ih hrest)

/-- **What is reported was removed.** A record that was scanned once and is to go is reported just
where its own statement removed it, on the registry as the sweep and the others had left it by
then. -/
theorem mem_sweepScannedAmid_iff {before rest : List (Except Failure LockRecord)}
    (hbefore : .ok record ∉ before) (hrest : .ok record ∉ rest) (hp : p record = true) :
    record ∈ (sweepScannedAmid p others (before ++ .ok record :: rest) r).1 ↔
      ((r.afterAll (requestsUntil p others before)).removeIfUnchanged record).1 = .ok true := by
  induction before generalizing others r with
  | nil =>
    rw [List.nil_append, sweepScannedAmid_cons]
    have hunreported {r' : Registry} {others' : Nat → List LockRequest} :
        record ∉ (sweepScannedAmid p others' rest r').1 :=
      fun h => hrest (ok_mem_of_mem_sweepScannedAmid h)
    show _ ∈ reportedOf p _ (.ok record) ++ _ ↔ _
    rw [List.mem_append, or_iff_left hunreported, reportedOf, if_pos hp, requestsUntil]
    generalize ((r.afterAll (others 0)).removeIfUnchanged record).1 = result
    obtain _ | _ | _ := result <;> simp
  | cons item before ih =>
    have hunreported {r' : Registry} : record ∉ reportedOf p r' item := fun h =>
      hbefore (eq_ok_of_mem_reportedOf h ▸ List.mem_cons_self)
    rw [List.cons_append, sweepScannedAmid_cons]
    show _ ∈ reportedOf p _ item ++ _ ↔ _
    rw [List.mem_append, or_iff_right hunreported,
      ih fun h => hbefore (List.mem_cons_of_mem item h)]
    rw [requestsUntil, afterAll_append, afterAll_append]

end Sweeper

/-! ### Locks that are acquired again -/

namespace Registry

variable {r : Registry} {record : LockRecord}

/-- What a scan gives is read from the rows, and leaves them. -/
theorem scan_of_ok {scanned : List (Except Failure LockRecord)} (h : r.scan.1 = .ok scanned) :
    scanned = (sorted r.rows).map Row.decode ∧ r.scan.2 = r.ran 1 r.rows := by
  unfold scan at h ⊢
  by_cases hr : r.Readable
  · rw [query_of_readable _ hr] at h ⊢
    exact ⟨(Except.ok.inj h).symm, rfl⟩
  · rw [query_of_not_readable _ hr] at h
    cases h

/-- The rows were written by setting locks, as far as they can be read. -/
def IsWritten (r : Registry) : Prop :=
  ∀ row ∈ r.rows, ∀ record, row.decode = .ok record →
    ∃ original : LockRecord, row = .ofRecord original

/-- **No record is scanned twice.** -/
theorem scanned_once {before rest : List (Except Failure LockRecord)} (keyed : r.Keyed)
    (written : r.IsWritten) (scanned : r.scan.1 = .ok (before ++ .ok record :: rest)) :
    .ok record ∉ before ∧ .ok record ∉ rest := by
  have hperm := sorted_perm r.rows
  have hnodup : (sorted r.rows).Nodup := hperm.symm.nodup (List.Nodup.of_map _ keyed)
  have horderly : ({ r with availability := fun _ => .available } : Registry).IsOrderly :=
    ⟨fun _ => rfl, keyed, written⟩
  have hpairwise : (before ++ .ok record :: rest).Pairwise
      fun a b : Except Failure LockRecord => ∀ record, a = .ok record → b ≠ .ok record := by
    rw [(scan_of_ok scanned).1, List.pairwise_map]
    refine hnodup.imp_of_mem fun {a b} ha hb hab record hdecode hdecode' => hab ?_
    exact horderly.eq_of_decode (hperm.mem_iff.1 hb) (hperm.mem_iff.1 ha) hdecode' hdecode
  obtain ⟨-, hcons, hacross⟩ := List.pairwise_append.1 hpairwise
  constructor
  · intro hmem
    exact hacross _ hmem _ List.mem_cons_self record rfl rfl
  · intro hmem
    exact (List.pairwise_cons.1 hcons).1 _ hmem record rfl rfl

/-- **A record is removed just if its row still has its session and handle.** -/
theorem removeIfUnchanged_of_find? (keyed : r.Keyed) (writable : r.Writable) {row : Row}
    (found : find? r.rows record.key = some row) :
    (row.session = record.session ∧ row.handle = record.handle →
      (r.removeIfUnchanged record).1 = .ok true ∧
        find? (r.removeIfUnchanged record).2.rows record.key = none) ∧
    (¬ (row.session = record.session ∧ row.handle = record.handle) →
      (r.removeIfUnchanged record).1 = .ok false ∧
        find? (r.removeIfUnchanged record).2.rows record.key = some row) := by
  have hkept : find? (r.rows.filter fun other => !isUnchanged record other) record.key =
      if isUnchanged record row then none else some row := by
    rw [find?_filter keyed, found, Option.filter_some]
    cases isUnchanged record row <;> rfl
  have hrow : row ∈ r.rows ∧ isUnchanged record row = true ↔
      find? r.rows record.key = some row ∧ row.session = record.session ∧
        row.handle = record.handle := isUnchanged_iff keyed
  rw [and_iff_right (find?_eq_some found).1, and_iff_right found] at hrow
  have hany : r.rows.any (isUnchanged record) = isUnchanged record row := by
    rw [Bool.eq_iff_iff, List.any_eq_true]
    constructor
    · rintro ⟨other, hother, hun⟩
      have hsame := ((isUnchanged_iff keyed).1 ⟨hother, hun⟩).1
      rw [← Option.some.inj (hsame.symm.trans found)]
      exact hun
    · exact fun hun => ⟨row, (find?_eq_some found).1, hun⟩
  have hrun : r.removeIfUnchanged record = (.ok (isUnchanged record row),
      r.ran 1 (r.rows.filter fun other => !isUnchanged record other)) := by
    unfold removeIfUnchanged
    rw [execute_of_writable _ writable, hany]
  rw [hrun, ran_rows, hkept, ← hrow]
  cases isUnchanged record row <;> simp

/-- Among some requests a lock was set under a key, successfully, and the row was never gone
since. -/
structure Reacquired (r : Registry) (k : Key) (requests : List LockRequest) (lock : LockRecord) :
    Prop where
  key : lock.key = k
  set : ∃ earlier later, requests = earlier ++ .setLock lock :: later ∧
    ((r.afterAll earlier).setLock lock).1 = .ok () ∧
    ((r.afterAll earlier).setLock lock).2.Outlasts k later

/-- The row is that of the lock that was set last, in the same session. -/
theorem Reacquired.latest {k : Key} {requests : List LockRequest} {lock : LockRecord}
    (h : r.Reacquired k requests lock) (keyed : r.Keyed) :
    ∃ latest : LockRecord, .setLock latest ∈ requests ∧ latest.key = k ∧
      latest.session = lock.session ∧
      find? (r.afterAll requests).rows k = some (.ofRecord latest) := by
  obtain ⟨rfl, earlier, later, rfl, hset, houtlasts⟩ := h
  have hrun := setRun lock (r.afterAll earlier)
  rw [hset] at hrun
  obtain ⟨latest, hlatest, hkey, hsession, hfound⟩ :=
    houtlasts.latest (hrun.keyed (keyed.afterAll earlier)) (find?_of_setRun hrun)
  refine ⟨latest, ?_, hkey, hsession, ?_⟩
  · rcases hlatest with rfl | hlater
    · simp
    · simp [hlater]
  · rw [afterAll_append]
    exact hfound

end Registry

namespace Sweeper

open Registry

/-- The sweep leaves a record alone, coming to it on this registry: its row stays, and it is not
reported. -/
structure LeftAlone (r : Registry) (record : LockRecord) (reported : List LockRecord) : Prop where
  result : (r.removeIfUnchanged record).1 = .ok false
  row : find? (r.removeIfUnchanged record).2.rows record.key = find? r.rows record.key
  unreported : record ∉ reported

/-- The sweep takes the record away, coming to it on this registry: its row goes, and it is
reported. -/
structure TakenAway (r : Registry) (record : LockRecord) (reported : List LockRecord) : Prop where
  result : (r.removeIfUnchanged record).1 = .ok true
  row : find? (r.removeIfUnchanged record).2.rows record.key = none
  reported : record ∈ reported

variable {p : LockRecord → Bool} {others : Nat → List LockRequest} {r : Registry}
  {record lock : LockRecord} {before rest : List (Except Failure LockRecord)}

/-- **A sweep leaves a lock that was acquired again since the scan alone, just if it has another
session or another handle by then.** The row on which the sweep comes to remove its record is that
of the lock that was set last. -/
theorem sweepLocksAmid_reacquired (p : LockRecord → Bool) (others : Nat → List LockRequest)
    (keyed : r.Keyed) (written : r.IsWritten)
    (scanned : r.scan.1 = .ok (before ++ .ok record :: rest)) (selected : p record = true)
    (reacquired : r.scan.2.Reacquired record.key (requestsUntil p others before) lock)
    (writable : (reached p others before r).Writable) :
    ∃ reported latest, (sweepLocksAmid p others r).1 = .ok reported ∧
      .setLock latest ∈ requestsUntil p others before ∧ latest.session = lock.session ∧
      find? (reached p others before r).rows record.key = some (.ofRecord latest) ∧
      (latest.session = record.session ∧ latest.handle = record.handle →
        TakenAway (reached p others before r) record reported) ∧
      (¬ (latest.session = record.session ∧ latest.handle = record.handle) →
        LeftAlone (reached p others before r) record reported) := by
  obtain ⟨hbefore, hrest⟩ := scanned_once keyed written scanned
  have hkeyed : r.scan.2.Keyed := by
    rw [(scan_of_ok scanned).2]
    exact keyed
  have hreported :
      record ∈ (sweepScannedAmid p others (before ++ .ok record :: rest) r.scan.2).1 ↔
        ((reached p others before r).removeIfUnchanged record).1 = .ok true :=
    mem_sweepScannedAmid_iff hbefore hrest selected
  obtain ⟨latest, hset, -, hsession, hfound⟩ := reacquired.latest hkeyed
  have hreached : (reached p others before r).Keyed := hkeyed.afterAll _
  obtain ⟨htaken, hleft⟩ := removeIfUnchanged_of_find? hreached writable hfound
  have hswept : (sweepLocksAmid p others r).1 =
      .ok (sweepScannedAmid p others (before ++ .ok record :: rest) r.scan.2).1 := by
    unfold sweepLocksAmid
    generalize r.scan = found at scanned
    obtain ⟨result, r'⟩ := found
    cases scanned
    rfl
  refine ⟨_, latest, hswept, hset, hsession, hfound, fun hsame => ?_, fun hother => ?_⟩
  · obtain ⟨hresult, hrow⟩ := htaken hsame
    exact ⟨hresult, hrow, hreported.2 hresult⟩
  · obtain ⟨hresult, hrow⟩ := hleft hother
    refine ⟨hresult, hrow.trans hfound.symm, fun hmem => ?_⟩
    exact nomatch hresult.symm.trans (hreported.1 hmem)

/-- A lock that is stale when it is scanned. -/
def scannedLock : LockRecord :=
  .make (ObjectRef.make .program "zdemo").key "S1" "H1" ⟨978307200, 0⟩ 7

/-- The lock, taken again by its session: it got the same handle at a later time. -/
def refreshedLock : LockRecord :=
  .make (ObjectRef.make .program "zdemo").key "S1" "H1" ⟨1012608000, 0⟩ 7

/-- A sweep for locks older than an hour, at the time when the lock was taken again. -/
def hourly : Sweeper :=
  { staleAfter := 3600000000000, probe := fun _ => .alive, now := ⟨1012608000, 0⟩ }

/-- The one row of the scanned lock. -/
def scannedTable : Registry :=
  { rows := [.ofRecord scannedLock] }

/-- The lock is fresh, and gone. -/
theorem refreshed_removed :
    hourly.isStale refreshedLock.acquiredAt = false ∧
    ∃ reported, (sweepLocksAmid (fun record => hourly.isStale record.acquiredAt)
        (fun _ => [.setLock refreshedLock]) scannedTable).1 = .ok reported ∧
      TakenAway (scannedTable.scan.2.afterAll [.setLock refreshedLock]) scannedLock reported := by
  have hkey : refreshedLock.key = scannedLock.key := rfl
  have keyed : scannedTable.Keyed := List.nodup_singleton _
  have written : scannedTable.IsWritten :=
    fun row hrow _ _ => ⟨scannedLock, List.mem_singleton.1 hrow⟩
  have scanned : scannedTable.scan.1 = .ok ([] ++ .ok scannedLock :: []) := by
    have civil : scannedLock.acquiredAt.IsCivil := ⟨by decide, by decide, by decide⟩
    have hdecode : (Row.ofRecord scannedLock).decode = .ok scannedLock := by
      rw [Row.decode_ofRecord civil (by decide), scannedLock, LockRecord.key_make]
      rfl
    show Except.ok ((sorted [Row.ofRecord scannedLock]).map Row.decode) = _
    rw [sorted, List.mergeSort_singleton, List.map_singleton, hdecode]
    rfl
  have set : (scannedTable.scan.2.setLock refreshedLock).1 = .ok () := rfl
  have outlasts : (scannedTable.scan.2.setLock refreshedLock).2.Outlasts scannedLock.key [] := by
    have hrun := setRun refreshedLock scannedTable.scan.2
    rw [set] at hrun
    intro first hfirst
    rw [List.prefix_nil.1 hfirst, ← hkey, afterAll_nil, find?_of_setRun hrun]
    exact nofun
  have reacquired :
      scannedTable.scan.2.Reacquired scannedLock.key [.setLock refreshedLock] refreshedLock :=
    ⟨hkey, [], [], rfl, set, outlasts⟩
  obtain ⟨reported, latest, hreported, hset, -, -, htaken, -⟩ :=
    sweepLocksAmid_reacquired (fun record => hourly.isStale record.acquiredAt)
      (fun _ => [.setLock refreshedLock]) keyed written scanned (by decide) reacquired rfl
  obtain rfl : latest = refreshedLock := LockRequest.setLock.inj (List.mem_singleton.1 hset)
  exact ⟨by decide, reported, hreported, htaken ⟨rfl, rfl⟩⟩

end Sweeper

end EditLock
